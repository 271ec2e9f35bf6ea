import ScriptLexer.Position

/-!
# Lexical errors

An **error** is a cause and the position at which the offending token begins, however far into the
token the fault was noticed.
-/

namespace ScriptLexer

/-- What can be wrong with a token. -/
inductive Cause where
  /-- No digit where the whole part or the fraction of a number needs one. -/
  | malformedNumber
  /-- A zero at the head of a number is followed by another digit. -/
  | leadingZero
  /-- No digit in an exponent. -/
  | malformedExponent
  /-- A character that could stand in a word directly follows a number. -/
  | invalidTrailingCharacter (c : Char)
  /-- A string literal is not closed on its line. -/
  | unterminatedString
  /-- A block comment is not closed. -/
  | unterminatedComment
  /-- No operator begins here. -/
  | unknownOperator
deriving DecidableEq, Repr

/-- The wording of a cause. -/
def Cause.message : Cause → String
  | malformedNumber => "Malformed number"
  | leadingZero => "Numbers may not start with a zero followed by another digit"
  | malformedExponent => "Malformed exponent"
  | invalidTrailingCharacter c => "Invalid character '" ++ String.singleton c ++
      "' directly after a number"
  | unterminatedString => "Unterminated string literal"
  | unterminatedComment => "Unterminated block comment"
  | unknownOperator => "Unknown operator"

/-- A fault of a source text. -/
structure LexError where
  /-- What is wrong. -/
  cause : Cause
  /-- Where the offending token begins. -/
  position : Position
deriving DecidableEq, Repr

/-- The full wording of an error: its cause and its place. -/
def LexError.message (e : LexError) : String :=
  e.cause.message ++ " at line " ++ toString e.position.line ++
    ", column " ++ toString e.position.column

end ScriptLexer
