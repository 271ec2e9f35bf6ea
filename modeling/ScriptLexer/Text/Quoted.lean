import ScriptLexer.Text.Unprintable

/-!
# Quoted characters

A single character, written between single quotes so that every character can be told from its
written form: the usual escapes for the null character, tabs, line ends, the backslash and the
quote, the code point in lower-case hexadecimal for whatever does not show, and the character itself
otherwise.
-/

namespace ScriptLexer

/-- The code point of a character in lower-case hexadecimal. -/
def hexadecimal (c : Char) : String :=
  String.ofList (Nat.toDigits 16 c.toNat)

/-- The written form of a character inside quotes. -/
def escapedChar (c : Char) : String :=
  if c = '\x00' then "\\0"
  else if c = '\t' then "\\t"
  else if c = '\r' then "\\r"
  else if c = '\n' then "\\n"
  else if c = '\\' then "\\\\"
  else if c = '\'' then "\\'"
  else if isUnprintable c then "\\u\x7b" ++ hexadecimal c ++ "\x7d"
  else String.singleton c

/-- The written form of a character with its quotes. -/
def quotedChar (c : Char) : String :=
  "'" ++ escapedChar c ++ "'"

end ScriptLexer
