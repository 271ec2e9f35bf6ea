import ScriptLexer.LexError
import ScriptLexer.SourceLine

/-!
# Error excerpts

An excerpt shows where an error is: the line of the source on which the faulty token begins, behind
its number, and below it a caret under the first character of the token, with the wording of the
error. Number and blank are of one width, so the caret stands where the column says.
-/

namespace ScriptLexer

/-- A line of a source with a remark on one of its columns. -/
structure Excerpt where
  /-- The line. -/
  line : SourceLine
  /-- The column of the caret. -/
  column : Nat
  /-- The text next to the caret. -/
  remark : String
deriving DecidableEq, Repr

namespace Excerpt

/-- The excerpt for an error of a source. -/
def ofError (source : String) (e : LexError) : Excerpt :=
  ⟨.find source e.position.line, e.position.column, e.cause.message⟩

/-- A text of spaces. -/
def blank (width : Nat) : String :=
  String.ofList (List.replicate width ' ')

/-- The line of an excerpt, behind its number. -/
def lineText (x : Excerpt) : String :=
  toString x.line.number ++ "| " ++ x.line.display

/-- The line below it, which holds the caret. -/
def caretText (x : Excerpt) : String :=
  blank (toString x.line.number).length ++ "| " ++ blank (x.column - 1) ++ "^--- " ++ x.remark

/-- An excerpt as it is written: two lines of text. -/
def render (x : Excerpt) : String :=
  x.lineText ++ "\n" ++ x.caretText ++ "\n"

end Excerpt

end ScriptLexer
