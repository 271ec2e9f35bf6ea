/-!
# Lines of a source

Lines are counted from one and are separated by newlines, which belong to none of them; a text with
`n` newlines has `n + 1` lines. For display, the carriage returns at the end of a line are dropped
and each tab becomes one space, so that the character in column `k` of the line stays the `k`-th
character of what is displayed.
-/

namespace ScriptLexer

/-- What follows the first `n` newlines of a text; nothing if it has fewer. -/
def dropLines : Nat → List Char → List Char
  | 0, text => text
  | _ + 1, [] => []
  | n + 1, c :: rest => if c = '\n' then dropLines n rest else dropLines (n + 1) rest

/-- A line of a source. -/
structure SourceLine where
  /-- The number by which it was asked for. -/
  number : Nat
  /-- Its characters, without the newline. -/
  text : List Char
deriving DecidableEq, Repr

namespace SourceLine

/-- The line of a source with a given number. The first line also answers to the number zero, and a
number past the last line gives an empty line. -/
def find (source : String) (number : Nat) : SourceLine :=
  ⟨number, (dropLines (number - 1) source.toList).takeWhile (· ≠ '\n')⟩

/-- A line as it is displayed. -/
def display (l : SourceLine) : String :=
  let trimmed := (l.text.reverse.dropWhile (· = '\r')).reverse
  String.ofList (trimmed.map fun c ↦ if c = '\t' then ' ' else c)

end SourceLine

end ScriptLexer
