/-!
# Ranges of code points

Properties of characters that a standard gives as a table are kept as lists of inclusive ranges.
-/

namespace ScriptLexer

/-- All code points from `first` to `last`, both included. -/
structure CodeRange where
  /-- The least code point of the range. -/
  first : Nat
  /-- The greatest code point of the range. -/
  last : Nat
deriving DecidableEq, Repr

/-- Whether a character lies in a range. -/
def CodeRange.contains (range : CodeRange) (c : Char) : Bool :=
  range.first ≤ c.toNat && c.toNat ≤ range.last

/-- Whether a character lies in one of the ranges of a table. -/
def CodeRange.anyContains (table : List CodeRange) (c : Char) : Bool :=
  table.any fun range ↦ range.contains c

end ScriptLexer
