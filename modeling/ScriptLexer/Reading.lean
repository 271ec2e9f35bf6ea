import ScriptLexer.Cursor
import ScriptLexer.Segment

/-!
# Readings

A **reading** is a segment at its place in a source: the cursor from which it was read, together
with the segment found there. Everything that can be said about the reading of one token is a
function of the two: where the token begins, what its outcome is, which characters were skipped and
where they stood, and where the next reading begins.

`Cursor.readings` is the whole account of a source. The token list, the error, the trace and the
log are each obtained from it.
-/

namespace ScriptLexer

/-- A segment at its place in a source. -/
structure Reading where
  /-- Where the reading begins. -/
  origin : Cursor
  /-- What is found there. -/
  segment : Segment
deriving DecidableEq, Repr

namespace Reading

/-- The cursor at the first character of the token. -/
def tokenCursor (r : Reading) : Cursor :=
  r.origin.advance r.segment.gap

/-- The cursor after the token. -/
def after (r : Reading) : Cursor :=
  r.tokenCursor.advance r.segment.scan.taken

/-- The token, or what is wrong with it. -/
def outcome (r : Reading) : Outcome Token :=
  r.segment.scan.verdict.at r.tokenCursor.position

/-- The characters skipped before the token that are not whitespace, each with its position. -/
def skipped (r : Reading) : List (Char × Position) :=
  (r.origin.position.locate r.segment.gap).filter fun skip ↦ !isWhitespace skip.1

/-- The readings of consecutive segments. -/
def chain (origin : Cursor) : List Segment → List Reading
  | [] => []
  | segment :: rest =>
    let reading : Reading := ⟨origin, segment⟩
    reading :: chain reading.after rest

end Reading

namespace Cursor

/-- The reading at a cursor. -/
def read (c : Cursor) : Reading :=
  ⟨c, Segment.first c.rest⟩

/-- All readings from a cursor on, as far as the first fault. -/
def readings (c : Cursor) : List Reading :=
  Reading.chain c (segments c.rest)

end Cursor

/-- The readings of a source. -/
def readings (source : String) : List Reading :=
  (Cursor.ofString source).readings

/-- The tokens of a source as far as its first fault; without a fault, the end mark is the last. -/
def tokensSeen (source : String) : List Token :=
  (readings source).filterMap fun r ↦ r.outcome.value?

/-- The tokens of a source, or its first error. -/
def tokenize (source : String) : Outcome (List Token) :=
  Outcome.collect ((readings source).map Reading.outcome)

end ScriptLexer
