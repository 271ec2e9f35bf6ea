import ScriptLexer.Scan.Basic
import ScriptLexer.Text.Utf8

/-!
# Cursors

A **cursor** is a place in a source text. It moves forward only, over characters at the head of
what is left, and it carries the byte offset and the position of its place along, so that nobody
who reads through it keeps count.

The four fields of a cursor describe one place in four ways. They are advanced separately; that
they keep agreeing is a fact about `Cursor.advance` (`Cursor.IsAt.advance`).
-/

namespace ScriptLexer

/-- A place in a source text. -/
structure Cursor where
  /-- The whole text. -/
  source : String
  /-- The text after the place. -/
  rest : List Char
  /-- The number of bytes before the place. -/
  offset : Nat
  /-- The line and the column of the place. -/
  position : Position
deriving DecidableEq, Repr

namespace Cursor

/-- The cursor at the beginning of a text. -/
def ofString (source : String) : Cursor :=
  ⟨source, source.toList, 0, .start⟩

/-! ### Looking ahead -/

/-- The next character. -/
def peek? (c : Cursor) : Option Char :=
  c.rest.head?

/-- The character after the next one. -/
def peekSecond? (c : Cursor) : Option Char :=
  c.rest[1]?

/-! ### Moving -/

/-- The cursor after `taken`, a text that stands at its head. -/
def advance (c : Cursor) (taken : List Char) : Cursor :=
  { c with
    rest := c.rest.drop taken.length
    offset := c.offset + utf8Length taken
    position := c.position.advanceOver taken }

/-- The next character, if there is one, and the cursor after it. -/
def next (c : Cursor) : Option Char × Cursor :=
  (c.peek?, c.advance (c.rest.take 1))

/-- The longest text at the head whose characters all satisfy a condition, and the cursor after
it. -/
def takeWhile (p : Char → Bool) (c : Cursor) : String × Cursor :=
  let taken := c.rest.takeWhile p
  (String.ofList taken, c.advance taken)

/-- The characters at the head of a text that a condition with a memory lets pass. It is asked about
each of them in turn and remembers those that it has let pass. -/
def passing (p : List Char → Char → Bool) (passed : List Char) : List Char → List Char
  | [] => []
  | c :: rest => if p passed c then c :: passing p (passed ++ [c]) rest else []

/-- The text at the head that a condition with a memory lets pass, and the cursor after it. -/
def takeWhileBy (p : List Char → Char → Bool) (c : Cursor) : String × Cursor :=
  let taken := passing p [] c.rest
  (String.ofList taken, c.advance taken)

theorem passing_isPrefix (p : List Char → Char → Bool) (passed text : List Char) :
    passing p passed text <+: text := by
  fun_induction passing p passed text with
  | case1 | case3 => exact List.nil_prefix
  | case2 passed c rest _ ih => exact List.cons_prefix_cons.2 ⟨rfl, ih⟩

@[simp] theorem advance_nil (c : Cursor) : c.advance [] = c := rfl

/-- Two moves are one over both texts. -/
theorem advance_append (c : Cursor) (taken taken' : List Char) :
    c.advance (taken ++ taken') = (c.advance taken).advance taken' := by
  simp [advance, Nat.add_assoc, Position.advanceOver_append, List.drop_drop]

/-- What is left behind a text is what stands after it. -/
theorem rest_advance {c : Cursor} {taken rest : List Char} (h : c.rest = taken ++ rest) :
    (c.advance taken).rest = rest := by
  show c.rest.drop taken.length = rest
  rw [h, List.drop_left]

theorem rest_advance_singleton {c : Cursor} {next : Char} {rest : List Char}
    (h : c.rest = next :: rest) : (c.advance [next]).rest = rest :=
  rest_advance h

/-! ### Recognizing -/

/-- The outcome of a recognizer at the head, and the cursor after what it has taken. It does not
go back if the recognizer rejects. -/
def recognize (r : Recognizer) (c : Cursor) : Outcome Token × Cursor :=
  let scan := r c.rest
  (scan.verdict.at c.position, c.advance scan.taken)

section Recognize

variable {c c' : Cursor} {r : Recognizer} {taken : List Char} {verdict : Verdict} {cause : Cause}

/-- A cursor answers with what is found in the text after it. -/
theorem recognize_eq (h : r c.rest = ⟨taken, verdict⟩) :
    c.recognize r = (verdict.at c.position, c.advance taken) := by
  rw [recognize, h]

theorem recognize_eq_accepted_iff {t : Token} : c.recognize r = (.accepted t, c') ↔
    ∃ taken kind lexeme, r c.rest = ⟨taken, .accept kind lexeme⟩ ∧
      t = ⟨kind, String.ofList lexeme, c.position⟩ ∧ c' = c.advance taken := by
  constructor
  · intro h
    obtain ⟨houtcome, hcursor⟩ := Prod.mk.inj h
    match hscan : r c.rest with
    | ⟨taken, .accept kind lexeme⟩ =>
      rw [hscan] at houtcome hcursor
      exact ⟨taken, kind, lexeme, rfl, (Outcome.accepted.inj houtcome).symm, hcursor.symm⟩
    | ⟨_, .reject _⟩ | ⟨_, .misplaced⟩ =>
      rw [hscan] at houtcome
      cases houtcome
  · intro ⟨taken, kind, lexeme, hscan, ht, hcursor⟩
    rw [recognize_eq hscan, ht, hcursor]
    rfl

theorem recognize_eq_failed_iff : c.recognize r = (.failed ⟨cause, c.position⟩, c') ↔
    ∃ taken, r c.rest = ⟨taken, .reject cause⟩ ∧ c' = c.advance taken := by
  constructor
  · intro h
    obtain ⟨houtcome, hcursor⟩ := Prod.mk.inj h
    match hscan : r c.rest with
    | ⟨taken, .reject cause'⟩ =>
      rw [hscan] at houtcome hcursor
      obtain ⟨rfl, -⟩ := LexError.mk.inj (Outcome.failed.inj houtcome)
      exact ⟨taken, rfl, hcursor.symm⟩
    | ⟨_, .accept _ _⟩ | ⟨_, .misplaced⟩ =>
      rw [hscan] at houtcome
      cases houtcome
  · intro ⟨taken, hscan, hcursor⟩
    rw [recognize_eq hscan, hcursor]
    rfl

end Recognize

/-! ### Slicing -/

/-- The part of the source between two byte offsets. -/
def slice? (c : Cursor) (start stop : Nat) : Option String :=
  (ScriptLexer.slice? c.source.toList start stop).map String.ofList

/-- The part of the source between a byte offset and the cursor. -/
def sliceFrom? (c : Cursor) (start : Nat) : Option String :=
  c.slice? start c.offset

/-! ### The place of a cursor -/

/-- A cursor stands after the text `before`: the source is that text and the rest, and offset and
position are those of its end. -/
structure IsAt (c : Cursor) (before : List Char) : Prop where
  /-- Nothing of the source is lost. -/
  source_eq : c.source.toList = before ++ c.rest
  /-- The offset counts the bytes of what stands before. -/
  offset_eq : c.offset = utf8Length before
  /-- The position is the one after what stands before. -/
  position_eq : c.position = Position.start.advanceOver before

theorem isAt_ofString (source : String) : (ofString source).IsAt [] :=
  ⟨rfl, rfl, rfl⟩

/-- **The fields of a cursor keep agreeing.** -/
theorem IsAt.advance {c : Cursor} {before taken : List Char} (h : c.IsAt before)
    (htaken : taken <+: c.rest) : (c.advance taken).IsAt (before ++ taken) := by
  obtain ⟨rest, hrest⟩ := htaken
  refine ⟨?_, ?_, ?_⟩
  · simp [Cursor.advance, h.source_eq, ← hrest]
  · simp [Cursor.advance, h.offset_eq]
  · simp [Cursor.advance, h.position_eq, Position.advanceOver_append]

end Cursor

end ScriptLexer
