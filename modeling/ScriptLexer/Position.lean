/-!
# Positions in a source text

A **position** is a line and a column, both counted from one. It is what tokens and errors carry,
and it is determined by the text that stands before it: `Position.advanceOver` walks over a text,
and every position reported anywhere is `Position.start.advanceOver before`.

* A newline, and nothing else, ends a line. A carriage return or a tab is one column like any other
  character.
* Columns count characters, not bytes.
* Positions are ordered by line and then by column. Walking over any character leads to a later
  position (`Position.lt_advance`), so the order of positions is the order of the text.
-/

namespace ScriptLexer

/-- A line and a column of a source text. -/
structure Position where
  /-- The line, counted from one. -/
  line : Nat
  /-- The column, counted from one in characters. -/
  column : Nat
deriving DecidableEq, Repr

namespace Position

/-- The position of the first character of any text. -/
def start : Position := ⟨1, 1⟩

instance : Inhabited Position := ⟨start⟩

/-! ### Walking over text -/

/-- The position right after a character that stands at `p`. -/
def advance (p : Position) (c : Char) : Position :=
  if c = '\n' then ⟨p.line + 1, 1⟩ else ⟨p.line, p.column + 1⟩

/-- The position right after a text that begins at `p`. -/
def advanceOver (p : Position) (text : List Char) : Position :=
  text.foldl advance p

/-- The characters of a text that begins at `p`, each with its own position. -/
def locate (p : Position) : List Char → List (Char × Position)
  | [] => []
  | c :: rest => (c, p) :: locate (p.advance c) rest

@[simp] theorem advance_newline (p : Position) : p.advance '\n' = ⟨p.line + 1, 1⟩ := rfl

@[simp] theorem advanceOver_nil (p : Position) : p.advanceOver [] = p := rfl

@[simp] theorem advanceOver_cons (p : Position) (c : Char) (text : List Char) :
    p.advanceOver (c :: text) = (p.advance c).advanceOver text := rfl

theorem advanceOver_append (p : Position) (before after : List Char) :
    p.advanceOver (before ++ after) = (p.advanceOver before).advanceOver after :=
  List.foldl_append

@[simp] theorem map_fst_locate (p : Position) (text : List Char) :
    (p.locate text).map Prod.fst = text := by
  induction text generalizing p with
  | nil => rfl
  | cons c rest ih => simp [locate, ih]

/-! ### Lines and columns of a text -/

theorem line_advanceOver (p : Position) (text : List Char) :
    (p.advanceOver text).line = p.line + text.count '\n' := by
  induction text generalizing p with
  | nil => rfl
  | cons c text ih =>
    rw [advanceOver_cons, ih, advance, List.count_cons]
    by_cases hc : c = '\n'
    · simp only [hc, if_true, beq_self_eq_true]
      omega
    · simp [hc]

/-- The column counts the characters after the last newline. -/
theorem column_advanceOver_start (text : List Char) :
    (start.advanceOver text).column = 1 + (text.reverse.takeWhile (· ≠ '\n')).length := by
  -- the column depends on the end of the text, from which the induction therefore begins
  have key (back : List Char) :
      (start.advanceOver back.reverse).column = 1 + (back.takeWhile (· ≠ '\n')).length := by
    induction back with
    | nil => rfl
    | cons c back ih =>
      rw [List.reverse_cons, advanceOver_append, advanceOver_cons, advanceOver_nil, advance]
      by_cases hc : c = '\n'
      · simp [hc]
      · simp only [hc, if_false, ih, ne_eq, not_false_eq_true, decide_true,
          List.takeWhile_cons_of_pos, List.length_cons]
        omega
  simpa using key text.reverse

/-- **The position behind a text**, from its newlines and what follows the last of them. -/
theorem advanceOver_start (text : List Char) :
    start.advanceOver text =
      ⟨1 + text.count '\n', 1 + (text.reverse.takeWhile (· ≠ '\n')).length⟩ :=
  congr (congrArg mk (line_advanceOver start text)) (column_advanceOver_start text)

/-! ### The order of positions -/

instance : LT Position where
  lt p q := p.line < q.line ∨ (p.line = q.line ∧ p.column < q.column)

instance (p q : Position) : Decidable (p < q) :=
  inferInstanceAs (Decidable (p.line < q.line ∨ (p.line = q.line ∧ p.column < q.column)))

instance : Ord Position where
  compare p q := (compare p.line q.line).then (compare p.column q.column)

theorem lt_iff {p q : Position} :
    p < q ↔ p.line < q.line ∨ (p.line = q.line ∧ p.column < q.column) :=
  Iff.rfl

/-- The three-way comparison answers "less" exactly for the strict order. -/
theorem compare_eq_lt_iff {p q : Position} : compare p q = .lt ↔ p < q := by
  show (compare p.line q.line).then (compare p.column q.column) = .lt ↔ _
  rw [Ordering.then_eq_lt, Nat.compare_eq_lt, Nat.compare_eq_eq, Nat.compare_eq_lt, lt_iff]

/-- **Walking forward is walking up.** -/
theorem lt_advance (p : Position) (c : Char) : p < p.advance c := by
  rw [lt_iff, advance]
  split <;> simp

/-! ### The written form -/

/-- A position as it is written, `line:column`. -/
def render (p : Position) : String :=
  toString p.line ++ ":" ++ toString p.column

end Position

end ScriptLexer
