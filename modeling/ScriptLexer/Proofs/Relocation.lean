import ScriptLexer.Proofs.TokenList

/-!
# Relocation

What a text yields depends on the text before it by one thing only, the position at which it
begins. `Position.rebase` says where in a whole text a position of a part of it lies, and
`tokenize_of_run_append` is the account of a source that begins with a run: the tokens of the run
come first, and the rest is as it is by itself, with its positions rebased.

A gap between the run and the rest belongs to neither. Whoever cuts a source may therefore cut
anywhere in a gap, and may put more of a gap there.

Since walking over a text always leads further up in the order of positions, a position also tells
where in a given text it lies (`Position.eq_of_advanceOver_eq`).
-/

namespace ScriptLexer

variable {before gap text rest : List Char} {segs : List Segment}

namespace Position

variable {origin p q r : Position}

/-! ### The order along a text -/

theorem lt_irrefl (p : Position) : ¬ p < p := by
  rw [lt_iff]
  omega

theorem lt_trans (hpq : p < q) (hqr : q < r) : p < r := by
  rw [lt_iff] at *
  omega

/-- Walking over a text leads to a later position, unless there is nothing to walk over. -/
theorem lt_advanceOver (p : Position) (h : text ≠ []) : p < p.advanceOver text := by
  induction text generalizing p with
  | nil => exact absurd rfl h
  | cons c text ih =>
    by_cases htext : text = []
    · subst htext
      exact p.lt_advance c
    · exact lt_trans (p.lt_advance c) (ih (p.advance c) htext)

/-- **A position is one place**: two beginnings of one text that end at the same position are the
same. -/
theorem eq_of_advanceOver_eq {before' rest' : List Char} (htext : before ++ rest = before' ++ rest')
    (h : p.advanceOver before = p.advanceOver before') : before = before' := by
  have key {short more : List Char}
      (h : p.advanceOver short = p.advanceOver (short ++ more)) : more = [] := by
    by_contra hmore
    have hlt : p.advanceOver short < p.advanceOver (short ++ more) :=
      advanceOver_append p short more ▸ lt_advanceOver (p.advanceOver short) hmore
    exact lt_irrefl _ (h ▸ hlt)
  obtain ⟨more, rfl, -⟩ | ⟨more, rfl, -⟩ := List.append_eq_append_iff.1 htext
  · rw [key h, List.append_nil]
  · rw [key h.symm, List.append_nil]

/-! ### Positions in a part of a text -/

/-- The position in a whole text of what has the position `p` in the part of it that begins at
`origin`. Only the first line of the part shares its line with what stands before. -/
def rebase (origin p : Position) : Position :=
  if p.line = 1 then ⟨origin.line, origin.column + p.column - 1⟩
  else ⟨origin.line + p.line - 1, p.column⟩

@[simp] theorem rebase_start (origin : Position) : origin.rebase start = origin := by
  simp [rebase, start]

/-- Walking commutes with rebasing, from every position that counts from one. -/
theorem advance_rebase (c : Char) (hline : 1 ≤ p.line) (hcolumn : 1 ≤ p.column) :
    (origin.rebase p).advance c = origin.rebase (p.advance c) := by
  by_cases hc : c = '\n'
  · subst hc
    have hnext : p.line + 1 ≠ 1 := by omega
    rw [advance_newline, advance_newline, rebase, rebase, if_neg hnext]
    split <;> simp only [Position.mk.injEq, and_true] <;> omega
  · simp only [advance, hc, if_false, rebase]
    split <;> simp only [Position.mk.injEq, true_and]
    omega

theorem advanceOver_rebase (hline : 1 ≤ p.line) (hcolumn : 1 ≤ p.column) :
    (origin.rebase p).advanceOver text = origin.rebase (p.advanceOver text) := by
  induction text generalizing p with
  | nil => rfl
  | cons c text ih =>
    have hnext : 1 ≤ (p.advance c).line ∧ 1 ≤ (p.advance c).column := by
      rw [advance]
      split <;> simp only <;> omega
    rw [advanceOver_cons, advance_rebase c hline hcolumn, ih hnext.1 hnext.2, advanceOver_cons]

/-- **Positions are relative.** Behind a text, every position is the one that it would be at the
beginning, rebased to where that text ends. -/
theorem advanceOver_start_append (before text : List Char) :
    start.advanceOver (before ++ text) =
      (start.advanceOver before).rebase (start.advanceOver text) := by
  rw [advanceOver_append, ← advanceOver_rebase (p := start) (by decide) (by decide), rebase_start]

end Position

/-! ### Tokens, errors and outcomes at other positions -/

/-- A token with its position changed. -/
def Token.relocate (f : Position → Position) (t : Token) : Token :=
  { t with position := f t.position }

/-- An error with its position changed. -/
def LexError.relocate (f : Position → Position) (e : LexError) : LexError :=
  { e with position := f e.position }

namespace Outcome

variable {α β : Type} {f : Position → Position}

/-- An outcome with its value and its error transformed. -/
def bimap (f : α → β) (g : LexError → LexError) : Outcome α → Outcome β
  | accepted a => accepted (f a)
  | failed e => failed (g e)
  | misplaced => misplaced

/-- Collecting relocated outcomes is relocating what is collected. -/
theorem collect_map_relocate (f : Position → Position) (outcomes : List (Outcome Token)) :
    collect (outcomes.map (bimap (Token.relocate f) (LexError.relocate f))) =
      (collect outcomes).bimap (List.map (Token.relocate f)) (LexError.relocate f) := by
  induction outcomes with
  | nil => rfl
  | cons outcome outcomes ih =>
    cases outcome with
    | accepted t =>
      rw [List.map_cons, bimap, collect, ih, collect]
      cases collect outcomes <;> rfl
    | failed e => rfl
    | misplaced => rfl

end Outcome

theorem Verdict.at_relocate (f : Position → Position) (p : Position) (v : Verdict) :
    v.at (f p) = (v.at p).bimap (Token.relocate f) (LexError.relocate f) := by
  cases v <;> rfl

/-- **Outcomes are relative** as positions are. -/
theorem outcomesAfter_append (before text : List Char) (segs : List Segment) :
    outcomesAfter (before ++ text) segs =
      (outcomesAfter text segs).map
        (Outcome.bimap (Token.relocate (Position.start.advanceOver before).rebase)
          (LexError.relocate (Position.start.advanceOver before).rebase)) := by
  induction segs generalizing text with
  | nil => rfl
  | cons s segs ih =>
    rw [outcomesAfter, outcomesAfter, List.map_cons, List.append_assoc, List.append_assoc, ih,
      Position.advanceOver_start_append, Verdict.at_relocate]

/-! ### Gaps in front of a text -/

/-- A gap in front of a text becomes part of the gap of its first segment. -/
theorem first_gap_append (hgap : ∀ c ∈ gap, isGap c = true) (rest : List Char) :
    Segment.first (gap ++ rest) =
      ⟨gap ++ (Segment.first rest).gap, (Segment.first rest).scan⟩ := by
  rw [Segment.first, List.takeWhile_append_of_pos hgap, List.dropWhile_append_of_pos hgap]
  rfl

/-- **Gaps are counted once.** It makes no difference whether a gap in front of a text is divided
with it or stands before it. -/
theorem outcomesAfter_segments_gap_append (hgap : ∀ c ∈ gap, isGap c = true)
    (before rest : List Char) :
    outcomesAfter before (segments (gap ++ rest)) =
      outcomesAfter (before ++ gap) (segments rest) := by
  have hdrop : (gap ++ rest).drop (Segment.first (gap ++ rest)).text.length =
      rest.drop (Segment.first rest).text.length := by
    rw [first_gap_append hgap]
    simp [Segment.text, List.drop_append]
  have hlast : (Segment.first (gap ++ rest)).isLast = (Segment.first rest).isLast := by
    rw [first_gap_append hgap]
    rfl
  rw [segments, hlast, hdrop, first_gap_append hgap]
  conv_rhs => rw [segments]
  split <;> simp [outcomesAfter, Segment.text]

/-! ### Sources that begin with a run -/

namespace WrittenToken

variable {source after : String} {ws ws' : List WrittenToken}

/-- The parts of a run are runs. -/
theorem isRun_append :
    IsRun (ws ++ ws') rest ↔ IsRun ws (charsOf ws' ++ rest) ∧ IsRun ws' rest := by
  induction ws with
  | nil => simp [IsRun]
  | cons w ws ih => simp [IsRun, ih, and_assoc]

/-- **What stands behind a run and a gap** is tokenized as it is by itself, with its positions
rebased to the place where it begins. -/
theorem tokenize_of_run_append (htext : source.toList = charsOf ws ++ (gap ++ after.toList))
    (hrun : IsRun ws (gap ++ after.toList)) (hgap : ∀ c ∈ gap, isGap c = true) :
    tokenize source =
      (tokenize after).bimap
        (fun tokens ↦ tokensAfter [] ws ++ tokens.map
          (Token.relocate (Position.start.advanceOver (charsOf ws ++ gap)).rebase))
        (LexError.relocate (Position.start.advanceOver (charsOf ws ++ gap)).rebase) := by
  have houtcomes : outcomesAfter [] (segments source.toList) =
      (tokensAfter [] ws).map .accepted ++
        outcomesAfter (charsOf ws ++ gap ++ []) (segments after.toList) := by
    rw [htext, segments_charsOf_append hrun, outcomesAfter_map_segment_append, List.nil_append,
      outcomesAfter_segments_gap_append hgap, List.append_nil]
  rw [tokenize_eq, houtcomes, Outcome.collect_map_accepted_append, outcomesAfter_append,
    Outcome.collect_map_relocate, ← tokenize_eq]
  cases tokenize after <;> rfl

end WrittenToken

end ScriptLexer
