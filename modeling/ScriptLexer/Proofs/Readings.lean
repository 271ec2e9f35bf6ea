import ScriptLexer.Proofs.TokenList

/-!
# Readings one at a time

The readings of a source were defined by dividing its text and then placing the segments. Here they
are put as a recursion on cursors: read once, and unless that was the last reading go on from where
it ended (`Cursor.readings_of_isLast_eq_false`). The recursion ends because every reading that is
not the last leaves less of the source (`Cursor.induction_on_readings`). All outcomes but the last
are tokens, so a source has its tokens or, after them, one error (`map_outcome_readings_cases`).

Whoever compares the readings of two cursors, or the readings with another way to ask for tokens,
does it along this recursion, one reading at a time.
-/

namespace ScriptLexer

/-- Whether an outcome ends a run: the end mark does, and whatever is not accepted. -/
def Outcome.isFinal : Outcome Token → Bool
  | accepted t => t.kind == .endOfInput
  | failed _ | misplaced => true

/-- The last segment is the one that gives a final outcome. -/
theorem Reading.isFinal_outcome (r : Reading) : r.outcome.isFinal = r.segment.isLast := by
  match hscan : r.segment.scan with
  | ⟨_, .accept _ _⟩ | ⟨_, .reject _⟩ | ⟨_, .misplaced⟩ =>
    simp [outcome, Segment.isLast, hscan, Verdict.at, Outcome.isFinal]

namespace Cursor

/-- A reading passes over the text of its segment. -/
theorem rest_after_read (c : Cursor) :
    c.read.after.rest = c.rest.drop c.read.segment.text.length := by
  show (c.rest.drop _).drop _ = _
  rw [List.drop_drop, Segment.text, List.length_append]

theorem readings_of_isLast {c : Cursor} (h : c.read.segment.isLast = true) :
    c.readings = [c.read] := by
  rw [readings, segments_of_isLast h]
  rfl

/-- **One reading more.** -/
theorem readings_of_isLast_eq_false {c : Cursor} (h : c.read.segment.isLast = false) :
    c.readings = c.read :: c.read.after.readings := by
  have hlast : ¬ (Segment.first c.rest).isLast = true := ne_true_of_eq_false h
  rw [readings, segments, if_neg hlast, readings, rest_after_read]
  rfl

/-- **Induction along the readings.** What holds of a cursor whenever it holds after a reading that
is not the last, holds of every cursor. -/
theorem induction_on_readings {motive : Cursor → Prop} (c : Cursor)
    (step : ∀ c : Cursor, (c.read.segment.isLast = false → motive c.read.after) → motive c) :
    motive c := by
  induction hn : c.rest.length using Nat.strong_induction_on generalizing c with
  | _ n ih =>
    refine step c fun hlast ↦ ih _ ?_ _ rfl
    rw [← hn, rest_after_read]
    exact Segment.length_drop_text_first_lt hlast

end Cursor

/-- The outcomes of a source are its tokens, or the tokens before its error and the error. -/
theorem map_outcome_readings_cases (source : String) :
    (∃ tokens, tokenize source = .accepted tokens ∧
        (readings source).map Reading.outcome = tokens.map .accepted) ∨
      ∃ e, tokenize source = .failed e ∧
        (readings source).map Reading.outcome =
          (tokensSeen source).map .accepted ++ [.failed e] := by
  obtain ⟨ws, rest, htext, hrun, hlast⟩ := WrittenToken.exists_isRun source.toList
  obtain ⟨last, houtcomes⟩ : ∃ last, (readings source).map Reading.outcome =
      (WrittenToken.tokensAfter [] ws).map .accepted ++ [last] := by
    rw [map_outcome_readings, WrittenToken.outcomesAfter_of_isRun htext hrun hlast]
    exact ⟨_, rfl⟩
  have htokenize : tokenize source =
      (Outcome.collect [last]).map (WrittenToken.tokensAfter [] ws ++ ·) := by
    rw [tokenize, houtcomes, Outcome.collect_map_accepted_append]
  have hseen : tokensSeen source =
      WrittenToken.tokensAfter [] ws ++ [last].filterMap Outcome.value? := by
    rw [tokensSeen_eq_filterMap, houtcomes, Outcome.filterMap_value?_append]
  cases last with
  | accepted t => exact .inl ⟨_, htokenize, by rw [houtcomes]; simp⟩
  | failed e =>
    rw [show [Outcome.failed e].filterMap Outcome.value? = ([] : List Token) from rfl,
      List.append_nil] at hseen
    exact .inr ⟨e, htokenize, by rw [houtcomes, hseen]⟩
  | misplaced => exact absurd htokenize (WrittenToken.tokenize_ne_misplaced source)

end ScriptLexer
