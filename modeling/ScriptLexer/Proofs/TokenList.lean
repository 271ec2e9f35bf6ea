import ScriptLexer.Proofs.Run
import ScriptLexer.Reading

/-!
# Token lists

What `tokenize` and `tokensSeen` answer, in terms of runs. A reading depends on the place of its
cursor only by the text before it, so the outcomes of a source are a function of its segments and
of what stands before them (`outcomesAfter`). For a run these are the tokens that were written, each
with the position of its text (`WrittenToken.tokensAfter`).

`tokenize_cases` is the account of all sources: the tokens of a run and the end mark, or the fault
after a run. It is used as one equivalence for each answer (`tokenize_eq_accepted_iff`,
`tokenize_eq_failed_iff`).
-/

namespace ScriptLexer

open Grammar

variable {before gap rest : List Char} {segs : List Segment} {source : String}

/-! ### Outcomes by segments -/

/-- The outcomes of consecutive segments that stand after a text. -/
def outcomesAfter (before : List Char) : List Segment → List (Outcome Token)
  | [] => []
  | s :: segs =>
    s.scan.verdict.at (Position.start.advanceOver (before ++ s.gap)) ::
      outcomesAfter (before ++ s.text) segs

/-- **Readings in one place.** Their outcomes do not depend on the cursor otherwise. -/
theorem map_outcome_chain {c : Cursor} (h : c.position = Position.start.advanceOver before) :
    (Reading.chain c segs).map Reading.outcome = outcomesAfter before segs := by
  induction segs generalizing c before with
  | nil => rfl
  | cons s segs ih =>
    have htoken : (Reading.mk c s).tokenCursor.position =
        Position.start.advanceOver (before ++ s.gap) := by
      simp [Reading.tokenCursor, Cursor.advance, h, Position.advanceOver_append]
    have hafter : (Reading.mk c s).after.position =
        Position.start.advanceOver (before ++ s.text) := by
      rw [Segment.text, ← List.append_assoc, Position.advanceOver_append, ← htoken]
      rfl
    rw [Reading.chain, List.map_cons, ih hafter, Reading.outcome, htoken, outcomesAfter]

theorem map_outcome_readings (source : String) :
    (readings source).map Reading.outcome = outcomesAfter [] (segments source.toList) :=
  map_outcome_chain rfl

theorem tokenize_eq (source : String) :
    tokenize source = Outcome.collect (outcomesAfter [] (segments source.toList)) := by
  rw [tokenize, map_outcome_readings]

theorem tokensSeen_eq_filterMap (source : String) :
    tokensSeen source = ((readings source).map Reading.outcome).filterMap Outcome.value? := by
  rw [List.filterMap_map]
  rfl

theorem tokensSeen_eq (source : String) :
    tokensSeen source = (outcomesAfter [] (segments source.toList)).filterMap Outcome.value? := by
  rw [tokensSeen_eq_filterMap, map_outcome_readings]

namespace Outcome

/-- Accepted values in front of other outcomes are collected first. -/
theorem collect_map_accepted_append {α : Type} (values : List α) (outcomes : List (Outcome α)) :
    collect (values.map accepted ++ outcomes) = (collect outcomes).map (values ++ ·) := by
  induction values with
  | nil => cases h : collect outcomes <;> simp [h, Outcome.map]
  | cons a values ih =>
    rw [List.map_cons, List.cons_append, collect, ih]
    cases collect outcomes <;> rfl

theorem filterMap_value?_append {α : Type} (values : List α) (outcomes : List (Outcome α)) :
    (values.map accepted ++ outcomes).filterMap value? = values ++ outcomes.filterMap value? := by
  rw [List.filterMap_append, List.filterMap_map]
  congr
  exact List.filterMap_some

end Outcome

/-! ### The tokens of a run -/

/-- The end mark after a text. -/
def endMark (text : List Char) : Token :=
  ⟨.endOfInput, "", Position.start.advanceOver text⟩

namespace WrittenToken

/-- The tokens that are written one after the other after a text. -/
def tokensAfter (before : List Char) : List WrittenToken → List Token
  | [] => []
  | w :: ws =>
    ⟨w.kind, String.ofList w.lexeme, Position.start.advanceOver (before ++ w.gap)⟩ ::
      tokensAfter (before ++ w.chars) ws

@[simp] theorem length_tokensAfter (ws : List WrittenToken) :
    (tokensAfter before ws).length = ws.length := by
  induction ws generalizing before with
  | nil => rfl
  | cons w ws ih => simp [tokensAfter, ih]

theorem tokensAfter_append (ws ws' : List WrittenToken) :
    tokensAfter before (ws ++ ws') =
      tokensAfter before ws ++ tokensAfter (before ++ charsOf ws) ws' := by
  induction ws generalizing before with
  | nil => simp [tokensAfter]
  | cons w ws ih => simp [tokensAfter, ih]

/-- Each token of the list is written somewhere in the run. -/
theorem exists_of_mem_tokensAfter {ws : List WrittenToken} {t : Token}
    (h : t ∈ tokensAfter before ws) :
    ∃ w ∈ ws, t.kind = w.kind ∧ t.lexeme.toList = w.lexeme := by
  induction ws generalizing before with
  | nil => cases h
  | cons w ws ih =>
    rcases List.mem_cons.1 h with rfl | h
    · exact ⟨w, List.mem_cons_self, rfl, String.toList_ofList⟩
    · obtain ⟨w', hw', hkind⟩ := ih h
      exact ⟨w', List.mem_cons_of_mem w hw', hkind⟩

/-- The outcomes of a run are its tokens. -/
theorem outcomesAfter_map_segment_append (ws : List WrittenToken) (segs : List Segment) :
    outcomesAfter before (ws.map segment ++ segs) =
      (tokensAfter before ws).map .accepted ++ outcomesAfter (before ++ charsOf ws) segs := by
  induction ws generalizing before with
  | nil => simp [tokensAfter]
  | cons w ws ih =>
    rw [List.map_cons, List.cons_append, outcomesAfter, w.text_segment, ih, tokensAfter,
      charsOf_cons, List.append_assoc]
    rfl

/-! ### All sources -/

/-- The division of a source that is a run before a rest in which it stops. -/
theorem outcomesAfter_of_isRun {ws : List WrittenToken} (htext : source.toList = charsOf ws ++ rest)
    (hrun : IsRun ws rest) (hlast : (Segment.first rest).isLast = true) :
    outcomesAfter [] (segments source.toList) =
      (tokensAfter [] ws).map .accepted ++
        outcomesAfter (charsOf ws) [Segment.first rest] := by
  rw [htext, segments_charsOf_append hrun, segments_of_isLast hlast,
    outcomesAfter_map_segment_append, List.nil_append]

/-- **A run is accepted.** If nothing but a gap follows it, its tokens and the end mark are the
answer. -/
theorem tokenize_of_isRun {ws : List WrittenToken} (htext : source.toList = charsOf ws ++ gap)
    (hrun : IsRun ws gap) (hgap : ∀ c ∈ gap, isGap c = true) :
    tokenize source = .accepted (tokensAfter [] ws ++ [endMark source.toList]) ∧
      tokensSeen source = tokensAfter [] ws ++ [endMark source.toList] := by
  have hfirst := first_of_gap hgap
  have houtcomes := outcomesAfter_of_isRun htext hrun (by rw [hfirst]; rfl)
  have hmark : outcomesAfter (charsOf ws) [Segment.first gap] =
      [.accepted (endMark source.toList)] := by
    rw [hfirst, htext]
    rfl
  rw [hmark] at houtcomes
  constructor
  · rw [tokenize_eq, houtcomes, Outcome.collect_map_accepted_append]
    rfl
  · rw [tokensSeen_eq, houtcomes, Outcome.filterMap_value?_append]
    rfl

/-- **A fault ends a run.** If a fault follows it behind a gap, the fault is the answer, and the
tokens of the run have been seen. -/
theorem tokenize_of_isFault {ws : List WrittenToken} {taken : List Char} {cause : Cause}
    (htext : source.toList = charsOf ws ++ (gap ++ (taken ++ rest)))
    (hrun : IsRun ws (gap ++ (taken ++ rest))) (hgap : ∀ c ∈ gap, isGap c = true)
    (hfault : IsFault cause taken rest) :
    tokenize source = .failed ⟨cause, Position.start.advanceOver (charsOf ws ++ gap)⟩ ∧
      tokensSeen source = tokensAfter [] ws := by
  have hfirst := first_of_isFault hgap hfault
  have houtcomes := outcomesAfter_of_isRun htext hrun (by rw [hfirst]; rfl)
  rw [hfirst] at houtcomes
  constructor
  · rw [tokenize_eq, houtcomes, Outcome.collect_map_accepted_append]
    rfl
  · rw [tokensSeen_eq, houtcomes, Outcome.filterMap_value?_append]
    exact List.append_nil _

/-- **All sources.** A source is a run before a gap, and its tokens and the end mark are the answer;
or it is a run before a gap and a fault, and the fault is the answer. -/
theorem tokenize_cases (source : String) :
    (∃ ws gap, source.toList = charsOf ws ++ gap ∧ IsRun ws gap ∧ (∀ c ∈ gap, isGap c = true) ∧
        tokenize source = .accepted (tokensAfter [] ws ++ [endMark source.toList]) ∧
        tokensSeen source = tokensAfter [] ws ++ [endMark source.toList]) ∨
      ∃ ws gap taken rest cause, source.toList = charsOf ws ++ (gap ++ (taken ++ rest)) ∧
        IsRun ws (gap ++ (taken ++ rest)) ∧ (∀ c ∈ gap, isGap c = true) ∧
        IsFault cause taken rest ∧
        tokenize source = .failed ⟨cause, Position.start.advanceOver (charsOf ws ++ gap)⟩ ∧
        tokensSeen source = tokensAfter [] ws := by
  obtain ⟨ws, rest, htext, hrun, hlast⟩ := exists_isRun source.toList
  obtain hgap | ⟨gap, taken, rest, cause, rfl, hgap, hfault⟩ := first_cases_of_isLast hlast
  · exact .inl ⟨ws, rest, htext, hrun, hgap, tokenize_of_isRun htext hrun hgap⟩
  · exact .inr ⟨ws, gap, taken, rest, cause, htext, hrun, hgap, hfault,
      tokenize_of_isFault htext hrun hgap hfault⟩

/-- **Nothing is misplaced** in any source. -/
theorem tokenize_ne_misplaced (source : String) : tokenize source ≠ .misplaced := by
  intro h
  obtain ⟨_, _, -, -, -, haccepted, -⟩ | ⟨_, _, _, _, _, -, -, -, -, hfailed, -⟩ :=
    tokenize_cases source
  · exact absurd (h.symm.trans haccepted) (by simp)
  · exact absurd (h.symm.trans hfailed) (by simp)

/-- A source is accepted just when it is a run before a gap. -/
theorem tokenize_eq_accepted_iff {tokens : List Token} :
    tokenize source = .accepted tokens ↔
      ∃ ws gap, source.toList = charsOf ws ++ gap ∧ IsRun ws gap ∧ (∀ c ∈ gap, isGap c = true) ∧
        tokens = tokensAfter [] ws ++ [endMark source.toList] := by
  constructor
  · intro h
    obtain ⟨ws, gap, htext, hrun, hgap, haccepted, -⟩ | ⟨_, _, _, _, _, -, -, -, -, hfailed, -⟩ :=
      tokenize_cases source
    · exact ⟨ws, gap, htext, hrun, hgap, Outcome.accepted.inj (h.symm.trans haccepted)⟩
    · exact absurd (h.symm.trans hfailed) (by simp)
  · rintro ⟨ws, gap, htext, hrun, hgap, rfl⟩
    exact (tokenize_of_isRun htext hrun hgap).1

/-- A source has an error just when a fault follows a run and a gap, and the error is that fault in
its place. -/
theorem tokenize_eq_failed_iff {e : LexError} :
    tokenize source = .failed e ↔
      ∃ ws gap taken rest, source.toList = charsOf ws ++ (gap ++ (taken ++ rest)) ∧
        IsRun ws (gap ++ (taken ++ rest)) ∧ (∀ c ∈ gap, isGap c = true) ∧
        IsFault e.cause taken rest ∧
        e.position = Position.start.advanceOver (charsOf ws ++ gap) := by
  constructor
  · intro h
    obtain ⟨_, _, -, -, -, haccepted, -⟩ |
        ⟨ws, gap, taken, rest, cause, htext, hrun, hgap, hfault, hfailed, -⟩ :=
      tokenize_cases source
    · exact absurd (h.symm.trans haccepted) (by simp)
    · obtain rfl := Outcome.failed.inj (h.symm.trans hfailed)
      exact ⟨ws, gap, taken, rest, htext, hrun, hgap, hfault, rfl⟩
  · intro ⟨ws, gap, taken, rest, htext, hrun, hgap, hfault, hposition⟩
    rw [(tokenize_of_isFault htext hrun hgap hfault).1, ← hposition]

end WrittenToken

/-- The tokens of an accepted source are those that were seen. -/
theorem tokensSeen_of_accepted {tokens : List Token} (h : tokenize source = .accepted tokens) :
    tokensSeen source = tokens := by
  obtain ⟨_, _, -, -, -, haccepted, hseen⟩ | ⟨_, _, _, _, _, -, -, -, -, hfailed, -⟩ :=
    WrittenToken.tokenize_cases source
  · rw [hseen]
    exact Outcome.accepted.inj (haccepted.symm.trans h)
  · exact absurd (h.symm.trans hfailed) (by simp)

end ScriptLexer
