import ScriptLexer.Proofs.Readings

/-!
# What is final before the end of the source is known

A source may arrive in parts. What has been read of the first part may change when more comes: a
word may go on, an operator may grow, a string literal that was open may be closed after all. But a
reading that leaves something of the source behind it is **settled**, because every decision that
led to it was made on characters that were there: a sign and a slash are decided by the character
after them, and every end by the character at which it was reached. None of the two lies further
ahead than what the reading has left.

* `Segment.first_append_of_left`: one segment that is settled is the same in every longer text.
* `tokenize_append_stable`: the tokens that end before the source does are final, and so is an error
  behind which something is left.
-/

namespace ScriptLexer

open Grammar

variable {text : List Char}

/-- **A settled segment.** If the first segment of a text leaves something of it, it is the first
segment of every longer text. -/
theorem Segment.first_append_of_left (h : text.drop (first text).text.length ≠ [])
    (more : List Char) : first (text ++ more) = first text := by
  rcases hlast : (first text).isLast with - | -
  · -- a token ends where it ends because of the character after it
    obtain ⟨w, rest, rfl, hsegment, hend⟩ := WrittenToken.exists_of_isLast_eq_false hlast
    rw [← hsegment, w.text_segment, List.drop_left] at h
    rw [← hsegment, List.append_assoc]
    refine w.first_chars_append ?_
    rwa [List.head?_append_of_ne_nil _ h]
  · obtain hgap | ⟨gap, taken, rest, cause, rfl, hgap, hfault⟩ := first_cases_of_isLast hlast
    · exact absurd (by simp [first_of_gap hgap, Segment.text]) h
    · rw [first_of_isFault hgap hfault] at h ⊢
      have hrest : rest ≠ [] := by
        rintro rfl
        exact h (by simp [Segment.text])
      rw [List.append_assoc, List.append_assoc]
      exact first_of_isFault hgap (hfault.append hrest more)

/-! ### Settled readings -/

/-- Whether something of the source is left behind a reading. -/
def Reading.isSettled (r : Reading) : Bool :=
  !r.after.rest.isEmpty

/-- The token of a reading that is settled. -/
def Reading.settled? (r : Reading) : Option Token :=
  if r.isSettled then r.outcome.value? else none

/-- The tokens of a source that end before the source does. -/
def settledTokens (source : String) : List Token :=
  (readings source).filterMap Reading.settled?

namespace Cursor

variable {c c' : Cursor} {more : List Char}

/-- **One settled reading** is the same where more is to come, and more is to come behind it. -/
theorem read_of_isSettled (hposition : c'.position = c.position) (hrest : c'.rest = c.rest ++ more)
    (h : c.read.isSettled = true) :
    c'.read.segment = c.read.segment ∧ c'.read.outcome = c.read.outcome ∧
      c'.read.after.position = c.read.after.position ∧
      c'.read.after.rest = c.read.after.rest ++ more := by
  have hleft : c.rest.drop c.read.segment.text.length ≠ [] := by
    simpa [Reading.isSettled, rest_after_read] using h
  have hsegment : c'.read.segment = c.read.segment := by
    show Segment.first c'.rest = Segment.first c.rest
    rw [hrest, Segment.first_append_of_left hleft]
  have htoken : c'.read.tokenCursor.position = c.read.tokenCursor.position := by
    show c'.position.advanceOver c'.read.segment.gap = c.position.advanceOver c.read.segment.gap
    rw [hsegment, hposition]
  refine ⟨hsegment, by rw [Reading.outcome, Reading.outcome, hsegment, htoken], ?_, ?_⟩
  · show c'.read.tokenCursor.position.advanceOver c'.read.segment.scan.taken =
      c.read.tokenCursor.position.advanceOver c.read.segment.scan.taken
    rw [hsegment, htoken]
  · -- the reading does not reach over what has been there
    have hle : c.read.segment.text.length ≤ c.rest.length := by
      have := (Segment.text_first_isPrefix c.rest).length_le
      exact this
    rw [rest_after_read, rest_after_read, hsegment, hrest, List.drop_append_of_le_length hle]

/-- Where nothing is left, one reading is made, and it settles nothing. -/
theorem readings_of_rest_eq_nil (h : c.rest = []) :
    c.readings = [c.read] ∧ c.read.isSettled = false := by
  have hsegment : c.read.segment = ⟨[], [], .accept .endOfInput []⟩ := by
    show Segment.first c.rest = _
    rw [h]
    rfl
  refine ⟨readings_of_isLast (by rw [hsegment]; rfl), ?_⟩
  simp [Reading.isSettled, rest_after_read, h]

/-- Behind a reading that is not settled, nothing is. -/
theorem isSettled_eq_false_of_mem (h : c.read.isSettled = false) {r : Reading}
    (hr : r ∈ c.readings) : r.isSettled = false := by
  rcases hlast : c.read.segment.isLast with - | -
  · have hafter : c.read.after.rest = [] := by simpa [Reading.isSettled] using h
    obtain ⟨hreadings, hsettled⟩ := readings_of_rest_eq_nil hafter
    rw [readings_of_isLast_eq_false hlast, hreadings] at hr
    obtain rfl | hr := List.mem_cons.1 hr
    · exact h
    · rwa [List.mem_singleton.1 hr]
  · rw [readings_of_isLast hlast] at hr
    rwa [List.mem_singleton.1 hr]

/-- **The settled tokens come first** among the tokens that are read where more is to come. -/
theorem settled_isPrefix (hposition : c'.position = c.position)
    (hrest : c'.rest = c.rest ++ more) :
    c.readings.filterMap Reading.settled? <+: c'.readings.filterMap fun r ↦ r.outcome.value? := by
  induction c using induction_on_readings generalizing c' with
  | step c ih =>
    rcases hsettled : c.read.isSettled with - | -
    · have hnone : c.readings.filterMap Reading.settled? = [] := by
        refine List.filterMap_eq_nil_iff.2 fun r hr ↦ ?_
        simp [Reading.settled?, isSettled_eq_false_of_mem hsettled hr]
      rw [hnone]
      exact List.nil_prefix
    · obtain ⟨hsegment, houtcome, hposition', hrest'⟩ := read_of_isSettled hposition hrest hsettled
      have hfirst : c.read.settled? = c'.read.outcome.value? := by
        rw [Reading.settled?, if_pos hsettled, houtcome]
      rcases hlast : c.read.segment.isLast with - | -
      · have hlast' : c'.read.segment.isLast = false := hsegment ▸ hlast
        rw [readings_of_isLast_eq_false hlast, readings_of_isLast_eq_false hlast',
          List.filterMap_cons, List.filterMap_cons, hfirst]
        cases c'.read.outcome.value? with
        | none => exact ih hlast hposition' hrest'
        | some t => exact (List.prefix_cons_inj t).2 (ih hlast hposition' hrest')
      · have hlast' : c'.read.segment.isLast = true := hsegment ▸ hlast
        rw [readings_of_isLast hlast, readings_of_isLast hlast', List.filterMap_cons,
          List.filterMap_cons, hfirst]
        exact List.prefix_rfl

/-- **A settled end** of the readings is the end of the readings where more is to come. -/
theorem map_outcome_readings_of_isSettled (hposition : c'.position = c.position)
    (hrest : c'.rest = c.rest ++ more) {r : Reading} (hr : r ∈ c.readings)
    (hlast : r.segment.isLast = true) (hsettled : r.isSettled = true) :
    c'.readings.map Reading.outcome = c.readings.map Reading.outcome := by
  induction c using induction_on_readings generalizing c' with
  | step c ih =>
    have hfirst : c.read.isSettled = true := by
      rw [← Bool.not_eq_false]
      intro h
      exact absurd (isSettled_eq_false_of_mem h hr) (by simp [hsettled])
    obtain ⟨hsegment, houtcome, hposition', hrest'⟩ := read_of_isSettled hposition hrest hfirst
    rcases hmore : c.read.segment.isLast with - | -
    · have hmore' : c'.read.segment.isLast = false := hsegment ▸ hmore
      rw [readings_of_isLast_eq_false hmore] at hr ⊢
      obtain rfl | hr := List.mem_cons.1 hr
      · exact absurd hlast (by simp [hmore])
      · rw [readings_of_isLast_eq_false hmore', List.map_cons, List.map_cons, houtcome,
          ih hmore hposition' hrest' hr]
    · have hmore' : c'.read.segment.isLast = true := hsegment ▸ hmore
      rw [readings_of_isLast hmore, readings_of_isLast hmore', List.map_singleton,
        List.map_singleton, houtcome]

end Cursor

/-! ### Sources that go on -/

/-- **What is final.** The tokens that end before a source does are the first ones of every source
that begins with it. If the source has an error and something is left behind the faulty token, then
every source that begins with it has the same error, after the same tokens. -/
theorem tokenize_append_stable (source more : String) :
    settledTokens source <+: tokensSeen (source ++ more) ∧
      ∀ e, tokenize source = .failed e → (∃ r ∈ readings source, r.outcome = .failed e) ∧
        ∀ r ∈ readings source, r.outcome = .failed e → r.isSettled = true →
          tokenize (source ++ more) = .failed e ∧
            tokensSeen (source ++ more) = tokensSeen source := by
  have hrest : (Cursor.ofString (source ++ more)).rest =
      (Cursor.ofString source).rest ++ more.toList := String.toList_append
  refine ⟨Cursor.settled_isPrefix rfl hrest, fun e he ↦ ⟨?_, fun r hr houtcome hsettled ↦ ?_⟩⟩
  · have hmem : Outcome.failed e ∈ (readings source).map Reading.outcome := by
      obtain ⟨_, haccepted, -⟩ | ⟨e', hfailed, houtcomes⟩ := map_outcome_readings_cases source
      · exact absurd (he.symm.trans haccepted) (by simp)
      · obtain rfl := Outcome.failed.inj (he.symm.trans hfailed)
        simp [houtcomes]
    exact List.mem_map.1 hmem
  · have hlast : r.segment.isLast = true := by
      rw [← r.isFinal_outcome, houtcome]
      rfl
    have hsame : (readings (source ++ more)).map Reading.outcome =
        (readings source).map Reading.outcome :=
      Cursor.map_outcome_readings_of_isSettled rfl hrest hr hlast hsettled
    constructor
    · rw [← he, tokenize, hsame, tokenize]
    · rw [tokensSeen_eq_filterMap, hsame, ← tokensSeen_eq_filterMap]

/-- A number that breaks off at its point, with a letter left behind it. The word and the operator
before it are settled, so that a quote after the letter changes nothing. -/
theorem tokenize_append_stable_point :
    settledTokens "x >1.y" = [⟨.identifier, "x", ⟨1, 1⟩⟩, ⟨.operator, ">", ⟨1, 3⟩⟩] ∧
      settledTokens "x >1.y" <+: tokensSeen ("x >1.y" ++ "'") ∧
      tokenize "x >1.y" = .failed ⟨.malformedNumber, ⟨1, 4⟩⟩ ∧
      tokenize ("x >1.y" ++ "'") = .failed ⟨.malformedNumber, ⟨1, 4⟩⟩ ∧
      tokensSeen ("x >1.y" ++ "'") = tokensSeen "x >1.y" := by
  have hreading : ⟨⟨"x >1.y", ['1', '.', 'y'], 3, ⟨1, 4⟩⟩,
      ⟨[], ['1', '.'], .reject .malformedNumber⟩⟩ ∈ readings "x >1.y" := by
    decide +kernel
  have hfailed : tokenize "x >1.y" = .failed ⟨.malformedNumber, ⟨1, 4⟩⟩ := by
    decide +kernel
  obtain ⟨hsettled, hfinal⟩ := tokenize_append_stable "x >1.y" "'"
  exact ⟨by decide +kernel, hsettled, hfailed, (hfinal _ hfailed).2 _ hreading rfl (by decide)⟩

end ScriptLexer
