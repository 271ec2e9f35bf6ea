import ScriptLexer.Proofs.LongestRun
import ScriptLexer.Proofs.Recognition.Fault

/-!
# Runs of written tokens

A **written token** is a token as it stands in a text: the gap before it, its kind and lexeme, and
the text in which it is written. A **run** is a list of them that stands before some other text,
where each may end before what follows it.

* `segments_charsOf_append`: a run is divided into its own tokens, whatever they are.
* `exists_isRun`: every text is a run, and a rest in which the division stops at once.
* `first_cases_of_isLast`: such a rest is a mere gap, or it has a fault behind its gap.

Runs depend on the text after them only by its first character, and a run before the end of a text
has nothing to watch at all. So a run can be cut out of the text in which it was found
(`IsRun.left_of_append`).
-/

namespace ScriptLexer

open Grammar

variable {kind : TokenKind} {lexeme text gap rest : List Char}

/-! ### Heads of texts -/

/-- A written token is not empty and does not begin with a character of a gap. -/
theorem exists_cons_of_isWritten (h : IsWritten kind lexeme text) :
    ∃ c tail, text = c :: tail ∧ isGap c = false := by
  have hscan : scanToken (text ++ []) = ⟨text, .accept kind lexeme⟩ :=
    scanToken_of_isWritten h (endsBefore_none kind text)
  rw [List.append_nil] at hscan
  match text with
  | [] =>
    obtain ⟨-, rfl, -⟩ := Scan.accept_inj hscan
    exact absurd rfl h.kind_ne_endOfInput
  | c :: tail =>
    refine ⟨c, tail, rfl, ?_⟩
    match hclass : TokenClass.classify c tail.head? with
    | none =>
      rw [scanToken, hclass] at hscan
      cases hscan
    | some cls => exact (TokenClass.opens_of_classify hclass).isGap_eq_false

theorem isGap_head?_of_isWritten (h : IsWritten kind lexeme text) :
    ∀ c ∈ (text ++ rest).head?, isGap c = false := by
  obtain ⟨c, tail, rfl, hc⟩ := exists_cons_of_isWritten h
  rintro d ⟨⟩
  exact hc

/-- The first segment of a text, by its gap. -/
theorem first_append (hgap : ∀ c ∈ gap, isGap c = true)
    (hrest : ∀ c ∈ rest.head?, isGap c = false) :
    Segment.first (gap ++ rest) = ⟨gap, scanToken rest⟩ := by
  rw [Segment.first, takeWhile_run hgap hrest, dropWhile_run hgap hrest]

/-- Cutting off a text that follows takes nothing from the head, unless it leaves nothing. -/
theorem endsBefore_of_append {more : List Char}
    (h : EndsBefore kind text (rest ++ more).head?) : EndsBefore kind text rest.head? := by
  match rest with
  | [] => exact endsBefore_none kind text
  | _ :: _ => exact h

/-! ### Written tokens -/

/-- A token as it stands in a text. -/
structure WrittenToken where
  /-- The characters before the token. -/
  gap : List Char
  /-- The kind of the token. -/
  kind : TokenKind
  /-- The lexeme of the token. -/
  lexeme : List Char
  /-- The text of the token, delimiters included. -/
  text : List Char
  /-- What stands before the token is a gap. -/
  isGap_of_mem : ∀ c ∈ gap, isGap c = true
  /-- The text is a way to write the token. -/
  isWritten : IsWritten kind lexeme text

namespace WrittenToken

/-- All characters of a written token. -/
def chars (w : WrittenToken) : List Char :=
  w.gap ++ w.text

/-- The segment of a written token. -/
def segment (w : WrittenToken) : Segment :=
  ⟨w.gap, w.text, .accept w.kind w.lexeme⟩

theorem isLast_segment (w : WrittenToken) : w.segment.isLast = false := by
  simp [segment, Segment.isLast, w.isWritten.kind_ne_endOfInput]

theorem text_segment (w : WrittenToken) : w.segment.text = w.chars :=
  rfl

/-- A written token that may end where it ends is the first segment. -/
theorem first_chars_append (w : WrittenToken) (h : EndsBefore w.kind w.text rest.head?) :
    Segment.first (w.chars ++ rest) = w.segment := by
  rw [chars, List.append_assoc, first_append w.isGap_of_mem (isGap_head?_of_isWritten w.isWritten),
    scanToken_of_isWritten w.isWritten h]
  rfl

/-- Every segment that is not the last is a written token that may end where it ends. -/
theorem exists_of_isLast_eq_false (h : (Segment.first text).isLast = false) :
    ∃ (w : WrittenToken) (rest : List Char), text = w.chars ++ rest ∧
      w.segment = Segment.first text ∧ EndsBefore w.kind w.text rest.head? := by
  match hscan : scanToken (text.dropWhile isGap) with
  | ⟨taken, .accept kind lexeme⟩ =>
    have hne : text.dropWhile isGap ≠ [] := by
      intro hnil
      rw [Segment.first, hnil] at h
      cases h
    obtain ⟨hwritten, rest, htext, hend⟩ := (scanToken_eq_accept_iff hne).1 hscan
    refine ⟨⟨text.takeWhile isGap, kind, lexeme, taken, fun c ↦ List.mem_takeWhile_imp, hwritten⟩,
      rest, ?_, ?_, hend⟩
    · rw [chars, List.append_assoc, ← htext, List.takeWhile_append_dropWhile]
    · rw [Segment.first, hscan]
      rfl
  | ⟨_, .reject _⟩ | ⟨_, .misplaced⟩ => simp [Segment.first, hscan, Segment.isLast] at h

/-- The text of a list of written tokens. -/
def charsOf (ws : List WrittenToken) : List Char :=
  ws.flatMap chars

@[simp] theorem charsOf_nil : charsOf [] = [] := rfl

@[simp] theorem charsOf_cons (w : WrittenToken) (ws : List WrittenToken) :
    charsOf (w :: ws) = w.chars ++ charsOf ws := rfl

@[simp] theorem charsOf_append (ws ws' : List WrittenToken) :
    charsOf (ws ++ ws') = charsOf ws ++ charsOf ws' :=
  List.flatMap_append

/-! ### Runs -/

/-- Each of the written tokens may end before those that follow it and the rest. -/
def IsRun : List WrittenToken → List Char → Prop
  | [], _ => True
  | w :: ws, rest => EndsBefore w.kind w.text (charsOf ws ++ rest).head? ∧ IsRun ws rest

/-- **Cutting out.** A run is still one after the end of the text has been cut off. -/
theorem IsRun.left_of_append {ws : List WrittenToken} {more : List Char}
    (h : IsRun ws (rest ++ more)) : IsRun ws rest := by
  induction ws with
  | nil => trivial
  | cons w ws ih =>
    obtain ⟨hend, hrun⟩ := h
    rw [← List.append_assoc] at hend
    exact ⟨endsBefore_of_append hend, ih hrun⟩

/-- **A run is divided into its own tokens.** -/
theorem segments_charsOf_append {ws : List WrittenToken} (h : IsRun ws rest) :
    segments (charsOf ws ++ rest) = ws.map segment ++ segments rest := by
  induction ws with
  | nil => rfl
  | cons w ws ih =>
    obtain ⟨hend, hrun⟩ := h
    have hfirst := w.first_chars_append hend
    rw [charsOf_cons, List.append_assoc, segments, hfirst, w.isLast_segment, text_segment,
      List.drop_left, ih hrun]
    rfl

/-- **Every text is a run, and a rest in which the division stops at once.** -/
theorem exists_isRun (text : List Char) :
    ∃ (ws : List WrittenToken) (rest : List Char), text = charsOf ws ++ rest ∧ IsRun ws rest ∧
      (Segment.first rest).isLast = true := by
  -- the rest is what is left when the recursion of `segments` ends
  fun_induction segments text with
  | case1 text segment hlast => exact ⟨[], text, rfl, trivial, hlast⟩
  | case2 text segment hlast ih =>
    obtain ⟨w, after, htext, hsegment, hend⟩ :=
      exists_of_isLast_eq_false (eq_false_of_ne_true hlast)
    have hdrop : text.drop segment.text.length = after := by
      rw [show segment = w.segment from hsegment.symm, text_segment, htext, List.drop_left]
    rw [hdrop] at ih
    obtain ⟨ws, rest, rfl, hrun, hrest⟩ := ih
    exact ⟨w :: ws, rest, by rw [htext, charsOf_cons, List.append_assoc], ⟨hend, hrun⟩, hrest⟩

end WrittenToken

/-! ### The last segment -/

theorem segments_of_isLast (h : (Segment.first text).isLast = true) :
    segments text = [Segment.first text] := by
  rw [segments]
  simp [h]

/-- A mere gap has the end mark behind it. -/
theorem first_of_gap (h : ∀ c ∈ gap, isGap c = true) :
    Segment.first gap = ⟨gap, [], .accept .endOfInput []⟩ := by
  have hfirst : Segment.first (gap ++ []) = ⟨gap, scanToken []⟩ := first_append h (by simp)
  rwa [List.append_nil] at hfirst

/-- A fault behind a gap is found there. -/
theorem first_of_isFault {taken : List Char} {cause : Cause} (hgap : ∀ c ∈ gap, isGap c = true)
    (hfault : IsFault cause taken rest) :
    Segment.first (gap ++ (taken ++ rest)) = ⟨gap, taken, .reject cause⟩ := by
  rw [first_append hgap (isGap_head?_of_isFault hfault),
    scanToken_eq_reject_iff.2 ⟨rest, rfl, hfault⟩]

/-- **Where the division stops** there is a mere gap, or a fault behind a gap. -/
theorem first_cases_of_isLast (h : (Segment.first text).isLast = true) :
    (∀ c ∈ text, isGap c = true) ∨
      ∃ gap taken rest cause, text = gap ++ (taken ++ rest) ∧ (∀ c ∈ gap, isGap c = true) ∧
        IsFault cause taken rest := by
  have hgap : ∀ c ∈ text.takeWhile isGap, isGap c = true := fun c ↦ List.mem_takeWhile_imp
  by_cases hnil : text.dropWhile isGap = []
  · have htext : text.takeWhile isGap = text := by
      simpa [hnil] using text.takeWhile_append_dropWhile (p := isGap)
    exact .inl (htext ▸ hgap)
  · match hscan : scanToken (text.dropWhile isGap) with
    | ⟨taken, .accept kind lexeme⟩ =>
      have hkind := ((scanToken_eq_accept_iff hnil).1 hscan).1.kind_ne_endOfInput
      simp [Segment.first, hscan, Segment.isLast, hkind] at h
    | ⟨taken, .reject cause⟩ =>
      obtain ⟨rest, htext, hfault⟩ := scanToken_reject hscan
      refine .inr ⟨text.takeWhile isGap, taken, rest, cause, ?_, hgap, hfault⟩
      rw [← htext, List.takeWhile_append_dropWhile]
    | ⟨taken, .misplaced⟩ =>
      have hverdict : (scanToken (text.dropWhile isGap)).verdict ≠ .misplaced :=
        scanToken_verdict_ne_misplaced eq_false_of_mem_head?_dropWhile
      exact absurd (by rw [hscan]) hverdict

end ScriptLexer
