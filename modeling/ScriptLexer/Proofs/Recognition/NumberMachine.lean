import ScriptLexer.Machine.Number
import ScriptLexer.Proofs.Recognition.Number

/-!
# Numbers, character by character and part by part

The machine for numbers takes one character after the other, and the recognizer of numbers reads
part after part. What the recognizer finds from some part on is what the machine finds from each of
the states in which that part can begin, and so there is one statement for each part, from the last
one to the first. The last of them is `Machine.number_scan`.
-/

namespace ScriptLexer.Machine

open Scan

/-! ### Parts of a number -/

/-- A stretch of a literal, as the machine tells of it. -/
def traceOf (s : Stretch) : List Char × Ending :=
  (s.taken, s.fault.elim .accept .reject)

section Parts

variable {state state' : NumberState} {next : List Char → Stretch} {missing : Cause}

/-- Digits, read from a state that they do not leave. -/
theorem number_trace_digits (hmove : ∀ c, c.isDigit = true → number.move state c = .take state)
    (hnext : ∀ text, startsWithDigit text = false → number.trace state text = traceOf (next text))
    (text : List Char) : number.trace state text =
      traceOf ((next (text.dropWhile Char.isDigit)).after (text.takeWhile Char.isDigit)) := by
  have hstop : startsWithDigit (text.dropWhile Char.isDigit) = false :=
    startsWithDigit_eq_false_iff.2 eq_false_of_mem_head?_dropWhile
  rw [trace_takeWhile hmove, hnext _ hstop]
  rfl

/-- Digits, read from a state in which one is missing. -/
theorem number_trace_digitsThen (hend : number.atEnd state = .reject missing)
    (text : List Char)
    (hmove : ∀ c ∈ text.head?,
      number.move state c = digitMove state' (fun _ ↦ .stop (.reject missing)) c)
    (hdigits : ∀ text, number.trace state' text =
      traceOf ((next (text.dropWhile Char.isDigit)).after (text.takeWhile Char.isDigit))) :
    number.trace state text = traceOf (digitsThen missing next text) := by
  match text with
  | [] => rw [trace, hend]; rfl
  | c :: rest =>
    have hmove := hmove c rfl
    by_cases hc : c.isDigit = true
    · rw [digitMove, if_pos hc] at hmove
      rw [trace_of_take hmove, hdigits]
      simp [digitsThen, startsWithDigit, hc, traceOf, Stretch.after]
    · rw [digitMove, if_neg hc] at hmove
      rw [trace_of_stop hmove]
      simp [digitsThen, startsWithDigit, hc, traceOf]

theorem number_trace_literalEnd (hend : number.atEnd state = .accept) (text : List Char)
    (hmove : ∀ c ∈ text.head?, number.move state c = .stop (numberEnding c)) :
    number.trace state text = traceOf (literalEnd text) := by
  match text with
  | [] => rw [trace, hend]; rfl
  | c :: rest =>
    rw [trace_of_stop (hmove c rfl), numberEnding, literalEnd, List.head?_cons, Option.filter_some]
    split <;> rfl

theorem number_trace_power (text : List Char) : number.trace .power text =
    traceOf ((literalEnd (text.dropWhile Char.isDigit)).after (text.takeWhile Char.isDigit)) := by
  have hmove (c : Char) (hc : c.isDigit = true) : number.move .power c = .take .power := if_pos hc
  refine number_trace_digits hmove (fun rest hrest ↦ ?_) text
  refine number_trace_literalEnd rfl rest fun c hc ↦ if_neg ?_
  exact ne_true_of_eq_false (startsWithDigit_eq_false_iff.1 hrest c hc)

/-- The letter of an exponent is followed by a sign, if there is one, and by digits. -/
theorem number_trace_letter (text : List Char) : number.trace .letter text =
    traceOf ((digitsThen .malformedExponent literalEnd
      (text.drop (leadingSign text).length)).after (leadingSign text)) := by
  match text with
  | [] => rfl
  | c :: rest =>
    by_cases hc : isSign c = true
    · have hsign : leadingSign (c :: rest) = [c] := by simp [leadingSign, hc]
      rw [trace_of_take (if_pos hc), hsign,
        number_trace_digitsThen rfl rest (fun _ _ ↦ rfl) number_trace_power]
      rfl
    · have hsign : leadingSign (c :: rest) = [] := by simp [leadingSign, hc]
      rw [hsign, number_trace_digitsThen rfl (c :: rest) ?_ number_trace_power]
      · rfl
      · rintro d ⟨⟩
        exact if_neg hc

theorem number_trace_exponent (hend : number.atEnd state = .accept) (text : List Char)
    (hmove : ∀ c ∈ text.head?, number.move state c = exponentMove c) :
    number.trace state text = traceOf (exponent text) := by
  match text with
  | [] => exact number_trace_literalEnd hend [] (by simp)
  | c :: rest =>
    have hmove := hmove c rfl
    by_cases hc : c = 'e' ∨ c = 'E'
    · rw [exponentMove, if_pos hc] at hmove
      rw [trace_of_take hmove, number_trace_letter, exponent, if_pos hc]
      rfl
    · rw [exponentMove, if_neg hc] at hmove
      rw [exponent, if_neg hc]
      exact number_trace_literalEnd hend _ fun d hd ↦ Option.some.inj hd ▸ hmove

theorem number_trace_fraction (hend : number.atEnd state = .accept) (text : List Char)
    (hmove : ∀ c ∈ text.head?, number.move state c = fractionMove c) :
    number.trace state text = traceOf (fraction text) := by
  have hdigits : ∀ text, number.trace .fraction text =
      traceOf ((exponent (text.dropWhile Char.isDigit)).after (text.takeWhile Char.isDigit)) := by
    refine number_trace_digits (fun c hc ↦ if_pos hc) fun rest hrest ↦ ?_
    refine number_trace_exponent rfl rest fun c hc ↦ if_neg ?_
    exact ne_true_of_eq_false (startsWithDigit_eq_false_iff.1 hrest c hc)
  match text with
  | [] => exact number_trace_exponent hend [] (by simp)
  | c :: rest =>
    have hmove := hmove c rfl
    by_cases hc : c = '.'
    · rw [fractionMove, if_pos hc] at hmove
      rw [trace_of_take hmove, number_trace_digitsThen rfl rest (fun _ _ ↦ rfl) hdigits, fraction,
        if_pos hc]
      rfl
    · rw [fractionMove, if_neg hc] at hmove
      rw [fraction, if_neg hc]
      exact number_trace_exponent hend _ fun d hd ↦ Option.some.inj hd ▸ hmove

/-- No digit may follow a zero at the head. -/
theorem number_trace_zero (text : List Char) : number.trace .zero text =
    traceOf (if startsWithDigit text then ⟨[], some .leadingZero⟩ else fraction text) := by
  match text with
  | [] => rfl
  | c :: rest =>
    rw [show startsWithDigit (c :: rest) = c.isDigit from rfl]
    by_cases hc : c.isDigit = true
    · rw [trace_of_stop (if_pos hc), if_pos hc]
      rfl
    · rw [if_neg hc]
      exact number_trace_fraction rfl _ fun d hd ↦ Option.some.inj hd ▸ if_neg hc

theorem number_trace_wholePart (hend : number.atEnd state = .reject .malformedNumber)
    (text : List Char) (hmove : ∀ c ∈ text.head?, number.move state c = wholeMove c) :
    number.trace state text = traceOf (wholePart text) := by
  have hdigits : ∀ text, number.trace .whole text =
      traceOf ((fraction (text.dropWhile Char.isDigit)).after (text.takeWhile Char.isDigit)) := by
    refine number_trace_digits (fun c hc ↦ if_pos hc) fun rest hrest ↦ ?_
    refine number_trace_fraction rfl rest fun c hc ↦ if_neg ?_
    exact ne_true_of_eq_false (startsWithDigit_eq_false_iff.1 hrest c hc)
  match text with
  | [] => rw [trace, hend]; rfl
  | c :: rest =>
    have hmove := hmove c rfl
    by_cases hzero : c = '0'
    · rw [wholeMove, if_pos hzero] at hmove
      rw [trace_of_take hmove, number_trace_zero, wholePart, if_pos hzero]
      rfl
    · rw [wholeMove, if_neg hzero] at hmove
      rw [wholePart, if_neg hzero]
      exact number_trace_digitsThen hend _ (fun d hd ↦ Option.some.inj hd ▸ hmove) hdigits

end Parts

theorem number_trace (text : List Char) :
    number.trace .start text = traceOf (numberStretch text) := by
  match text with
  | [] => rfl
  | c :: rest =>
    by_cases hc : isSign c = true
    · have hsign : leadingSign (c :: rest) = [c] := by simp [leadingSign, hc]
      rw [trace_of_take (if_pos hc), number_trace_wholePart rfl rest fun _ _ ↦ rfl, numberStretch,
        hsign]
      rfl
    · have hsign : leadingSign (c :: rest) = [] := by simp [leadingSign, hc]
      rw [numberStretch, hsign, number_trace_wholePart rfl (c :: rest) ?_]
      · rfl
      · rintro d ⟨⟩
        exact if_neg hc

/-- **The machine finds what the recognizer finds.** -/
theorem number_scan : number.scan = Scan.number := by
  funext text
  rw [scan_eq (number_trace text), Scan.number]
  cases (numberStretch text).fault with
  | none => rfl
  | some cause => rfl

end ScriptLexer.Machine
