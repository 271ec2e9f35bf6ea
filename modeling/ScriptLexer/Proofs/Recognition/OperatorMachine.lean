import ScriptLexer.Machine.Symbol
import ScriptLexer.Proofs.Recognition.Verbatim

/-!
# Operators, state by state and by the table

The recognizer of operators lets a candidate grow through the table of operators; the machine has
states and no table. That both take the same characters is a matter of looking at every entry of the
table and at every character with which it could grow (`Machine.operator_move`). In front of any
other character the machine stops, and no entry goes on.
-/

namespace ScriptLexer.Machine

open Scan

/-- The state in which the machine is after a candidate. -/
def operatorState (candidate : List Char) : OperatorState :=
  candidate.foldl (fun state c ↦
    match operatorMove state c with
    | .take state => state
    | _ => state) .start

/-- In front of a character that is in no operator the machine stops. -/
theorem operatorMove_of_not_start {state : OperatorState} {c : Char}
    (h : isOperatorStart c = false) :
    operatorMove state c = .stop (operatorEnding state) := by
  unfold operatorMove
  split <;> first | rfl | cases h | simp_all [operatorEnding]

/-- **The machine and the table agree** about every candidate and every character. -/
theorem operator_move {candidate : List Char} (h : candidate ∈ [] :: operators) (c : Char) :
    operatorMove (operatorState candidate) c =
      if isOperator (candidate ++ [c]) then .take (operatorState (candidate ++ [c]))
      else .stop (operatorEnding (operatorState candidate)) := by
  by_cases hc : isOperatorStart c = true
  · have table : (([] :: operators).all fun candidate ↦ operatorStarts.all fun c ↦
        operatorMove (operatorState candidate) c =
          if isOperator (candidate ++ [c]) then .take (operatorState (candidate ++ [c]))
          else .stop (operatorEnding (operatorState candidate))) = true := by
      decide +kernel
    have hcandidate := List.all_eq_true.1 table candidate h
    exact of_decide_eq_true (List.all_eq_true.1 hcandidate c (List.contains_iff_mem.1 hc))
  · have hforeign : isOperator (candidate ++ [c]) = false := by
      have table : ∀ entry ∈ operators, entry.all isOperatorStart = true := by decide +kernel
      refine eq_false_of_ne_true fun hmem ↦ hc ?_
      exact List.all_eq_true.1 (table _ (isOperator_iff_mem.1 hmem)) c (by simp)
    rw [operatorMove_of_not_start (eq_false_of_ne_true hc), hforeign]
    rfl

/-- From a candidate on, the machine takes the characters by which it grows. -/
theorem operator_trace {candidate : List Char} (h : candidate ∈ [] :: operators)
    (text : List Char) :
    operator.trace (operatorState candidate) text =
      (operatorGrowth candidate text,
        operatorEnding (operatorState (candidate ++ operatorGrowth candidate text))) := by
  induction text generalizing candidate with
  | nil => rw [operatorGrowth, List.append_nil]; rfl
  | cons c rest ih =>
    have hmove := operator_move h c
    rw [operatorGrowth]
    by_cases hc : isOperator (candidate ++ [c]) = true
    · rw [if_pos hc] at hmove
      rw [trace_of_take hmove, ih (List.mem_cons_of_mem _ (isOperator_iff_mem.1 hc)), if_pos hc]
      simp
    · rw [if_neg hc] at hmove
      rw [trace_of_stop hmove, if_neg hc, List.append_nil]

/-- **The machine finds what the recognizer finds.** -/
theorem operator_scan : operator.scan = Scan.operator := by
  funext text
  have hgrown := (operatorGrowth_stops [] text).1
  have htrace := operator_trace List.mem_cons_self text
  rw [List.nil_append] at hgrown htrace
  rw [scan_eq htrace, Scan.operator]
  cases hgrowth : operatorGrowth [] text with
  | nil => rfl
  | cons c rest =>
    have hmem : c :: rest ∈ operators := by
      rw [hgrowth] at hgrown
      exact isOperator_iff_mem.1 (hgrown (by simp))
    have hending : ∀ entry ∈ operators, operatorEnding (operatorState entry) = .accept := by
      decide +kernel
    rw [hending _ hmem]
    rfl

end ScriptLexer.Machine
