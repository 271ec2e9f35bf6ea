import Mathlib.Data.List.ReduceOption
import ScriptLexer.Proofs.Readings
import ScriptLexer.Proofs.Safety

/-!
# Both ways to ask

`next` and `nextToken` may be asked in any order. They read with the same cursor, so whoever is
asked gives what `nextToken` alone would give at that point of the readings; only `next` may give
nothing instead, and then nothing else happens (`Lexer.call_cases`).

* The answers that give something are those of as many calls of `nextToken`
  (`Lexer.replay_nextToken`).
* `next` gives nothing just when it has itself ended the readings before
  (`Lexer.finished_after_take_iff`). An end mark or an error that `nextToken` gave does not count.
* Asked alone, `next` gives the outcomes of the readings of the source and then nothing
  (`Lexer.replay_next`).
-/

namespace ScriptLexer

namespace Lexer

/-- The answers that a list of calls on a source gets. -/
def answers (source : String) (calls : List Call) : List (Option (Outcome Token)) :=
  ((ofString source).replay calls).1

/-- A call ends the readings if it is one of `next` and gives the end mark or an error. -/
def IsEnd (c : Call) (answer : Option (Outcome Token)) : Prop :=
  c = .next ∧
    ((∃ t, answer = some (.accepted t) ∧ t.kind = .endOfInput) ∨ ∃ e, answer = some (.failed e))

/-! ### One call -/

theorem call_eq_none_iff {l : Lexer} {c : Call} :
    (l.call c).1 = none ↔ c = .next ∧ l.finished = true := by
  obtain ⟨hc, hfinished, hcall⟩ | ⟨hread, hcall, -⟩ := l.call_cases c
  · simp [hc, hfinished, call, next]
  · simp [hread, hcall]

/-- A call that gives nothing has no effect. -/
theorem call_of_eq_none {l : Lexer} {c : Call} (h : (l.call c).1 = none) : (l.call c).2 = l := by
  obtain ⟨-, -, hcall⟩ | ⟨hread, -, -⟩ := l.call_cases c
  · rw [hcall]
  · exact absurd (call_eq_none_iff.1 h) hread

/-- Only a call that ends the readings makes a lexer finished. -/
theorem finished_call_iff {l : Lexer} {c : Call} (h : l.cursor.read.outcome ≠ .misplaced) :
    (l.call c).2.finished = true ↔ l.finished = true ∨ IsEnd c (l.call c).1 := by
  match c with
  | .nextToken => simp [call, nextToken, IsEnd]
  | .next =>
    by_cases hfinished : l.finished = true
    · simp [call, next, hfinished]
    · have hfinal := l.cursor.read.isFinal_outcome
      cases houtcome : l.cursor.read.outcome with
      | accepted t | failed e =>
        rw [houtcome] at hfinal
        simp [call, next, hfinished, IsEnd, houtcome, ← hfinal, Outcome.isFinal]
      | misplaced => exact absurd houtcome h

/-! ### Many calls -/

theorem replay_append (l : Lexer) (calls later : List Call) :
    l.replay (calls ++ later) =
      ((l.replay calls).1 ++ ((l.replay calls).2.replay later).1,
        ((l.replay calls).2.replay later).2) := by
  induction calls generalizing l with
  | nil => rfl
  | cons c calls ih => simp [replay, ih]

/-- The answer to a call is the one of the lexer that the calls before it leave behind. -/
theorem replay_getElem? (l : Lexer) (calls : List Call) (i : Nat) :
    (l.replay calls).1[i]? =
      calls[i]?.map fun c ↦ ((l.replay (calls.take i)).2.call c).1 := by
  induction calls generalizing l i with
  | nil => rfl
  | cons c calls ih =>
    match i with
    | 0 => rfl
    | i + 1 => exact ih (l.call c).2 i

/-- A lexer after one call more. -/
theorem replay_take_succ (l : Lexer) {calls : List Call} {i : Nat} {c : Call}
    (h : calls[i]? = some c) :
    (l.replay (calls.take (i + 1))).2 = ((l.replay (calls.take i)).2.call c).2 := by
  rw [List.take_add_one, h, replay_append]
  rfl

/-- What is ahead after any calls is a token, the end mark or an error. -/
theorem outcome_read_after_ne_misplaced (source : String) (calls : List Call) :
    (after source calls).cursor.read.outcome ≠ .misplaced := by
  obtain ⟨before, text, hplace⟩ := exists_isBetween_after source calls
  obtain ⟨rest, hspans⟩ := hplace.exists_spans_read
  exact hspans.isSafe.ne_misplaced

/-- **Only `next` ends the readings.** A lexer is finished if a call has ended the readings. -/
theorem finished_after_take_iff {source : String} {calls : List Call} {n : Nat} :
    (after source (calls.take n)).finished = true ↔
      ∃ i < n, ∃ c answer, calls[i]? = some c ∧ (answers source calls)[i]? = some answer ∧
        IsEnd c answer := by
  induction n with
  | zero => simp [after, replay, ofString]
  | succ n ih =>
    match hc : calls[n]? with
    | none =>
      -- the calls have come to an end before
      have htake : calls.take (n + 1) = calls.take n := by simp [List.take_add_one, hc]
      rw [htake, ih]
      constructor
      · rintro ⟨i, hi, hend⟩
        exact ⟨i, by omega, hend⟩
      · rintro ⟨i, hi, c, answer, hi', hend⟩
        have hne : i ≠ n := by
          rintro rfl
          exact absurd (hi'.symm.trans hc) (by simp)
        exact ⟨i, by omega, c, answer, hi', hend⟩
    | some c =>
      have hanswer : (answers source calls)[n]? =
          some ((after source (calls.take n)).call c).1 := by
        rw [answers, replay_getElem?, hc]
        rfl
      rw [after, replay_take_succ _ hc, ← after,
        finished_call_iff (outcome_read_after_ne_misplaced source _), ih]
      constructor
      · rintro (⟨i, hi, hend⟩ | hend)
        · exact ⟨i, by omega, hend⟩
        · exact ⟨n, by omega, c, _, hc, hanswer, hend⟩
      · rintro ⟨i, hi, c', answer, hi', hanswer', hend⟩
        obtain hlt | rfl := Nat.lt_succ_iff_lt_or_eq.1 hi
        · exact .inl ⟨i, hlt, c', answer, hi', hanswer', hend⟩
        · obtain rfl := Option.some.inj (hi'.symm.trans hc)
          obtain rfl := Option.some.inj (hanswer'.symm.trans hanswer)
          exact .inr hend

/-- **Answers of both ways.** The answers that give something are those that `nextToken` alone gives
from the same place. -/
theorem replay_nextToken {l l' : Lexer} (h : l'.cursor = l.cursor) (calls : List Call) :
    (l'.replay (List.replicate (l.replay calls).1.reduceOption.length .nextToken)).1 =
      (l.replay calls).1.reduceOption.map some := by
  induction calls generalizing l l' with
  | nil => rfl
  | cons c calls ih =>
    obtain ⟨-, -, hcall⟩ | ⟨-, hanswer, hcursor⟩ := l.call_cases c
    · simp only [replay, hcall, List.reduceOption_cons_of_none]
      exact ih h
    · have hnext : (l'.call .nextToken).2.cursor = (l.call c).2.cursor := by
        rw [hcursor, ← h]
        rfl
      simp only [replay, hanswer, List.reduceOption_cons_of_some, List.length_cons,
        List.replicate_succ, List.map_cons, ← ih hnext]
      rw [← h]
      rfl

/-! ### Only `next` -/

theorem replay_next_of_finished {l : Lexer} (h : l.finished = true) (n : Nat) :
    (l.replay (List.replicate n .next)).1 = List.replicate n none := by
  induction n with
  | zero => rfl
  | succ n ih =>
    have hcall : l.call .next = (none, l) := if_pos h
    simp only [List.replicate_succ, replay, hcall, ih]

/-- **Asked alone**, `next` gives the outcomes of all readings, and nothing after them. -/
theorem replay_next (c : Cursor) (n : Nat) :
    ((Lexer.mk c false).replay (List.replicate n .next)).1 =
      ((c.readings.map Reading.outcome).take n).map some ++
        List.replicate (n - c.readings.length) none := by
  induction c using Cursor.induction_on_readings generalizing n with
  | step c ih =>
    match n with
    | 0 => simp [replay]
    | n + 1 =>
      have hcall : (Lexer.mk c false).call .next =
          (some c.read.outcome, ⟨c.read.after, c.read.segment.isLast⟩) := rfl
      rw [List.replicate_succ, replay, hcall]
      rcases hlast : c.read.segment.isLast with - | -
      · simp only [ih hlast n, Cursor.readings_of_isLast_eq_false hlast, List.map_cons,
          List.take_succ_cons, List.length_cons, Nat.add_sub_add_right, List.cons_append]
      · simp [replay_next_of_finished, Cursor.readings_of_isLast hlast]

/-! ### All calls -/

/-- **Any interleaving.** Of the answers to any calls on a source, those that give something are the
first ones that `nextToken` alone gives; those that give nothing are the ones to the calls of `next`
that come after a call of `next` has given the end mark or an error, and have no effect. And `next`
alone gives the tokens of the source, or the tokens before its error and the error, and then
nothing. -/
theorem answers_interleaved (source : String) (calls : List Call) :
    answers source (List.replicate (answers source calls).reduceOption.length .nextToken) =
        (answers source calls).reduceOption.map some ∧
      (∀ i : Nat, (answers source calls)[i]? = some none ↔
        calls[i]? = some .next ∧ ∃ j < i, ∃ c answer, calls[j]? = some c ∧
          (answers source calls)[j]? = some answer ∧ IsEnd c answer) ∧
      (∀ i : Nat, (answers source calls)[i]? = some none →
        after source (calls.take (i + 1)) = after source (calls.take i)) ∧
      ∃ outcomes : List (Outcome Token),
        (∀ n, answers source (List.replicate n .next) =
          (outcomes.take n).map some ++ List.replicate (n - outcomes.length) none) ∧
        ((∃ tokens, tokenize source = .accepted tokens ∧ outcomes = tokens.map .accepted) ∨
          ∃ e, tokenize source = .failed e ∧
            outcomes = (tokensSeen source).map .accepted ++ [.failed e]) := by
  have hanswer (i : Nat) : (answers source calls)[i]? = some none ↔
      ∃ c, calls[i]? = some c ∧ ((after source (calls.take i)).call c).1 = none := by
    rw [answers, replay_getElem?, Option.map_eq_some_iff]
    rfl
  refine ⟨replay_nextToken rfl calls, fun i ↦ ?_, fun i hi ↦ ?_, _, ?_,
    map_outcome_readings_cases source⟩
  · rw [hanswer, ← finished_after_take_iff]
    simp only [call_eq_none_iff]
    exact ⟨fun ⟨_, hc, hnext, h⟩ ↦ ⟨hnext ▸ hc, h⟩, fun ⟨hc, h⟩ ↦ ⟨_, hc, rfl, h⟩⟩
  · obtain ⟨c, hc, hnone⟩ := (hanswer i).1 hi
    rw [after, replay_take_succ _ hc]
    exact call_of_eq_none hnone
  · intro n
    rw [List.length_map]
    exact replay_next (Cursor.ofString source) n

/-- The error of a number with a leading zero comes from `nextToken` and lets `next` go on; its own
end mark does not. -/
theorem answers_interleaved_leadingZero :
    answers "01" [.nextToken, .next, .next, .next, .nextToken] =
        [some (.failed ⟨.leadingZero, ⟨1, 1⟩⟩), some (.accepted ⟨.number, "1", ⟨1, 2⟩⟩),
          some (.accepted ⟨.endOfInput, "", ⟨1, 3⟩⟩), none,
          some (.accepted ⟨.endOfInput, "", ⟨1, 3⟩⟩)] ∧
      after "01" [.nextToken, .next, .next, .next] = after "01" [.nextToken, .next, .next] :=
  ⟨by decide +kernel,
    (answers_interleaved "01" [.nextToken, .next, .next, .next, .nextToken]).2.2.1 3
      (by decide +kernel)⟩

end Lexer

end ScriptLexer
