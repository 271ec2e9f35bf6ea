import ScriptLexer.Machine.Basic
import ScriptLexer.Scan.Word

/-!
# The machine for words

It has two states, in front of the first character and behind it. Only the first character can be
out of place.
-/

namespace ScriptLexer.Machine

/-- How far a word has been read. -/
inductive WordState where
  /-- It is about to begin. -/
  | start
  /-- It may go on. -/
  | body
deriving DecidableEq, Repr

/-- The machine for keywords and identifiers. -/
def word : Machine WordState where
  initial := .start
  isComplete _ := false
  move
    | .start, c => if isIdentStart c then .take .body else .stop .misplaced
    | .body, c => if isIdentContinue c then .take .body else .stop .accept
  atEnd
    | .start => .misplaced
    | .body => .accept
  kind lexeme := if isKeyword lexeme then .keyword else .identifier

theorem word_isVerbatim : word.IsVerbatim where
  isComplete_eq _ := rfl
  keepsMarks_move state c := by
    cases state <;> simp [word]

theorem word_trace_body (text : List Char) :
    word.trace .body text = (text.takeWhile isIdentContinue, .accept) := by
  induction text with
  | nil => rfl
  | cons c rest ih =>
    by_cases hc : isIdentContinue c = true
    · rw [trace_of_take (if_pos hc), ih, List.takeWhile_cons_of_pos hc]
    · rw [trace_of_stop (if_neg hc), List.takeWhile_cons_of_neg hc]

/-- **The machine finds what the recognizer finds.** -/
theorem word_scan : word.scan = Scan.word := by
  funext text
  match text with
  | [] => rfl
  | c :: rest =>
    by_cases hc : isIdentStart c = true
    · have htrace : word.trace word.initial (c :: rest) =
          (c :: rest.takeWhile isIdentContinue, .accept) := by
        rw [trace_of_take (if_pos hc), word_trace_body]
      rw [scan_eq htrace, Scan.word, if_pos hc]
      rfl
    · rw [scan_eq (trace_of_stop (if_neg hc)), Scan.word, if_neg hc]
      rfl

end ScriptLexer.Machine
