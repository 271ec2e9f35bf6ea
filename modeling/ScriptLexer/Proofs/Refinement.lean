import ScriptLexer.Machine
import ScriptLexer.Proofs.Recognition.NumberMachine
import ScriptLexer.Proofs.Recognition.OperatorMachine
import ScriptLexer.Proofs.Replay

/-!
# Machines and recognizers

At every place in a source a machine gives the outcome that the recognizer of its class tells, and
moves the cursor as far (`TokenClass.run_eq`). So whatever is known of recognizers is known of
machines; and the marks always mark a slice, which recognizers know nothing of.

For a machine that keeps its marks this is one argument, from its trace
(`Machine.IsVerbatim.run_eq`). String literals and comments are followed through their delimiters.

The lexer is said in terms of recognizers. What it reads is read by machines all the same
(`Reading.Spans.run_eq`).
-/

namespace ScriptLexer

variable {σ : Type} {m : Machine σ} {c : Cursor} {source : String}
  {before text skip piece rest : List Char} {start : Position} {cls : TokenClass}

namespace Machine

/-- What stands ahead is cut out between the offsets of its ends. -/
theorem cut_eq (h : c.IsBetween source before (skip ++ (piece ++ rest))) :
    m.cut start ⟨c.offset + utf8Length skip, c.offset + utf8Length skip + utf8Length piece⟩ c =
      some (.accepted ⟨m.kind (String.ofList piece), String.ofList piece, start⟩) := by
  rw [cut, Nat.add_assoc, ← utf8Length_append, h.slice?_eq]
  rfl

/-- **A machine that keeps its marks** gives what its scan tells. -/
theorem IsVerbatim.run_eq (hm : m.IsVerbatim) (h : c.IsBetween source before text) :
    m.run c = (some (c.recognize m.scan).1, (c.recognize m.scan).2) := by
  rw [run, hm.runFrom_eq, Cursor.recognize, h.rest_eq]
  rcases htrace : m.trace m.initial text with ⟨taken, ending⟩
  rw [scan_eq htrace]
  cases ending with
  | accept =>
    obtain ⟨rest, htext⟩ := m.trace_isPrefix m.initial text
    rw [htrace] at htext
    have hahead : c.IsBetween source before ([] ++ (taken ++ rest)) := htext ▸ h
    exact congrArg (·, c.advance taken) (cut_eq hahead)
  | reject cause | misplaced => rfl

theorem stringLiteral_run_eq (h : c.IsBetween source before text) :
    stringLiteral.run c =
      (some (c.recognize Scan.stringLiteral).1, (c.recognize Scan.stringLiteral).2) := by
  rw [Cursor.recognize, h.rest_eq]
  cases text with
  | nil => exact runFrom_nil rfl h.rest_eq
  | cons quote tail =>
    rw [stringLiteral_run h.rest_eq, Scan.stringLiteral]
    by_cases hclosed : (Scan.stringBody quote tail).closed = true
    · obtain ⟨rest, htail⟩ := Scan.stringBody_content_quote_isPrefix hclosed
      rw [List.append_assoc] at htail
      have hahead : c.IsBetween source before
          ([quote] ++ ((Scan.stringBody quote tail).content ++ ([quote] ++ rest))) :=
        htail.symm ▸ h
      rw [if_pos hclosed, if_pos hclosed]
      exact congrArg (·, _) (cut_eq hahead)
    · rw [if_neg hclosed, if_neg hclosed]
      rfl

theorem comment_run_eq (h : c.IsBetween source before text) :
    comment.run c = (some (c.recognize Scan.comment).1, (c.recognize Scan.comment).2) := by
  rw [Cursor.recognize, h.rest_eq]
  fun_cases Scan.comment text with
  | case1 tail content =>
    have hahead : c.IsBetween source before
        (['/', '/'] ++ (content ++ tail.dropWhile (· ≠ '\n'))) := by
      rwa [List.takeWhile_append_dropWhile]
    rw [comment_run_line h.rest_eq]
    exact congrArg (·, _) (cut_eq hahead)
  | case2 tail content hcontent =>
    obtain ⟨rest, htail⟩ := Scan.beforeTerminator?_isPrefix hcontent
    rw [List.append_assoc] at htail
    have hahead : c.IsBetween source before
        (['/', '*'] ++ (content ++ (['*', '/'] ++ rest))) := htail.symm ▸ h
    rw [comment_run_block h.rest_eq, hcontent]
    exact congrArg (·, _) (cut_eq hahead)
  | case3 tail hnone =>
    rw [comment_run_block h.rest_eq, hnone, h.rest_eq]
    rfl
  | case4 tail hline hblock =>
    have hline : tail.head? ≠ some '/' := by
      intro hhead
      obtain ⟨rest, rfl⟩ := List.head?_eq_some_iff.1 hhead
      exact hline rest rfl
    have hblock : tail.head? ≠ some '*' := by
      intro hhead
      obtain ⟨rest, rfl⟩ := List.head?_eq_some_iff.1 hhead
      exact hblock rest rfl
    exact comment_run_slash h.rest_eq hline hblock
  | case5 _ _ _ hslash =>
    have hslash : c.rest.head? ≠ some '/' := by
      intro hhead
      obtain ⟨rest, hrest⟩ := List.head?_eq_some_iff.1 hhead
      exact hslash rest (h.rest_eq.symm.trans hrest)
    exact comment_run_misplaced hslash

end Machine

namespace Cursor

theorem readMark_eq (h : c.IsBetween source before text) :
    c.readMark = (some (c.recognize Scan.punctuation).1, (c.recognize Scan.punctuation).2) := by
  have hahead : c.IsBetween source before (text.take 1 ++ text.drop 1) := by
    rwa [List.take_append_drop]
  have hnext : c.next.2 = c.advance (text.take 1) := by rw [next, h.rest_eq]
  rw [readMark, hnext, hahead.sliceFrom?_advance, recognize, h.rest_eq]
  rfl

end Cursor

namespace TokenClass

/-- **Machines do what recognizers tell**, at every place in a source. -/
theorem run_eq (cls : TokenClass) (h : c.IsBetween source before text) :
    cls.run c = (some (c.recognize cls.recognizer).1, (c.recognize cls.recognizer).2) := by
  cases cls with
  | number => rw [recognizer, ← Machine.number_scan]; exact Machine.number_isVerbatim.run_eq h
  | word => rw [recognizer, ← Machine.word_scan]; exact Machine.word_isVerbatim.run_eq h
  | string => exact Machine.stringLiteral_run_eq h
  | comment => exact Machine.comment_run_eq h
  | operator => rw [recognizer, ← Machine.operator_scan]; exact Machine.operator_isVerbatim.run_eq h
  | punctuation => exact c.readMark_eq h

theorem run_eq_some_iff (h : c.IsBetween source before text) {outcome : Outcome Token}
    {c' : Cursor} :
    cls.run c = (some outcome, c') ↔ c.recognize cls.recognizer = (outcome, c') := by
  rw [run_eq cls h, Prod.mk.injEq, Option.some.injEq, Prod.ext_iff]

end TokenClass

/-- **The lexer runs machines.** The outcome of a reading is that of the machine whose class the two
characters behind the gap choose, started there, and the reading ends where the machine stops. -/
theorem Reading.Spans.run_eq {r : Reading} (h : r.Spans source before rest) {first : Char}
    (hfirst : r.tokenCursor.peek? = some first)
    (hcls : TokenClass.classify first r.tokenCursor.peekSecond? = some cls) :
    cls.run r.tokenCursor = (some r.outcome, r.after) := by
  have hscan : cls.recognizer r.tokenCursor.rest = r.segment.scan := by
    obtain ⟨tail, htail⟩ := List.head?_eq_some_iff.1 hfirst
    have hsecond : r.tokenCursor.peekSecond? = tail.head? := by
      rw [Cursor.peekSecond?, htail]
      cases tail <;> rfl
    rw [hsecond] at hcls
    rw [h.scan_eq, ← h.tokenCursor.rest_eq, htail, scanToken, hcls]
  rw [TokenClass.run_eq cls h.tokenCursor, Cursor.recognize, hscan]
  rfl

end ScriptLexer
