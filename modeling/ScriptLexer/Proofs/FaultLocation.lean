import ScriptLexer.Proofs.TokenList

/-!
# Where sources fail

Every error is justified by what stands at its position. Up to there the source is without fault:
by itself it is accepted, with the tokens that were seen before the error. From there on it has a
faulty token of the sort that the error names (`Grammar.IsFault`).

That the text before the error is accepted is not a matter of course, since it has lost what came
after it. It holds because the end of a text ends every token (`Grammar.endsBefore_none`), so that
cutting a run off never hurts it (`WrittenToken.IsRun.left_of_append`).
-/

namespace ScriptLexer

open Grammar

variable {source : String} {taken rest : List Char} {cause : Cause}

/-- The faults of the grammar are all that is wrong with tokens; that an operator is not known is
none of them. -/
theorem ne_unknownOperator_of_isFault (h : IsFault cause taken rest) :
    cause ≠ .unknownOperator := by
  cases h <;> simp

/-- **Every failure is justified and located.** The text before the position of the error is
accepted with the tokens that were seen, and a faulty token of the cause of the error stands behind
it. No error complains of an unknown operator. -/
theorem tokenize_failed {e : LexError} (h : tokenize source = .failed e) :
    ∃ before taken rest, source.toList = before ++ (taken ++ rest) ∧
      e.position = Position.start.advanceOver before ∧
      tokenize (String.ofList before) =
        .accepted (tokensSeen source ++ [⟨.endOfInput, "", e.position⟩]) ∧
      IsFault e.cause taken rest ∧ e.cause ≠ .unknownOperator := by
  obtain ⟨_, _, -, -, -, haccepted, -⟩ |
      ⟨ws, gap, taken, rest, cause, htext, hrun, hgap, hfault, hfailed, hseen⟩ :=
    WrittenToken.tokenize_cases source
  · exact absurd (h.symm.trans haccepted) (by simp)
  · obtain rfl := Outcome.failed.inj (h.symm.trans hfailed)
    have hbefore : (String.ofList (WrittenToken.charsOf ws ++ gap)).toList =
        WrittenToken.charsOf ws ++ gap := String.toList_ofList
    refine ⟨WrittenToken.charsOf ws ++ gap, taken, rest, by rw [htext, List.append_assoc], rfl, ?_,
      hfault, ne_unknownOperator_of_isFault hfault⟩
    -- the run goes on to the gap only, so it has to be cut off there
    rw [(WrittenToken.tokenize_of_isRun hbefore hrun.left_of_append hgap).1, hseen, endMark,
      hbefore]

/-- A number that breaks off at its point, on the second line. -/
theorem tokenize_failed_fraction :
    tokenize "if/*\n*/ -1.e" = .failed ⟨.malformedNumber, ⟨2, 4⟩⟩ ∧
      ∃ before taken rest, "if/*\n*/ -1.e".toList = before ++ (taken ++ rest) ∧
        ⟨2, 4⟩ = Position.start.advanceOver before ∧
        tokenize (String.ofList before) = .accepted
          [⟨.keyword, "if", ⟨1, 1⟩⟩, ⟨.comment, "\n", ⟨1, 3⟩⟩, ⟨.endOfInput, "", ⟨2, 4⟩⟩] ∧
        IsFault .malformedNumber taken rest := by
  have hfailed : tokenize "if/*\n*/ -1.e" = .failed ⟨.malformedNumber, ⟨2, 4⟩⟩ := by
    decide +kernel
  have hseen : tokensSeen "if/*\n*/ -1.e" =
      [⟨.keyword, "if", ⟨1, 1⟩⟩, ⟨.comment, "\n", ⟨1, 3⟩⟩] := by
    decide +kernel
  obtain ⟨before, taken, rest, htext, hposition, haccepted, hfault, -⟩ := tokenize_failed hfailed
  rw [hseen] at haccepted
  exact ⟨hfailed, before, taken, rest, htext, hposition, haccepted, hfault⟩

end ScriptLexer
