import ScriptLexer.Proofs.Lines
import ScriptLexer.Proofs.Noninterference
import ScriptLexer.Proofs.Rendering

/-!
# Where the caret stands

The two lines of an excerpt are put together apart from each other: above, the number of a source
line and what is displayed of it; below, blanks for the number, blanks for the column, and the
caret. They fit because the number and its blanks are of one width (`Excerpt.lineText_getElem?`,
`Excerpt.exists_caret`), so the caret has above it the character of the line in its column, if that
character is displayed and nothing before it has been moved. For the first character of a faulty
token that is so, whatever else is on the line (`SourceLine.display_find_of_isGap_eq_false`).

That there are two lines and no more takes some care, too: a part of the remark may be a character
of the source (`Grammar.IsFault.newline_notMem_message`).
-/

namespace ScriptLexer

open Grammar

variable {source : String} {taken rest : List Char} {cause : Cause}

/-! ### Newlines -/

theorem SourceLine.newline_notMem_display {l : SourceLine} (h : '\n' ∉ l.text) :
    '\n' ∉ l.display.toList := by
  intro hmem
  have hdisplay : l.display.toList =
      (l.text.rdropWhile (· = '\r')).map fun d ↦ if d = '\t' then ' ' else d :=
    String.toList_ofList
  rw [hdisplay] at hmem
  obtain ⟨d, hd, hnewline⟩ := List.mem_map.1 hmem
  split at hnewline
  · cases hnewline
  · exact h (hnewline ▸ (List.rdropWhile_prefix _ _).subset hd)

theorem SourceLine.newline_notMem_find (source : String) (n : Nat) :
    '\n' ∉ (find source n).text := by
  intro hmem
  simpa using List.mem_takeWhile_imp hmem

/-- The remark on a fault is on one line. It may quote a character, but only one of a word. -/
theorem Grammar.IsFault.newline_notMem_message (h : IsFault cause taken rest) :
    '\n' ∉ cause.message.toList := by
  cases h with
  | leadingZero | fraction | exponent | unclosed | escape | comment => decide +kernel
  | @trailing _ _ _ _ c _ _ _ _ _ hc =>
    have hnewline : c ≠ '\n' := by
      rintro rfl
      exact absurd hc (by decide)
    show '\n' ∉ ("Invalid character '" ++ String.singleton c ++ "' directly after a number").toList
    simp [hnewline.symm]

namespace Excerpt

/-! ### The two lines -/

theorem toList_render (x : Excerpt) :
    x.render.toList = x.lineText.toList ++ '\n' :: (x.caretText.toList ++ ['\n']) := by
  simp [render]

theorem toList_lineText (x : Excerpt) : x.lineText.toList =
    Nat.toDigits 10 x.line.number ++ '|' :: ' ' :: x.line.display.toList := by
  simp [lineText]

theorem toList_caretText (x : Excerpt) : x.caretText.toList =
    List.replicate (Nat.toDigits 10 x.line.number).length ' ' ++ '|' :: ' ' ::
      (List.replicate (x.column - 1) ' ' ++
        '^' :: '-' :: '-' :: '-' :: ' ' :: x.remark.toList) := by
  simp [caretText, blank, Nat.repr]

/-- Behind the number and its bar, the upper line is what is displayed. -/
theorem lineText_getElem? (x : Excerpt) (i : Nat) :
    x.lineText.toList[(Nat.toDigits 10 x.line.number).length + 2 + i]? =
      x.line.display.toList[i]? := by
  rw [toList_lineText, Nat.add_assoc, List.getElem?_append_right (Nat.le_add_right _ _),
    Nat.add_sub_cancel_left, Nat.add_comm 2 i]
  rfl

/-- **The caret** stands as far behind the bar as the column says, and no other stands before it. -/
theorem exists_caret (x : Excerpt) : ∃ lead back, x.caretText.toList = lead ++ '^' :: back ∧
    '^' ∉ lead ∧ lead.length = (Nat.toDigits 10 x.line.number).length + 2 + (x.column - 1) := by
  refine ⟨List.replicate (Nat.toDigits 10 x.line.number).length ' ' ++ '|' :: ' ' ::
    List.replicate (x.column - 1) ' ', '-' :: '-' :: '-' :: ' ' :: x.remark.toList, ?_, ?_, ?_⟩
  · rw [toList_caretText]
    simp
  · simp [List.mem_replicate]
  · simp only [List.length_append, List.length_replicate, List.length_cons]
    omega

theorem newline_notMem_lineText {x : Excerpt} (h : '\n' ∉ x.line.text) :
    '\n' ∉ x.lineText.toList := by
  rw [toList_lineText]
  simp [not_mem_toDigits, SourceLine.newline_notMem_display h]

theorem newline_notMem_caretText {x : Excerpt} (h : '\n' ∉ x.remark.toList) :
    '\n' ∉ x.caretText.toList := by
  rw [toList_caretText]
  simp [List.mem_replicate, h]

/-! ### Errors -/

/-- **The caret points at the fault.** For an error one excerpt is written, in two lines. The upper
one is the displayed line behind its number, and above the first caret of the lower one stands the
first character of the faulty token. -/
theorem render_points_at_fault {e : LexError} (h : tokenize source = .failed e) :
    (∀ o, (Program.report o source).excerpts = [ofError source e]) ∧
    ∃ upper lower, (ofError source e).render.toList = upper ++ '\n' :: (lower ++ ['\n']) ∧
      '\n' ∉ upper ∧ '\n' ∉ lower ∧
      upper = (toString e.position.line ++ "| " ++
        (SourceLine.find source e.position.line).display).toList ∧
      ∃ before first taken rest lead back,
        source.toList = before ++ (first :: taken ++ rest) ∧
        e.position = Position.start.advanceOver before ∧
        IsFault e.cause (first :: taken) rest ∧
        (first.isDigit = true ∨ isSign first = true ∨ IsQuote first ∨ first = '/') ∧
        lower = lead ++ '^' :: back ∧ '^' ∉ lead ∧ upper[lead.length]? = some first := by
  obtain ⟨ws, gap, taken, rest, hsource, -, -, hfault, hposition⟩ :=
    WrittenToken.tokenize_eq_failed_iff.1 h
  obtain ⟨first, tail, rfl, hfirst⟩ := exists_first_of_isFault hfault
  have hplace : source.toList = WrittenToken.charsOf ws ++ gap ++ (first :: (tail ++ rest)) := by
    rw [hsource, List.append_assoc, List.cons_append]
  have hshown : (SourceLine.find source e.position.line).display.toList[
      e.position.column - 1]? = some first := by
    rw [hposition]
    exact SourceLine.display_find_of_isGap_eq_false hplace
      (isGap_head?_of_isFault hfault first rfl)
  obtain ⟨lead, back, hlower, hlead, hlength⟩ := exists_caret (ofError source e)
  refine ⟨fun o ↦ by rw [Program.excerpts_report, h], _, _, toList_render _,
    newline_notMem_lineText (SourceLine.newline_notMem_find _ _),
    newline_notMem_caretText hfault.newline_notMem_message, rfl,
    WrittenToken.charsOf ws ++ gap, first, tail, rest, lead, back, hplace, hposition, hfault,
    hfirst, hlower, hlead, ?_⟩
  -- the number and its blanks are of one width
  rw [hlength, lineText_getElem?]
  exact hshown

/-- On the tenth line, a letter of two bytes, a tab and a carriage return stand before a string
that is not closed. -/
theorem render_points_at_fault_tab :
    tokenize "\n\n\n\n\n\n\n\n\né\t\r'x\r\r\n" = .failed ⟨.unterminatedString, ⟨10, 4⟩⟩ ∧
    ∃ x : Excerpt, x = ofError "\n\n\n\n\n\n\n\n\né\t\r'x\r\r\n" ⟨.unterminatedString, ⟨10, 4⟩⟩ ∧
      x.render = "10| é \r'x\n  |    ^--- Unterminated string literal\n" ∧
      ∃ upper lower lead back, x.render.toList = upper ++ '\n' :: (lower ++ ['\n']) ∧
        '\n' ∉ upper ∧ '\n' ∉ lower ∧ upper = (toString 10 ++ "| " ++ x.line.display).toList ∧
        lower = lead ++ '^' :: back ∧ '^' ∉ lead ∧ upper[lead.length]? = some '\'' := by
  have hfailed : tokenize "\n\n\n\n\n\n\n\n\né\t\r'x\r\r\n" =
      .failed ⟨.unterminatedString, ⟨10, 4⟩⟩ := by
    decide +kernel
  obtain ⟨-, upper, lower, hrender, hupper, hlower, hline, before, first, _, _, lead, back, hsource,
    hposition, -, -, hcaret, hlead, hpoint⟩ := render_points_at_fault hfailed
  have hplace : before ++ first :: _ = "\n\n\n\n\n\n\n\n\né\t\r".toList ++ "'x\r\r\n".toList :=
    hsource.symm
  obtain rfl := Position.eq_of_advanceOver_eq hplace hposition.symm
  obtain ⟨rfl, -⟩ := List.cons.inj (List.append_cancel_left hplace)
  exact ⟨hfailed, _, rfl, by decide +kernel, upper, lower, lead, back, hrender, hupper, hlower,
    hline, hcaret, hlead, hpoint⟩

end Excerpt

end ScriptLexer
