import Mathlib.Data.List.DropRight
import ScriptLexer.SourceLine
import ScriptLexer.Proofs.Readings
import ScriptLexer.Proofs.Relocation
import ScriptLexer.Proofs.Replay

/-!
# Lines and positions

Lines and columns are counted in two ways. A position is counted up one character after the other
(`Position.advanceOver`). A source line is looked up by its number in the whole text, cut off at the
next newline, and trimmed and widened for display (`SourceLine.find`, `SourceLine.display`). The two
agree, whatever the text:

* `SourceLine.find_text`: the line of a position is what stands on that line before the position,
  which is as long as the column says, and what stands on it from there on.
* `SourceLine.display_getElem?`: nothing is moved for display; only the carriage returns at the end
  of a line are not shown.
* `SourceLine.find_agrees_with_advanceOver`: so every character has its place in the line of its
  position, every place of a line is that of one character, and a token or an error can be pointed
  at by its position.

The part of a text that is on its last line (`lastLine`) is what both counts have in common: its
length is the column of the end of the text, and it is what `dropLines` leaves of the text in front
of what follows.
-/

namespace ScriptLexer

open Grammar

/-- A condition on all characters of a text is decided along the text. -/
local instance decidableForallMem (text : List Char) (p : Char → Prop) [DecidablePred p] :
    Decidable (∀ c ∈ text, p c) :=
  List.decidableBAll p text

variable {source : String} {text before after rest front back : List Char} {c : Char} {n i : Nat}

/-- A place in a list splits it. -/
theorem exists_append_of_getElem? (h : text[i]? = some c) :
    ∃ front back, text = front ++ c :: back ∧ front.length = i := by
  obtain ⟨hi, rfl⟩ := List.getElem?_eq_some_iff.1 h
  exact ⟨text.take i, text.drop (i + 1), by simp, List.length_take_of_le (Nat.le_of_lt hi)⟩

/-! ### The last line of a text -/

/-- What stands behind the last newline of a text. -/
def lastLine (text : List Char) : List Char :=
  text.rtakeWhile (· ≠ '\n')

@[simp] theorem lastLine_nil : lastLine [] = [] :=
  List.rtakeWhile_nil _

theorem lastLine_concat_newline (text : List Char) : lastLine (text ++ ['\n']) = [] :=
  List.rtakeWhile_concat_neg _ _ _ (by simp)

theorem lastLine_concat (text : List Char) (hc : c ≠ '\n') :
    lastLine (text ++ [c]) = lastLine text ++ [c] :=
  List.rtakeWhile_concat_pos _ _ _ (by simpa using hc)

theorem ne_newline_of_mem_lastLine : ∀ d ∈ lastLine text, d ≠ '\n' := by
  intro d hd
  simpa using List.mem_rtakeWhile_imp hd

/-- The column of the end of a text counts its last line. -/
theorem column_advanceOver_eq (text : List Char) :
    (Position.start.advanceOver text).column = 1 + (lastLine text).length := by
  rw [Position.column_advanceOver_start, lastLine, List.rtakeWhile, List.length_reverse]

/-- The line of the end of a text counts its newlines. -/
theorem line_advanceOver_eq (text : List Char) :
    (Position.start.advanceOver text).line = 1 + text.count '\n' :=
  Position.line_advanceOver Position.start text

/-- The column of the end of a text counts its last line, and what stood before the text on that
line only if the text has no newline. -/
theorem column_advanceOver (p : Position) (text : List Char) :
    (p.advanceOver text).column =
      if '\n' ∈ text then 1 + (lastLine text).length else p.column + text.length := by
  induction text using List.reverseRecOn with
  | nil => simp
  | append_singleton text c ih =>
    rw [Position.advanceOver_append, Position.advanceOver_cons, Position.advanceOver_nil,
      Position.advance]
    by_cases hc : c = '\n'
    · subst hc
      simp [lastLine_concat_newline]
    · have hmem : '\n' ∈ text ++ [c] ↔ '\n' ∈ text := by simp [eq_comm, hc]
      simp only [hc, if_false, ih, hmem, lastLine_concat text hc, List.length_append,
        List.length_singleton]
      split <;> omega

/-- **The position behind a text that begins anywhere.** -/
theorem advanceOver_eq (p : Position) (text : List Char) : p.advanceOver text =
    ⟨p.line + text.count '\n',
      if '\n' ∈ text then 1 + (lastLine text).length else p.column + text.length⟩ :=
  congr (congrArg Position.mk (Position.line_advanceOver p text)) (column_advanceOver p text)

/-- Within a line only the column grows. -/
theorem advanceOver_line (p : Position) (h : ∀ d ∈ text, d ≠ '\n') :
    p.advanceOver text = ⟨p.line, p.column + text.length⟩ := by
  have hmem : '\n' ∉ text := fun hnewline ↦ h _ hnewline rfl
  rw [advanceOver_eq, if_neg hmem, List.count_eq_zero.2 hmem, Nat.add_zero]

/-! ### Dropping lines -/

theorem dropLines_newline (before rest : List Char) :
    dropLines (before.count '\n' + 1) (before ++ '\n' :: rest) = rest := by
  induction before with
  | nil => simp [dropLines]
  | cons c before ih =>
    by_cases hc : c = '\n'
    · subst hc
      rw [List.count_cons_self, List.cons_append, dropLines, if_pos rfl]
      exact ih
    · rw [List.count_cons_of_ne hc, List.cons_append, dropLines, if_neg hc]
      exact ih

/-- **Dropping the lines before a place** leaves what stands before it on its own line, and
everything after it. -/
theorem dropLines_append (before after : List Char) :
    dropLines (before.count '\n') (before ++ after) = lastLine before ++ after := by
  -- the last line depends on the end of `before`, from which the induction therefore begins
  induction before using List.reverseRecOn generalizing after with
  | nil => simp [dropLines]
  | append_singleton before c ih =>
    rw [List.append_assoc, List.singleton_append]
    by_cases hc : c = '\n'
    · subst hc
      rw [List.count_append, List.count_singleton_self, dropLines_newline,
        lastLine_concat_newline, List.nil_append]
    · have hcount : (before ++ [c]).count '\n' = before.count '\n' := by
        rw [List.count_append, List.count_singleton, if_neg (by simpa using hc), Nat.add_zero]
      rw [hcount, ih (c :: after), lastLine_concat before hc, List.append_assoc,
        List.singleton_append]

/-- Nothing is left when a text has fewer lines than are dropped. -/
theorem dropLines_eq_nil (h : text.count '\n' < n) : dropLines n text = [] := by
  fun_induction dropLines n text with
  | case1 text => exact absurd h (Nat.not_lt_zero _)
  | case2 n => rfl
  | case3 n rest ih =>
    rw [List.count_cons_self] at h
    exact ih (by omega)
  | case4 n c rest hc ih =>
    rw [List.count_cons_of_ne hc] at h
    exact ih h

/-- Every line has a beginning. -/
theorem exists_line_start (h : n ≤ text.count '\n') :
    ∃ before after, text = before ++ after ∧ Position.start.advanceOver before = ⟨n + 1, 1⟩ := by
  induction n with
  | zero => exact ⟨[], text, rfl, rfl⟩
  | succ n ih =>
    obtain ⟨before, after, rfl, hposition⟩ := ih (by omega)
    have hcount : before.count '\n' = n := by
      have hline := line_advanceOver_eq before
      rw [hposition] at hline
      simp only at hline
      omega
    have hmem : '\n' ∈ after := by
      rw [List.count_append, hcount] at h
      exact List.count_pos_iff.1 (by omega)
    obtain ⟨line, rest, rfl, hline⟩ := List.eq_append_cons_of_mem hmem
    refine ⟨before ++ line ++ ['\n'], rest, by simp, ?_⟩
    rw [Position.advanceOver_append, Position.advanceOver_append, hposition,
      advanceOver_line _ fun d hd ↦ ne_of_mem_of_not_mem hd hline]
    rfl

namespace SourceLine

/-! ### Lines as they are found -/

/-- **The line of a position** is what stands on it before the position and what stands on it from
there on. -/
theorem find_text (h : source.toList = before ++ after) :
    (find source (Position.start.advanceOver before).line).text =
      lastLine before ++ after.takeWhile (· ≠ '\n') := by
  have hnumber : (Position.start.advanceOver before).line - 1 = before.count '\n' := by
    rw [line_advanceOver_eq]
    omega
  show (dropLines _ source.toList).takeWhile _ = _
  rw [hnumber, h, dropLines_append]
  exact List.takeWhile_append_of_pos fun d hd ↦ by simpa using ne_newline_of_mem_lastLine d hd

/-- The lines past the last one are empty. -/
theorem find_text_eq_nil (h : 1 + source.toList.count '\n' < n) : (find source n).text = [] := by
  show (dropLines (n - 1) source.toList).takeWhile _ = []
  rw [dropLines_eq_nil (by omega)]
  rfl

/-- A character has the place in the line of its position that the column says. -/
theorem find_text_getElem? (h : source.toList = before ++ c :: after) (hc : c ≠ '\n') :
    (find source (Position.start.advanceOver before).line).text[
      (Position.start.advanceOver before).column - 1]? = some c := by
  rw [find_text h, column_advanceOver_eq, Nat.add_sub_cancel_left,
    List.getElem?_append_right (Nat.le_refl _), Nat.sub_self,
    List.takeWhile_cons_of_pos (by simpa using hc)]
  rfl

/-- **Every place of a line** is that of a character at a position. -/
theorem exists_of_find_text_getElem? (hn : 1 ≤ n) (hle : n ≤ 1 + source.toList.count '\n')
    (h : (find source n).text[i]? = some c) :
    ∃ before after, source.toList = before ++ c :: after ∧ c ≠ '\n' ∧
      Position.start.advanceOver before = ⟨n, i + 1⟩ := by
  have hlines : n - 1 ≤ source.toList.count '\n' := by omega
  obtain ⟨lead, rest, hsource, hstart⟩ := exists_line_start hlines
  rw [Nat.sub_add_cancel hn] at hstart
  -- the line begins where `lead` ends, so it is the beginning of what follows
  have hnil : lastLine lead = [] := by
    have hcolumn := column_advanceOver_eq lead
    rw [hstart] at hcolumn
    exact List.length_eq_zero_iff.1 (Nat.add_left_cancel hcolumn.symm)
  have htext := find_text hsource
  rw [hstart, hnil, List.nil_append] at htext
  rw [htext] at h
  obtain ⟨front, back, hline, rfl⟩ := exists_append_of_getElem? h
  have hfree : ∀ d ∈ front ++ c :: back, d ≠ '\n' := by
    intro d hd
    rw [← hline] at hd
    simpa using List.mem_takeWhile_imp hd
  obtain ⟨hfront, hback⟩ := List.forall_mem_append.1 hfree
  refine ⟨lead ++ front, back ++ rest.dropWhile (· ≠ '\n'), ?_, hback c List.mem_cons_self, ?_⟩
  · calc source.toList
        = lead ++ (rest.takeWhile (· ≠ '\n') ++ rest.dropWhile (· ≠ '\n')) := by
          rw [List.takeWhile_append_dropWhile, hsource]
      _ = lead ++ front ++ c :: (back ++ rest.dropWhile (· ≠ '\n')) := by
          rw [hline]
          simp
  · rw [Position.advanceOver_append, hstart, advanceOver_line _ hfront, Nat.add_comm 1]

/-! ### Lines as they are displayed -/

/-- **Nothing is moved for display.** A character of a line keeps its place, where a tab shows as a
space; only the run of carriage returns that ends the line is not shown. -/
theorem display_getElem? {l : SourceLine} (h : l.text = front ++ c :: back) :
    l.display.toList[front.length]? =
      if ∀ d ∈ c :: back, d = '\r' then none else some (if c = '\t' then ' ' else c) := by
  have hdisplay : l.display.toList =
      (l.text.rdropWhile (· = '\r')).map fun d ↦ if d = '\t' then ' ' else d :=
    String.toList_ofList
  rw [hdisplay, List.getElem?_map, h]
  split
  · next hrun =>
    have hdrop : (front ++ c :: back).rdropWhile (· = '\r') = front.rdropWhile (· = '\r') := by
      rw [List.rdropWhile, List.reverse_append, List.dropWhile_append_of_pos, List.rdropWhile]
      intro d hd
      simpa using hrun d (List.mem_reverse.1 hd)
    have hlength : (front.rdropWhile (· = '\r')).length ≤ front.length :=
      (List.rdropWhile_prefix _ _).length_le
    rw [hdrop, List.getElem?_eq_none hlength, Option.map_none]
  · next hrun =>
    -- what is dropped is less than the rest of the line from the character on
    have hshort (more : List Char) :
        (front ++ c :: back).rtakeWhile (· = '\r') ≠ more ++ c :: back := by
      intro htake
      refine hrun fun d hd ↦ ?_
      have hmem : d ∈ (front ++ c :: back).rtakeWhile (· = '\r') :=
        htake ▸ List.mem_append_right more hd
      simpa using List.mem_rtakeWhile_imp hmem
    have hparts : (front ++ c :: back).rdropWhile (· = '\r') ++
        (front ++ c :: back).rtakeWhile (· = '\r') = front ++ c :: back :=
      List.rdropWhile_append_rtakeWhile
    obtain ⟨more, -, htake⟩ | ⟨shown, hdrop, htail⟩ := List.append_eq_append_iff.1 hparts
    · exact absurd htake (hshort more)
    · match shown with
      | [] => exact absurd htail.symm (hshort [])
      | d :: shown =>
        obtain ⟨rfl, -⟩ := List.cons.inj htail
        rw [hdrop, List.getElem?_append_right (Nat.le_refl _), Nat.sub_self]
        rfl

/-- A character is displayed in the line of its position, in its column. -/
theorem display_find_getElem? (h : source.toList = before ++ c :: after) (hc : c ≠ '\n') :
    (find source (Position.start.advanceOver before).line).display.toList[
        (Position.start.advanceOver before).column - 1]? =
      if ∀ d ∈ c :: after.takeWhile (· ≠ '\n'), d = '\r' then none
      else some (if c = '\t' then ' ' else c) := by
  have htext := find_text h
  rw [List.takeWhile_cons_of_pos (by simpa using hc)] at htext
  rw [column_advanceOver_eq, Nat.add_sub_cancel_left]
  exact display_getElem? htext

end SourceLine

/-! ### Tokens and errors -/

/-- An outcome can be pointed at: in the displayed line of its position, in the column of its
position, stands the first character of what it reports. -/
def Outcome.IsShown (source : String) (outcome : Outcome Token) : Prop :=
  ∃ before first taken rest, source.toList = before ++ (first :: taken ++ rest) ∧
    outcome.Reports (Position.start.advanceOver before) (first :: taken) rest ∧
    (SourceLine.find source (Position.start.advanceOver before).line).display.toList[
      (Position.start.advanceOver before).column - 1]? = some first

/-- Tokens do not begin with a character that display would change or leave out. -/
theorem SourceLine.display_find_of_isGap_eq_false (h : source.toList = before ++ c :: after)
    (hc : isGap c = false) :
    (find source (Position.start.advanceOver before).line).display.toList[
      (Position.start.advanceOver before).column - 1]? = some c := by
  have hblank (d : Char) (hd : isGap d = true) : c ≠ d := by
    rintro rfl
    exact absurd hd (ne_true_of_eq_false hc)
  have hshown : ¬ ∀ d ∈ c :: after.takeWhile (· ≠ '\n'), d = '\r' := fun hrun ↦
    hblank '\r' (by decide) (hrun c List.mem_cons_self)
  rw [display_find_getElem? h (hblank '\n' (by decide)), if_neg hshown,
    if_neg (hblank '\t' (by decide))]

/-- **What a reading yields can be pointed at**, the end mark excepted. -/
theorem Reading.Spans.isShown {r : Reading} (h : r.Spans source before rest)
    (hmark : r.outcome ≠ .accepted (endMark source.toList)) : r.outcome.IsShown source := by
  obtain ⟨-, -, houtcome⟩ | ⟨htaken, hreports⟩ := h.outcome_cases
  · exact absurd houtcome hmark
  · obtain ⟨first, taken, htext⟩ := List.exists_cons_of_ne_nil htaken
    have hfirst : isGap first = false := h.isGap_head? first (by simp [htext])
    have hsource : source.toList = before ++ r.segment.gap ++ (first :: taken ++ rest) := by
      rw [h.tokenCursor.toList_eq, htext]
    rw [h.tokenCursor.isAt.position_eq, htext] at hreports
    exact ⟨_, first, taken, rest, hsource, hreports,
      SourceLine.display_find_of_isGap_eq_false hsource hfirst⟩

/-- The readings of a source go from place to place in it. -/
theorem Cursor.IsBetween.exists_spans_of_mem_readings {cursor : Cursor}
    (h : cursor.IsBetween source before text) {r : Reading} (hr : r ∈ cursor.readings) :
    ∃ before rest, r.Spans source before rest := by
  induction cursor using Cursor.induction_on_readings generalizing before text with
  | step cursor ih =>
    obtain ⟨rest, hspans⟩ := h.exists_spans_read
    rcases hlast : cursor.read.segment.isLast with - | -
    · rw [Cursor.readings_of_isLast_eq_false hlast] at hr
      obtain rfl | hr := List.mem_cons.1 hr
      · exact ⟨_, _, hspans⟩
      · exact ih hlast hspans.after hr
    · rw [Cursor.readings_of_isLast hlast] at hr
      exact ⟨_, _, List.mem_singleton.1 hr ▸ hspans⟩

theorem isShown_of_mem_readings {r : Reading} (hr : r ∈ readings source)
    (hmark : r.outcome ≠ .accepted (endMark source.toList)) : r.outcome.IsShown source := by
  obtain ⟨_, _, hspans⟩ :=
    (Cursor.isBetween_ofString source).exists_spans_of_mem_readings hr
  exact hspans.isShown hmark

namespace Outcome

variable {α : Type} {outcomes : List (Outcome α)} {outcome : Outcome α} {value : α} {e : LexError}

theorem value?_eq_some_iff : outcome.value? = some value ↔ outcome = .accepted value := by
  cases outcome <;> simp [value?]

/-- The error that is collected is one of the outcomes. -/
theorem mem_of_collect_eq_failed (h : collect outcomes = .failed e) : .failed e ∈ outcomes := by
  induction outcomes with
  | nil => cases h
  | cons outcome outcomes ih =>
    cases outcome with
    | accepted value =>
      rw [collect] at h
      cases hrest : collect outcomes with
      | failed e' =>
        rw [hrest] at h
        obtain rfl := Outcome.failed.inj h
        exact List.mem_cons_of_mem _ (ih hrest)
      | accepted _ | misplaced =>
        rw [hrest] at h
        cases h
    | failed e' =>
      obtain rfl := Outcome.failed.inj h
      exact List.mem_cons_self
    | misplaced => cases h

end Outcome

/-! ### All sources -/

/-- **Lines agree with positions.** Every character but a newline has its place in the line of its
position, where its column says, and there it is displayed, a tab as a space, unless it belongs to
the run of carriage returns that ends the line. Every place of a line is that of exactly one
character, and past the last line nothing is displayed. So a token or an error, given by
`tokenize` or after any calls of a lexer, has the first character of its text displayed in the line
and the column of its position. -/
theorem SourceLine.find_agrees_with_advanceOver (source : String) :
    (∀ before c after, source.toList = before ++ c :: after → c ≠ '\n' →
        (find source (Position.start.advanceOver before).line).text[
            (Position.start.advanceOver before).column - 1]? = some c ∧
          (find source (Position.start.advanceOver before).line).display.toList[
              (Position.start.advanceOver before).column - 1]? =
            if ∀ d ∈ c :: after.takeWhile (· ≠ '\n'), d = '\r' then none
            else some (if c = '\t' then ' ' else c)) ∧
      (∀ n i c, 1 ≤ n → n ≤ 1 + source.toList.count '\n' → (find source n).text[i]? = some c →
        ∃! before, ∃ after, source.toList = before ++ c :: after ∧ c ≠ '\n' ∧
          Position.start.advanceOver before = ⟨n, i + 1⟩) ∧
      (∀ n, 1 + source.toList.count '\n' < n → (find source n).display = "") ∧
      (∀ t ∈ tokensSeen source, t.kind ≠ .endOfInput → (Outcome.accepted t).IsShown source) ∧
      (∀ e, tokenize source = .failed e → (Outcome.failed e).IsShown source) ∧
      ∀ calls call outcome, ((Lexer.after source calls).call call).1 = some outcome →
        outcome ≠ .accepted (endMark source.toList) → outcome.IsShown source := by
  refine ⟨fun before c after h hc ↦ ⟨find_text_getElem? h hc, display_find_getElem? h hc⟩,
    fun n i c hn hle h ↦ ?_, fun n hn ↦ ?_, fun t ht hkind ↦ ?_, fun e he ↦ ?_,
    fun calls call outcome hcall hmark ↦ ?_⟩
  · obtain ⟨before, after, hsource, hc, hposition⟩ := exists_of_find_text_getElem? hn hle h
    refine ⟨before, ⟨after, hsource, hc, hposition⟩, ?_⟩
    rintro before' ⟨after', hsource', -, hposition'⟩
    exact Position.eq_of_advanceOver_eq (hsource'.symm.trans hsource)
      (hposition'.trans hposition.symm)
  · rw [display, find_text_eq_nil hn]
    rfl
  · obtain ⟨r, hr, hvalue⟩ := List.mem_filterMap.1 ht
    have houtcome := Outcome.value?_eq_some_iff.1 hvalue
    rw [← houtcome]
    refine isShown_of_mem_readings hr fun hmark ↦ hkind ?_
    rw [Outcome.accepted.inj (houtcome.symm.trans hmark)]
    rfl
  · obtain ⟨r, hr, houtcome⟩ := List.mem_map.1 (Outcome.mem_of_collect_eq_failed he)
    rw [← houtcome]
    exact isShown_of_mem_readings hr (by simp [houtcome])
  · obtain ⟨before, text, hplace⟩ := Lexer.exists_isBetween_after source calls
    obtain ⟨rest, hspans⟩ := hplace.exists_spans_read
    obtain ⟨-, -, hidle⟩ | ⟨-, hread, -⟩ := (Lexer.after source calls).call_cases call
    · rw [hidle] at hcall
      cases hcall
    · obtain rfl := Option.some.inj (hread.symm.trans hcall)
      exact hspans.isShown hmark

/-- A tab and a carriage return inside a line keep their columns; only those at its end are gone. -/
example : (SourceLine.find "é\t\rx\r\r\n'a" 1).display = "é \rx" ∧
    (SourceLine.find "é\t\rx\r\r\n'a" 2).display = "'a" := by
  decide +kernel

end ScriptLexer
