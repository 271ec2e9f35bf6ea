import ScriptLexer.Proofs.Replay
import ScriptLexer.Proofs.Tiling

/-!
# Recovery

`nextToken` may be asked again after an error, and whoever keeps asking it comes to the end of the
source. A call **takes** a piece of what is left, that is a gap and behind it a token or a faulty
one, which is never empty; or it **ends** the source, which it does only if a mere gap is left
(`Lexer.takes_or_ends`). So the calls that follow each other cut what is left into a division, one
piece for each call (`Lexer.Recovers`), and there are no more of them than characters.

After that the lexer is **spent**. Nothing moves it any more, and `nextToken` gives the same end
mark for ever.
-/

namespace ScriptLexer

open Division

variable {source : String} {before gap text : List Char} {piece : Piece} {d : Division}

/-- Pieces that hold something each are no more than the characters in them. -/
theorem Division.length_le_length_textOf {pieces : List Piece}
    (h : ∀ piece ∈ pieces, piece.text ≠ []) : pieces.length ≤ (textOf pieces).length := by
  induction pieces with
  | nil => exact Nat.zero_le 0
  | cons piece pieces ih =>
    have hpos := List.length_pos_iff.2 (h piece List.mem_cons_self)
    have hle := ih fun piece hpiece ↦ h piece (List.mem_cons_of_mem _ hpiece)
    rw [textOf_cons, List.length_append, List.length_append, List.length_cons]
    omega

/-- Where nothing is left, a reading leaves the cursor as it was. -/
theorem Cursor.after_read_of_rest_eq_nil {c : Cursor} (h : c.rest = []) : c.read.after = c := by
  obtain ⟨_, _, _, _⟩ := c
  obtain rfl : _ = [] := h
  rfl

namespace Lexer

variable {l : Lexer}

/-! ### One call -/

/-- The next call of `nextToken` skips the gap of a piece and takes its text, which is a token or a
faulty one. -/
structure Takes (source : String) (l : Lexer) (before : List Char) (piece : Piece)
    (rest : List Char) : Prop where
  /-- The piece is what stands ahead. -/
  start : l.cursor.IsBetween source before (piece.gap ++ piece.text ++ rest)
  /-- The call passes over the piece. -/
  stop : l.nextToken.2.cursor.IsBetween source (before ++ (piece.gap ++ piece.text)) rest
  /-- The gap can be skipped. -/
  isSkipped : IsSkipped piece.gap
  /-- What is taken does not begin with more of the gap. -/
  isGap_head? : ∀ c ∈ piece.text.head?, isGap c = false
  /-- Something is taken. -/
  text_ne_nil : piece.text ≠ []
  /-- The answer tells what is taken; its position is the one behind the gap. -/
  reports : l.nextToken.1.Reports (Position.start.advanceOver (before ++ piece.gap)) piece.text rest
  /-- The answer is not the end mark. -/
  kind_ne : ∀ t, l.nextToken.1 = .accepted t → t.kind ≠ .endOfInput

/-- The next call of `nextToken` skips a gap, which is all that is left, and gives the end mark. -/
structure Ends (source : String) (l : Lexer) (before gap : List Char) : Prop where
  /-- The gap is all that stands ahead. -/
  start : l.cursor.IsBetween source before gap
  /-- The call passes over it. -/
  stop : l.nextToken.2.cursor.IsBetween source source.toList []
  /-- The gap can be skipped. -/
  isSkipped : IsSkipped gap
  /-- The answer is the end mark of the source. -/
  outcome : l.nextToken.1 = .accepted (endMark source.toList)

/-- **One call** takes something or ends the source. -/
theorem takes_or_ends (h : l.cursor.IsBetween source before text) :
    (∃ piece rest, text = piece.gap ++ piece.text ++ rest ∧ l.Takes source before piece rest) ∨
      l.Ends source before text := by
  obtain ⟨rest, hspans⟩ := h.exists_spans_read
  have hskipped := isSkipped_iff.2 hspans.isGap_of_mem
  have htext : text =
      l.cursor.read.segment.gap ++ (l.cursor.read.segment.scan.taken ++ rest) := by
    rw [← h.rest_eq]
    exact hspans.origin.rest_eq
  obtain ⟨htaken, rfl, hmark⟩ | ⟨htaken, hreports⟩ := hspans.outcome_cases
  · have hgap : text = l.cursor.read.segment.gap := by
      rw [htext, htaken, List.append_nil, List.append_nil]
    have hstop := hspans.after
    rw [htaken, List.append_nil, ← hgap, ← h.toList_eq] at hstop
    exact .inr ⟨h, hstop, hgap ▸ hskipped, hmark⟩
  · rw [← List.append_assoc] at htext
    refine .inl ⟨⟨l.cursor.read.segment.gap, l.cursor.read.segment.scan.taken⟩, rest, htext,
      htext ▸ h, ?_, hskipped, ?_, htaken, ?_, ?_⟩
    · rw [← List.append_assoc]
      exact hspans.after
    · intro c hc
      refine hspans.isGap_head? c ?_
      rw [List.head?_append_of_ne_nil _ htaken]
      exact hc
    · rw [← hspans.tokenCursor.isAt.position_eq]
      exact hreports
    · intro t ht
      rw [show l.cursor.read.outcome = .accepted t from ht] at hreports
      obtain ⟨-, hwritten⟩ := hreports
      exact hwritten.kind_ne_endOfInput

/-! ### Many calls -/

/-- The lexer after `n` calls of `nextToken`, whatever their answers are. -/
def advanceBy (l : Lexer) (n : Nat) : Lexer :=
  (l.replay (List.replicate n .nextToken)).2

/-- The calls of `nextToken` from here on cut what is left into a division: one call takes each of
its pieces, and the call after them ends the source. -/
structure Recovers (source : String) (l : Lexer) (before : List Char) (d : Division) : Prop where
  /-- The division is one of all that stands ahead. -/
  start : l.cursor.IsBetween source before d.text
  /-- After a call for each piece in front of it, a piece is taken. -/
  takes : ∀ front piece back, d.pieces = front ++ piece :: back →
    (l.advanceBy front.length).Takes source (before ++ textOf front) piece (textOf back ++ d.tail)
  /-- After a call for each piece, the source is ended. -/
  ends : (l.advanceBy d.pieces.length).Ends source (before ++ textOf d.pieces) d.tail

theorem Ends.recovers (h : l.Ends source before gap) : l.Recovers source before ⟨[], gap⟩ := by
  refine ⟨h.start, fun front piece back hpieces ↦ ?_, ?_⟩
  · exact absurd hpieces (by simp)
  · rw [textOf_nil, List.append_nil]
    exact h

/-- **One call more.** -/
theorem Takes.recovers (h : l.Takes source before piece d.text)
    (hrest : l.nextToken.2.Recovers source (before ++ (piece.gap ++ piece.text)) d) :
    l.Recovers source before ⟨piece :: d.pieces, d.tail⟩ := by
  refine ⟨?_, fun front piece' back hpieces ↦ ?_, ?_⟩
  · rw [Division.text, textOf_cons, List.append_assoc]
    exact h.start
  · cases front with
    | nil =>
      obtain ⟨rfl, rfl⟩ := List.cons.inj hpieces
      rw [textOf_nil, List.append_nil]
      exact h
    | cons _ front =>
      obtain ⟨rfl, htail⟩ := List.cons.inj hpieces
      rw [textOf_cons, ← List.append_assoc]
      exact hrest.takes front piece' back htail
  · rw [textOf_cons, ← List.append_assoc]
    exact hrest.ends

/-- **Recovery** from any place. -/
theorem exists_recovers (h : l.cursor.IsBetween source before text) :
    ∃ d, l.Recovers source before d := by
  -- each call that takes something leaves less
  induction hn : text.length using Nat.strong_induction_on generalizing l before text with
  | _ n ih =>
    obtain ⟨piece, rest, htext, htakes⟩ | hends := takes_or_ends h
    · have hlt : rest.length < n := by
        have hpos := List.length_pos_iff.2 htakes.text_ne_nil
        rw [← hn, htext, List.length_append, List.length_append]
        omega
      obtain ⟨d, hd⟩ := ih rest.length hlt htakes.stop rfl
      obtain rfl : rest = d.text := by
        rw [← htakes.stop.rest_eq, hd.start.rest_eq]
      exact ⟨_, htakes.recovers hd⟩
    · exact ⟨_, hends.recovers⟩

theorem Recovers.length_le (h : l.Recovers source before d) : d.pieces.length ≤ d.text.length := by
  have hpieces : d.pieces.length ≤ (textOf d.pieces).length := by
    refine length_le_length_textOf fun piece hpiece ↦ ?_
    obtain ⟨front, back, hpieces⟩ := List.append_of_mem hpiece
    exact (h.takes front piece back hpieces).text_ne_nil
  rw [Division.text, List.length_append]
  omega

/-! ### After the end -/

/-- Nothing more comes of a lexer, whatever calls are made: its cursor stays, `nextToken` gives the
end mark of the source, and `next` gives it or nothing. -/
structure IsSpent (source : String) (l : Lexer) : Prop where
  /-- No call moves the cursor. -/
  cursor_eq : ∀ calls, (l.replay calls).2.cursor = l.cursor
  /-- After all calls, `nextToken` gives the end mark. -/
  nextToken_eq : ∀ calls, (l.replay calls).2.nextToken.1 = .accepted (endMark source.toList)
  /-- After all calls, `next` gives the end mark or nothing. -/
  next_eq : ∀ calls, (l.replay calls).2.next.1 = none ∨
    (l.replay calls).2.next.1 = some (.accepted (endMark source.toList))

theorem cursor_replay_of_rest_eq_nil (h : l.cursor.rest = []) (calls : List Call) :
    (l.replay calls).2.cursor = l.cursor := by
  induction calls generalizing l with
  | nil => rfl
  | cons c calls ih =>
    have hcursor : (l.call c).2.cursor = l.cursor := by
      obtain hcall | hcall := l.call_cursor c
      · exact hcall
      · rw [hcall, Cursor.after_read_of_rest_eq_nil h]
    exact (ih (hcursor ▸ h)).trans hcursor

/-- **At the end** of its source a lexer is spent. -/
theorem isSpent_of_isBetween (h : l.cursor.IsBetween source before []) : l.IsSpent source := by
  have hcursor := cursor_replay_of_rest_eq_nil h.rest_eq
  have hread : l.cursor.read.outcome = .accepted (endMark source.toList) := by
    obtain ⟨piece, rest, htext, htakes⟩ | hends := takes_or_ends h
    · exact absurd (List.append_eq_nil_iff.1 (List.append_eq_nil_iff.1 htext.symm).1).2
        htakes.text_ne_nil
    · exact hends.outcome
  refine ⟨hcursor, fun calls ↦ ?_, fun calls ↦ ?_⟩
  · rw [nextToken, hcursor]
    exact hread
  · rw [next]
    split
    · exact .inl rfl
    · refine .inr (congrArg some ?_)
      rw [hcursor]
      exact hread

theorem advanceBy_succ (l : Lexer) (n : Nat) :
    l.advanceBy (n + 1) = (l.advanceBy n).nextToken.2 := by
  induction n generalizing l with
  | zero => rfl
  | succ n ih => exact ih l.nextToken.2

theorem Recovers.isSpent (h : l.Recovers source before d) :
    (l.advanceBy (d.pieces.length + 1)).IsSpent source := by
  rw [advanceBy_succ]
  exact isSpent_of_isBetween h.ends.stop

/-! ### Any state -/

/-- **Progress and recovery.** After any calls on a source, one call of `nextToken` takes something
beyond the gap that it skips, or ends the source. So the calls of `nextToken` from then on, errors
or not, cut all that is left into pieces, which are not more than the characters of the source, and
then give the end mark; after that the lexer is spent. From the beginning, what they cut is the
whole source. -/
theorem nextToken_resynchronises (source : String) (calls : List Call) :
    (∃ before, (∃ piece rest, (after source calls).Takes source before piece rest) ∨
        ∃ gap, (after source calls).Ends source before gap) ∧
      (∃ before d, (after source calls).Recovers source before d ∧
        d.pieces.length ≤ source.length ∧
        ((after source calls).advanceBy (d.pieces.length + 1)).IsSpent source) ∧
      ∃ d, (ofString source).Recovers source [] d ∧ d.text = source.toList := by
  obtain ⟨before, text, hplace⟩ := exists_isBetween_after source calls
  refine ⟨⟨before, ?_⟩, ?_, ?_⟩
  · obtain ⟨piece, rest, -, htakes⟩ | hends := takes_or_ends hplace
    · exact .inl ⟨piece, rest, htakes⟩
    · exact .inr ⟨text, hends⟩
  · obtain ⟨d, hd⟩ := exists_recovers hplace
    have hlength : source.length = before.length + d.text.length := by
      rw [← String.length_toList, hd.start.toList_eq, List.length_append]
    have hle := hd.length_le
    exact ⟨before, d, hd, by omega, hd.isSpent⟩
  · have hplace : (ofString source).cursor.IsBetween source [] source.toList :=
      Cursor.isBetween_ofString source
    obtain ⟨d, hd⟩ := exists_recovers hplace
    exact ⟨d, hd, hd.start.rest_eq.symm⟩

/-- Two errors in one line: a number is broken off in front of its second digit, which is a number
of its own, and a string literal at the end of the source. -/
example : ((ofString "01 'a").replay (List.replicate 5 .nextToken)).1 =
    [some (.failed ⟨.leadingZero, ⟨1, 1⟩⟩), some (.accepted ⟨.number, "1", ⟨1, 2⟩⟩),
      some (.failed ⟨.unterminatedString, ⟨1, 4⟩⟩), some (.accepted ⟨.endOfInput, "", ⟨1, 6⟩⟩),
      some (.accepted ⟨.endOfInput, "", ⟨1, 6⟩⟩)] := by
  decide +kernel

end Lexer

end ScriptLexer
