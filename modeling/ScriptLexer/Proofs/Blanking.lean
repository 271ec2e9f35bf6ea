import ScriptLexer.Proofs.TokenList

/-!
# What leaves no trace

Whitespace, skipped characters and comments keep tokens apart and move them along, and that is all
they do. The **blanked** form of a source has a space in place of each of their characters, except
that newlines stay. It yields the same tokens at the same positions, only the comments are gone, or
the same error at the same position (`tokenize_blanked`).

A comment that has been blanked belongs to the gap of the token after it. So the run of a source
becomes a run with fewer tokens and longer gaps. The two things to see are that walking over blanks
leads where walking over the comment did (`Position.advanceOver_map_blankChar`), and that a blank
ends every token that is left, which was ended by the first character of a gap or a comment before
(`Grammar.endsBefore_blank`).
-/

namespace ScriptLexer

open Grammar

variable {text rest rest' gap : List Char} {source : String}

/-! ### Blanks -/

/-- What a character becomes where it is blanked: newlines stay, all others become spaces. -/
def blankChar (c : Char) : Char :=
  if c = '\n' then '\n' else ' '

theorem blankChar_mem (c : Char) : blankChar c ∈ ['\n', ' '] := by
  rw [blankChar]
  split <;> simp

/-- Blanks can be skipped. -/
theorem isGap_of_mem_map_blankChar : ∀ c ∈ text.map blankChar, isGap c = true := by
  intro c hc
  obtain ⟨d, -, rfl⟩ := List.mem_map.1 hc
  rw [blankChar]
  split
  · decide
  · decide

/-- **Blanks take the same room.** -/
theorem Position.advanceOver_map_blankChar (p : Position) (text : List Char) :
    p.advanceOver (text.map blankChar) = p.advanceOver text := by
  induction text generalizing p with
  | nil => rfl
  | cons c text ih =>
    have hstep : p.advance (blankChar c) = p.advance c := by
      by_cases hc : c = '\n'
      · rw [hc]
        rfl
      · rw [blankChar, if_neg hc, advance, advance, if_neg hc]
        rfl
    rw [List.map_cons, advanceOver_cons, advanceOver_cons, hstep, ih]

/-! ### Blanked sources -/

/-- The characters of a segment, of which the gap is blanked, and the token, too, if it is a
comment. -/
def Segment.blanked (s : Segment) : List Char :=
  s.gap.map blankChar ++
    match s.scan.verdict with
    | .accept .comment _ => s.scan.taken.map blankChar
    | .accept _ _ | .reject _ | .misplaced => s.scan.taken

/-- A source in which the gaps and the comments are blanked, as far as it has no fault. -/
def blanked (source : String) : String :=
  let segs := segments source.toList
  String.ofList
    (segs.flatMap Segment.blanked ++ source.toList.drop (segs.flatMap Segment.text).length)

namespace WrittenToken

variable {w : WrittenToken} {ws : List WrittenToken}

theorem blanked_of_comment (h : w.kind = .comment) :
    w.segment.blanked = w.chars.map blankChar := by
  simp [segment, Segment.blanked, h, chars]

theorem blanked_of_ne_comment (h : w.kind ≠ .comment) :
    w.segment.blanked = w.gap.map blankChar ++ w.text := by
  match hkind : w.kind with
  | .comment => exact absurd hkind h
  | .keyword | .identifier | .number | .string | .operator | .punctuation | .endOfInput =>
    simp [segment, Segment.blanked, hkind]

/-- The text of a run in which the gaps and the comments are blanked. -/
def blankedOf (ws : List WrittenToken) : List Char :=
  ws.flatMap fun w ↦ w.segment.blanked

theorem blankedOf_cons (w : WrittenToken) (ws : List WrittenToken) :
    blankedOf (w :: ws) = w.segment.blanked ++ blankedOf ws :=
  rfl

theorem advanceOver_blankedOf (p : Position) (ws : List WrittenToken) :
    p.advanceOver (blankedOf ws) = p.advanceOver (charsOf ws) := by
  induction ws generalizing p with
  | nil => rfl
  | cons w ws ih =>
    rw [blankedOf_cons, charsOf_cons, Position.advanceOver_append, Position.advanceOver_append, ih]
    by_cases hkind : w.kind = .comment
    · rw [blanked_of_comment hkind, Position.advanceOver_map_blankChar]
    · rw [blanked_of_ne_comment hkind, chars, Position.advanceOver_append,
        Position.advanceOver_append, Position.advanceOver_map_blankChar]

/-- The blanked form of a source that is a run before a rest in which the division stops. -/
theorem toList_blanked_of_isRun (htext : source.toList = charsOf ws ++ rest) (hrun : IsRun ws rest)
    (hlast : (Segment.first rest).isLast = true) :
    (blanked source).toList = blankedOf ws ++ ((Segment.first rest).blanked ++
      rest.drop (Segment.first rest).text.length) := by
  have hchars : (ws.map segment).flatMap Segment.text = charsOf ws := by
    rw [List.flatMap_map]
    rfl
  have hblanked : (ws.map segment).flatMap Segment.blanked = blankedOf ws := by
    rw [List.flatMap_map]
    rfl
  rw [blanked, String.toList_ofList, htext, segments_charsOf_append hrun, segments_of_isLast hlast,
    List.flatMap_append, List.flatMap_append, hchars, hblanked, List.flatMap_singleton,
    List.flatMap_singleton, List.length_append, ← List.drop_drop, List.drop_left,
    List.append_assoc]

end WrittenToken

/-! ### What follows a token -/

/-- The next character as it is, or a blank in its place. -/
def BlanksTo (next next' : Option Char) : Prop :=
  next' = next ∨ ∃ c ∈ ['\n', ' '], next' = some c

theorem blanksTo_blankChar (next : Option Char) (c : Char) :
    BlanksTo next (some (blankChar c)) :=
  .inr ⟨_, blankChar_mem c, rfl⟩

theorem blanksTo_head?_map_append :
    BlanksTo (gap ++ rest).head? (gap.map blankChar ++ rest).head? := by
  match gap with
  | [] => exact .inl rfl
  | c :: _ => exact blanksTo_blankChar _ c

/-- Blanking what follows a token does not matter to it, unless it is a comment. -/
theorem endsBefore_of_blanksTo {kind : TokenKind} {lexeme : List Char} {next next' : Option Char}
    (h : IsWritten kind lexeme text) (hkind : kind ≠ .comment) (hend : EndsBefore kind text next)
    (hnext : BlanksTo next next') : EndsBefore kind text next' := by
  obtain rfl | ⟨c, hc, rfl⟩ := hnext
  · exact hend
  · exact endsBefore_blank hc h fun hcomment ↦ absurd hcomment hkind

namespace WrittenToken

variable {ws : List WrittenToken}

theorem blanksTo_head?_blankedOf (h : BlanksTo rest.head? rest'.head?) :
    BlanksTo (charsOf ws ++ rest).head? (blankedOf ws ++ rest').head? := by
  match ws with
  | [] => exact h
  | w :: ws =>
    obtain ⟨c, tail, htext, -⟩ := exists_cons_of_isWritten w.isWritten
    by_cases hkind : w.kind = .comment
    · -- there is a first character, and it is blanked
      obtain ⟨d, more, hchars⟩ : ∃ d more, w.chars = d :: more :=
        List.exists_cons_of_ne_nil (by simp [chars, htext])
      rw [blankedOf_cons, blanked_of_comment hkind, hchars]
      exact blanksTo_blankChar _ d
    · rw [blankedOf_cons, blanked_of_ne_comment hkind, charsOf_cons, chars]
      rcases w.gap with - | ⟨d, -⟩
      · exact .inl (by simp [htext])
      · exact blanksTo_blankChar _ d

/-! ### Runs with their comments blanked -/

/-- **Blanked runs.** A run with its gaps and comments blanked is a run of the other tokens, at the
same positions. Blanks in front of it, which come from comments there, go to the gap of its first
token. -/
theorem exists_isRun_blankedOf (hrest : BlanksTo rest.head? rest'.head?) (hrun : IsRun ws rest) :
    ∀ lead before before' : List Char, (∀ c ∈ lead, isGap c = true) →
      Position.start.advanceOver (before' ++ lead) = Position.start.advanceOver before →
        ∃ ws' gap', lead ++ blankedOf ws = charsOf ws' ++ gap' ∧ (∀ c ∈ gap', isGap c = true) ∧
          IsRun ws' (gap' ++ rest') ∧
          tokensAfter before' ws' = (tokensAfter before ws).filter fun t ↦ t.kind ≠ .comment := by
  induction ws with
  | nil =>
    intro lead before before' hlead _
    exact ⟨[], lead, by simp [blankedOf], hlead, trivial, rfl⟩
  | cons w ws ih =>
    intro lead before before' hlead hposition
    obtain ⟨hend, hrun⟩ := hrun
    rw [Position.advanceOver_append] at hposition
    by_cases hkind : w.kind = .comment
    · -- the comment joins the blanks in front
      have hlead' : ∀ c ∈ lead ++ w.chars.map blankChar, isGap c = true :=
        List.forall_mem_append.2 ⟨hlead, isGap_of_mem_map_blankChar⟩
      have hposition' : Position.start.advanceOver (before' ++ (lead ++ w.chars.map blankChar)) =
          Position.start.advanceOver (before ++ w.chars) := by
        simp only [Position.advanceOver_append, Position.advanceOver_map_blankChar, hposition]
      obtain ⟨ws', gap', htext, hgap, hrun', htokens⟩ := ih hrun _ _ before' hlead' hposition'
      refine ⟨ws', gap', ?_, hgap, hrun', ?_⟩
      · rw [blankedOf_cons, blanked_of_comment hkind, ← List.append_assoc, htext]
      · rw [htokens, tokensAfter, List.filter_cons_of_neg (by simp [hkind])]
    · -- the blanks in front join the gap of the token
      have hgap : ∀ c ∈ lead ++ w.gap.map blankChar, isGap c = true :=
        List.forall_mem_append.2 ⟨hlead, isGap_of_mem_map_blankChar⟩
      let w' : WrittenToken :=
        ⟨lead ++ w.gap.map blankChar, w.kind, w.lexeme, w.text, hgap, w.isWritten⟩
      have hfirst : Position.start.advanceOver (before' ++ w'.gap) =
          Position.start.advanceOver (before ++ w.gap) := by
        simp only [w', Position.advanceOver_append, Position.advanceOver_map_blankChar, hposition]
      have hposition' : Position.start.advanceOver (before' ++ w'.chars ++ []) =
          Position.start.advanceOver (before ++ w.chars) := by
        simp only [w', chars, List.append_nil, Position.advanceOver_append,
          Position.advanceOver_map_blankChar, hposition]
      obtain ⟨ws', gap', htext, hgap', hrun', htokens⟩ := ih hrun [] _ _ (by simp) hposition'
      refine ⟨w' :: ws', gap', ?_, hgap', ⟨?_, hrun'⟩, ?_⟩
      · rw [charsOf_cons, List.append_assoc, ← htext, blankedOf_cons, blanked_of_ne_comment hkind]
        simp [w', chars]
      · rw [← List.append_assoc, ← htext, List.nil_append]
        exact endsBefore_of_blanksTo w.isWritten hkind hend (blanksTo_head?_blankedOf hrest)
      · rw [tokensAfter, tokensAfter, hfirst, htokens,
          List.filter_cons_of_pos (by simpa using hkind)]

/-- A blanked run before a blanked gap, in one piece with it. -/
theorem exists_isRun_blanked (hrun : IsRun ws (gap ++ rest)) :
    ∃ ws' gap', blankedOf ws ++ (gap.map blankChar ++ rest) = charsOf ws' ++ (gap' ++ rest) ∧
      IsRun ws' (gap' ++ rest) ∧ (∀ c ∈ gap', isGap c = true) ∧
      tokensAfter [] ws' = ((tokensAfter [] ws).filter fun t ↦ t.kind ≠ .comment) ∧
      Position.start.advanceOver (charsOf ws' ++ gap') =
        Position.start.advanceOver (charsOf ws ++ gap) := by
  obtain ⟨ws', gap', htext, hgap', hrun', htokens⟩ :=
    exists_isRun_blankedOf blanksTo_head?_map_append hrun [] [] [] (by simp) rfl
  rw [List.nil_append] at htext
  refine ⟨ws', gap' ++ gap.map blankChar, ?_, ?_,
    List.forall_mem_append.2 ⟨hgap', isGap_of_mem_map_blankChar⟩, htokens, ?_⟩
  · rw [htext, List.append_assoc, List.append_assoc]
  · rwa [List.append_assoc]
  · rw [← List.append_assoc, ← htext, Position.advanceOver_append, Position.advanceOver_append,
      advanceOver_blankedOf, Position.advanceOver_map_blankChar]

end WrittenToken

/-! ### All sources -/

/-- **Whitespace, skipped characters and comments are inert.** The blanked form of a source yields
its tokens without the comments, each with its kind, lexeme and position; or it has the same error
as the source. -/
theorem tokenize_blanked (source : String) :
    tokenize (blanked source) =
      (tokenize source).map fun tokens ↦ tokens.filter fun t ↦ t.kind ≠ .comment := by
  obtain ⟨ws, gap, htext, hrun, hgap, haccepted, -⟩ |
      ⟨ws, gap, taken, rest, cause, htext, hrun, hgap, hfault, hfailed, -⟩ :=
    WrittenToken.tokenize_cases source
  · have hfirst := first_of_gap hgap
    have hblanked := WrittenToken.toList_blanked_of_isRun htext hrun (by rw [hfirst]; rfl)
    rw [← List.append_nil gap] at hrun
    obtain ⟨ws', gap', htext', hrun', hgap', htokens, hposition⟩ :=
      WrittenToken.exists_isRun_blanked hrun
    have hsource : (blanked source).toList = WrittenToken.charsOf ws' ++ gap' := by
      simpa [hblanked, hfirst, Segment.blanked, Segment.text] using htext'
    have hmark : endMark (blanked source).toList = endMark source.toList := by
      rw [endMark, endMark, hsource, htext, hposition]
    rw [List.append_nil] at hrun'
    rw [(WrittenToken.tokenize_of_isRun hsource hrun' hgap').1, haccepted, hmark, htokens,
      Outcome.map, List.filter_append]
    rfl
  · have hfirst := first_of_isFault hgap hfault
    have hblanked := WrittenToken.toList_blanked_of_isRun htext hrun (by rw [hfirst]; rfl)
    obtain ⟨ws', gap', htext', hrun', hgap', -, hposition⟩ :=
      WrittenToken.exists_isRun_blanked hrun
    have hsource : (blanked source).toList =
        WrittenToken.charsOf ws' ++ (gap' ++ (taken ++ rest)) := by
      rw [← htext', hblanked, hfirst]
      simp [Segment.blanked, Segment.text, List.drop_append]
    rw [(WrittenToken.tokenize_of_isFault hsource hrun' hgap' hfault).1, hfailed, hposition]
    rfl

example : blanked "a/*b\n*/§= -1 //c\n'd//" = "a   \n   = -1    \n'd//" := by
  decide +kernel

end ScriptLexer
