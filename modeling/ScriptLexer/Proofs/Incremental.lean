import ScriptLexer.Proofs.Relocation

/-!
# Putting together and cutting apart

A source need not be tokenized in one go.

* `tokenize_append_line`: two sources that are put together with a newline between them yield the
  tokens of the first and what the second yields, moved down by the lines of the first. Only the
  first has to be accepted.
* `tokenize_cut`: an accepted source can be cut in front of any of its tokens. Either part is
  accepted, and the tokens of the parts are those of the whole.

The two differ in what ends the last token of the first part. In a cut it is the end of the text,
which ends every token (`Grammar.endsBefore_none`); between two sources it is the newline, which
does so as well (`Grammar.endsBefore_newline`). A token of the second part never looks back.
-/

namespace ScriptLexer

open Grammar

variable {source : String} {text gap rest : List Char} {tokens : List Token} {t : Token} {k : Nat}

/-! ### One source below another -/

/-- The position in the same column, some lines further down. -/
def Position.down (lines : Nat) (p : Position) : Position :=
  ⟨p.line + lines, p.column⟩

/-- What begins on a fresh line is moved down and not aside. -/
theorem Position.rebase_after_newline (text : List Char) :
    (start.advanceOver (text ++ ['\n'])).rebase = down (1 + text.count '\n') := by
  have hline : start.advanceOver (text ++ ['\n']) = ⟨1 + text.count '\n' + 1, 1⟩ := by
    rw [advanceOver_append, advanceOver_cons, advance_newline, line_advanceOver]
    rfl
  funext p
  rw [hline, rebase, down]
  split <;> simp only [Position.mk.injEq, and_true] <;> omega

namespace WrittenToken

variable {ws : List WrittenToken}

/-- **A newline keeps runs apart** from whatever comes after it. -/
theorem IsRun.append_newline (h : IsRun ws gap) (rest : List Char) :
    IsRun ws (gap ++ '\n' :: rest) := by
  induction ws with
  | nil => trivial
  | cons w ws ih =>
    obtain ⟨hend, hrun⟩ := h
    refine ⟨?_, ih hrun⟩
    rw [← List.append_assoc]
    match htext : charsOf ws ++ gap with
    | [] => exact endsBefore_newline w.isWritten
    | c :: tail =>
      rw [htext] at hend
      exact hend

end WrittenToken

/-- **Line by line.** Below an accepted source, any other source yields what it yields by itself,
moved down by the lines above it: its tokens follow those of the accepted one, without the end mark
in between, or its error is the error of both. -/
theorem tokenize_append_line {above : String} (h : tokenize above = .accepted tokens)
    (below : String) :
    tokenize (above ++ "\n" ++ below) =
      (tokenize below).bimap
        (fun more ↦ tokens.dropLast ++
          more.map (Token.relocate (Position.down (1 + above.toList.count '\n'))))
        (LexError.relocate (Position.down (1 + above.toList.count '\n'))) := by
  obtain ⟨ws, gap, htext, hrun, hgap, rfl⟩ := WrittenToken.tokenize_eq_accepted_iff.1 h
  have hsource : (above ++ "\n" ++ below).toList =
      WrittenToken.charsOf ws ++ ((gap ++ ['\n']) ++ below.toList) := by
    simp [htext]
  -- the newline joins the gap at the end of the accepted source
  have hrun' : WrittenToken.IsRun ws ((gap ++ ['\n']) ++ below.toList) := by
    rw [List.append_assoc]
    exact hrun.append_newline below.toList
  have hgap' : ∀ c ∈ gap ++ ['\n'], isGap c = true := by
    intro c hc
    obtain hc | hc := List.mem_append.1 hc
    · exact hgap c hc
    · rw [List.mem_singleton.1 hc]
      decide
  rw [WrittenToken.tokenize_of_run_append hsource hrun' hgap', ← List.append_assoc, ← htext,
    Position.rebase_after_newline, List.dropLast_concat]

/-- A number at the end of a line, a comment below it that is moved down by two lines, and an error
below the same number. -/
theorem tokenize_append_line_number :
    tokenize "\n-1" = .accepted [⟨.number, "-1", ⟨2, 1⟩⟩, ⟨.endOfInput, "", ⟨2, 3⟩⟩] ∧
      tokenize ("\n-1" ++ "\n" ++ " /*\n*/.") = .accepted
        [⟨.number, "-1", ⟨2, 1⟩⟩, ⟨.comment, "\n", ⟨3, 2⟩⟩, ⟨.punctuation, ".", ⟨4, 3⟩⟩,
          ⟨.endOfInput, "", ⟨4, 4⟩⟩] ∧
      tokenize ("\n-1" ++ "\n" ++ ".\n '") = .failed ⟨.unterminatedString, ⟨4, 2⟩⟩ := by
  have habove : tokenize "\n-1" =
      .accepted [⟨.number, "-1", ⟨2, 1⟩⟩, ⟨.endOfInput, "", ⟨2, 3⟩⟩] := by
    decide +kernel
  have hcomment : tokenize " /*\n*/." = .accepted [⟨.comment, "\n", ⟨1, 2⟩⟩,
      ⟨.punctuation, ".", ⟨2, 3⟩⟩, ⟨.endOfInput, "", ⟨2, 4⟩⟩] := by
    decide +kernel
  have hstring : tokenize ".\n '" = .failed ⟨.unterminatedString, ⟨2, 2⟩⟩ := by
    decide +kernel
  refine ⟨habove, ?_, ?_⟩
  · rw [tokenize_append_line habove, hcomment]
    rfl
  · rw [tokenize_append_line habove, hstring]
    rfl

/-! ### Cutting in front of a token -/

/-- A token stands at the head of a text: it is written there, or it is the end mark and nothing is
left. -/
def Token.StandsAt (t : Token) (text : List Char) : Prop :=
  (∃ written, IsWritten t.kind t.lexeme.toList written ∧ written <+: text) ∨
    (t.kind = .endOfInput ∧ text = [])

/-- **Cuts.** In front of each token, a run before a gap splits into a run that ends at a gap of its
own and the text at the head of which the token stands. -/
theorem WrittenToken.exists_cut {ws : List WrittenToken} (hrun : IsRun ws gap)
    (hgap : ∀ c ∈ gap, isGap c = true)
    (hk : (tokensAfter [] ws ++ [endMark (charsOf ws ++ gap)])[k]? = some t) :
    ∃ front lead after, charsOf ws ++ gap = charsOf front ++ (lead ++ after) ∧
      IsRun front (lead ++ after) ∧ (∀ c ∈ lead, isGap c = true) ∧ t.StandsAt after ∧
      t.position = Position.start.advanceOver (charsOf front ++ lead) ∧
      (tokensAfter [] front).length = k ∧ tokensAfter [] front <+: tokensAfter [] ws := by
  by_cases hlt : k < ws.length
  · -- the token is one of the run, which is cut inside the gap of that token
    obtain ⟨front, w, back, hws, hlength⟩ : ∃ front w back, ws = front ++ w :: back ∧
        front.length = k :=
      ⟨ws.take k, ws[k], ws.drop (k + 1), by simp, by simp; omega⟩
    subst hws
    obtain ⟨hfront, -⟩ := isRun_append.1 hrun
    have htext : charsOf (w :: back) ++ gap = w.gap ++ (w.text ++ (charsOf back ++ gap)) := by
      simp [chars]
    have ht : t = ⟨w.kind, String.ofList w.lexeme,
        Position.start.advanceOver (charsOf front ++ w.gap)⟩ := by
      rw [tokensAfter_append, List.append_assoc, List.getElem?_append_right (by simp [hlength])]
        at hk
      simpa [tokensAfter, hlength] using hk.symm
    rw [htext] at hfront
    refine ⟨front, w.gap, _, by rw [charsOf_append, List.append_assoc, htext], hfront,
      w.isGap_of_mem, ?_, by rw [ht], by rw [length_tokensAfter, hlength], ?_⟩
    · rw [ht]
      exact .inl ⟨w.text, by simpa using w.isWritten, List.prefix_append _ _⟩
    · rw [tokensAfter_append]
      exact List.prefix_append _ _
  · -- the token is the end mark, and the cut leaves nothing
    have hlength : (tokensAfter [] ws ++ [endMark (charsOf ws ++ gap)]).length = ws.length + 1 := by
      simp
    have hk' : k = ws.length := by
      have := (List.getElem?_eq_some_iff.1 hk).1
      omega
    subst hk'
    have ht : t = endMark (charsOf ws ++ gap) := by
      rw [List.getElem?_append_right (by simp)] at hk
      simpa using hk.symm
    refine ⟨ws, gap, [], by simp, by simpa using hrun, hgap, .inr ⟨by rw [ht]; rfl, rfl⟩,
      by rw [ht]; rfl, length_tokensAfter ws, List.prefix_rfl⟩

/-- **Cutting in front of a token.** An accepted source has a beginning that ends at the position of
any of its tokens, the end mark included. However the source is cut there, the token stands at the
head of the second part; the first part yields the tokens before it and an end mark in its place;
the second part yields the others, at positions that count from the cut. -/
theorem tokenize_cut (h : tokenize source = .accepted tokens) (hk : tokens[k]? = some t) :
    (∃ before after : String, source = before ++ after ∧
        Position.start.advanceOver before.toList = t.position) ∧
      ∀ before after : String, source = before ++ after →
        Position.start.advanceOver before.toList = t.position →
          t.StandsAt after.toList ∧
          tokenize before = .accepted (tokens.take k ++ [⟨.endOfInput, "", t.position⟩]) ∧
          ∃ others, tokenize after = .accepted others ∧
            others.map (Token.relocate t.position.rebase) = tokens.drop k := by
  obtain ⟨ws, gap, htext, hrun, hgap, htokens⟩ := WrittenToken.tokenize_eq_accepted_iff.1 h
  rw [htokens, htext] at hk
  obtain ⟨front, lead, back, hcut, hfront, hlead, hstands, hposition, hlength, hprefix⟩ :=
    WrittenToken.exists_cut hrun hgap hk
  have hsource : source.toList = (WrittenToken.charsOf front ++ lead) ++ back := by
    rw [htext, hcut, List.append_assoc]
  refine ⟨⟨String.ofList (WrittenToken.charsOf front ++ lead), String.ofList back, ?_, ?_⟩, ?_⟩
  · rw [← String.ofList_append, ← hsource, String.ofList_toList]
  · rw [String.toList_ofList, hposition]
  intro before after hparts hbefore
  -- no other cut has this position
  have hboth : before.toList ++ after.toList = (WrittenToken.charsOf front ++ lead) ++ back := by
    rw [← String.toList_append, ← hparts, hsource]
  have hfirst : before.toList = WrittenToken.charsOf front ++ lead :=
    Position.eq_of_advanceOver_eq hboth (hbefore.trans hposition)
  obtain rfl : after.toList = back := List.append_cancel_left (hfirst ▸ hboth)
  have htake : WrittenToken.tokensAfter [] front = tokens.take k := by
    have hprefix' : WrittenToken.tokensAfter [] front <+: tokens :=
      htokens ▸ hprefix.trans (List.prefix_append _ _)
    rw [List.prefix_iff_eq_take.1 hprefix', hlength]
  refine ⟨hstands, ?_, ?_⟩
  · rw [(WrittenToken.tokenize_of_isRun hfirst hfront.left_of_append hlead).1, htake, endMark,
      hbefore]
  · rw [WrittenToken.tokenize_of_run_append (hsource.trans (List.append_assoc _ _ _)) hfront hlead,
      ← hposition] at h
    match hafter : tokenize after with
    | .accepted others =>
      rw [hafter] at h
      refine ⟨others, rfl, ?_⟩
      rw [← Outcome.accepted.inj h, List.drop_left' hlength]
    | .failed _ | .misplaced =>
      rw [hafter] at h
      cases h

/-- A cut in front of a comment on two lines, so that the number behind it keeps its column and only
the comment is moved aside. -/
theorem tokenize_cut_comment :
    tokenize "x=/*\n*/-1" = .accepted [⟨.identifier, "x", ⟨1, 1⟩⟩, ⟨.operator, "=", ⟨1, 2⟩⟩,
        ⟨.comment, "\n", ⟨1, 3⟩⟩, ⟨.number, "-1", ⟨2, 3⟩⟩, ⟨.endOfInput, "", ⟨2, 5⟩⟩] ∧
      (⟨.comment, "\n", ⟨1, 3⟩⟩ : Token).StandsAt "/*\n*/-1".toList ∧
      tokenize "x=" = .accepted [⟨.identifier, "x", ⟨1, 1⟩⟩, ⟨.operator, "=", ⟨1, 2⟩⟩,
        ⟨.endOfInput, "", ⟨1, 3⟩⟩] ∧
      ∃ others, tokenize "/*\n*/-1" = .accepted others ∧
        others.map (Token.relocate (Position.rebase ⟨1, 3⟩)) =
          [⟨.comment, "\n", ⟨1, 3⟩⟩, ⟨.number, "-1", ⟨2, 3⟩⟩, ⟨.endOfInput, "", ⟨2, 5⟩⟩] := by
  have haccepted : tokenize "x=/*\n*/-1" = .accepted [⟨.identifier, "x", ⟨1, 1⟩⟩,
      ⟨.operator, "=", ⟨1, 2⟩⟩, ⟨.comment, "\n", ⟨1, 3⟩⟩, ⟨.number, "-1", ⟨2, 3⟩⟩,
      ⟨.endOfInput, "", ⟨2, 5⟩⟩] := by
    decide +kernel
  have hcomment : [⟨.identifier, "x", ⟨1, 1⟩⟩, ⟨.operator, "=", ⟨1, 2⟩⟩, ⟨.comment, "\n", ⟨1, 3⟩⟩,
      ⟨.number, "-1", ⟨2, 3⟩⟩, ⟨.endOfInput, "", ⟨2, 5⟩⟩][2]? =
        some (⟨.comment, "\n", ⟨1, 3⟩⟩ : Token) := rfl
  exact ⟨haccepted, (tokenize_cut haccepted hcomment).2 "x=" "/*\n*/-1" (by decide) (by decide)⟩

end ScriptLexer
