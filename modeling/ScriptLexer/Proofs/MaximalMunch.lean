import ScriptLexer.Proofs.Tiling

/-!
# Maximal munch

Which division of a source the lexer finds, said without the lexer. The texts of tokens come in
seven **forms**. A text is **legal** where it stands if it has one of the forms, if it is not cut
short where the form has no end of its own, and if an operator is not read where a number or a
comment begins. A division is legal if its gaps can be skipped and its texts are legal.

* `Division.eq_of_isLegal`: no text has two legal divisions.
* `tokenize_legal`: the division of an accepted source is legal, so it is the only one.

The two have one reason. Whatever follows a token, the token takes the same text; so two texts of a
form that begin at one place cannot differ in length unless one of them is cut short.
-/

namespace ScriptLexer

open Grammar

namespace Grammar

/-! ### Forms -/

/-- The forms of token texts. -/
inductive TextForm where
  /-- A keyword or an identifier. -/
  | word
  /-- A number. -/
  | number
  /-- An operator. -/
  | operator
  /-- A punctuation mark. -/
  | punctuation
  /-- A string literal with its quotes. -/
  | string
  /-- A comment that begins with two slashes. -/
  | lineComment
  /-- A comment between block delimiters. -/
  | blockComment
deriving DecidableEq, Repr

/-- The texts of a form. -/
def IsTextOf : TextForm → List Char → Prop
  | .word, text => IsWord text
  | .number, text => IsNumber text
  | .operator, text => IsOperator text
  | .punctuation, text => ∃ c, text = [c] ∧ IsMark c
  | .string, text => ∃ quote content, text = quote :: (content ++ [quote]) ∧ IsQuote quote ∧
      IsStringContent quote content
  | .lineComment, text => ∃ content, text = '/' :: '/' :: content ∧ IsLineContent content
  | .blockComment, text => ∃ content, text = '/' :: '*' :: (content ++ ['*', '/']) ∧
      IsBlockContent content

/-- Whether the texts of a form end for no other reason than that the next character does not go
on with them. -/
def TextForm.isOpenEnded : TextForm → Bool
  | .word | .number | .operator | .lineComment => true
  | .punctuation | .string | .blockComment => false

/-- A text is legal as a token of some form, before what follows it. -/
structure IsLegalText (form : TextForm) (text rest : List Char) : Prop where
  /-- It is a text of the form. -/
  isTextOf : IsTextOf form text
  /-- It cannot be made longer where the form has no end of its own. -/
  maximal : form.isOpenEnded = true → ∀ more, more <+: rest → IsTextOf form (text ++ more) →
    more = []
  /-- No operator begins where a sign stands before a digit, or where a comment begins. -/
  free : form = .operator → isPreempted (text ++ rest) = false

/-- The class of the tokens of a form. -/
def TextForm.cls : TextForm → TokenClass
  | .word => .word
  | .number => .number
  | .operator => .operator
  | .punctuation => .punctuation
  | .string => .string
  | .lineComment | .blockComment => .comment

variable {form form' : TextForm} {kind : TokenKind} {lexeme text text' more rest rest' : List Char}

/-! ### Forms and written tokens -/

/-- Every text of a form is a written token, and one of a form that has its own end may end
anywhere. -/
theorem exists_isWritten_of_isTextOf (h : IsTextOf form text) :
    ∃ kind lexeme, IsWritten kind lexeme text ∧
      (form.isOpenEnded = false → ∀ next, EndsBefore kind text next) := by
  cases form with
  | word =>
    obtain ⟨hkind | hkind, hlexeme⟩ := Scan.isLexeme_word_iff.2 ⟨rfl, h⟩
    all_goals
      rw [hkind] at hlexeme
      exact ⟨_, text, .verbatim (by simp) (by simp) (by simp) hlexeme, nofun⟩
  | number => exact ⟨.number, text, .verbatim (by simp) (by simp) (by simp) h, nofun⟩
  | operator => exact ⟨.operator, text, .verbatim (by simp) (by simp) (by simp) h, nofun⟩
  | punctuation =>
    exact ⟨.punctuation, text, .verbatim (by simp) (by simp) (by simp) h, fun _ _ ↦ trivial⟩
  | string =>
    obtain ⟨quote, content, rfl, hquote, hcontent⟩ := h
    exact ⟨.string, content, .string hquote hcontent, fun _ _ ↦ trivial⟩
  | lineComment =>
    obtain ⟨content, rfl, hcontent⟩ := h
    exact ⟨.comment, content, .line hcontent, nofun⟩
  | blockComment =>
    obtain ⟨content, rfl, hcontent⟩ := h
    exact ⟨.comment, content, .block hcontent, fun _ _ hline ↦ absurd hline (by simp)⟩

/-- Every written token has a text of some form; if it is an operator, it is a token of that
kind. -/
theorem exists_isTextOf_of_isWritten (h : IsWritten kind lexeme text) :
    ∃ form, IsTextOf form text ∧ (form = .operator → kind = .operator) := by
  cases h with
  | string hquote hcontent => exact ⟨.string, ⟨_, _, rfl, hquote, hcontent⟩, nofun⟩
  | line hcontent => exact ⟨.lineComment, ⟨_, rfl, hcontent⟩, nofun⟩
  | block hcontent => exact ⟨.blockComment, ⟨_, rfl, hcontent⟩, nofun⟩
  | verbatim hstring hcomment hmark hlexeme =>
    cases kind with
    | string => exact absurd rfl hstring
    | comment => exact absurd rfl hcomment
    | endOfInput => exact absurd rfl hmark
    | keyword => exact ⟨.word, (Scan.isLexeme_word_iff.1 ⟨.inl rfl, hlexeme⟩).2, nofun⟩
    | identifier => exact ⟨.word, (Scan.isLexeme_word_iff.1 ⟨.inr rfl, hlexeme⟩).2, nofun⟩
    | number => exact ⟨.number, hlexeme, nofun⟩
    | operator => exact ⟨.operator, hlexeme, fun _ ↦ rfl⟩
    | punctuation => exact ⟨.punctuation, hlexeme, nofun⟩

/-! ### Maximal texts -/

/-- **A token that may end cannot be made longer.** The recognizers would take the one text as well
as the other. -/
theorem eq_nil_of_endsBefore (hwritten : IsWritten kind lexeme text)
    (hend : EndsBefore kind text more.head?) (hlonger : IsTextOf form (text ++ more)) :
    more = [] := by
  obtain ⟨kind', lexeme', hwritten', -⟩ := exists_isWritten_of_isTextOf hlonger
  have hshort := scanToken_of_isWritten hwritten hend
  have hlong : scanToken (text ++ more ++ []) = ⟨text ++ more, .accept kind' lexeme'⟩ :=
    scanToken_of_isWritten hwritten' (endsBefore_none kind' _)
  rw [List.append_nil, hshort] at hlong
  exact List.append_right_eq_self.1 (Scan.mk.inj hlong).1.symm

/-- A token that may end where it stands is legal there. -/
theorem exists_isLegalText_of_isWritten (hwritten : IsWritten kind lexeme text)
    (hend : EndsBefore kind text rest.head?) : ∃ form, IsLegalText form text rest := by
  obtain ⟨form, htext, hkind⟩ := exists_isTextOf_of_isWritten hwritten
  refine ⟨form, htext, fun _ more hmore hlonger ↦ ?_, ?_⟩
  · obtain ⟨rest, rfl⟩ := hmore
    exact eq_nil_of_endsBefore hwritten (endsBefore_of_append hend) hlonger
  · rintro rfl
    rw [hkind rfl] at hend
    exact isPreempted_append_eq_false htext hend

namespace IsLegalText

/-- A legal text cannot be made longer, whatever its form. -/
theorem eq_nil (h : IsLegalText form text rest) (hmore : more <+: rest)
    (hlonger : IsTextOf form (text ++ more)) : more = [] := by
  rcases hform : form.isOpenEnded with - | -
  · obtain ⟨kind, lexeme, hwritten, hend⟩ := exists_isWritten_of_isTextOf h.isTextOf
    exact eq_nil_of_endsBefore hwritten (hend hform _) hlonger
  · exact h.maximal hform more hmore hlonger

/-- The class of a legal text opens where the text stands. -/
theorem opens (h : IsLegalText form text rest) : form.cls.Opens (text ++ rest) := by
  have htext := h.isTextOf
  cases form with
  | word => exact opens_word_of_isWord htext
  | number => exact opens_number_of_isNumber htext
  | operator => exact opens_operator_of_isOperator htext (h.free rfl)
  | punctuation =>
    obtain ⟨c, rfl, hc⟩ := htext
    exact isPunctuation_iff_isMark.2 hc
  | string =>
    obtain ⟨quote, content, rfl, hquote, -⟩ := htext
    exact hquote
  | lineComment =>
    obtain ⟨content, rfl, -⟩ := htext
    exact ⟨rfl, .inl rfl⟩
  | blockComment =>
    obtain ⟨content, rfl, -⟩ := htext
    exact ⟨rfl, .inr rfl⟩

/-- Two characters settle the form of a legal text. -/
theorem form_eq (h : IsLegalText form text rest) (h' : IsLegalText form' text' rest')
    (htext : text ++ rest = text' ++ rest') : form = form' := by
  have hcls : form.cls = form'.cls := by
    have hopens := h.opens
    have hopens' := h'.opens
    rw [← htext] at hopens'
    match hhead : text ++ rest with
    | [] => exact absurd (hhead ▸ hopens) TokenClass.not_opens_nil
    | c :: tail =>
      rw [hhead] at hopens hopens'
      have hclass := TokenClass.classify_of_opens hopens
      exact Option.some.inj (hclass.symm.trans (TokenClass.classify_of_opens hopens'))
  have hcomment {text text' rest rest' : List Char} (h : IsTextOf .lineComment text)
      (h' : IsTextOf .blockComment text') : text ++ rest ≠ text' ++ rest' := by
    obtain ⟨_, rfl, -⟩ := h
    obtain ⟨_, rfl, -⟩ := h'
    simp
  cases form <;> cases form'
  case lineComment.blockComment => exact absurd htext (hcomment h.isTextOf h'.isTextOf)
  case blockComment.lineComment => exact absurd htext.symm (hcomment h'.isTextOf h.isTextOf)
  all_goals first | rfl | cases hcls

/-- **Where a token begins there is one legal text.** -/
theorem unique (h : IsLegalText form text rest) (h' : IsLegalText form' text' rest')
    (htext : text ++ rest = text' ++ rest') : text = text' ∧ rest = rest' := by
  obtain rfl := h.form_eq h' htext
  obtain ⟨more, rfl, rfl⟩ | ⟨more, rfl, rfl⟩ := List.append_eq_append_iff.1 htext
  · obtain rfl := h.eq_nil (List.prefix_append _ _) h'.isTextOf
    simp
  · obtain rfl := h'.eq_nil (List.prefix_append _ _) h.isTextOf
    simp

end IsLegalText

end Grammar

/-! ### Legal divisions -/

namespace Division

/-- A division is legal if its gaps can be skipped and each of its token texts is legal before what
follows it. -/
structure IsLegal (d : Division) : Prop where
  /-- The gaps can be skipped. -/
  hasGaps : d.HasGaps
  /-- The token texts are legal. -/
  text : ∀ before piece after, d.pieces = before ++ piece :: after →
    ∃ form, IsLegalText form piece.text (textOf after ++ d.tail)

variable {piece piece' : Piece} {pieces pieces' : List Piece} {tail tail' : List Char}

theorem isLegal_nil : IsLegal ⟨[], tail⟩ ↔ IsSkipped tail :=
  ⟨fun h ↦ h.hasGaps.2, fun h ↦ ⟨⟨by simp, h⟩, by simp⟩⟩

theorem isLegal_cons : IsLegal ⟨piece :: pieces, tail⟩ ↔
    IsSkipped piece.gap ∧ (∃ form, IsLegalText form piece.text (textOf pieces ++ tail)) ∧
      IsLegal ⟨pieces, tail⟩ := by
  constructor
  · rintro ⟨⟨hgaps, htail⟩, htext⟩
    exact ⟨hgaps piece List.mem_cons_self, htext [] piece pieces rfl,
      ⟨fun p hp ↦ hgaps p (List.mem_cons_of_mem _ hp), htail⟩,
      fun before p after h ↦ htext (piece :: before) p after (congrArg (piece :: ·) h)⟩
  · rintro ⟨hgap, htext, ⟨hgaps, htail⟩, htexts⟩
    refine ⟨⟨List.forall_mem_cons.2 ⟨hgap, hgaps⟩, htail⟩, fun before p after h ↦ ?_⟩
    match before with
    | [] =>
      obtain ⟨rfl, rfl⟩ := List.cons.inj h
      exact htext
    | _ :: before => exact htexts before p after (List.cons.inj h).2

/-- A text with a legal token text in it cannot be skipped. -/
theorem not_isSkipped_of_isLegal (h : IsLegal ⟨piece :: pieces, tail⟩) :
    ¬ IsSkipped (textOf (piece :: pieces) ++ tail) := by
  obtain ⟨-, ⟨form, htext⟩, -⟩ := isLegal_cons.1 h
  intro hskipped
  match hhead : piece.text ++ (textOf pieces ++ tail) with
  | [] => exact absurd (hhead ▸ htext.opens) TokenClass.not_opens_nil
  | c :: _ =>
    have hmem : c ∈ textOf (piece :: pieces) ++ tail := by
      rw [textOf_cons, List.append_assoc, List.append_assoc, hhead]
      simp
    have hgap := htext.opens.isGap_head? c (by rw [hhead]; rfl)
    exact absurd (isSkipped_iff.1 hskipped c hmem) (ne_true_of_eq_false hgap)

/-- Legal divisions of one text have the same pieces and end in the same gap. -/
theorem pieces_eq_of_isLegal (h : IsLegal ⟨pieces, tail⟩) (h' : IsLegal ⟨pieces', tail'⟩)
    (htext : textOf pieces ++ tail = textOf pieces' ++ tail') :
    pieces = pieces' ∧ tail = tail' := by
  induction pieces generalizing pieces' with
  | nil =>
    match pieces' with
    | [] => exact ⟨rfl, htext⟩
    | _ :: _ => exact absurd (htext ▸ isLegal_nil.1 h) (not_isSkipped_of_isLegal h')
  | cons piece pieces ih =>
    match pieces' with
    | [] => exact absurd (htext ▸ isLegal_nil.1 h') (not_isSkipped_of_isLegal h)
    | piece' :: pieces' =>
      obtain ⟨gap, text⟩ := piece
      obtain ⟨gap', text'⟩ := piece'
      obtain ⟨hgap, ⟨form, hpiece⟩, hlegal⟩ := isLegal_cons.1 h
      obtain ⟨hgap', ⟨form', hpiece'⟩, hlegal'⟩ := isLegal_cons.1 h'
      simp only [textOf_cons, List.append_assoc] at htext
      -- first the gaps agree, then the texts behind them, then all that follows
      obtain ⟨rfl, hafterGap⟩ := run_unique (isSkipped_iff.1 hgap) hpiece.opens.isGap_head?
        (isSkipped_iff.1 hgap') hpiece'.opens.isGap_head? htext
      obtain ⟨rfl, hafter⟩ := hpiece.unique hpiece' hafterGap
      obtain ⟨rfl, rfl⟩ := ih hlegal hlegal' hafter
      exact ⟨rfl, rfl⟩

/-- **No text has two legal divisions.** -/
theorem eq_of_isLegal {d d' : Division} (h : d.IsLegal) (h' : d'.IsLegal)
    (htext : d.text = d'.text) : d = d' := by
  obtain ⟨pieces, tail⟩ := d
  obtain ⟨pieces', tail'⟩ := d'
  obtain ⟨rfl, rfl⟩ := pieces_eq_of_isLegal h h' htext
  rfl

end Division

/-- The division of a run is legal. -/
theorem WrittenToken.isLegal_division {ws : List WrittenToken} {gap : List Char}
    (hgap : ∀ c ∈ gap, isGap c = true) (h : IsRun ws gap) : (division ws gap).IsLegal := by
  induction ws with
  | nil => exact Division.isLegal_nil.2 (Division.isSkipped_iff.2 hgap)
  | cons w ws ih =>
    obtain ⟨hend, hrun⟩ := h
    refine Division.isLegal_cons.2 ⟨Division.isSkipped_iff.2 w.isGap_of_mem, ?_, ih hrun⟩
    rw [textOf_map_piece]
    exact exists_isLegalText_of_isWritten w.isWritten hend

/-! ### Accepted sources -/

/-- **Unambiguous segmentation.** The tokens of an accepted source are carried by a legal division
of it, and it has no other legal division. -/
theorem tokenize_legal {source : String} {tokens : List Token}
    (h : tokenize source = .accepted tokens) :
    ∃ (d : Division) (body : List Token),
      tokens = body ++ [⟨.endOfInput, "", Position.start.advanceOver source.toList⟩] ∧
        source.toList = d.text ∧ d.Carries body ∧ d.IsLegal ∧
          ∀ d' : Division, source.toList = d'.text → d'.IsLegal → d' = d := by
  obtain ⟨ws, gap, htext, hrun, hgap, rfl⟩ := WrittenToken.tokenize_eq_accepted_iff.1 h
  have hlegal := WrittenToken.isLegal_division hgap hrun
  rw [← WrittenToken.text_division] at htext
  exact ⟨WrittenToken.division ws gap, WrittenToken.tokensAfter [] ws, rfl, htext,
    WrittenToken.carries_division, hlegal,
    fun d' htext' hlegal' ↦ Division.eq_of_isLegal hlegal' hlegal (htext'.symm.trans htext)⟩

/-- A source in which a plus is an operator and the minus after it is a sign, and in which an
operator grows to four characters and a slash opens a comment. -/
theorem tokenize_legal_signs :
    tokenize "a+-1>>>=b//=" = .accepted
        [⟨.identifier, "a", ⟨1, 1⟩⟩, ⟨.operator, "+", ⟨1, 2⟩⟩, ⟨.number, "-1", ⟨1, 3⟩⟩,
          ⟨.operator, ">>>=", ⟨1, 5⟩⟩, ⟨.identifier, "b", ⟨1, 9⟩⟩, ⟨.comment, "=", ⟨1, 10⟩⟩,
          ⟨.endOfInput, "", ⟨1, 13⟩⟩] ∧
      ∃ d : Division, "a+-1>>>=b//=".toList = d.text ∧ d.Carries
          [⟨.identifier, "a", ⟨1, 1⟩⟩, ⟨.operator, "+", ⟨1, 2⟩⟩, ⟨.number, "-1", ⟨1, 3⟩⟩,
            ⟨.operator, ">>>=", ⟨1, 5⟩⟩, ⟨.identifier, "b", ⟨1, 9⟩⟩, ⟨.comment, "=", ⟨1, 10⟩⟩] ∧
        d.IsLegal ∧ ∀ d' : Division, "a+-1>>>=b//=".toList = d'.text → d'.IsLegal → d' = d := by
  have haccepted : tokenize "a+-1>>>=b//=" = .accepted
      ([⟨.identifier, "a", ⟨1, 1⟩⟩, ⟨.operator, "+", ⟨1, 2⟩⟩, ⟨.number, "-1", ⟨1, 3⟩⟩,
        ⟨.operator, ">>>=", ⟨1, 5⟩⟩, ⟨.identifier, "b", ⟨1, 9⟩⟩, ⟨.comment, "=", ⟨1, 10⟩⟩] ++
        [⟨.endOfInput, "", ⟨1, 13⟩⟩]) := by
    decide +kernel
  obtain ⟨d, body, htokens, htext, hcarries, hlegal, hunique⟩ := tokenize_legal haccepted
  obtain ⟨rfl, -⟩ := List.append_inj' htokens rfl
  exact ⟨haccepted, d, htext, hcarries, hlegal, hunique⟩

end ScriptLexer
