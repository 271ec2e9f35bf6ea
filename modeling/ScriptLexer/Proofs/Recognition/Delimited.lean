import ScriptLexer.Proofs.Boundary
import ScriptLexer.Proofs.LongestRun

/-!
# Strings and comments

The two kinds of tokens whose lexeme lies between delimiters. For each recognizer the exact
condition under which it accepts, and the fault of what it rejects.

Both closing delimiters are found by a search from the left, and in both cases the search cannot
miss one. In a string that is because content is made of units, so that a quote in second place of
an escape is never looked at (`stringBody_units`); in a block comment because content that does not
contain the closing delimiter cannot form one together with the delimiter's star
(`beforeTerminator?_append`).
-/

namespace ScriptLexer.Scan

open Grammar

variable {text taken lexeme content rest : List Char} {kind : TokenKind} {quote : Char}

/-! ### Strings -/

@[simp] theorem StringBody.after_content (lead : List Char) (b : StringBody) :
    (b.after lead).content = lead ++ b.content :=
  rfl

@[simp] theorem StringBody.after_closed (lead : List Char) (b : StringBody) :
    (b.after lead).closed = b.closed :=
  rfl

/-- The body of a literal goes through all units at its head, whatever comes after them. -/
theorem stringBody_units (h : IsStringContent quote content) (rest : List Char) :
    stringBody quote (content ++ rest) = (stringBody quote rest).after content := by
  induction h with
  | nil => rfl
  | escaped c _ ih =>
    rw [List.cons_append, List.cons_append, stringBody, ih]
    rfl
  | plain hc hquote hline _ ih =>
    rw [List.cons_append, stringBody, if_neg hline, if_neg hquote, ih]
    · rfl
    all_goals simp [hc]

/-- The first quote that is not in second place of an escape closes a literal. -/
theorem stringBody_append (hslash : quote ≠ '\\') (hnewline : quote ≠ '\n')
    (h : IsStringContent quote content) :
    stringBody quote (content ++ quote :: rest) = ⟨content, true⟩ := by
  have hquote : stringBody quote (quote :: rest) = ⟨[], true⟩ := by
    rw [stringBody, if_neg hnewline, if_pos rfl] <;> simp [hslash]
  rw [stringBody_units h, hquote]
  simp [StringBody.after]

/-- The content of a closed literal is made of units, and its quote is not a backslash or a newline,
which have another meaning in the body. -/
theorem isStringContent_of_closed (h : (stringBody quote text).closed = true) :
    quote ≠ '\\' ∧ quote ≠ '\n' ∧ IsStringContent quote (stringBody quote text).content := by
  fun_induction stringBody quote text with
  | case1 | case2 | case4 => simp at h
  | case3 c rest ih =>
    obtain ⟨hslash, hnewline, hcontent⟩ := ih h
    exact ⟨hslash, hnewline, .escaped c hcontent⟩
  | case5 rest hlast hescape hnewline =>
    exact ⟨ne_backslash hlast hescape, hnewline, .nil⟩
  | case6 c rest hlast hescape hnewline hquote ih =>
    obtain ⟨hslash, hline, hcontent⟩ := ih h
    exact ⟨hslash, hline, .plain (ne_backslash hlast hescape) hquote hnewline hcontent⟩

/-- A literal that is not closed is made of units up to a newline or the end of the text, or up to a
backslash with which the text ends. -/
theorem stringBody_open (h : (stringBody quote text).closed = false) :
    (IsStringContent quote (stringBody quote text).content ∧
        ∃ rest, text = (stringBody quote text).content ++ rest ∧ ∀ c ∈ rest.head?, c = '\n') ∨
      ∃ units, IsStringContent quote units ∧ (stringBody quote text).content = units ++ ['\\'] ∧
        text = units ++ ['\\'] := by
  fun_induction stringBody quote text with
  | case1 => exact .inl ⟨.nil, [], rfl, by simp⟩
  -- only here the backslash is the last character
  | case2 => exact .inr ⟨[], .nil, rfl, rfl⟩
  | case3 c rest ih =>
    obtain ⟨hcontent, tail, htail, hend⟩ | ⟨units, hunits, hcontent, htext⟩ := ih h
    · exact .inl ⟨.escaped c hcontent, tail, congrArg ('\\' :: c :: ·) htail, hend⟩
    · exact .inr ⟨'\\' :: c :: units, .escaped c hunits, congrArg ('\\' :: c :: ·) hcontent,
        congrArg ('\\' :: c :: ·) htext⟩
  | case4 rest hlast hescape => exact .inl ⟨.nil, '\n' :: rest, rfl, by simp⟩
  | case5 => simp at h
  | case6 c rest hlast hescape hnewline hquote ih =>
    have hslash := ne_backslash hlast hescape
    obtain ⟨hcontent, tail, htail, hend⟩ | ⟨units, hunits, hcontent, htext⟩ := ih h
    · exact .inl ⟨.plain hslash hquote hnewline hcontent, tail, congrArg (c :: ·) htail, hend⟩
    · exact .inr ⟨c :: units, .plain hslash hquote hnewline hunits, congrArg (c :: ·) hcontent,
        congrArg (c :: ·) htext⟩

/-- **String literals end at their closing quote.** -/
theorem stringLiteral_eq_accept_iff :
    stringLiteral text = ⟨taken, .accept kind lexeme⟩ ↔
      kind = .string ∧ ∃ quote, quote ≠ '\\' ∧ quote ≠ '\n' ∧ IsStringContent quote lexeme ∧
        taken = quote :: (lexeme ++ [quote]) ∧ ∃ rest, text = taken ++ rest := by
  constructor
  · intro h
    fun_cases stringLiteral text with
    | case1 => cases h
    | case2 quote rest body hclosed =>
      rw [stringLiteral, if_pos hclosed] at h
      obtain ⟨rfl, rfl, rfl⟩ := accept_inj h
      obtain ⟨hslash, hnewline, hcontent⟩ := isStringContent_of_closed hclosed
      obtain ⟨tail, htail⟩ := stringBody_content_quote_isPrefix hclosed
      exact ⟨rfl, quote, hslash, hnewline, hcontent, rfl, tail, congrArg (quote :: ·) htail.symm⟩
    | case3 quote rest body hopen =>
      rw [stringLiteral, if_neg hopen] at h
      cases h
  · rintro ⟨rfl, quote, hslash, hnewline, hcontent, rfl, rest, rfl⟩
    have hbody : stringBody quote (lexeme ++ quote :: rest) = ⟨lexeme, true⟩ :=
      stringBody_append hslash hnewline hcontent
    simp [stringLiteral, hbody]

/-- **A literal that is rejected is not closed.** -/
theorem stringLiteral_reject {cause : Cause} (hquote : IsQuote quote)
    (h : stringLiteral (quote :: text) = ⟨taken, .reject cause⟩) :
    ∃ rest, quote :: text = taken ++ rest ∧ IsFault cause taken rest := by
  rw [stringLiteral] at h
  split at h
  · cases h
  · next hopen =>
    obtain ⟨rfl, rfl⟩ := reject_inj h
    obtain ⟨hcontent, rest, htext, hend⟩ | ⟨units, hunits, hcontent, htext⟩ :=
      stringBody_open (eq_false_of_ne_true hopen)
    · exact ⟨rest, congrArg (quote :: ·) htext, .unclosed hquote hcontent hend⟩
    · rw [hcontent]
      exact ⟨[], by simp [htext], .escape hquote hunits⟩

theorem stringLiteral_verdict_ne_misplaced (text : List Char) :
    (stringLiteral text).verdict ≠ .misplaced := by
  fun_cases stringLiteral text <;> simp_all

/-! ### Comments -/

theorem isBlockContent_cons {c : Char} :
    IsBlockContent (c :: content) ↔
      ¬ (c = '*' ∧ content.head? = some '/') ∧ IsBlockContent content := by
  have hprefix : ['*', '/'] <+: c :: content ↔ c = '*' ∧ content.head? = some '/' := by
    match content with
    | [] => simp
    | d :: content => simp [eq_comm]
  rw [IsBlockContent, List.infix_cons_iff, hprefix, not_or, IsBlockContent]

/-- The first star and slash are found behind content that does not contain them. -/
theorem beforeTerminator?_append (h : IsBlockContent content) :
    beforeTerminator? (content ++ '*' :: '/' :: rest) = some content := by
  induction content with
  | nil => rfl
  | cons c content ih =>
    obtain ⟨hstart, hcontent⟩ := isBlockContent_cons.1 h
    rw [List.cons_append, beforeTerminator?, ih hcontent, Option.map_some]
    -- the delimiter's own star cannot be the slash that would close the comment early
    rintro tail rfl htail
    match content with
    | [] => simp at htail
    | d :: content => exact hstart ⟨rfl, by simp_all⟩

/-- A text splits at its first star and slash, or is free of them. -/
theorem beforeTerminator?_cases (text : List Char) :
    (∃ content rest, beforeTerminator? text = some content ∧ IsBlockContent content ∧
        text = content ++ '*' :: '/' :: rest) ∨
      beforeTerminator? text = none ∧ IsBlockContent text := by
  fun_induction beforeTerminator? text with
  | case1 => exact .inr ⟨rfl, by simp [IsBlockContent]⟩
  | case2 rest => exact .inl ⟨[], rest, rfl, by simp [IsBlockContent], rfl⟩
  | case3 c rest hne ih =>
    have hstart : ¬ (c = '*' ∧ rest.head? = some '/') := by
      rintro ⟨rfl, hhead⟩
      obtain ⟨tail, rfl⟩ := List.head?_eq_some_iff.1 hhead
      exact hne tail rfl rfl
    obtain ⟨content, tail, hbefore, hcontent, rfl⟩ | ⟨hbefore, hrest⟩ := ih
    · refine .inl ⟨c :: content, tail, by simp [hbefore], isBlockContent_cons.2 ⟨?_, hcontent⟩, rfl⟩
      rintro ⟨hc, hhead⟩
      exact hstart ⟨hc, by simp [hhead]⟩
    · exact .inr ⟨by simp [hbefore], isBlockContent_cons.2 ⟨hstart, hrest⟩⟩

/-- **Comments end at their first closing delimiter**, or at the end of their line. -/
theorem comment_eq_accept_iff :
    comment text = ⟨taken, .accept kind lexeme⟩ ↔
      kind = .comment ∧ IsWritten .comment lexeme taken ∧
        ∃ rest, text = taken ++ rest ∧ EndsBefore .comment taken rest.head? := by
  constructor
  · intro h
    fun_cases comment text with
    | case1 rest content =>
      obtain ⟨rfl, rfl, rfl⟩ := accept_inj h
      refine ⟨rfl, .line ?_, rest.dropWhile (· ≠ '\n'), ?_, fun _ c hc ↦ ?_⟩
      · intro hmem
        simpa using List.mem_takeWhile_imp hmem
      · rw [List.cons_append, List.cons_append, List.takeWhile_append_dropWhile]
      · simpa using eq_false_of_mem_head?_dropWhile c hc
    | case2 rest content hbefore =>
      rw [comment, hbefore] at h
      obtain ⟨rfl, rfl, rfl⟩ := accept_inj h
      obtain ⟨_, tail, hsome, hcontent, rfl⟩ | ⟨hnone, -⟩ := beforeTerminator?_cases rest
      · obtain rfl := Option.some.inj (hbefore.symm.trans hsome)
        exact ⟨rfl, .block hcontent, tail, by simp, by simp [EndsBefore]⟩
      · exact absurd (hbefore.symm.trans hnone) (by simp)
    | case3 rest hbefore =>
      rw [comment, hbefore] at h
      cases h
    | case4 | case5 => simp_all [comment]
  · rintro ⟨rfl, hwritten, rest, rfl, hend⟩
    cases hwritten with
    | line hline =>
      have hrun : ∀ c ∈ lexeme, decide (c ≠ '\n') = true := fun c hc ↦
        decide_eq_true fun hnewline ↦ hline (hnewline ▸ hc)
      have hstop : ∀ c ∈ rest.head?, decide (c ≠ '\n') = false := fun c hc ↦ by
        simpa using hend (by simp) c hc
      simp only [List.cons_append, comment, takeWhile_run hrun hstop]
    | block hcontent => simp [comment, beforeTerminator?_append hcontent]
    | verbatim _ hcomment => exact absurd rfl hcomment

/-- **A comment that is rejected is not closed.** -/
theorem comment_reject {cause : Cause} (h : comment text = ⟨taken, .reject cause⟩) :
    text = taken ∧ IsFault cause taken [] := by
  fun_cases comment text with
  | case1 | case4 | case5 => simp_all [comment]
  | case2 rest content hbefore =>
    rw [comment, hbefore] at h
    cases h
  | case3 rest hbefore =>
    rw [comment, hbefore] at h
    obtain ⟨rfl, rfl⟩ := reject_inj h
    obtain ⟨_, _, hsome, -⟩ | ⟨-, hcontent⟩ := beforeTerminator?_cases rest
    · exact absurd (hbefore.symm.trans hsome) (by simp)
    · exact ⟨rfl, .comment hcontent⟩

/-- A comment is misplaced just where none can begin. -/
theorem comment_verdict_eq_misplaced_iff :
    (comment text).verdict = .misplaced ↔ ¬ (['/', '/'] <+: text ∨ ['/', '*'] <+: text) := by
  fun_cases comment text with
  | case1 | case2 | case3 => simp_all
  | case4 rest hline hblock =>
    cases rest with
    | nil => simp
    | cons second rest =>
      have hsecond : second ≠ '/' ∧ second ≠ '*' := by
        constructor
        · rintro rfl
          exact hline rest rfl
        · rintro rfl
          exact hblock rest rfl
      simp [hsecond.1.symm, hsecond.2.symm]
  | case5 text _ _ hslash =>
    cases text with
    | nil => simp
    | cons first rest =>
      have hfirst : first ≠ '/' := by
        rintro rfl
        exact hslash rest rfl
      simp [hfirst.symm]

end ScriptLexer.Scan
