import ScriptLexer.Proofs.Recognition.Delimited
import ScriptLexer.Proofs.Recognition.Number
import ScriptLexer.Segment

/-!
# Tokens at the head of a text

The choice of a recognizer and the six recognizers together. `TokenClass.Opens` says without order
among the classes where a token of a class can begin. The choice by two characters is exactly that
(`TokenClass.opens_of_classify`, `TokenClass.classify_of_opens`), so at most one class fits any
place.

The theorems of this module are the only ones through which the rest of the theory knows the
recognizers:

* `scanToken_eq_accept_iff`: a token is accepted just when it is written at the head of the text and
  may end before what follows.
* `scanToken_reject`: whatever is rejected has a fault of the grammar.
* `scanToken_verdict_ne_misplaced`: no recognizer is asked for what cannot begin.
-/

namespace ScriptLexer

open Grammar

variable {text taken lexeme rest : List Char} {kind : TokenKind} {c : Char} {cls : TokenClass}

/-! ### Characters -/

theorem toNat_of_isDigit (h : c.isDigit = true) : 48 ≤ c.toNat ∧ c.toNat ≤ 57 := by
  simpa [Char.isDigit, UInt32.le_iff_toNat_le] using h

theorem toNat_of_isIdentStart (h : isIdentStart c = true) :
    (65 ≤ c.toNat ∧ c.toNat ≤ 90) ∨ (97 ≤ c.toNat ∧ c.toNat ≤ 122) ∨ c.toNat = 95 ∨
      c.toNat = 36 := by
  have hcases : (c.isUpper || c.isLower || c == '_' || c == '$') = true := h
  simp only [Bool.or_eq_true, beq_iff_eq, or_assoc] at hcases
  obtain hupper | hlower | rfl | rfl := hcases
  · have hrange : 'A'.val ≤ c.val ∧ c.val ≤ 'Z'.val := of_decide_eq_true hupper
    exact .inl (by simpa [UInt32.le_iff_toNat_le] using hrange)
  · have hrange : (decide ('a'.val ≤ c.val) && decide (c.val ≤ 'z'.val)) = true := hlower
    exact .inr (.inl (by simpa [UInt32.le_iff_toNat_le] using hrange))
  · decide
  · decide

theorem isDigit_eq_false_of_isIdentStart (h : isIdentStart c = true) : c.isDigit = false := by
  rw [← Bool.not_eq_true]
  intro hc
  have hdigit := toNat_of_isDigit hc
  have hstart := toNat_of_isIdentStart h
  omega

/-- The characters of operators, punctuation and quotes are no letters, digits, underscores or
dollar signs. -/
theorem isIdentContinue_eq_false_of_symbol
    (h : isOperatorStart c = true ∨ isPunctuation c = true ∨ IsQuote c) :
    isIdentContinue c = false := by
  have table : ((operatorStarts ++ punctuationMarks ++ ['"', '\'']).all
      fun c ↦ !isIdentContinue c) = true := by
    decide
  have hmem : c ∈ operatorStarts ++ punctuationMarks ++ ['"', '\''] := by
    simp only [isOperatorStart, isPunctuation, List.contains_iff_mem, IsQuote] at h
    simpa [or_assoc] using h
  simpa using List.all_eq_true.1 table c hmem

theorem isOperatorStart_of_isSign (h : isSign c = true) : isOperatorStart c = true := by
  have : c = '+' ∨ c = '-' := by simpa [isSign] using h
  rcases this with rfl | rfl <;> decide

/-- Operators, punctuation and quotes have no character in common. -/
theorem isOperatorStart_eq_false (h : isPunctuation c = true ∨ IsQuote c) :
    isOperatorStart c = false := by
  have table : ((punctuationMarks ++ ['"', '\'']).all fun c ↦ !isOperatorStart c) = true := by
    decide
  have hmem : c ∈ punctuationMarks ++ ['"', '\''] := by
    simp only [isPunctuation, List.contains_iff_mem, IsQuote] at h
    simpa using h
  simpa only [Bool.not_eq_true'] using List.all_eq_true.1 table c hmem

theorem not_isQuote_of_isPunctuation (h : isPunctuation c = true) : ¬ IsQuote c := by
  rintro (rfl | rfl) <;> exact absurd h (by decide)

namespace TokenClass

/-! ### Where a token of a class can begin -/

/-- A token of a class can begin with the first character of a text, judged by that character and
the one after it. -/
def Opens : TokenClass → List Char → Prop
  | _, [] => False
  | number, first :: rest =>
    (isSign first = true ∧ Scan.startsWithDigit rest = true) ∨ first.isDigit = true
  | word, first :: _ => isIdentStart first = true
  | string, first :: _ => IsQuote first
  | comment, first :: rest => first = '/' ∧ (rest.head? = some '/' ∨ rest.head? = some '*')
  | operator, first :: rest => isOperatorStart first = true ∧ isPreempted (first :: rest) = false
  | punctuation, first :: _ => isPunctuation first = true

theorem isPreempted_cons_eq_true_iff : isPreempted (c :: rest) = true ↔
    (isSign c = true ∧ Scan.startsWithDigit rest = true) ∨ Opens comment (c :: rest) := by
  match rest with
  | [] => simp [isPreempted, Opens, Scan.startsWithDigit]
  | d :: rest => simp [isPreempted, Opens, Scan.startsWithDigit]

/-- The choice, with its conditions as they are stated for each class. -/
theorem classify_eq (c : Char) (rest : List Char) :
    classify c rest.head? =
      if isSign c = true ∧ Scan.startsWithDigit rest = true then some number
      else if c.isDigit = true then some number
      else if isIdentStart c = true then some word
      else if c = '"' ∨ c = '\'' then some string
      else if c = '/' ∧ (rest.head? = some '/' ∨ rest.head? = some '*') then some comment
      else if isOperatorStart c = true then some operator
      else if isPunctuation c = true then some punctuation
      else none := by
  have hsecond : rest.head?.any (fun d ↦ d = '/' ∨ d = '*') = true ↔
      rest.head? = some '/' ∨ rest.head? = some '*' := by
    cases rest <;> simp
  simp only [classify, hsecond, Scan.startsWithDigit]
  congr!

theorem opens_of_classify (h : classify c rest.head? = some cls) : cls.Opens (c :: rest) := by
  rw [classify_eq] at h
  split at h
  · next hsign => exact Option.some.inj h ▸ .inl hsign
  split at h
  · next hdigit => exact Option.some.inj h ▸ .inr hdigit
  split at h
  · next hstart => exact Option.some.inj h ▸ hstart
  split at h
  · next hquote => exact Option.some.inj h ▸ hquote
  split at h
  · next hslash => exact Option.some.inj h ▸ hslash
  split at h
  · next hnosign _ _ _ hnocomment hoperator =>
    obtain rfl := Option.some.inj h
    refine ⟨hoperator, ?_⟩
    rw [← Bool.not_eq_true, isPreempted_cons_eq_true_iff]
    exact not_or.2 ⟨hnosign, hnocomment⟩
  split at h
  · next hmark => exact Option.some.inj h ▸ hmark
  · cases h

theorem classify_of_opens (h : cls.Opens (c :: rest)) : classify c rest.head? = some cls := by
  -- no earlier condition of the chain holds of the first character of a later class
  have hsymbol (hc : isOperatorStart c = true ∨ isPunctuation c = true ∨ IsQuote c) :
      isIdentStart c = false ∧ c.isDigit = false := by
    simpa [isIdentContinue_eq] using isIdentContinue_eq_false_of_symbol hc
  have hnosign (hc : isOperatorStart c = false) : isSign c = false := by
    rw [← Bool.not_eq_true] at hc ⊢
    exact fun hs ↦ hc (isOperatorStart_of_isSign hs)
  rw [classify_eq]
  cases cls with
  | number =>
    obtain hsign | hdigit := h
    · rw [if_pos hsign]
    · rw [if_pos hdigit, ite_self]
  | word =>
    have hstart : isIdentStart c = true := h
    have hdigit := isDigit_eq_false_of_isIdentStart hstart
    have hoperator : isOperatorStart c = false := by
      rw [← Bool.not_eq_true]
      exact fun hc ↦ absurd hstart (ne_true_of_eq_false (hsymbol (.inl hc)).1)
    simp [hnosign hoperator, hdigit, hstart]
  | string =>
    have hquote : c = '"' ∨ c = '\'' := h
    obtain ⟨hstart, hdigit⟩ := hsymbol (.inr (.inr hquote))
    simp [hnosign (isOperatorStart_eq_false (.inr hquote)), hstart, hdigit, hquote]
  | comment =>
    obtain ⟨rfl, hsecond⟩ := h
    have hsign : ¬ (isSign '/' = true ∧ Scan.startsWithDigit rest = true) := fun hc ↦
      absurd hc.1 (by decide)
    rw [if_neg hsign, if_neg (by decide), if_neg (by decide), if_neg (by decide),
      if_pos ⟨rfl, hsecond⟩]
  | operator =>
    obtain ⟨hoperator, hfree⟩ := h
    rw [← Bool.not_eq_true, isPreempted_cons_eq_true_iff, not_or] at hfree
    obtain ⟨hnosign, hnocomment⟩ := hfree
    rw [Opens] at hnocomment
    obtain ⟨hstart, hdigit⟩ := hsymbol (.inl hoperator)
    have hquote : ¬ (c = '"' ∨ c = '\'') := fun hc ↦
      absurd hoperator (ne_true_of_eq_false (isOperatorStart_eq_false (.inr hc)))
    rw [if_neg hnosign, if_neg (ne_true_of_eq_false hdigit), if_neg (ne_true_of_eq_false hstart),
      if_neg hquote, if_neg hnocomment, if_pos hoperator]
  | punctuation =>
    have hmark : isPunctuation c = true := h
    obtain ⟨hstart, hdigit⟩ := hsymbol (.inr (.inl hmark))
    have hoperator := isOperatorStart_eq_false (.inl hmark)
    have hquote : ¬ (c = '"' ∨ c = '\'') := not_isQuote_of_isPunctuation hmark
    have hslash : c ≠ '/' := by
      rintro rfl
      exact absurd hmark (by decide)
    simp [hnosign hoperator, hstart, hdigit, hoperator, hquote, hslash, hmark]

/-! ### Gaps -/

/-- Tokens begin with visible characters of ASCII. -/
theorem Opens.toNat_mem (h : cls.Opens (c :: rest)) : 33 ≤ c.toNat ∧ c.toNat ≤ 126 := by
  have hsymbol (hc : c ∈ operatorStarts ++ punctuationMarks ++ ['"', '\'']) :
      33 ≤ c.toNat ∧ c.toNat ≤ 126 := by
    have table : ((operatorStarts ++ punctuationMarks ++ ['"', '\'']).all
        fun c ↦ decide (33 ≤ c.toNat ∧ c.toNat ≤ 126)) = true := by
      decide
    exact of_decide_eq_true (List.all_eq_true.1 table c hc)
  have hoperator (hc : isOperatorStart c = true) : 33 ≤ c.toNat ∧ c.toNat ≤ 126 :=
    hsymbol (by simp_all [isOperatorStart])
  cases cls with
  | number =>
    obtain ⟨hsign, -⟩ | hdigit := h
    · exact hoperator (isOperatorStart_of_isSign hsign)
    · have := toNat_of_isDigit hdigit
      omega
  | word =>
    have := toNat_of_isIdentStart h
    omega
  | string =>
    have hquote : c = '"' ∨ c = '\'' := h
    exact hsymbol (by simp [hquote])
  | comment => exact hoperator (h.1 ▸ by decide)
  | operator => exact hoperator h.1
  | punctuation =>
    have hmark : isPunctuation c = true := h
    exact hsymbol (by simp_all [isPunctuation])

/-- Whitespace begins no token. -/
theorem classify_of_isWhitespace (second : Option Char) (h : isWhitespace c = true) :
    classify c second = none := by
  -- the table of whitespace leaves out the visible characters of ASCII
  have hspace : c.toNat ≤ 32 ∨ 133 ≤ c.toNat := by
    simp only [isWhitespace, CodeRange.anyContains, whitespaceTable, CodeRange.contains,
      List.any_cons, List.any_nil, Bool.or_eq_true, Bool.and_eq_true, decide_eq_true_eq,
      Bool.or_false] at h
    omega
  rw [Option.eq_none_iff_forall_ne_some]
  intro cls hcls
  have hopens : cls.Opens (c :: second.toList) := opens_of_classify (by rwa [Option.head?_toList])
  have := hopens.toNat_mem
  omega

end TokenClass

/-- **What is skipped**: whitespace and the characters that have no class, whatever follows them. -/
theorem isGap_iff : isGap c = true ↔
    isWhitespace c = true ∨ ∀ second, TokenClass.classify c second = none := by
  rw [isGap, Bool.or_eq_true]
  refine or_congr_right ⟨fun h second ↦ (TokenClass.classify_eq_none_iff second).2 h, fun h ↦ ?_⟩
  exact (TokenClass.classify_eq_none_iff none).1 (h none)

/-- No token begins with a character of a gap. -/
theorem TokenClass.Opens.isGap_eq_false (h : cls.Opens (c :: rest)) : isGap c = false := by
  have hclass := TokenClass.classify_of_opens h
  rw [← Bool.not_eq_true, isGap_iff]
  rintro (hspace | hnone)
  · rw [TokenClass.classify_of_isWhitespace _ hspace] at hclass
    cases hclass
  · rw [hnone] at hclass
    cases hclass

theorem TokenClass.Opens.isGap_head? (h : cls.Opens text) : ∀ c ∈ text.head?, isGap c = false := by
  match text with
  | [] => simp
  | c :: rest =>
    rintro _ ⟨⟩
    exact h.isGap_eq_false

/-- Every character outside of a gap begins a token of some class. -/
theorem exists_opens_of_isGap_eq_false (rest : List Char) (h : isGap c = false) :
    ∃ cls : TokenClass, cls.Opens (c :: rest) := by
  have hclass : TokenClass.classify c rest.head? ≠ none := by
    rw [Ne, TokenClass.classify_eq_none_iff]
    rw [isGap, Bool.or_eq_false_iff] at h
    exact ne_true_of_eq_false h.2
  obtain ⟨cls, hcls⟩ := Option.ne_none_iff_exists'.1 hclass
  exact ⟨cls, TokenClass.opens_of_classify hcls⟩

/-! ### The six recognizers together -/

theorem TokenClass.not_opens_nil : ¬ cls.Opens [] := by
  cases cls <;> exact id

theorem scanToken_of_opens (h : cls.Opens text) : scanToken text = cls.recognizer text := by
  match text with
  | [] => exact absurd h TokenClass.not_opens_nil
  | c :: rest => rw [scanToken, TokenClass.classify_of_opens h]

theorem isQuote_ne (h : IsQuote c) : c ≠ '\\' ∧ c ≠ '\n' := by
  rcases h with rfl | rfl <;> decide

theorem opens_word_of_isWord (h : IsWord text) : TokenClass.Opens .word (text ++ rest) := by
  obtain ⟨c, tail, rfl, hc, -⟩ := h
  exact hc

theorem opens_number_of_startsWithDigit (h : Scan.startsWithDigit text = true) :
    TokenClass.Opens .number text := by
  match text with
  | [] => cases h
  | d :: ds => exact .inr h

theorem opens_number_of_isNumber (h : IsNumber text) :
    TokenClass.Opens .number (text ++ rest) := by
  obtain ⟨sign, whole, frac, power, rfl, hsign, hwhole, -, -⟩ := h
  have hdigit : Scan.startsWithDigit (whole ++ (frac ++ power) ++ rest) = true := by
    rw [List.append_assoc]
    exact Scan.startsWithDigit_wholePart_append hwhole
  obtain rfl | ⟨s, rfl, hs⟩ := hsign
  · exact opens_number_of_startsWithDigit hdigit
  · exact .inl ⟨isSign_iff.2 hs, hdigit⟩

/-- Operators open as operators do unless they are kept from it. -/
theorem opens_operator_of_isOperator (h : IsOperator text)
    (hfree : isPreempted (text ++ rest) = false) : TokenClass.Opens .operator (text ++ rest) := by
  match text with
  | [] => exact absurd h (by decide)
  | _ :: _ => exact ⟨Scan.isOperatorStart_of_isOperator (isOperator_iff.2 h), hfree⟩

/-- An operator that may end is not kept from beginning: if not by its own text, then by the
character after it. -/
theorem isPreempted_append_eq_false (h : IsOperator text)
    (hend : EndsBefore .operator text rest.head?) : isPreempted (text ++ rest) = false := by
  match text, rest with
  | [], _ => exact absurd h (by decide)
  | [_], [] => rfl
  | [_], d :: _ => exact (hend d rfl).2
  | _ :: _ :: _, _ => simpa [isPreempted] using isPreempted_of_isOperator h

/-- A written token is accepted wherever it may end. -/
theorem scanToken_of_isWritten (h : IsWritten kind lexeme taken)
    (hend : EndsBefore kind taken rest.head?) :
    scanToken (taken ++ rest) = ⟨taken, .accept kind lexeme⟩ := by
  cases h with
  | @string quote _ hquote hcontent =>
    obtain ⟨hslash, hnewline⟩ := isQuote_ne hquote
    have hopens : TokenClass.Opens .string (quote :: (lexeme ++ [quote]) ++ rest) := hquote
    rw [scanToken_of_opens hopens]
    exact Scan.stringLiteral_eq_accept_iff.2
      ⟨rfl, quote, hslash, hnewline, hcontent, rfl, rest, rfl⟩
  | line hline =>
    have hopens : TokenClass.Opens .comment ('/' :: '/' :: lexeme ++ rest) := ⟨rfl, .inl rfl⟩
    rw [scanToken_of_opens hopens]
    exact Scan.comment_eq_accept_iff.2 ⟨rfl, .line hline, rest, rfl, hend⟩
  | block hblock =>
    have hopens : TokenClass.Opens .comment ('/' :: '*' :: (lexeme ++ ['*', '/']) ++ rest) :=
      ⟨rfl, .inr rfl⟩
    rw [scanToken_of_opens hopens]
    exact Scan.comment_eq_accept_iff.2 ⟨rfl, .block hblock, rest, rfl, hend⟩
  | verbatim hstring hcomment hmark hlexeme =>
    cases kind with
    | string => exact absurd rfl hstring
    | comment => exact absurd rfl hcomment
    | endOfInput => exact absurd rfl hmark
    | keyword =>
      obtain ⟨hkind, hword⟩ := Scan.isLexeme_word_iff.1 ⟨.inl rfl, hlexeme⟩
      rw [scanToken_of_opens (opens_word_of_isWord hword)]
      exact Scan.word_eq_accept_iff.2 ⟨hkind, rfl, hword, rest, rfl, hend⟩
    | identifier =>
      obtain ⟨hkind, hword⟩ := Scan.isLexeme_word_iff.1 ⟨.inr rfl, hlexeme⟩
      rw [scanToken_of_opens (opens_word_of_isWord hword)]
      exact Scan.word_eq_accept_iff.2 ⟨hkind, rfl, hword, rest, rfl, hend⟩
    | number =>
      rw [scanToken_of_opens (opens_number_of_isNumber hlexeme)]
      exact Scan.number_eq_accept_iff.2 ⟨rfl, rfl, hlexeme, rest, rfl, hend⟩
    | operator =>
      have hfree := isPreempted_append_eq_false hlexeme hend
      rw [scanToken_of_opens (opens_operator_of_isOperator hlexeme hfree)]
      exact Scan.operator_eq_accept_iff.2
        ⟨rfl, rfl, hlexeme, rest, rfl, fun c hc ↦ (hend c hc).1⟩
    | punctuation =>
      obtain ⟨c, rfl, hc⟩ := hlexeme
      have hopens : TokenClass.Opens .punctuation ([c] ++ rest) := isPunctuation_iff_isMark.2 hc
      rw [scanToken_of_opens hopens]
      exact Scan.punctuation_cons c rest

/-- An operator that is accepted where operators can begin may end where it ends. -/
theorem endsBefore_operator (hopens : TokenClass.Opens .operator (taken ++ rest))
    (hoperator : IsOperator taken) (hstop : ∀ c ∈ rest.head?, ¬ IsOperator (taken ++ [c])) :
    EndsBefore .operator taken rest.head? := by
  intro c hc
  refine ⟨hstop c hc, ?_⟩
  obtain ⟨rest, rfl⟩ := List.head?_eq_some_iff.1 hc
  match taken with
  | [] => exact absurd hoperator (by decide)
  | [a] => exact hopens.2
  | a :: b :: taken => simpa [isPreempted] using hopens.2

/-- What a recognizer accepts where its class opens is written at the head of the text, and may end
where it ends. -/
theorem isWritten_of_recognizer (hopens : cls.Opens text)
    (h : cls.recognizer text = ⟨taken, .accept kind lexeme⟩) :
    IsWritten kind lexeme taken ∧
      ∃ rest, text = taken ++ rest ∧ EndsBefore kind taken rest.head? := by
  match text with
  | [] => exact absurd hopens TokenClass.not_opens_nil
  | first :: tail =>
    cases cls with
    | number =>
      obtain ⟨rfl, rfl, hnumber, rest, htext, hend⟩ := Scan.number_eq_accept_iff.1 h
      exact ⟨.verbatim (by simp) (by simp) (by simp) hnumber, rest, htext, hend⟩
    | word =>
      change Scan.word (first :: tail) = _ at h
      obtain ⟨hkind, rfl, hword, rest, htext, hend⟩ := Scan.word_eq_accept_iff.1 h
      obtain ⟨rfl | rfl, hlexeme⟩ := Scan.isLexeme_word_iff.2 ⟨hkind, hword⟩
      · exact ⟨.verbatim (by simp) (by simp) (by simp) hlexeme, rest, htext, hend⟩
      · exact ⟨.verbatim (by simp) (by simp) (by simp) hlexeme, rest, htext, hend⟩
    | string =>
      change Scan.stringLiteral (first :: tail) = _ at h
      obtain ⟨rfl, quote, -, -, hcontent, rfl, rest, htext⟩ :=
        Scan.stringLiteral_eq_accept_iff.1 h
      obtain ⟨rfl, -⟩ := List.cons.inj htext
      exact ⟨.string hopens hcontent, rest, htext, trivial⟩
    | comment =>
      obtain ⟨rfl, hwritten, rest, htext, hend⟩ := Scan.comment_eq_accept_iff.1 h
      exact ⟨hwritten, rest, htext, hend⟩
    | operator =>
      obtain ⟨rfl, rfl, hoperator, rest, htext, hstop⟩ := Scan.operator_eq_accept_iff.1 h
      exact ⟨.verbatim (by simp) (by simp) (by simp) hoperator, rest, htext,
        endsBefore_operator (htext ▸ hopens) hoperator hstop⟩
    | punctuation =>
      obtain ⟨rfl, rfl, rfl⟩ := Scan.verbatim_eq_accept_iff.1 h
      have hmark : IsMark first := isPunctuation_iff_isMark.1 hopens
      exact ⟨.verbatim (by simp) (by simp) (by simp) ⟨first, rfl, hmark⟩, tail, rfl, trivial⟩

/-- **What is accepted.** A token is accepted just when it is written at the head of the text and
may end before what follows; an empty text has the end mark. -/
theorem scanToken_eq_accept_iff (hne : text ≠ []) :
    scanToken text = ⟨taken, .accept kind lexeme⟩ ↔ IsWritten kind lexeme taken ∧
      ∃ rest, text = taken ++ rest ∧ EndsBefore kind taken rest.head? := by
  constructor
  · intro h
    fun_cases scanToken text with
    | case1 => exact absurd rfl hne
    | case2 first tail cls hcls =>
      have hopens := TokenClass.opens_of_classify hcls
      rw [scanToken_of_opens hopens] at h
      exact isWritten_of_recognizer hopens h
    | case3 first tail hcls =>
      rw [scanToken, hcls] at h
      cases h
  · rintro ⟨hwritten, rest, rfl, hend⟩
    exact scanToken_of_isWritten hwritten hend

/-- No number begins where the digits of its whole part are missing. -/
theorem not_opens_number_of_lacksWholePart (h : Scan.LacksWholePart taken rest) :
    ¬ TokenClass.Opens .number (taken ++ rest) := by
  obtain ⟨rfl | ⟨s, rfl, hs⟩, hnosign, hdigit⟩ := h
  · match rest with
    | [] => exact id
    | c :: rest =>
      rintro (⟨hsign, -⟩ | hc)
      · exact absurd hsign (ne_true_of_eq_false (hnosign rfl c rfl))
      · exact absurd hc (ne_true_of_eq_false hdigit)
  · rintro (⟨-, hstarts⟩ | hc)
    · exact absurd hstarts (ne_true_of_eq_false hdigit)
    · obtain rfl | rfl := hs
      · exact absurd hc (by decide)
      · exact absurd hc (by decide)

/-- **What is rejected** has a fault of the grammar. -/
theorem scanToken_reject {cause : Cause} (h : scanToken text = ⟨taken, .reject cause⟩) :
    ∃ rest, text = taken ++ rest ∧ IsFault cause taken rest := by
  fun_cases scanToken text with
  | case1 => cases h
  | case2 first tail cls hcls =>
    have hopens := TokenClass.opens_of_classify hcls
    rw [scanToken_of_opens hopens] at h
    cases cls with
    | number =>
      obtain ⟨rest, htext, hfault | hlacks⟩ := Scan.number_reject h
      · exact ⟨rest, htext, hfault⟩
      · exact absurd (htext ▸ hopens) (not_opens_number_of_lacksWholePart hlacks)
    | word =>
      obtain ⟨_, hword⟩ := Scan.exists_word_eq_accept tail hopens
      exact absurd (hword.symm.trans h) (by simp [Scan.verbatim])
    | string =>
      exact Scan.stringLiteral_reject hopens h
    | comment =>
      obtain ⟨htext, hfault⟩ := Scan.comment_reject h
      exact ⟨[], by rw [htext, List.append_nil], hfault⟩
    | operator =>
      obtain ⟨_, hoperator⟩ := Scan.exists_operator_eq_accept tail hopens.1
      exact absurd (hoperator.symm.trans h) (by simp [Scan.verbatim])
    | punctuation => cases h
  | case3 first tail hcls =>
    rw [scanToken, hcls] at h
    cases h

/-- **Nothing is misplaced** where a gap has ended. -/
theorem scanToken_verdict_ne_misplaced (h : ∀ c ∈ text.head?, isGap c = false) :
    (scanToken text).verdict ≠ .misplaced := by
  cases text with
  | nil => simp [scanToken]
  | cons c tail =>
    obtain ⟨cls, hopens⟩ := exists_opens_of_isGap_eq_false tail (h c rfl)
    rw [scanToken_of_opens hopens]
    cases cls with
    | number => exact Scan.number_verdict_ne_misplaced _
    | word =>
      obtain ⟨_, hword⟩ := Scan.exists_word_eq_accept tail hopens
      simp [TokenClass.recognizer, hword, Scan.verbatim]
    | string => exact Scan.stringLiteral_verdict_ne_misplaced _
    | comment =>
      obtain ⟨rfl, hsecond⟩ := hopens
      obtain _ | ⟨second, tail⟩ := tail
      · simp at hsecond
      · have hsecond : second = '/' ∨ second = '*' := by simpa using hsecond
        exact fun h ↦ Scan.comment_verdict_eq_misplaced_iff.1 h (by simpa [eq_comm] using hsecond)
    | operator =>
      obtain ⟨_, hoperator⟩ := Scan.exists_operator_eq_accept tail hopens.1
      simp [TokenClass.recognizer, hoperator, Scan.verbatim]
    | punctuation => simp [TokenClass.recognizer, Scan.punctuation_cons, Scan.verbatim]

end ScriptLexer
