import ScriptLexer.Proofs.Recognition.Token

/-!
# Faults at the head of a text

The converse of `scanToken_reject`: wherever a faulty token stands, it is rejected for its cause,
and what has been taken of it is the text of the fault. The faults of the grammar are therefore all
faults that there are, and none of them is ever taken for a token (`scanToken_eq_reject_iff`).

As with tokens, the text after a fault counts by its first character only. A fault that leaves
something behind it is the same fault in every longer text (`Grammar.IsFault.append`). The faults
that the end of the text alone brings about are the others.
-/

namespace ScriptLexer

open Grammar

variable {text taken rest sign whole frac power content : List Char} {cause : Cause} {quote : Char}

/-- A fault that leaves something behind it does not depend on where the text ends. -/
theorem Grammar.IsFault.append (h : IsFault cause taken rest) (hrest : rest ≠ [])
    (more : List Char) : IsFault cause taken (rest ++ more) := by
  obtain ⟨c, rest, rfl⟩ := List.exists_cons_of_ne_nil hrest
  cases h with
  | leadingZero hsign hdigit => exact .leadingZero hsign hdigit
  | fraction hsign hwhole hdigit => exact .fraction hsign hwhole hdigit
  | exponent hsign hwhole hfrac he hpower hnosign hdigit =>
    exact .exponent hsign hwhole hfrac he hpower hnosign hdigit
  | trailing hsign hwhole hfrac hpower hc he => exact .trailing hsign hwhole hfrac hpower hc he
  | unclosed hquote hcontent hend => exact .unclosed hquote hcontent hend

namespace Scan

/-! ### Numbers -/

theorem number_of_fault (h : numberStretch text = ⟨taken, some cause⟩) :
    number text = ⟨taken, .reject cause⟩ := by
  rw [number, h]

theorem startsWithDigit_cons_of_isIdentStart {c : Char} (h : isIdentStart c = true) :
    startsWithDigit (c :: rest) = false :=
  isDigit_eq_false_of_isIdentStart h

theorem literalEnd_cons {c : Char} (h : isIdentStart c = true) :
    literalEnd (c :: rest) = ⟨[], some (.invalidTrailingCharacter c)⟩ := by
  simp [literalEnd, isIdentContinue_of_isIdentStart h]

/-- What comes after sign and whole part of a literal is left to its fraction. -/
theorem numberStretch_fraction (hsign : IsOptionalSign sign) (hwhole : IsWholePart whole)
    (hrest : startsWithDigit rest = false) :
    numberStretch (sign ++ (whole ++ rest)) = (fraction rest).after (sign ++ whole) := by
  rw [numberStretch_append hsign fun _ ↦
      isSign_head?_of_startsWithDigit (startsWithDigit_wholePart_append hwhole),
    wholePart_append hwhole hrest, Stretch.after_after]

/-- The letter of an exponent stands where a fraction has ended. -/
theorem numberStretch_exponent_cons {e : Char} (he : e = 'e' ∨ e = 'E')
    (hsign : IsOptionalSign sign) (hwhole : IsWholePart whole) (hfrac : IsOptionalFraction frac) :
    numberStretch (sign ++ (whole ++ (frac ++ e :: rest))) =
      (exponent (e :: rest)).after (sign ++ (whole ++ frac)) := by
  refine numberStretch_exponent hsign hwhole hfrac ?_ fun _ ↦ ?_ <;>
    rcases he with rfl | rfl <;> simp [startsWithDigit]

/-- A text without a whole part behind its optional sign is given up there. -/
theorem number_lacksWholePart (h : LacksWholePart sign rest) :
    number (sign ++ rest) = ⟨sign, .reject .malformedNumber⟩ := by
  obtain ⟨hsign, hnosign, hdigit⟩ := h
  refine number_of_fault ?_
  rw [numberStretch_append hsign hnosign, wholePart_missing hdigit, Stretch.mk_after,
    List.append_nil]

/-- A zero at the head and a digit behind it. -/
theorem number_leadingZero (hsign : IsOptionalSign sign) (hdigit : startsWithDigit rest = true) :
    number (sign ++ '0' :: rest) = ⟨sign ++ ['0'], .reject .leadingZero⟩ := by
  refine number_of_fault ?_
  rw [numberStretch_append hsign (by simp [isSign]), wholePart_zero hdigit, Stretch.mk_after]

/-- A point and no digit behind it. -/
theorem number_fraction (hsign : IsOptionalSign sign) (hwhole : IsWholePart whole)
    (hdigit : startsWithDigit rest = false) :
    number (sign ++ (whole ++ '.' :: rest)) =
      ⟨sign ++ (whole ++ ['.']), .reject .malformedNumber⟩ := by
  refine number_of_fault ?_
  rw [numberStretch_fraction hsign hwhole rfl, fraction_missing hdigit, Stretch.mk_after,
    List.append_assoc]

/-- The letter of an exponent and its optional sign, and no digit behind them. -/
theorem number_exponent {e : Char} (hsign : IsOptionalSign sign) (hwhole : IsWholePart whole)
    (hfrac : IsOptionalFraction frac) (he : e = 'e' ∨ e = 'E') (hpower : IsOptionalSign power)
    (hnosign : power = [] → ∀ c ∈ rest.head?, isSign c = false)
    (hdigit : startsWithDigit rest = false) :
    number (sign ++ (whole ++ (frac ++ e :: (power ++ rest)))) =
      ⟨sign ++ (whole ++ (frac ++ e :: power)), .reject .malformedExponent⟩ := by
  refine number_of_fault ?_
  rw [numberStretch_exponent_cons he hsign hwhole hfrac, exponent_missing he hpower hnosign hdigit,
    Stretch.mk_after, List.append_assoc, List.append_assoc]

/-- A word that follows a number directly stands where its exponent has ended. -/
theorem number_trailing {c : Char} (hsign : IsOptionalSign sign) (hwhole : IsWholePart whole)
    (hfrac : IsOptionalFraction frac) (hpower : IsOptionalExponent power)
    (hc : isIdentStart c = true) (he : power = [] → c ≠ 'e' ∧ c ≠ 'E') :
    number (sign ++ (whole ++ (frac ++ (power ++ c :: rest)))) =
      ⟨sign ++ (whole ++ (frac ++ power)), .reject (.invalidTrailingCharacter c)⟩ := by
  have hdigit : startsWithDigit (c :: rest) = false := startsWithDigit_cons_of_isIdentStart hc
  have hpoint : frac = [] → (power ++ c :: rest).head? ≠ some '.' := fun _ ↦ by
    refine head?_optionalExponent_append hpower fun _ hhead ↦ ?_
    obtain rfl := Option.some.inj hhead
    exact absurd hc (by decide)
  have hletter : power = [] → ∀ d ∈ (c :: rest).head?, d ≠ 'e' ∧ d ≠ 'E' := by
    rintro hnil d ⟨⟩
    exact he hnil
  refine number_of_fault ?_
  rw [numberStretch_exponent hsign hwhole hfrac
      (startsWithDigit_optionalExponent_append hpower hdigit) hpoint,
    exponent_append hpower hdigit hletter, literalEnd_cons hc]
  simp

/-! ### Strings and comments -/

/-- The body of a literal stops at a newline or at the end. -/
theorem stringBody_unclosed (h : IsStringContent quote content)
    (hrest : ∀ c ∈ rest.head?, c = '\n') :
    stringBody quote (content ++ rest) = ⟨content, false⟩ := by
  have hstop : stringBody quote rest = ⟨[], false⟩ := by
    match rest with
    | [] => rfl
    | c :: rest =>
      obtain rfl := hrest c rfl
      rw [stringBody, if_pos rfl] <;> simp
  rw [stringBody_units h, hstop]
  simp [StringBody.after]

/-- A backslash that ends the text is taken, and the body stays open. -/
theorem stringBody_escape (h : IsStringContent quote content) :
    stringBody quote (content ++ ['\\']) = ⟨content ++ ['\\'], false⟩ := by
  rw [stringBody_units h, stringBody]
  rfl

theorem stringLiteral_of_open {body : List Char} (h : stringBody quote text = ⟨body, false⟩) :
    stringLiteral (quote :: text) = ⟨quote :: body, .reject .unterminatedString⟩ := by
  simp [stringLiteral, h]

theorem beforeTerminator?_eq_none (h : IsBlockContent content) :
    beforeTerminator? content = none := by
  obtain ⟨inner, tail, -, -, rfl⟩ | ⟨hnone, -⟩ := beforeTerminator?_cases content
  · exact absurd ⟨inner, tail, by simp⟩ h
  · exact hnone

end Scan

/-! ### The recognizers together -/

theorem opens_number_of_isWholePart (hsign : IsOptionalSign sign) (hwhole : IsWholePart whole) :
    TokenClass.Opens .number (sign ++ (whole ++ rest)) := by
  rw [← List.append_assoc]
  exact opens_number_of_isNumber ⟨sign, whole, [], [], by simp, hsign, hwhole, .inl rfl, .inl rfl⟩

/-- Each fault is found by the recognizer of the class that opens where it stands. -/
theorem exists_recognizer_of_isFault (h : IsFault cause taken rest) :
    ∃ cls : TokenClass, cls.Opens (taken ++ rest) ∧
      cls.recognizer (taken ++ rest) = ⟨taken, .reject cause⟩ := by
  cases h with
  | leadingZero hsign hdigit =>
    refine ⟨.number, ?_, ?_⟩
    · rw [List.append_assoc]
      exact opens_number_of_isWholePart hsign (.inl rfl)
    · rw [List.append_assoc]
      exact Scan.number_leadingZero hsign hdigit
  | fraction hsign hwhole hdigit =>
    refine ⟨.number, ?_, ?_⟩
    · rw [List.append_assoc, List.append_assoc]
      exact opens_number_of_isWholePart hsign hwhole
    · rw [List.append_assoc, List.append_assoc]
      exact Scan.number_fraction hsign hwhole hdigit
  | exponent hsign hwhole hfrac he hpower hnosign hdigit =>
    refine ⟨.number, ?_, ?_⟩
    · rw [List.append_assoc, List.append_assoc]
      exact opens_number_of_isWholePart hsign hwhole
    · rw [List.append_assoc, List.append_assoc, List.append_assoc]
      exact Scan.number_exponent hsign hwhole hfrac he hpower hnosign hdigit
  | trailing hsign hwhole hfrac hpower hc he =>
    refine ⟨.number, ?_, ?_⟩
    · rw [List.append_assoc, List.append_assoc]
      exact opens_number_of_isWholePart hsign hwhole
    · rw [List.append_assoc, List.append_assoc, List.append_assoc]
      exact Scan.number_trailing hsign hwhole hfrac hpower hc he
  | unclosed hquote hcontent hend =>
    exact ⟨.string, hquote, Scan.stringLiteral_of_open (Scan.stringBody_unclosed hcontent hend)⟩
  | escape hquote hcontent =>
    rw [List.append_nil]
    exact ⟨.string, hquote, Scan.stringLiteral_of_open (Scan.stringBody_escape hcontent)⟩
  | comment hcontent =>
    rw [List.append_nil]
    refine ⟨.comment, ⟨rfl, .inr rfl⟩, ?_⟩
    rw [TokenClass.recognizer, Scan.comment, Scan.beforeTerminator?_eq_none hcontent]

/-- Faulty tokens begin with a digit, a sign, a quote or a slash. -/
theorem exists_first_of_isFault (h : IsFault cause taken rest) :
    ∃ first tail, taken = first :: tail ∧
      (first.isDigit = true ∨ isSign first = true ∨ IsQuote first ∨ first = '/') := by
  have hnumber {sign whole more : List Char} (hsign : IsOptionalSign sign)
      (hwhole : IsWholePart whole) : ∃ first tail, sign ++ (whole ++ more) = first :: tail ∧
        (first.isDigit = true ∨ isSign first = true ∨ IsQuote first ∨ first = '/') := by
    have hopens : TokenClass.Opens .number (sign ++ (whole ++ more)) :=
      opens_number_of_isWholePart hsign hwhole
    match htext : sign ++ (whole ++ more) with
    | [] => exact absurd (htext ▸ hopens) TokenClass.not_opens_nil
    | first :: tail =>
      rw [htext] at hopens
      obtain ⟨hfirst, -⟩ | hfirst := hopens
      · exact ⟨first, tail, rfl, .inr (.inl hfirst)⟩
      · exact ⟨first, tail, rfl, .inl hfirst⟩
  cases h with
  | leadingZero hsign _ => simpa using hnumber hsign (.inl rfl)
  | fraction hsign hwhole _ => exact hnumber hsign hwhole
  | exponent hsign hwhole _ _ _ _ _ => exact hnumber hsign hwhole
  | trailing hsign hwhole _ _ _ _ => exact hnumber hsign hwhole
  | unclosed hquote _ _ | escape hquote _ => exact ⟨_, _, rfl, .inr (.inr (.inl hquote))⟩
  | comment _ => exact ⟨_, _, rfl, .inr (.inr (.inr rfl))⟩

theorem isGap_head?_of_isFault (h : IsFault cause taken rest) :
    ∀ c ∈ (taken ++ rest).head?, isGap c = false := by
  obtain ⟨cls, hopens, -⟩ := exists_recognizer_of_isFault h
  exact hopens.isGap_head?

/-- **What is rejected** is faulty, and what is faulty is rejected. -/
theorem scanToken_eq_reject_iff : scanToken text = ⟨taken, .reject cause⟩ ↔
    ∃ rest, text = taken ++ rest ∧ IsFault cause taken rest := by
  constructor
  · exact scanToken_reject
  · rintro ⟨rest, rfl, hfault⟩
    obtain ⟨cls, hopens, hrecognizer⟩ := exists_recognizer_of_isFault hfault
    rw [scanToken_of_opens hopens, hrecognizer]

end ScriptLexer
