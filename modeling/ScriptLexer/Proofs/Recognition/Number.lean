import ScriptLexer.Proofs.Boundary
import ScriptLexer.Proofs.LongestRun
import ScriptLexer.Proofs.Recognition.Verbatim

/-!
# Numbers

The recognizer of numbers hands the text from part to part. For each part there are two statements:

* `*_append`: a part of the grammar that is not continued by what follows is taken whole, and the
  rest goes to the next part;
* `*_cases`: every text has such a part at its head or breaks off in a way the grammar knows.

From the first kind follows that every number is accepted where it may end, from the second that
nothing else is accepted and that whatever is rejected has a fault (`number_reject`).
-/

namespace ScriptLexer.Scan

open Grammar

variable {text taken lexeme rest sign digits whole frac power : List Char} {kind : TokenKind}

/-! ### Stretches -/

@[simp] theorem Stretch.after_after (first second : List Char) (s : Stretch) :
    (s.after second).after first = s.after (first ++ second) := by
  simp [Stretch.after]

@[simp] theorem Stretch.mk_after (lead taken : List Char) (fault : Option Cause) :
    Stretch.after lead ⟨taken, fault⟩ = ⟨lead ++ taken, fault⟩ :=
  rfl

/-! ### Signs and digits -/

theorem startsWithDigit_eq_false_iff :
    startsWithDigit text = false ↔ ∀ c ∈ text.head?, c.isDigit = false := by
  cases text <;> simp [startsWithDigit]

theorem startsWithDigit_append (hdigits : IsDigits digits) :
    startsWithDigit (digits ++ rest) = true := by
  obtain ⟨d, ds, rfl⟩ := List.exists_cons_of_ne_nil hdigits.1
  simpa [startsWithDigit] using hdigits.2 d List.mem_cons_self

theorem isSign_eq_false_of_isDigit {c : Char} (h : c.isDigit = true) : isSign c = false := by
  rw [← Bool.not_eq_true]
  intro hc
  have : c = '+' ∨ c = '-' := by simpa [isSign] using hc
  rcases this with rfl | rfl <;> exact absurd h (by decide)

/-- Digits do not begin with a sign. -/
theorem isSign_head?_of_startsWithDigit (h : startsWithDigit text = true) :
    ∀ c ∈ text.head?, isSign c = false := by
  intro c hc
  refine isSign_eq_false_of_isDigit ?_
  rw [startsWithDigit, Option.mem_def.1 hc] at h
  exact h

theorem leadingSign_append (hsign : IsOptionalSign sign)
    (hrest : sign = [] → ∀ c ∈ rest.head?, isSign c = false) :
    leadingSign (sign ++ rest) = sign := by
  rcases hsign with rfl | ⟨c, rfl, hc⟩
  · match rest with
    | [] => rfl
    | c :: rest =>
      have hc := hrest rfl c rfl
      simp [leadingSign, hc]
  · simp [leadingSign, isSign_iff.2 hc]

/-- Every text splits after its optional sign. -/
theorem leadingSign_cases (text : List Char) :
    ∃ sign rest, text = sign ++ rest ∧ IsOptionalSign sign ∧
      (sign = [] → ∀ c ∈ rest.head?, isSign c = false) := by
  match text with
  | [] => exact ⟨[], [], rfl, .inl rfl, by simp⟩
  | c :: rest =>
    rcases hc : isSign c with - | -
    · refine ⟨[], c :: rest, rfl, .inl rfl, fun _ ↦ ?_⟩
      rintro d ⟨⟩
      exact hc
    · exact ⟨[c], rest, rfl, .inr ⟨c, rfl, isSign_iff.1 hc⟩, by simp⟩

/-- A text splits after the digits at its head. -/
theorem exists_digits_append (h : startsWithDigit text = true) :
    ∃ digits rest, text = digits ++ rest ∧ IsDigits digits ∧ startsWithDigit rest = false := by
  refine ⟨text.takeWhile Char.isDigit, text.dropWhile Char.isDigit,
    List.takeWhile_append_dropWhile.symm, ⟨?_, fun c hc ↦ List.mem_takeWhile_imp hc⟩,
    startsWithDigit_eq_false_iff.2 eq_false_of_mem_head?_dropWhile⟩
  match text with
  | [] => simp [startsWithDigit] at h
  | c :: rest =>
    have hc : c.isDigit = true := h
    simp [hc]

theorem digitsThen_append (missing : Cause) (next : List Char → Stretch) (hdigits : IsDigits digits)
    (hrest : startsWithDigit rest = false) :
    digitsThen missing next (digits ++ rest) = (next rest).after digits := by
  have hstop := startsWithDigit_eq_false_iff.1 hrest
  rw [digitsThen, if_pos (startsWithDigit_append hdigits), takeWhile_run hdigits.2 hstop,
    dropWhile_run hdigits.2 hstop]

theorem digitsThen_missing (missing : Cause) (next : List Char → Stretch)
    (hrest : startsWithDigit rest = false) : digitsThen missing next rest = ⟨[], some missing⟩ := by
  rw [digitsThen, if_neg (ne_true_of_eq_false hrest)]

/-! ### The exponent -/

theorem exponent_append (hpower : IsOptionalExponent power) (hrest : startsWithDigit rest = false)
    (hnone : power = [] → ∀ c ∈ rest.head?, c ≠ 'e' ∧ c ≠ 'E') :
    exponent (power ++ rest) = (literalEnd rest).after power := by
  rcases hpower with rfl | ⟨e, sign, digits, rfl, he, hsign, hdigits⟩
  · match rest with
    | [] => rfl
    | c :: rest =>
      have hc : ¬ (c = 'e' ∨ c = 'E') := not_or.2 (hnone rfl c rfl)
      rw [List.nil_append, exponent, if_neg hc]
      rfl
  · have hlead : leadingSign (sign ++ (digits ++ rest)) = sign :=
      leadingSign_append hsign fun _ ↦
        isSign_head?_of_startsWithDigit (startsWithDigit_append hdigits)
    simp [exponent, he, hlead, digitsThen_append _ _ hdigits hrest]

theorem exponent_missing {e : Char} (he : e = 'e' ∨ e = 'E') (hsign : IsOptionalSign sign)
    (hnone : sign = [] → ∀ c ∈ rest.head?, isSign c = false)
    (hrest : startsWithDigit rest = false) :
    exponent (e :: (sign ++ rest)) = ⟨e :: sign, some .malformedExponent⟩ := by
  simp [exponent, he, leadingSign_append hsign hnone, digitsThen_missing _ _ hrest]

/-- A text that begins with no digit has an optional exponent at its head, or one that breaks off
before its digits. -/
theorem exponent_cases (h : startsWithDigit text = false) :
    (∃ power rest, text = power ++ rest ∧ IsOptionalExponent power ∧
        startsWithDigit rest = false ∧ (power = [] → ∀ c ∈ rest.head?, c ≠ 'e' ∧ c ≠ 'E')) ∨
      ∃ e sign rest, text = e :: (sign ++ rest) ∧ (e = 'e' ∨ e = 'E') ∧ IsOptionalSign sign ∧
        (sign = [] → ∀ c ∈ rest.head?, isSign c = false) ∧ startsWithDigit rest = false := by
  by_cases he : ∃ e ∈ text.head?, e = 'e' ∨ e = 'E'
  · obtain ⟨e, hhead, he⟩ := he
    obtain ⟨tail, rfl⟩ := List.head?_eq_some_iff.1 hhead
    obtain ⟨sign, rest, rfl, hsign, hnone⟩ := leadingSign_cases tail
    rcases hrest : startsWithDigit rest with - | -
    · exact .inr ⟨e, sign, rest, rfl, he, hsign, hnone, hrest⟩
    · obtain ⟨digits, rest, rfl, hdigits, hstop⟩ := exists_digits_append hrest
      refine .inl ⟨e :: (sign ++ digits), rest, by simp,
        .inr ⟨e, sign, digits, rfl, he, hsign, hdigits⟩, hstop, by simp⟩
  · refine .inl ⟨[], text, rfl, .inl rfl, h, fun _ c hc ↦ ?_⟩
    exact not_or.1 fun hce ↦ he ⟨c, hc, hce⟩

/-! ### The fraction -/

theorem fraction_append (hfrac : IsOptionalFraction frac) (hrest : startsWithDigit rest = false)
    (hnone : frac = [] → rest.head? ≠ some '.') :
    fraction (frac ++ rest) = (exponent rest).after frac := by
  rcases hfrac with rfl | ⟨digits, rfl, hdigits⟩
  · match rest with
    | [] => rfl
    | c :: rest =>
      have hc : c ≠ '.' := by simpa using hnone rfl
      rw [List.nil_append, fraction, if_neg hc]
      rfl
  · simp [fraction, digitsThen_append _ _ hdigits hrest]

theorem fraction_missing (hrest : startsWithDigit rest = false) :
    fraction ('.' :: rest) = ⟨['.'], some .malformedNumber⟩ := by
  simp [fraction, digitsThen_missing _ _ hrest]

/-- A text that begins with no digit has an optional fraction at its head, or one that breaks off
before its digits. -/
theorem fraction_cases (h : startsWithDigit text = false) :
    (∃ frac rest, text = frac ++ rest ∧ IsOptionalFraction frac ∧ startsWithDigit rest = false ∧
        (frac = [] → rest.head? ≠ some '.')) ∨
      ∃ rest, text = '.' :: rest ∧ startsWithDigit rest = false := by
  by_cases hpoint : text.head? = some '.'
  · obtain ⟨tail, rfl⟩ := List.head?_eq_some_iff.1 hpoint
    rcases htail : startsWithDigit tail with - | -
    · exact .inr ⟨tail, rfl, htail⟩
    · obtain ⟨digits, rest, rfl, hdigits, hstop⟩ := exists_digits_append htail
      exact .inl ⟨'.' :: digits, rest, rfl, .inr ⟨digits, rfl, hdigits⟩, hstop, by simp⟩
  · exact .inl ⟨[], text, rfl, .inl rfl, h, fun _ ↦ hpoint⟩

/-! ### The whole part -/

theorem wholePart_append (hwhole : IsWholePart whole) (hrest : startsWithDigit rest = false) :
    wholePart (whole ++ rest) = (fraction rest).after whole := by
  rcases hwhole with rfl | ⟨hdigits, hzero⟩
  · simp [wholePart, hrest]
  · obtain ⟨d, ds, rfl⟩ := List.exists_cons_of_ne_nil hdigits.1
    have hd : d ≠ '0' := by simpa using hzero
    rw [List.cons_append, wholePart, if_neg hd, ← List.cons_append,
      digitsThen_append _ _ hdigits hrest]

theorem wholePart_zero (hrest : startsWithDigit rest = true) :
    wholePart ('0' :: rest) = ⟨['0'], some .leadingZero⟩ := by
  simp [wholePart, hrest]

theorem wholePart_missing (h : startsWithDigit text = false) :
    wholePart text = ⟨[], some .malformedNumber⟩ := by
  match text with
  | [] => rfl
  | c :: rest =>
    have hc : c ≠ '0' := by
      rintro rfl
      exact absurd h (by simp [startsWithDigit])
    rw [wholePart, if_neg hc, digitsThen_missing _ _ h]

/-- A text has a whole part at its head, or a zero before another digit, or no digit. -/
theorem wholePart_cases (text : List Char) :
    (∃ whole rest, text = whole ++ rest ∧ IsWholePart whole ∧ startsWithDigit rest = false) ∨
      (∃ rest, text = '0' :: rest ∧ startsWithDigit rest = true) ∨
        startsWithDigit text = false := by
  rcases htext : startsWithDigit text with - | -
  · exact .inr (.inr rfl)
  · by_cases hzero : text.head? = some '0'
    · obtain ⟨tail, rfl⟩ := List.head?_eq_some_iff.1 hzero
      rcases htail : startsWithDigit tail with - | -
      · exact .inl ⟨['0'], tail, rfl, .inl rfl, htail⟩
      · exact .inr (.inl ⟨tail, rfl, htail⟩)
    · obtain ⟨digits, rest, rfl, hdigits, hstop⟩ := exists_digits_append htext
      have hhead : (digits ++ rest).head? = digits.head? := by
        obtain ⟨d, ds, rfl⟩ := List.exists_cons_of_ne_nil hdigits.1
        rfl
      exact .inl ⟨digits, rest, rfl, .inr ⟨hdigits, hhead ▸ hzero⟩, hstop⟩

/-! ### Whole numbers and their ends -/

theorem startsWithDigit_optionalExponent_append (hpower : IsOptionalExponent power)
    (hrest : startsWithDigit rest = false) : startsWithDigit (power ++ rest) = false := by
  rcases hpower with rfl | ⟨e, _, _, rfl, rfl | rfl, -⟩
  · exact hrest
  · rfl
  · rfl

theorem startsWithDigit_optionalFraction_append (hfrac : IsOptionalFraction frac)
    (hrest : startsWithDigit rest = false) : startsWithDigit (frac ++ rest) = false := by
  rcases hfrac with rfl | ⟨_, rfl, -⟩
  · exact hrest
  · rfl

theorem startsWithDigit_wholePart_append (hwhole : IsWholePart whole) :
    startsWithDigit (whole ++ rest) = true := by
  rcases hwhole with rfl | ⟨hdigits, -⟩
  · rfl
  · exact startsWithDigit_append hdigits

/-- An exponent after a whole part is no fraction. -/
theorem head?_optionalExponent_append (hpower : IsOptionalExponent power)
    (hrest : power = [] → rest.head? ≠ some '.') : (power ++ rest).head? ≠ some '.' := by
  rcases hpower with rfl | ⟨e, _, _, rfl, rfl | rfl, -⟩
  · exact hrest rfl
  · simp
  · simp

/-- What comes after the sign of a literal is left to its whole part. -/
theorem numberStretch_append (hsign : IsOptionalSign sign)
    (hrest : sign = [] → ∀ c ∈ rest.head?, isSign c = false) :
    numberStretch (sign ++ rest) = (wholePart rest).after sign := by
  rw [numberStretch, leadingSign_append hsign hrest, List.drop_left]

/-- What comes after sign, whole part and fraction of a literal is left to its exponent. -/
theorem numberStretch_exponent (hsign : IsOptionalSign sign) (hwhole : IsWholePart whole)
    (hfrac : IsOptionalFraction frac) (hrest : startsWithDigit rest = false)
    (hpoint : frac = [] → rest.head? ≠ some '.') :
    numberStretch (sign ++ (whole ++ (frac ++ rest))) =
      (exponent rest).after (sign ++ (whole ++ frac)) := by
  rw [numberStretch_append hsign fun _ ↦
      isSign_head?_of_startsWithDigit (startsWithDigit_wholePart_append hwhole),
    wholePart_append hwhole (startsWithDigit_optionalFraction_append hfrac hrest),
    fraction_append hfrac hrest hpoint]
  simp

/-- An integer has no room for a fraction or an exponent: all its characters are signs and
digits. -/
theorem eq_nil_of_isInteger (h : IsInteger (sign ++ (whole ++ (frac ++ power))))
    (hfrac : IsOptionalFraction frac) (hpower : IsOptionalExponent power) :
    frac = [] ∧ power = [] := by
  obtain ⟨sign', whole', htext, hsign', hwhole'⟩ := h
  have hdigits : ∀ c ∈ whole', c.isDigit = true := by
    rcases hwhole' with rfl | ⟨hdigits, -⟩
    · simp
    · exact hdigits.2
  have hchars : ∀ c ∈ frac ++ power, isSign c = true ∨ c.isDigit = true := by
    intro c hc
    have hmem : c ∈ sign' ++ whole' := by
      rw [← htext]
      exact List.mem_append_right _ (List.mem_append_right _ hc)
    rcases List.mem_append.1 hmem with hc | hc
    · rcases hsign' with rfl | ⟨s, rfl, hs⟩
      · simp at hc
      · exact .inl (List.mem_singleton.1 hc ▸ isSign_iff.2 hs)
    · exact .inr (hdigits c hc)
  constructor
  · rcases hfrac with rfl | ⟨_, rfl, -⟩
    · rfl
    · exact absurd (hchars '.' (by simp)) (by decide)
  · rcases hpower with rfl | ⟨e, _, _, rfl, he, -⟩
    · rfl
    · refine absurd (hchars e (by simp)) ?_
      rcases he with rfl | rfl <;> decide

/-- The end of a literal is bare, or it has a letter, an underscore or a dollar sign after it. -/
theorem literalEnd_cases (h : startsWithDigit text = false) :
    (literalEnd text = ⟨[], none⟩ ∧ ∀ c ∈ text.head?, isIdentContinue c = false) ∨
      ∃ c rest, text = c :: rest ∧ isIdentStart c = true ∧
        literalEnd text = ⟨[], some (.invalidTrailingCharacter c)⟩ := by
  match text with
  | [] => exact .inl ⟨rfl, by simp⟩
  | c :: rest =>
    rcases hc : isIdentContinue c with - | -
    · refine .inl ⟨by simp [literalEnd, hc], ?_⟩
      rintro d ⟨⟩
      exact hc
    · refine .inr ⟨c, rest, rfl, ?_, by simp [literalEnd, hc]⟩
      have hdigit : c.isDigit = false := h
      simpa [isIdentContinue_eq, hdigit] using hc

/-- Nothing but the sign of a number is at the head of a text, if that. -/
def LacksWholePart (sign rest : List Char) : Prop :=
  IsOptionalSign sign ∧ (sign = [] → ∀ c ∈ rest.head?, isSign c = false) ∧
    startsWithDigit rest = false

/-- **Reading a number.** Every text has a number at its head that may end there, or breaks off with
a fault, or has no digit where the whole part should be. -/
theorem numberStretch_cases (text : List Char) :
    (∃ literal rest, text = literal ++ rest ∧ numberStretch text = ⟨literal, none⟩ ∧
        IsNumber literal ∧ EndsBefore .number literal rest.head?) ∨
      ∃ cause taken rest, text = taken ++ rest ∧ numberStretch text = ⟨taken, some cause⟩ ∧
        (IsFault cause taken rest ∨ LacksWholePart taken rest) := by
  obtain ⟨sign, afterSign, rfl, hsign, hnosign⟩ := leadingSign_cases text
  -- each part is complete and hands on, or it is the fault
  obtain ⟨whole, afterWhole, rfl, hwhole, hstop⟩ | ⟨rest, rfl, hdigit⟩ | hdigit :=
    wholePart_cases afterSign
  · obtain ⟨frac, afterFrac, rfl, hfrac, hdigit, hpoint⟩ | ⟨rest, rfl, hdigit⟩ :=
      fraction_cases hstop
    · have hstretch := numberStretch_exponent hsign hwhole hfrac hdigit hpoint
      obtain ⟨power, rest, rfl, hpower, hdigit, he⟩ |
          ⟨e, power, rest, rfl, he, hpower, hnosign, hdigit⟩ := exponent_cases hdigit
      · rw [exponent_append hpower hdigit he] at hstretch
        obtain ⟨hend, hfree⟩ | ⟨c, tail, rfl, hc, hend⟩ := literalEnd_cases hdigit
        · refine .inl ⟨sign ++ (whole ++ (frac ++ power)), rest, by simp,
            by simpa [hend] using hstretch,
            ⟨sign, whole, frac, power, rfl, hsign, hwhole, hfrac, hpower⟩,
            fun c hc ↦ ⟨hfree c hc, ?_⟩⟩
          -- an integer has no fraction, so the point after it would have been taken for one
          rintro hinteger rfl
          obtain ⟨rfl, rfl⟩ := eq_nil_of_isInteger hinteger hfrac hpower
          exact hpoint rfl hc
        · exact .inr ⟨_, sign ++ (whole ++ (frac ++ power)), c :: tail, by simp,
            by simpa [hend] using hstretch,
            .inl (.trailing hsign hwhole hfrac hpower hc fun hnil ↦ he hnil c rfl)⟩
      · rw [exponent_missing he hpower hnosign hdigit] at hstretch
        exact .inr ⟨_, sign ++ (whole ++ (frac ++ e :: power)), rest, by simp,
          by simpa using hstretch, .inl (.exponent hsign hwhole hfrac he hpower hnosign hdigit)⟩
    · have hstretch := numberStretch_append hsign hnosign
      rw [wholePart_append hwhole rfl, fraction_missing hdigit] at hstretch
      exact .inr ⟨_, sign ++ (whole ++ ['.']), rest, by simp, by simpa using hstretch,
        .inl (.fraction hsign hwhole hdigit)⟩
  · rw [numberStretch_append hsign hnosign, wholePart_zero hdigit]
    exact .inr ⟨_, sign ++ ['0'], rest, by simp, rfl, .inl (.leadingZero hsign hdigit)⟩
  · rw [numberStretch_append hsign hnosign, wholePart_missing hdigit]
    exact .inr ⟨.malformedNumber, sign, afterSign, rfl, by simp, .inr ⟨hsign, hnosign, hdigit⟩⟩

/-- A number that may end where it ends is read in full. -/
theorem numberStretch_of_isNumber {literal : List Char} (h : IsNumber literal)
    (hrest : EndsBefore .number literal rest.head?) :
    numberStretch (literal ++ rest) = ⟨literal, none⟩ := by
  obtain ⟨sign, whole, frac, power, rfl, hsign, hwhole, hfrac, hpower⟩ := h
  have hfree : ∀ c ∈ rest.head?, isIdentContinue c = false := fun c hc ↦ (hrest c hc).1
  have hdigit : startsWithDigit rest = false := by
    refine startsWithDigit_eq_false_iff.2 fun c hc ↦ ?_
    have := hfree c hc
    rw [isIdentContinue_eq, Bool.or_eq_false_iff] at this
    exact this.2
  have he : power = [] → ∀ c ∈ rest.head?, c ≠ 'e' ∧ c ≠ 'E' := by
    intro _ c hc
    constructor <;> rintro rfl <;> exact absurd (hfree _ hc) (by decide)
  have hpoint : frac = [] → (power ++ rest).head? ≠ some '.' := by
    rintro rfl
    refine head?_optionalExponent_append hpower ?_
    rintro rfl hc
    exact (hrest '.' hc).2 ⟨sign, whole, by simp, hsign, hwhole⟩ rfl
  have hend : literalEnd rest = ⟨[], none⟩ := by
    obtain ⟨hend, -⟩ | ⟨c, tail, rfl, hc, -⟩ := literalEnd_cases hdigit
    · exact hend
    · exact absurd (isIdentContinue_of_isIdentStart hc) (ne_true_of_eq_false (hfree c rfl))
  have hstretch := numberStretch_exponent hsign hwhole hfrac
    (startsWithDigit_optionalExponent_append hpower hdigit) hpoint
  rw [exponent_append hpower hdigit he, hend] at hstretch
  simpa using hstretch

/-! ### The recognizer -/

/-- **Numbers are taken in full, and nothing else is taken for a number.** -/
theorem number_eq_accept_iff :
    number text = ⟨taken, .accept kind lexeme⟩ ↔
      kind = .number ∧ lexeme = taken ∧ IsNumber taken ∧
        ∃ rest, text = taken ++ rest ∧ EndsBefore .number taken rest.head? := by
  constructor
  · intro h
    obtain ⟨literal, rest, rfl, hstretch, hnumber, hend⟩ | ⟨cause, _, _, -, hstretch, -⟩ :=
      numberStretch_cases text
    · rw [number, hstretch] at h
      obtain ⟨rfl, rfl, rfl⟩ := verbatim_eq_accept_iff.1 h
      exact ⟨rfl, rfl, hnumber, rest, rfl, hend⟩
    · rw [number, hstretch] at h
      cases h
  · rintro ⟨rfl, rfl, hnumber, rest, rfl, hend⟩
    rw [number, numberStretch_of_isNumber hnumber hend]
    rfl

/-- **Whatever is rejected has a fault**, or no digit where the whole part should be. -/
theorem number_reject {cause : Cause} (h : number text = ⟨taken, .reject cause⟩) :
    ∃ rest, text = taken ++ rest ∧
      (IsFault cause taken rest ∨ LacksWholePart taken rest) := by
  obtain ⟨_, _, -, hstretch, -⟩ | ⟨_, _, rest, htext, hstretch, hfault⟩ := numberStretch_cases text
  · rw [number, hstretch] at h
    cases h
  · rw [number, hstretch] at h
    obtain ⟨rfl, rfl⟩ := reject_inj h
    exact ⟨rest, htext, hfault⟩

theorem number_verdict_ne_misplaced (text : List Char) : (number text).verdict ≠ .misplaced := by
  rw [number]
  split <;> simp [verbatim]

end ScriptLexer.Scan
