import ScriptLexer.Proofs.Refinement

/-!
# The verdicts on numbers

What the recognizer of numbers says of any text, wherever it is called, and how far it goes. It can
be called where no number is at hand, and then it says that too. The machine for numbers, which
takes one character after the other, comes to the same (`TokenClass.run_eq`).

`Scan.number_eq_accept_iff` tells which texts are accepted. For each of the four causes for which
others are rejected there is a statement of the same kind, with the text that breaks off in it: one
direction is what that text leads to (`Scan.number_leadingZero` and the like), the other is that
whatever is rejected has a fault (`Scan.number_reject`) and that the faults of strings and comments
are not among them (`Scan.number_reject_cause`).

The cursor stays where the recognizer gave up. So the places below are not those where a shorter
number would have ended: `1.x` is given up after its point, although `1` is a number.
-/

namespace ScriptLexer

open Grammar

variable {text taken rest : List Char} {cause : Cause}

namespace Scan

/-! ### Causes -/

theorem lacksWholePart_cons {c : Char} (hsign : isSign c = false) (hdigit : c.isDigit = false) :
    LacksWholePart [] (c :: rest) := by
  refine ⟨.inl rfl, fun _ d hd ↦ ?_, hdigit⟩
  obtain rfl := Option.some.inj hd
  exact hsign

/-- What is rejected for any cause but one has a fault. -/
theorem isFault_of_number_reject (h : number text = ⟨taken, .reject cause⟩)
    (hcause : cause ≠ .malformedNumber) :
    ∃ rest, text = taken ++ rest ∧ IsFault cause taken rest := by
  obtain ⟨rest, rfl, hfault | hlacks⟩ := number_reject h
  · exact ⟨rest, rfl, hfault⟩
  · have hmalformed := number_lacksWholePart hlacks
    exact absurd (reject_inj (h.symm.trans hmalformed)).2 hcause

/-- **The causes** for which a number is rejected. A quote or a slash is not taken for a number that
breaks off. -/
theorem number_reject_cause (h : number text = ⟨taken, .reject cause⟩) :
    cause = .malformedNumber ∨ cause = .leadingZero ∨ cause = .malformedExponent ∨
      ∃ c, cause = .invalidTrailingCharacter c := by
  have hforeign {c : Char} {tail : List Char} (hsign : isSign c = false)
      (hdigit : c.isDigit = false) (htext : text = c :: tail) : cause = .malformedNumber := by
    have hlacks : LacksWholePart [] text := htext ▸ lacksWholePart_cons hsign hdigit
    have hmalformed : number text = ⟨[], .reject .malformedNumber⟩ := number_lacksWholePart hlacks
    exact (reject_inj (h.symm.trans hmalformed)).2
  have hquote {quote : Char} {tail : List Char} (hquote : IsQuote quote)
      (htext : text = quote :: tail) : cause = .malformedNumber := by
    obtain rfl | rfl := hquote
    · exact hforeign rfl rfl htext
    · exact hforeign rfl rfl htext
  by_cases hcause : cause = .malformedNumber
  · exact .inl hcause
  · obtain ⟨rest, htext, hfault⟩ := isFault_of_number_reject h hcause
    cases hfault with
    | leadingZero => exact .inr (.inl rfl)
    | fraction => exact .inl rfl
    | exponent => exact .inr (.inr (.inl rfl))
    | @trailing _ _ _ _ c => exact .inr (.inr (.inr ⟨c, rfl⟩))
    | unclosed hq | escape hq => exact absurd (hquote hq htext) hcause
    | comment => exact absurd (hforeign rfl rfl htext) hcause

/-! ### One cause at a time -/

theorem number_eq_leadingZero_iff : number text = ⟨taken, .reject .leadingZero⟩ ↔
    ∃ sign rest, text = sign ++ '0' :: rest ∧ IsOptionalSign sign ∧ startsWithDigit rest = true ∧
      taken = sign ++ ['0'] := by
  constructor
  · intro h
    obtain ⟨rest, rfl, hfault⟩ := isFault_of_number_reject h (by simp)
    cases hfault with
    | @leadingZero sign _ hsign hdigit => exact ⟨sign, rest, by simp, hsign, hdigit, rfl⟩
  · intro ⟨sign, rest, htext, hsign, hdigit, htaken⟩
    rw [htext, htaken]
    exact number_leadingZero hsign hdigit

theorem number_eq_malformedNumber_iff : number text = ⟨taken, .reject .malformedNumber⟩ ↔
    (∃ rest, text = taken ++ rest ∧ LacksWholePart taken rest) ∨
      ∃ sign whole rest, text = sign ++ (whole ++ '.' :: rest) ∧ IsOptionalSign sign ∧
        IsWholePart whole ∧ startsWithDigit rest = false ∧ taken = sign ++ (whole ++ ['.']) := by
  constructor
  · intro h
    obtain ⟨rest, rfl, hfault | hlacks⟩ := number_reject h
    · cases hfault with
      | @fraction sign whole _ hsign hwhole hdigit =>
        exact .inr ⟨sign, whole, rest, by simp, hsign, hwhole, hdigit, rfl⟩
    · exact .inl ⟨rest, rfl, hlacks⟩
  · intro h
    obtain ⟨rest, rfl, hlacks⟩ | ⟨sign, whole, rest, rfl, hsign, hwhole, hdigit, rfl⟩ := h
    · exact number_lacksWholePart hlacks
    · exact number_fraction hsign hwhole hdigit

theorem number_eq_malformedExponent_iff : number text = ⟨taken, .reject .malformedExponent⟩ ↔
    ∃ sign whole frac e power rest, text = sign ++ (whole ++ (frac ++ e :: (power ++ rest))) ∧
      IsOptionalSign sign ∧ IsWholePart whole ∧ IsOptionalFraction frac ∧ (e = 'e' ∨ e = 'E') ∧
      IsOptionalSign power ∧ (power = [] → ∀ c ∈ rest.head?, isSign c = false) ∧
      startsWithDigit rest = false ∧ taken = sign ++ (whole ++ (frac ++ e :: power)) := by
  constructor
  · intro h
    obtain ⟨rest, rfl, hfault⟩ := isFault_of_number_reject h (by simp)
    cases hfault with
    | @exponent sign whole frac e power _ hsign hwhole hfrac he hpower hnosign hdigit =>
      exact ⟨sign, whole, frac, e, power, rest, by simp, hsign, hwhole, hfrac, he, hpower, hnosign,
        hdigit, rfl⟩
  · intro ⟨sign, whole, frac, e, power, rest, htext, hsign, hwhole, hfrac, he, hpower, hnosign,
      hdigit, htaken⟩
    rw [htext, htaken]
    exact number_exponent hsign hwhole hfrac he hpower hnosign hdigit

theorem number_eq_invalidTrailingCharacter_iff {c : Char} :
    number text = ⟨taken, .reject (.invalidTrailingCharacter c)⟩ ↔
      ∃ sign whole frac power rest, text = sign ++ (whole ++ (frac ++ (power ++ c :: rest))) ∧
        IsOptionalSign sign ∧ IsWholePart whole ∧ IsOptionalFraction frac ∧
        IsOptionalExponent power ∧ isIdentStart c = true ∧ (power = [] → c ≠ 'e' ∧ c ≠ 'E') ∧
        taken = sign ++ (whole ++ (frac ++ power)) := by
  constructor
  · intro h
    obtain ⟨rest, rfl, hfault⟩ := isFault_of_number_reject h (by simp)
    cases hfault with
    | @trailing sign whole frac power _ rest hsign hwhole hfrac hpower hc he =>
      exact ⟨sign, whole, frac, power, rest, by simp, hsign, hwhole, hfrac, hpower, hc, he, rfl⟩
  · intro ⟨sign, whole, frac, power, rest, htext, hsign, hwhole, hfrac, hpower, hc, he, htaken⟩
    rw [htext, htaken]
    exact number_trailing hsign hwhole hfrac hpower hc he

end Scan

/-! ### At a cursor -/

namespace Cursor

/-- **The recognizer of numbers** accepts just the numbers that may end where they end, and of each
of the other texts it says what is wrong with it. The cursor is left after the number, or after the
last character that was in order. The machine for numbers says and does the same. -/
theorem recognize_number_verdicts (c : Cursor) :
    -- numbers
    (∀ t c', c.recognize Scan.number = (.accepted t, c') ↔
      ∃ literal rest, c.rest = literal ++ rest ∧ IsNumber literal ∧
        EndsBefore .number literal rest.head? ∧
        t = ⟨.number, String.ofList literal, c.position⟩ ∧ c' = c.advance literal) ∧
    (∀ literal rest literal' rest', c.rest = literal ++ rest → c.rest = literal' ++ rest' →
      IsNumber literal → EndsBefore .number literal rest.head? →
      IsNumber literal' → EndsBefore .number literal' rest'.head? → literal = literal') ∧
    -- faults
    (∀ c', c.recognize Scan.number = (.failed ⟨.leadingZero, c.position⟩, c') ↔
      ∃ sign rest, c.rest = sign ++ '0' :: rest ∧ IsOptionalSign sign ∧
        Scan.startsWithDigit rest = true ∧ c' = c.advance (sign ++ ['0'])) ∧
    (∀ c', c.recognize Scan.number = (.failed ⟨.malformedNumber, c.position⟩, c') ↔
      (∃ sign rest, c.rest = sign ++ rest ∧ Scan.LacksWholePart sign rest ∧
        c' = c.advance sign) ∨
      ∃ sign whole rest, c.rest = sign ++ (whole ++ '.' :: rest) ∧ IsOptionalSign sign ∧
        IsWholePart whole ∧ Scan.startsWithDigit rest = false ∧
        c' = c.advance (sign ++ (whole ++ ['.']))) ∧
    (∀ c', c.recognize Scan.number = (.failed ⟨.malformedExponent, c.position⟩, c') ↔
      ∃ sign whole frac e power rest,
        c.rest = sign ++ (whole ++ (frac ++ e :: (power ++ rest))) ∧ IsOptionalSign sign ∧
        IsWholePart whole ∧ IsOptionalFraction frac ∧ (e = 'e' ∨ e = 'E') ∧
        IsOptionalSign power ∧ (power = [] → ∀ d ∈ rest.head?, isSign d = false) ∧
        Scan.startsWithDigit rest = false ∧
        c' = c.advance (sign ++ (whole ++ (frac ++ e :: power)))) ∧
    (∀ d c', c.recognize Scan.number = (.failed ⟨.invalidTrailingCharacter d, c.position⟩, c') ↔
      ∃ sign whole frac power rest,
        c.rest = sign ++ (whole ++ (frac ++ (power ++ d :: rest))) ∧ IsOptionalSign sign ∧
        IsWholePart whole ∧ IsOptionalFraction frac ∧ IsOptionalExponent power ∧
        isIdentStart d = true ∧ (power = [] → d ≠ 'e' ∧ d ≠ 'E') ∧
        c' = c.advance (sign ++ (whole ++ (frac ++ power)))) ∧
    -- the machine
    (∀ before, c.IsAt before → TokenClass.number.run c =
      (some (c.recognize Scan.number).1, (c.recognize Scan.number).2)) ∧
    -- nothing else
    ∃ c', (∃ t, c.recognize Scan.number = (.accepted t, c')) ∨
      ∃ cause, c.recognize Scan.number = (.failed ⟨cause, c.position⟩, c') ∧
        (cause = .malformedNumber ∨ cause = .leadingZero ∨ cause = .malformedExponent ∨
          ∃ d, cause = .invalidTrailingCharacter d) := by
  refine ⟨fun t c' ↦ ?_, ?_, fun c' ↦ ?_, fun c' ↦ ?_, fun c' ↦ ?_, fun d c' ↦ ?_,
    fun before h ↦ TokenClass.number.run_eq h.isBetween, ?_⟩
  · rw [recognize_eq_accepted_iff]
    constructor
    · intro ⟨taken, kind, lexeme, hscan, ht, hcursor⟩
      obtain ⟨rfl, rfl, hnumber, rest, htext, hend⟩ := Scan.number_eq_accept_iff.1 hscan
      exact ⟨lexeme, rest, htext, hnumber, hend, ht, hcursor⟩
    · intro ⟨literal, rest, htext, hnumber, hend, ht, hcursor⟩
      exact ⟨literal, .number, literal,
        Scan.number_eq_accept_iff.2 ⟨rfl, rfl, hnumber, rest, htext, hend⟩, ht, hcursor⟩
  · intro literal rest literal' rest' htext htext' hnumber hend hnumber' hend'
    have hscan : Scan.number c.rest = ⟨literal, .accept .number literal⟩ :=
      Scan.number_eq_accept_iff.2 ⟨rfl, rfl, hnumber, rest, htext, hend⟩
    have hscan' : Scan.number c.rest = ⟨literal', .accept .number literal'⟩ :=
      Scan.number_eq_accept_iff.2 ⟨rfl, rfl, hnumber', rest', htext', hend'⟩
    exact (Scan.accept_inj (hscan.symm.trans hscan')).1
  · rw [recognize_eq_failed_iff]
    simp only [Scan.number_eq_leadingZero_iff]
    grind
  · rw [recognize_eq_failed_iff]
    simp only [Scan.number_eq_malformedNumber_iff]
    grind
  · rw [recognize_eq_failed_iff]
    simp only [Scan.number_eq_malformedExponent_iff]
    grind
  · rw [recognize_eq_failed_iff]
    simp only [Scan.number_eq_invalidTrailingCharacter_iff]
    grind
  · match hscan : Scan.number c.rest with
    | ⟨taken, .accept kind lexeme⟩ =>
      exact ⟨_, .inl ⟨_, recognize_eq_accepted_iff.2 ⟨taken, kind, lexeme, hscan, rfl, rfl⟩⟩⟩
    | ⟨taken, .reject cause⟩ =>
      exact ⟨_, .inr ⟨cause, recognize_eq_failed_iff.2 ⟨taken, hscan, rfl⟩,
        Scan.number_reject_cause hscan⟩⟩
    | ⟨taken, .misplaced⟩ =>
      exact absurd (by rw [hscan]) (Scan.number_verdict_ne_misplaced c.rest)

/-- A number that breaks off at its point is not taken for the shorter one. -/
example : (ofString "-1.x").recognize Scan.number =
    (.failed ⟨.malformedNumber, ⟨1, 1⟩⟩, (ofString "-1.x").advance ['-', '1', '.']) := by
  decide

end Cursor

end ScriptLexer
