import ScriptLexer.Grammar

/-!
# Where tokens end

Where a token ends is not settled by its own text: what follows must not belong to it, too.
`EndsBefore` says which character may come next, by the kind and the text of the token. It looks at
one character only, and it is the same at the end of a text for every token (`endsBefore_none`).

A token whose text breaks off is **faulty**. `IsFault` has one constructor for each way in which
that happens; it keeps apart what had been taken of the token and what was seen instead of the
character that was needed.
-/

namespace ScriptLexer.Grammar

/-! ### Ends -/

/-- A number that has neither fraction nor exponent. -/
def IsInteger (text : List Char) : Prop :=
  ∃ sign whole, text = sign ++ whole ∧ IsOptionalSign sign ∧ IsWholePart whole

/-- Whether a text begins in a way that is kept from the operators: with a sign before a digit,
which begins a number, or with two slashes or a slash and a star, which begin a comment. -/
def isPreempted : List Char → Bool
  | first :: second :: _ =>
    (isSign first && second.isDigit) || (first == '/' && (second == '/' || second == '*'))
  | _ => false

/-- A token with the given kind and text may end before the next character, or before the end of
the text if there is none. -/
def EndsBefore : TokenKind → List Char → Option Char → Prop
  | .keyword, _, next | .identifier, _, next => ∀ c ∈ next, isIdentContinue c = false
  | .number, text, next => ∀ c ∈ next, isIdentContinue c = false ∧ (IsInteger text → c ≠ '.')
  | .operator, text, next =>
    ∀ c ∈ next, ¬ IsOperator (text ++ [c]) ∧ isPreempted (text ++ [c]) = false
  | .comment, text, next => ['/', '/'] <+: text → ∀ c ∈ next, c = '\n'
  | .string, _, _ | .punctuation, _, _ | .endOfInput, _, _ => True

/-- **The end of a text ends every token.** -/
theorem endsBefore_none (kind : TokenKind) (text : List Char) : EndsBefore kind text none := by
  cases kind <;> simp [EndsBefore]

/-- Nothing in the table of operators is kept from the operators, and nothing in it has a newline or
a space or could be kept from them by one. -/
private theorem operators_blank : ∀ text ∈ Scan.operators, isPreempted text = false ∧
    (['\n', ' '].all fun c ↦
      !Scan.isOperator (text ++ [c]) && !isPreempted (text ++ [c])) = true := by
  decide

theorem isPreempted_of_isOperator {text : List Char} (h : IsOperator text) :
    isPreempted text = false :=
  (operators_blank text (Scan.isOperator_iff_mem.1 (isOperator_iff.2 h))).1

/-- **A newline or a space ends a token.** Only comments may go on after a space. -/
theorem endsBefore_blank {kind : TokenKind} {lexeme text : List Char} {c : Char}
    (hc : c ∈ ['\n', ' ']) (h : IsWritten kind lexeme text) (hline : kind = .comment → c = '\n') :
    EndsBefore kind text (some c) := by
  cases h with
  | string => trivial
  | line | block => simp [EndsBefore, hline rfl]
  | verbatim hstring hcomment hend hlexeme =>
    have hclass : isIdentContinue c = false ∧ c ≠ '.' := by
      obtain rfl | rfl : c = '\n' ∨ c = ' ' := by simpa using hc
      · decide
      · decide
    cases kind with
    | string => exact absurd rfl hstring
    | comment => exact absurd rfl hcomment
    | endOfInput => exact absurd rfl hend
    | keyword | identifier =>
      rintro d ⟨⟩
      exact hclass.1
    | number =>
      rintro d ⟨⟩
      exact ⟨hclass.1, fun _ ↦ hclass.2⟩
    | operator =>
      rintro d ⟨⟩
      have hblank := operators_blank lexeme (Scan.isOperator_iff_mem.1 (isOperator_iff.2 hlexeme))
      simpa [← isOperator_iff] using List.all_eq_true.1 hblank.2 c hc
    | punctuation => trivial

/-- **A newline ends every token.** -/
theorem endsBefore_newline {kind : TokenKind} {lexeme text : List Char}
    (h : IsWritten kind lexeme text) : EndsBefore kind text (some '\n') :=
  endsBefore_blank (by simp) h fun _ ↦ rfl

/-! ### Faults -/

/-- A faulty token, by its cause: `taken` is the text of the token as far as it goes, and `rest` is
what stands after it and makes it faulty. -/
inductive IsFault : Cause → List Char → List Char → Prop
  /-- A zero at the head of a number is followed by a digit. -/
  | leadingZero {sign rest : List Char} :
    IsOptionalSign sign → Scan.startsWithDigit rest = true →
      IsFault .leadingZero (sign ++ ['0']) rest
  /-- A point is not followed by a digit. -/
  | fraction {sign whole rest : List Char} :
    IsOptionalSign sign → IsWholePart whole → Scan.startsWithDigit rest = false →
      IsFault .malformedNumber (sign ++ (whole ++ ['.'])) rest
  /-- The letter of an exponent, and the sign after it if there is one, are not followed by a
  digit. -/
  | exponent {sign whole fraction : List Char} {e : Char} {power rest : List Char} :
    IsOptionalSign sign → IsWholePart whole → IsOptionalFraction fraction → e = 'e' ∨ e = 'E' →
      IsOptionalSign power → (power = [] → ∀ c ∈ rest.head?, isSign c = false) →
        Scan.startsWithDigit rest = false →
          IsFault .malformedExponent (sign ++ (whole ++ (fraction ++ e :: power))) rest
  /-- A number is directly followed by a letter, an underscore or a dollar sign, which is not the
  letter of its exponent. -/
  | trailing {sign whole fraction exponent : List Char} {c : Char} {rest : List Char} :
    IsOptionalSign sign → IsWholePart whole → IsOptionalFraction fraction →
      IsOptionalExponent exponent → isIdentStart c = true → (exponent = [] → c ≠ 'e' ∧ c ≠ 'E') →
        IsFault (.invalidTrailingCharacter c) (sign ++ (whole ++ (fraction ++ exponent)))
          (c :: rest)
  /-- The line or the text ends inside a string literal. -/
  | unclosed {quote : Char} {content rest : List Char} :
    IsQuote quote → IsStringContent quote content → (∀ c ∈ rest.head?, c = '\n') →
      IsFault .unterminatedString (quote :: content) rest
  /-- The text ends after a backslash inside a string literal. -/
  | escape {quote : Char} {content : List Char} :
    IsQuote quote → IsStringContent quote content →
      IsFault .unterminatedString (quote :: (content ++ ['\\'])) []
  /-- A block comment has no closing delimiter. -/
  | comment {content : List Char} :
    IsBlockContent content → IsFault .unterminatedComment ('/' :: '*' :: content) []

end ScriptLexer.Grammar
