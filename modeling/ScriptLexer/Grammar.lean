import ScriptLexer.TokenClass

/-!
# The lexical grammar

The language of each kind of token, said without reference to how it is recognized: which texts are
words, numbers, operators and punctuation marks, what may stand between the quotes of a string
literal and between the delimiters of a comment.

* `IsLexeme kind text`: `text` can be the lexeme of a token of that kind.
* `IsWritten kind lexeme text`: `text` is a way to write such a token in a source, delimiters
  included. Strings and comments are the two kinds with more than one way.

Reserved words, operators, marks and signs are listed here once more, apart from the tables that the
lexer reads. That the two agree is proved entry by entry (`isKeyword_iff_isReserved` and the three
statements below it).
-/

namespace ScriptLexer.Grammar

/-! ### Words -/

/-- A word is a character that may begin one, followed by characters that may stand inside. -/
def IsWord (text : List Char) : Prop :=
  ∃ c rest, text = c :: rest ∧ isIdentStart c = true ∧ ∀ d ∈ rest, isIdentContinue d = true

/-- The eight words that are reserved. -/
def IsReserved (text : List Char) : Prop :=
  String.ofList text ∈ ["var", "let", "const", "function", "return", "if", "else", "while"]

/-! ### Symbols -/

/-- The thirty-one operators. -/
def IsOperator (text : List Char) : Prop :=
  String.ofList text ∈
    ["=", "==", "===", "!", "!=", "!==", "<", "<<", "<=", ">", ">=", ">>", ">>=", ">>>", ">>>=",
      "&", "&&", "|", "||", "+", "+=", "-", "-=", "*", "*=", "/", "/=", "%", "%=", "^", "^="]

instance : DecidablePred IsOperator :=
  fun _ ↦ List.instDecidableMemOfLawfulBEq _ _

/-- The nine punctuation marks. -/
def IsMark (c : Char) : Prop :=
  c ∈ ['(', ')', '{', '}', '[', ']', ',', ';', '.']

/-! ### Numbers -/

/-- The two signs. -/
def IsSign (c : Char) : Prop :=
  c = '+' ∨ c = '-'

/-- A run of digits, at least one. -/
def IsDigits (text : List Char) : Prop :=
  text ≠ [] ∧ ∀ c ∈ text, c.isDigit = true

/-- A sign or nothing. -/
def IsOptionalSign (text : List Char) : Prop :=
  text = [] ∨ ∃ c, text = [c] ∧ IsSign c

/-- A lone zero, or digits that do not begin with zero. -/
def IsWholePart (text : List Char) : Prop :=
  text = ['0'] ∨ (IsDigits text ∧ text.head? ≠ some '0')

/-- A point and digits, or nothing. -/
def IsOptionalFraction (text : List Char) : Prop :=
  text = [] ∨ ∃ digits, text = '.' :: digits ∧ IsDigits digits

/-- An `e`, perhaps a sign, and digits; or nothing. -/
def IsOptionalExponent (text : List Char) : Prop :=
  text = [] ∨ ∃ e sign digits, text = e :: (sign ++ digits) ∧ (e = 'e' ∨ e = 'E') ∧
    IsOptionalSign sign ∧ IsDigits digits

/-- A number: its sign, whole part, fraction and exponent in this order. -/
def IsNumber (text : List Char) : Prop :=
  ∃ sign whole fraction exponent, text = sign ++ (whole ++ (fraction ++ exponent)) ∧
    IsOptionalSign sign ∧ IsWholePart whole ∧ IsOptionalFraction fraction ∧
    IsOptionalExponent exponent

/-! ### Strings and comments -/

/-- What may stand between two quotes: units, of which each is a backslash with any character after
it, or a single character other than the backslash, the quote and the newline. -/
inductive IsStringContent (quote : Char) : List Char → Prop
  /-- There may be no unit at all. -/
  | nil : IsStringContent quote []
  /-- A backslash goes together with the character after it. -/
  | escaped (c : Char) {rest : List Char} :
    IsStringContent quote rest → IsStringContent quote ('\\' :: c :: rest)
  /-- Any other character stands for itself. -/
  | plain {c : Char} {rest : List Char} :
    c ≠ '\\' → c ≠ quote → c ≠ '\n' → IsStringContent quote rest →
      IsStringContent quote (c :: rest)

/-- The two characters that may open a string literal. -/
def IsQuote (c : Char) : Prop :=
  c = '"' ∨ c = '\''

/-- What may follow two slashes in a comment. -/
def IsLineContent (text : List Char) : Prop :=
  '\n' ∉ text

/-- What may stand in a block comment: the closing delimiter may not. -/
def IsBlockContent (text : List Char) : Prop :=
  ¬ ['*', '/'] <:+: text

/-! ### Lexemes and written tokens -/

/-- The texts that a token may have as its lexeme, by kind. -/
def IsLexeme : TokenKind → List Char → Prop
  | .keyword, text => IsReserved text
  | .identifier, text => IsWord text ∧ ¬ IsReserved text
  | .number, text => IsNumber text
  | .string, text => ∃ quote, IsQuote quote ∧ IsStringContent quote text
  | .comment, text => IsLineContent text ∨ IsBlockContent text
  | .operator, text => IsOperator text
  | .punctuation, text => ∃ c, text = [c] ∧ IsMark c
  | .endOfInput, text => text = []

/-- The ways to write a token in a source, by kind and lexeme. -/
inductive IsWritten : TokenKind → List Char → List Char → Prop
  /-- A string literal stands between two quotes of a sort. -/
  | string {quote : Char} {content : List Char} :
    IsQuote quote → IsStringContent quote content →
      IsWritten .string content (quote :: (content ++ [quote]))
  /-- A comment may follow two slashes if it stays on its line. -/
  | line {content : List Char} :
    IsLineContent content → IsWritten .comment content ('/' :: '/' :: content)
  /-- A comment may stand between block delimiters if it does not contain the closing one. -/
  | block {content : List Char} :
    IsBlockContent content →
      IsWritten .comment content ('/' :: '*' :: (content ++ ['*', '/']))
  /-- Every other token is written as its lexeme. -/
  | verbatim {kind : TokenKind} {text : List Char} :
    kind ≠ .string → kind ≠ .comment → kind ≠ .endOfInput → IsLexeme kind text →
      IsWritten kind text text

/-- The end mark is not written. -/
theorem IsWritten.kind_ne_endOfInput {kind : TokenKind} {lexeme text : List Char}
    (h : IsWritten kind lexeme text) : kind ≠ .endOfInput := by
  cases h with
  | string | line | block => simp
  | verbatim _ _ hmark _ => exact hmark

/-! ### The tables of the lexer -/

theorem isKeyword_iff_isReserved {text : List Char} :
    isKeyword (String.ofList text) = true ↔ IsReserved text := by
  simp only [isKeyword, keywords, IsReserved, List.contains_iff_mem, List.mem_cons,
    List.not_mem_nil, or_false]
  grind

theorem isOperator_iff {text : List Char} : Scan.isOperator text = true ↔ IsOperator text := by
  rw [Scan.isOperator_iff_mem]
  show _ ↔ String.ofList text ∈ Scan.operators.map String.ofList
  simp [String.ofList_inj]

theorem isPunctuation_iff_isMark {c : Char} : isPunctuation c = true ↔ IsMark c := by
  simp [isPunctuation, punctuationMarks, IsMark]

theorem isSign_iff {c : Char} : isSign c = true ↔ IsSign c := by
  simp [isSign, IsSign]

end ScriptLexer.Grammar
