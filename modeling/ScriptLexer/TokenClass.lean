import ScriptLexer.Scan.Word
import ScriptLexer.Scan.Number
import ScriptLexer.Scan.StringLiteral
import ScriptLexer.Scan.Comment
import ScriptLexer.Scan.Symbol

/-!
# Token classes

The first two characters of a token decide which of six **classes** it belongs to, and each class
has its recognizer. Two characters are enough because only a sign and a slash can begin tokens of
two classes: a sign begins a number if a digit follows, and a slash begins a comment if a second
slash or a star follows; otherwise both begin an operator.

A character that begins no token has no class. Whether it has one does not depend on the character
after it.
-/

namespace ScriptLexer

/-- The classes of tokens, one for each recognizer. -/
inductive TokenClass where
  /-- Numbers. -/
  | number
  /-- Keywords and identifiers. -/
  | word
  /-- String literals. -/
  | string
  /-- Comments. -/
  | comment
  /-- Operators. -/
  | operator
  /-- Punctuation marks. -/
  | punctuation
deriving DecidableEq, Repr

namespace TokenClass

/-- The class of a token from its first character and the one after it. -/
def classify (first : Char) (second : Option Char) : Option TokenClass :=
  if isSign first ∧ second.any Char.isDigit then some number
  else if first.isDigit then some number
  else if isIdentStart first then some word
  else if first = '"' ∨ first = '\'' then some string
  else if first = '/' ∧ second.any (fun c ↦ c = '/' ∨ c = '*') then some comment
  else if isOperatorStart first then some operator
  else if isPunctuation first then some punctuation
  else none

/-- The recognizer of a class. -/
def recognizer : TokenClass → Recognizer
  | number => Scan.number
  | word => Scan.word
  | string => Scan.stringLiteral
  | comment => Scan.comment
  | operator => Scan.operator
  | punctuation => Scan.punctuation

/-- Whether no token begins with a character. -/
def beginsNothing (c : Char) : Bool :=
  classify c none == none

/-- **No recognizer looks elsewhere**: what is taken stands at the head of the text. -/
theorem recognizer_taken_isPrefix (cls : TokenClass) (text : List Char) :
    (cls.recognizer text).taken <+: text := by
  cases cls with
  | number => exact Scan.number_taken_isPrefix text
  | word => exact Scan.word_taken_isPrefix text
  | string => exact Scan.stringLiteral_taken_isPrefix text
  | comment => exact Scan.comment_taken_isPrefix text
  | operator => exact Scan.operator_taken_isPrefix text
  | punctuation => exact Scan.punctuation_taken_isPrefix text

/-- **Progress.** A recognizer that was chosen by its class takes something, whatever its
verdict. -/
theorem recognizer_taken_ne_nil {first : Char} {rest : List Char} {cls : TokenClass}
    (h : classify first rest.head? = some cls) : (cls.recognizer (first :: rest)).taken ≠ [] := by
  unfold classify at h
  split at h
  · next hs =>
    obtain rfl := Option.some.inj h
    exact Scan.number_taken_ne_nil rest (.inl hs.1)
  split at h
  · next hd =>
    obtain rfl := Option.some.inj h
    exact Scan.number_taken_ne_nil rest (.inr hd)
  split at h
  · next hw =>
    obtain rfl := Option.some.inj h
    exact Scan.word_taken_ne_nil (by simp [Scan.word, hw, Scan.verbatim])
  split at h
  · obtain rfl := Option.some.inj h
    exact Scan.stringLiteral_taken_ne_nil (by simp)
  split at h
  · next hc =>
    obtain rfl := Option.some.inj h
    obtain ⟨rfl, hsecond⟩ := hc
    refine Scan.comment_taken_ne_nil ?_
    cases rest with
    | nil => simp at hsecond
    | cons second rest =>
      have : second = '/' ∨ second = '*' := by simpa using hsecond
      rcases this with rfl | rfl
      · simp [Scan.comment]
      · simp only [Scan.comment]
        split <;> simp
  split at h
  · next ho =>
    obtain rfl := Option.some.inj h
    exact Scan.operator_taken_ne_nil rest ho
  split at h
  · obtain rfl := Option.some.inj h
    exact Scan.punctuation_taken_ne_nil (by simp)
  · cases h

/-- Whether a character begins no token does not depend on the character after it. -/
theorem classify_eq_none_iff {c : Char} (second : Option Char) :
    classify c second = none ↔ beginsNothing c = true := by
  have key (o : Option Char) : classify c o = none ↔
      ¬ c.isDigit ∧ ¬ isIdentStart c ∧ ¬ (c = '"' ∨ c = '\'') ∧ ¬ isOperatorStart c ∧
        ¬ isPunctuation c := by
    have hs : isSign c = true → isOperatorStart c = true := by
      intro h
      have : c = '+' ∨ c = '-' := by simpa [isSign] using h
      rcases this with rfl | rfl <;> decide
    have hslash : c = '/' → isOperatorStart c = true := by rintro rfl; decide
    simp only [classify]
    grind
  rw [key, beginsNothing, beq_iff_eq, key]

end TokenClass

end ScriptLexer
