/-!
# Character classes

The four classes on which the lexical grammar rests. All of them lie within ASCII: a letter or a
digit of any other script belongs to none.

The classes overlap in one place only, since whatever begins a word may also continue it
(`isIdentContinue_of_isIdentStart`).
-/

namespace ScriptLexer

/-- Whether a character may begin a word: a letter, an underscore or a dollar sign. -/
def isIdentStart (c : Char) : Bool :=
  c.isAlpha || c == '_' || c == '$'

/-- Whether a character may stand inside a word: one that may begin it, or a digit. -/
def isIdentContinue (c : Char) : Bool :=
  c.isAlphanum || c == '_' || c == '$'

/-- The characters with which an operator may begin. -/
def operatorStarts : List Char :=
  ['+', '-', '*', '/', '=', '<', '>', '!', '&', '|', '^', '%']

/-- Whether an operator may begin with a character. -/
def isOperatorStart (c : Char) : Bool :=
  operatorStarts.contains c

/-- The punctuation characters. -/
def punctuationMarks : List Char :=
  ['(', ')', '{', '}', '[', ']', ',', ';', '.']

/-- Whether a character is a punctuation mark. -/
def isPunctuation (c : Char) : Bool :=
  punctuationMarks.contains c

/-- Whether a character is a sign, as numbers and exponents may have one. -/
def isSign (c : Char) : Bool :=
  c == '+' || c == '-'

theorem isIdentContinue_eq (c : Char) : isIdentContinue c = (isIdentStart c || c.isDigit) := by
  simp only [isIdentContinue, isIdentStart, Char.isAlphanum]
  cases c.isAlpha <;> cases c.isDigit <;> simp

theorem isIdentContinue_of_isIdentStart {c : Char} (h : isIdentStart c = true) :
    isIdentContinue c = true := by
  simp [isIdentContinue_eq, h]

end ScriptLexer
