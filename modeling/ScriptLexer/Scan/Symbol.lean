import ScriptLexer.CharClass
import ScriptLexer.Scan.Basic

/-!
# Operators and punctuation

The operators are a table, and the operator at the head of a text is the longest entry that the
text begins with. It is found by growing a candidate one character at a time for as long as it
stays in the table. That misses nothing because the table holds, with each operator, everything
that it begins with.

Punctuation is a single character.
-/

namespace ScriptLexer.Scan

/-- The operators. -/
def operators : List (List Char) :=
  [['='], ['=', '='], ['=', '=', '='],
   ['!'], ['!', '='], ['!', '=', '='],
   ['<'], ['<', '<'], ['<', '='],
   ['>'], ['>', '='], ['>', '>'], ['>', '>', '='], ['>', '>', '>'], ['>', '>', '>', '='],
   ['&'], ['&', '&'],
   ['|'], ['|', '|'],
   ['+'], ['+', '='],
   ['-'], ['-', '='],
   ['*'], ['*', '='],
   ['/'], ['/', '='],
   ['%'], ['%', '='],
   ['^'], ['^', '=']]

/-- Whether a text is an operator. -/
def isOperator (text : List Char) : Bool :=
  operators.contains text

/-- The characters by which a candidate can grow into the text after it and stay an operator. -/
def operatorGrowth (candidate : List Char) : List Char → List Char
  | [] => []
  | c :: rest =>
    if isOperator (candidate ++ [c]) then c :: operatorGrowth (candidate ++ [c]) rest else []

/-- The recognizer of operators. -/
def operator : Recognizer := fun text ↦
  match operatorGrowth [] text with
  | [] => ⟨[], .reject .unknownOperator⟩
  | c :: rest => verbatim .operator (c :: rest)

/-- The recognizer of punctuation. It takes whatever character comes first. -/
def punctuation : Recognizer := fun text ↦
  verbatim .punctuation (text.take 1)

theorem operatorGrowth_isPrefix (candidate text : List Char) :
    operatorGrowth candidate text <+: text := by
  fun_induction operatorGrowth candidate text with
  | case1 => exact List.nil_prefix
  | case2 candidate c rest _ ih => exact List.cons_prefix_cons.2 ⟨rfl, ih⟩
  | case3 => exact List.nil_prefix

theorem operator_taken (text : List Char) : (operator text).taken = operatorGrowth [] text := by
  rw [operator]
  split <;> simp_all [verbatim]

theorem operator_taken_isPrefix (text : List Char) : (operator text).taken <+: text := by
  rw [operator_taken]
  exact operatorGrowth_isPrefix [] text

theorem isOperator_iff_mem {text : List Char} : isOperator text = true ↔ text ∈ operators :=
  List.contains_iff_mem

/-- Every character with which an operator may begin is an operator by itself. -/
theorem isOperator_singleton {c : Char} (h : isOperatorStart c = true) : isOperator [c] = true := by
  have table : (operatorStarts.all fun c ↦ isOperator [c]) = true := by decide
  exact List.all_eq_true.1 table c (by simpa [isOperatorStart] using h)

/-- Operators begin with no other characters. -/
theorem isOperatorStart_of_isOperator {c : Char} {rest : List Char}
    (h : isOperator (c :: rest) = true) : isOperatorStart c = true := by
  have table : (operators.all fun operator ↦ operator.head?.all isOperatorStart) = true := by decide
  simpa using List.all_eq_true.1 table _ (isOperator_iff_mem.1 h)

theorem operator_taken_ne_nil {c : Char} (rest : List Char) (h : isOperatorStart c = true) :
    (operator (c :: rest)).taken ≠ [] := by
  simp [operator_taken, operatorGrowth, isOperator_singleton h]

theorem punctuation_taken_isPrefix (text : List Char) : (punctuation text).taken <+: text :=
  List.take_prefix 1 text

theorem punctuation_taken_ne_nil {text : List Char} (h : text ≠ []) :
    (punctuation text).taken ≠ [] := by
  cases text <;> simp_all [punctuation, verbatim]

end ScriptLexer.Scan
