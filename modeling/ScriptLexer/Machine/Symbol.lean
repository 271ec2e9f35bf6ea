import ScriptLexer.Machine.Basic

/-!
# The machine for operators

The states tell the operators apart by what can follow them, and no further: all arithmetic
operators lead to one state, and so do all operators that nothing can follow. There is no table of
operators here.

Punctuation needs no machine (`Cursor.readMark`).
-/

namespace ScriptLexer

namespace Machine

/-- What has been read of an operator. -/
inductive OperatorState where
  /-- Nothing. -/
  | start
  /-- An equals sign. -/
  | assign
  /-- Two of them. -/
  | equal
  /-- An exclamation mark. -/
  | bang
  /-- An exclamation mark and an equals sign. -/
  | notEqual
  /-- An angle bracket that opens. -/
  | less
  /-- One that closes. -/
  | greater
  /-- Two of them. -/
  | shift
  /-- Three of them. -/
  | unsignedShift
  /-- An ampersand. -/
  | ampersand
  /-- A bar. -/
  | pipe
  /-- An arithmetic sign. -/
  | arithmetic
  /-- An operator that nothing can follow. -/
  | complete
deriving DecidableEq, Repr

/-- The moves of the machine for operators. -/
def operatorMove : OperatorState → Char → Move OperatorState
  | .start, '=' => .take .assign
  | .start, '!' => .take .bang
  | .start, '<' => .take .less
  | .start, '>' => .take .greater
  | .start, '&' => .take .ampersand
  | .start, '|' => .take .pipe
  | .start, '+' | .start, '-' | .start, '*' | .start, '/' | .start, '%' | .start, '^' =>
    .take .arithmetic
  | .start, _ => .stop (.reject .unknownOperator)
  | .assign, '=' => .take .equal
  | .equal, '=' => .take .complete
  | .bang, '=' => .take .notEqual
  | .notEqual, '=' => .take .complete
  | .less, '<' | .less, '=' => .take .complete
  | .greater, '>' => .take .shift
  | .shift, '>' => .take .unsignedShift
  | .greater, '=' | .shift, '=' | .unsignedShift, '=' => .take .complete
  | .ampersand, '&' => .take .complete
  | .pipe, '|' => .take .complete
  | .arithmetic, '=' => .take .complete
  | _, _ => .stop .accept

/-- How the machine for operators ends in front of what is no part of one. -/
def operatorEnding : OperatorState → Ending
  | .start => .reject .unknownOperator
  | _ => .accept

/-- The machine for operators. -/
def operator : Machine OperatorState where
  initial := .start
  isComplete _ := false
  move := operatorMove
  atEnd := operatorEnding
  kind _ := .operator

theorem operator_isVerbatim : operator.IsVerbatim where
  isComplete_eq _ := rfl
  keepsMarks_move state c := by
    show (operatorMove state c).keepsMarks = true
    unfold operatorMove
    split <;> rfl

end Machine

namespace Cursor

/-- A single character, read as a punctuation mark whatever it is. -/
def readMark (c : Cursor) : Option (Outcome Token) × Cursor :=
  let after := c.next.2
  ((after.sliceFrom? c.offset).map fun lexeme ↦ .accepted ⟨.punctuation, lexeme, c.position⟩, after)

end Cursor

end ScriptLexer
