import ScriptLexer.CharClass
import ScriptLexer.Machine.Basic

/-!
# The machine for numbers

Its nine states say what the last character was. Four of them can be the end of a number, behind a
zero, behind another digit of the whole part, behind one of the fraction and behind one of the
exponent; in the others a digit is still missing.
-/

namespace ScriptLexer.Machine

/-- The last character of a number that has been read. -/
inductive NumberState where
  /-- There is none. -/
  | start
  /-- The sign. -/
  | sign
  /-- A zero at the head of the whole part. -/
  | zero
  /-- A digit of a whole part that does not begin with zero. -/
  | whole
  /-- The point. -/
  | point
  /-- A digit of the fraction. -/
  | fraction
  /-- The letter of the exponent. -/
  | letter
  /-- The sign of the exponent. -/
  | powerSign
  /-- A digit of the exponent. -/
  | power
deriving DecidableEq, Repr

/-- How a number ends in front of a character that is no part of it. -/
def numberEnding (c : Char) : Ending :=
  if isIdentContinue c then .reject (.invalidTrailingCharacter c) else .accept

/-- The move where the whole part is about to begin. -/
def wholeMove (c : Char) : Move NumberState :=
  if c = '0' then .take .zero
  else if c.isDigit then .take .whole
  else .stop (.reject .malformedNumber)

/-- The move where the exponent is about to begin. -/
def exponentMove (c : Char) : Move NumberState :=
  if c = 'e' ∨ c = 'E' then .take .letter else .stop (numberEnding c)

/-- The move where the fraction is about to begin. -/
def fractionMove (c : Char) : Move NumberState :=
  if c = '.' then .take .point else exponentMove c

/-- The move at a digit, and another where there is none. -/
def digitMove (state : NumberState) (other : Char → Move NumberState) (c : Char) :
    Move NumberState :=
  if c.isDigit then .take state else other c

/-- The machine for numbers. -/
def number : Machine NumberState where
  initial := .start
  isComplete _ := false
  move
    | .start, c => if isSign c then .take .sign else wholeMove c
    | .sign, c => wholeMove c
    | .zero, c => if c.isDigit then .stop (.reject .leadingZero) else fractionMove c
    | .whole, c => digitMove .whole fractionMove c
    | .point, c => digitMove .fraction (fun _ ↦ .stop (.reject .malformedNumber)) c
    | .fraction, c => digitMove .fraction exponentMove c
    | .letter, c =>
      if isSign c then .take .powerSign
      else digitMove .power (fun _ ↦ .stop (.reject .malformedExponent)) c
    | .powerSign, c => digitMove .power (fun _ ↦ .stop (.reject .malformedExponent)) c
    | .power, c => digitMove .power (fun c ↦ .stop (numberEnding c)) c
  atEnd
    | .start | .sign | .point => .reject .malformedNumber
    | .letter | .powerSign => .reject .malformedExponent
    | .zero | .whole | .fraction | .power => .accept
  kind _ := .number

theorem number_isVerbatim : number.IsVerbatim where
  isComplete_eq _ := rfl
  keepsMarks_move state c := by
    cases state <;> simp [number, digitMove, fractionMove, exponentMove, wholeMove]

end ScriptLexer.Machine
