import ScriptLexer.LexError

/-!
# Outcomes

Reading a token ends in one of three ways, which are kept apart throughout:

* it is **accepted** and yields a value;
* it has **failed** with an error of the source text;
* it was **misplaced**: a recognizer was asked for a token of a sort that cannot begin where it was
  asked. No source text makes the lexer do so; only a direct call of a recognizer can.
-/

namespace ScriptLexer

/-- The result of reading something from a source text. -/
inductive Outcome (α : Type) where
  /-- The text was as it should be. -/
  | accepted (value : α)
  /-- The text has an error. -/
  | failed (error : LexError)
  /-- Nothing of the wanted sort can begin here. -/
  | misplaced
deriving DecidableEq, Repr

namespace Outcome

variable {α β : Type}

/-- The outcome with its value transformed. -/
def map (f : α → β) : Outcome α → Outcome β
  | accepted a => accepted (f a)
  | failed e => failed e
  | misplaced => misplaced

/-- The value of an accepted outcome. -/
def value? : Outcome α → Option α
  | accepted a => some a
  | failed _ | misplaced => none

/-- Whether an outcome is accepted. -/
def isAccepted : Outcome α → Bool
  | accepted _ => true
  | failed _ | misplaced => false

/-- The values of a list of outcomes if all of them are accepted, else the first that is not. -/
def collect : List (Outcome α) → Outcome (List α)
  | [] => accepted []
  | accepted a :: rest => (collect rest).map (a :: ·)
  | failed e :: _ => failed e
  | misplaced :: _ => misplaced

end Outcome

end ScriptLexer
