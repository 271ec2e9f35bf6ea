import ScriptLexer.Outcome
import ScriptLexer.Token

/-!
# Scans

A **recognizer** looks at the text that is left and decides about the token at its head. What it
finds is a **scan**: the characters it has taken and its verdict on them. Neither depends on where
in a source the text stands; the position enters only when the verdict is turned into an outcome
(`Verdict.at`).

A recognizer takes its characters from the head of the text and never gives one back, also when it
rejects: `Scan.taken` says how far it has gone in every case.
-/

namespace ScriptLexer

/-- What a recognizer decides. -/
inductive Verdict where
  /-- There is a token of the given kind and lexeme. -/
  | accept (kind : TokenKind) (lexeme : List Char)
  /-- The token that begins here is faulty. -/
  | reject (cause : Cause)
  /-- No token of the recognizer's class can begin here. -/
  | misplaced
deriving DecidableEq, Repr

/-- The outcome of a verdict on a token that begins at a position. -/
def Verdict.at (position : Position) : Verdict → Outcome Token
  | accept kind lexeme => .accepted ⟨kind, String.ofList lexeme, position⟩
  | reject cause => .failed ⟨cause, position⟩
  | misplaced => .misplaced

@[simp] theorem Verdict.at_eq_misplaced_iff {position : Position} {verdict : Verdict} :
    verdict.at position = .misplaced ↔ verdict = .misplaced := by
  cases verdict <;> simp [Verdict.at]

/-- What a recognizer has taken from the head of a text, and its verdict. -/
structure Scan where
  /-- The characters taken. -/
  taken : List Char
  /-- The verdict on them. -/
  verdict : Verdict
deriving DecidableEq, Repr

theorem Scan.accept_inj {taken taken' lexeme lexeme' : List Char} {kind kind' : TokenKind}
    (h : Scan.mk taken (.accept kind lexeme) = ⟨taken', .accept kind' lexeme'⟩) :
    taken = taken' ∧ kind = kind' ∧ lexeme = lexeme' := by
  obtain ⟨htaken, hverdict⟩ := Scan.mk.inj h
  exact ⟨htaken, Verdict.accept.inj hverdict⟩

theorem Scan.reject_inj {taken taken' : List Char} {cause cause' : Cause}
    (h : Scan.mk taken (.reject cause) = ⟨taken', .reject cause'⟩) :
    taken = taken' ∧ cause = cause' := by
  obtain ⟨htaken, hverdict⟩ := Scan.mk.inj h
  exact ⟨htaken, Verdict.reject.inj hverdict⟩

/-- The scan of a token whose lexeme is its whole text. -/
def Scan.verbatim (kind : TokenKind) (text : List Char) : Scan :=
  ⟨text, .accept kind text⟩

/-- A function from the text that is left to a scan of its head. -/
abbrev Recognizer := List Char → Scan

end ScriptLexer
