import ScriptLexer.Reading

/-!
# Lexers

A **lexer** reads a source one token at a time. There are two ways to ask it:

* `nextToken` always reads. At the end of the source it gives the end mark again and again, and
  after an error it carries on from where the faulty token broke off.
* `next` reads until it has itself given the end mark or an error, and gives nothing from then on.
  What `nextToken` was asked in between does not count.
-/

namespace ScriptLexer

/-- A reader of tokens in the middle of its work. -/
structure Lexer where
  /-- Where it stands. -/
  cursor : Cursor
  /-- Whether `next` has nothing more to give. -/
  finished : Bool
deriving DecidableEq, Repr

namespace Lexer

/-- The lexer at the beginning of a text. -/
def ofString (source : String) : Lexer :=
  ⟨.ofString source, false⟩

/-- The next token, whatever has come before. -/
def nextToken (l : Lexer) : Outcome Token × Lexer :=
  let reading := l.cursor.read
  (reading.outcome, { l with cursor := reading.after })

/-- The next token, unless the end mark or an error has been given this way. -/
def next (l : Lexer) : Option (Outcome Token) × Lexer :=
  if l.finished then (none, l)
  else
    let reading := l.cursor.read
    (some reading.outcome, ⟨reading.after, reading.segment.isLast⟩)

/-- The two ways to ask a lexer. -/
inductive Call where
  /-- Ask by `next`. -/
  | next
  /-- Ask by `nextToken`. -/
  | nextToken
deriving DecidableEq, Repr

/-- The answer to a call, and the lexer after it. -/
def call (l : Lexer) : Call → Option (Outcome Token) × Lexer
  | .next => l.next
  | .nextToken => (some l.nextToken.1, l.nextToken.2)

/-- The answers to a list of calls, and the lexer after the last one. -/
def replay (l : Lexer) : List Call → List (Option (Outcome Token)) × Lexer
  | [] => ([], l)
  | c :: rest =>
    let (answer, l) := l.call c
    let (answers, l) := l.replay rest
    (answer :: answers, l)

end Lexer

end ScriptLexer
