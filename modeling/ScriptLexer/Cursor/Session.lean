import ScriptLexer.Machine

/-!
# Sessions with a cursor

A **session** holds a cursor and one saved copy of it, and is driven by commands. Every command
gives a reply. The commands are all that can be done with a cursor: looking ahead, moving, slicing,
saving and restoring, and reading a token of any class at any place, whether or not one can begin
there. A token is read by the machine of its class.
-/

namespace ScriptLexer.Cursor

/-- What can be asked of a session. -/
inductive Command where
  /-- Move over the next character. -/
  | next
  /-- Look at the next character. -/
  | peek
  /-- Look at the character after the next one. -/
  | peekSecond
  /-- Move over the characters that satisfy a condition. -/
  | consume (condition : Char → Bool)
  /-- Move over the characters that a condition with a memory lets pass. -/
  | consumeBy (condition : List Char → Char → Bool)
  /-- Cut out the source between two byte offsets. -/
  | slice (start stop : Nat)
  /-- Cut out the source from a byte offset up to the cursor. -/
  | sliceFrom (start : Nat)
  /-- Keep a copy of the cursor. -/
  | save
  /-- Go to the kept copy. -/
  | restore
  /-- Read a token of a class. -/
  | recognize (cls : TokenClass)

/-- The answer to a command. -/
inductive Reply where
  /-- A character, or none at the end of the text. -/
  | character (c : Option Char)
  /-- A piece of the source, or none where the offsets do not mark one. -/
  | text (piece : Option String)
  /-- The outcome of reading a token. -/
  | token (outcome : Outcome Token)
  /-- The command has no answer. -/
  | done
deriving DecidableEq, Repr

/-- A cursor and its saved copy. -/
structure Session where
  /-- The cursor. -/
  current : Cursor
  /-- The copy to which `restore` returns. -/
  saved : Cursor
deriving DecidableEq, Repr

namespace Session

/-- A session at the beginning of a text, where the copy is kept, too. -/
def ofString (source : String) : Session :=
  ⟨.ofString source, .ofString source⟩

/-- The reply to a command, and the session after it. A token whose marks mark no slice is answered
like a slice that is none. -/
def perform (s : Session) : Command → Reply × Session
  | .next =>
    let (c, cursor) := s.current.next
    (.character c, { s with current := cursor })
  | .peek => (.character s.current.peek?, s)
  | .peekSecond => (.character s.current.peekSecond?, s)
  | .consume condition =>
    let (piece, cursor) := s.current.takeWhile condition
    (.text (some piece), { s with current := cursor })
  | .consumeBy condition =>
    let (piece, cursor) := s.current.takeWhileBy condition
    (.text (some piece), { s with current := cursor })
  | .slice start stop => (.text (s.current.slice? start stop), s)
  | .sliceFrom start => (.text (s.current.sliceFrom? start), s)
  | .save => (.done, { s with saved := s.current })
  | .restore => (.done, { s with current := s.saved })
  | .recognize cls =>
    let (outcome, cursor) := cls.run s.current
    (outcome.elim (.text none) .token, { s with current := cursor })

/-- The replies to a list of commands, each with the session after its command. -/
def performAll (s : Session) : List Command → List (Reply × Session)
  | [] => []
  | command :: rest =>
    let step := s.perform command
    step :: step.2.performAll rest

end Session

end ScriptLexer.Cursor
