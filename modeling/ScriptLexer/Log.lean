import ScriptLexer.Reading
import ScriptLexer.Text.Quoted

/-!
# The log of a run

While a source is tokenized, a **record** is made of each skipped character that is not whitespace,
of each token, and of the way the run ends. The log is the list of all these records in the order in
which they arise; a record has a level, and how much of the log is shown is up to whoever shows it.
-/

namespace ScriptLexer

/-- The levels of records, from the gravest to the most detailed. -/
inductive Level where
  /-- Something is wrong. -/
  | error
  /-- Something may be wrong. -/
  | warn
  /-- What is being done. -/
  | info
  /-- How it is being done. -/
  | debug
  /-- Every step. -/
  | trace
deriving DecidableEq, Repr

namespace Level

/-- The name of a level. -/
def name : Level → String
  | error => "ERROR"
  | warn => "WARN"
  | info => "INFO"
  | debug => "DEBUG"
  | trace => "TRACE"

/-- The least verbosity at which records of a level are shown. -/
def verbosity : Level → Nat
  | error => 0
  | warn => 1
  | info => 2
  | debug => 3
  | trace => 4

end Level

/-- An entry of a log. -/
structure Record where
  /-- How grave or how detailed it is. -/
  level : Level
  /-- What it says. -/
  message : String
deriving DecidableEq, Repr

namespace Record

/-- Whether a record is shown at a verbosity. -/
def isShownAt (verbosity : Nat) (r : Record) : Bool :=
  r.level.verbosity ≤ verbosity

/-- A record as a line of text. -/
def render (r : Record) : String :=
  r.level.name ++ " - " ++ r.message ++ "\n"

/-- The record of a skipped character and its position. -/
def ofSkip (c : Char) (position : Position) : Record :=
  ⟨.debug, "Skipping " ++ quotedChar c ++ " at " ++ position.render⟩

/-- The record of a token. -/
def ofToken (t : Token) : Record :=
  ⟨.trace, t.render⟩

/-- The record of the error that ends a run. -/
def ofError (e : LexError) : Record :=
  ⟨.debug, "Lexer stopped: " ++ e.message⟩

/-- The record that ends a run which has no error, with the number of its tokens. -/
def ofCount (count : Nat) : Record :=
  ⟨.debug, "Lexer produced " ++ toString count ++ " tokens"⟩

end Record

/-- The records of one reading: what it skipped, and then its token or its error. -/
def Reading.records (r : Reading) : List Record :=
  (r.skipped.map fun skip ↦ .ofSkip skip.1 skip.2) ++
    match r.outcome with
    | .accepted t => [.ofToken t]
    | .failed e => [.ofError e]
    | .misplaced => []

/-- The log of the tokenization of a source. -/
def log (source : String) : List Record :=
  (readings source).flatMap Reading.records ++
    match tokenize source with
    | .accepted tokens => [.ofCount tokens.length]
    | .failed _ | .misplaced => []

end ScriptLexer
