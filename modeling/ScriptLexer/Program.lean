import ScriptLexer.Directory
import ScriptLexer.Excerpt
import ScriptLexer.Log
import ScriptLexer.Options

/-!
# The command

The command reads a source and lists its tokens on standard output; on standard error it shows the
log and, after an error, an excerpt of the source. All of that is a value, the **report**, which is
computed from the arguments and from what is read. Only the printing of a report is left to the
outer layer.

The options work on separate parts of a report. `-v` and `-q` choose among the records of the log
and touch nothing else; `-t` matters only to the listing of a source that has an error, and there
decides between the tokens before the error and none.
-/

namespace ScriptLexer

/-- What is written to standard error. -/
inductive Notice where
  /-- A record of the log. -/
  | record (record : Record)
  /-- An excerpt of the source. -/
  | excerpt (excerpt : Excerpt)
  /-- The reason why there was nothing to do. -/
  | refusal (text : String)
deriving DecidableEq, Repr

/-- The text of a notice. -/
def Notice.render : Notice → String
  | record r => r.render
  | excerpt x => x.render
  | refusal text => text

/-- Everything the command does. -/
structure Report where
  /-- The exit status. -/
  status : Nat
  /-- What is written to standard output. -/
  listing : List String := []
  /-- What is written to standard error. -/
  notices : List Notice := []
deriving DecidableEq, Repr

namespace Report

/-- The text on standard output, one line for each entry. -/
def outputText (r : Report) : String :=
  String.join (r.listing.map fun line ↦ line ++ "\n")

/-- The text on standard error. -/
def errorText (r : Report) : String :=
  String.join (r.notices.map Notice.render)

end Report

namespace Program

/-! ### Fixed texts -/

/-- The built-in program. -/
def demoSource : String :=
  "\nlet x = -12.5e+3;\n" ++
  "const y = 42; // comment\n" ++
  "/* multi\n   line */\n" ++
  "if (x >= 0 && x !== y) \x7b\n" ++
  "    console.log(\"ok\");\n" ++
  "\x7d\n"

/-- How the command is called. -/
def usage : String :=
  "Usage: jslex [OPTIONS] [FILE]"

/-- The lines of the help. -/
def help : List String :=
  ["A lexer for a JavaScript-like language",
   "",
   usage,
   "",
   "Arguments:",
   "  [FILE]  Source file to tokenize. Reads standard input when absent or \x60-\x60",
   "",
   "Options:",
   "      --demo        Tokenize the built-in demo program instead of reading input",
   "  -t, --trace       Print each token as soon as it is produced",
   "  -v, --verbose...  Increase log verbosity (may be repeated)",
   "  -q, --quiet       Silence all log output",
   "  -h, --help        Print help"]

/-! ### Reports -/

/-- The report of a command that does not get to its work. -/
def halted : Halt → Report
  | .help => { status := 0, listing := help }
  | .usage e =>
    { status := 2
      notices := [.refusal ("error: " ++ e.message ++ "\n\n" ++ usage ++ "\n")] }

/-- The report of a command whose input cannot be read. -/
def unreadable (input : Input) (e : ReadError) : Report :=
  let what :=
    match input with
    | .file path => path
    | .demo | .standardInput => "source from standard input"
  { status := 1
    notices :=
      [.refusal ("Error: Unable to read " ++ what ++ "\n\nCaused by:\n    " ++ e.message ++ "\n")] }

/-- The record that a source has been read. -/
def startRecord (source : String) : Record :=
  ⟨.info, "Tokenizing " ++ toString source.utf8ByteSize ++ " bytes of source"⟩

/-- The record that closes the run on a faulty source. -/
def errorRecord (e : LexError) : Record :=
  ⟨.error, "Lexer error at " ++ e.position.render ++ " (" ++ e.cause.message ++ ")"⟩

/-- All notices of the run on a source. -/
def notices (source : String) : List Notice :=
  .record (startRecord source) :: (log source).map .record ++
    match tokenize source with
    | .failed e => [.excerpt (.ofError source e), .record (errorRecord e)]
    | .accepted _ | .misplaced => []

/-- Whether the options let a notice through. They hold back records only. -/
def isShown (o : Options) : Notice → Bool
  | .record r => !o.quiet && r.isShownAt o.logVerbosity
  | .excerpt _ | .refusal _ => true

/-- The tokens listed for a source. Without `-t` they are listed at the end, if it is reached. -/
def listedTokens (o : Options) (source : String) : List Token :=
  if o.trace then tokensSeen source
  else
    match tokenize source with
    | .accepted tokens => tokens
    | .failed _ | .misplaced => []

/-- The report of the run on a source. -/
def report (o : Options) (source : String) : Report where
  status := if (tokenize source).isAccepted then 0 else 1
  listing := (listedTokens o source).map Token.render
  notices := (notices source).filter (isShown o)

/-- The report for what was read, whether or not that succeeded. -/
def reportRead (o : Options) : Except ReadError String → Report
  | .ok source => report o source
  | .error e => unreadable o.input e

/-! ### The command in its surroundings -/

/-- What the command can read from. -/
structure Surroundings where
  /-- The bytes on standard input. -/
  standardInput : ByteArray
  /-- The files. -/
  directory : Directory

/-- The source that an input yields. -/
def Surroundings.read (s : Surroundings) : Input → Except ReadError String
  | .demo => .ok demoSource
  | .standardInput => decodeUtf8 s.standardInput
  | .file path => (s.directory.read path).bind decodeUtf8

/-- The report of the command. -/
def run (arguments : List String) (s : Surroundings) : Report :=
  match Options.parse arguments with
  | .error halt => halted halt
  | .ok options => reportRead options (s.read options.input)

end Program

end ScriptLexer
