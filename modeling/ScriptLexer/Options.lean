/-!
# Command line options

The arguments of a command are first taken apart into **items**: flags, requests for help, names of
files, and things that are neither. A long flag is an item, a bundle of short flags is one item for
each letter, and after a lone `--` every argument is the name of a file.

The items are then taken one by one from left to right, and the first that cannot be taken decides
how the command is refused. Two matters are not settled at once.

* A file with an empty name is not refused before the next flag comes or the arguments end.
* A file beside `--demo` is not refused before the arguments end.
-/

namespace ScriptLexer

/-- The flags of the command. -/
inductive Flag where
  /-- Read the built-in program. -/
  | demo
  /-- List tokens as they are produced. -/
  | trace
  /-- Show more of the log. -/
  | verbose
  /-- Show nothing of the log. -/
  | quiet
deriving DecidableEq, Repr

/-- What a part of the command line says. -/
inductive Item where
  /-- A flag. -/
  | flag (flag : Flag)
  /-- A request for help. -/
  | help
  /-- The name of a file. -/
  | file (path : String)
  /-- A flag that takes no value, given one. -/
  | attachedValue
  /-- A flag that does not exist. -/
  | unknown
deriving DecidableEq, Repr

namespace Item

/-- The item of a long flag's name. -/
def ofName : String → Item
  | "demo" => .flag .demo
  | "trace" => .flag .trace
  | "verbose" => .flag .verbose
  | "quiet" => .flag .quiet
  | "help" => .help
  | _ => .unknown

/-- The item of a short flag's letter. -/
def ofLetter : Char → Item
  | 't' => .flag .trace
  | 'v' => .flag .verbose
  | 'q' => .flag .quiet
  | 'h' => .help
  | _ => .unknown

/-- The item of a long flag, given what stands after its dashes. -/
def ofLong (text : List Char) : Item :=
  let name := text.takeWhile (· ≠ '=')
  let item := ofName (String.ofList name)
  if name = text ∨ item = .unknown then item else .attachedValue

/-- The items of an argument. A lone dash names a file. -/
def ofArgument (argument : String) : List Item :=
  match argument.toList with
  | '-' :: '-' :: text => [ofLong text]
  | '-' :: letter :: letters => (letter :: letters).map ofLetter
  | _ => [.file argument]

/-- The items of all arguments. -/
def ofArguments : List String → List Item
  | [] => []
  | argument :: rest =>
    if argument = "--" then rest.map .file else ofArgument argument ++ ofArguments rest

end Item

/-- Why a command is refused. -/
inductive UsageError where
  /-- An unknown flag, or a second file. -/
  | unknownArgument
  /-- A value attached to a flag. -/
  | unexpectedValue
  /-- A flag that may be given once only is given again. -/
  | repeatedFlag
  /-- Both `--demo` and a file. -/
  | demoWithFile
  /-- A file with an empty name. -/
  | emptyFileName
deriving DecidableEq, Repr

/-- The wording of a refusal. -/
def UsageError.message : UsageError → String
  | unknownArgument => "unexpected argument found"
  | unexpectedValue => "unexpected value for a flag found"
  | repeatedFlag => "a flag cannot be used multiple times"
  | demoWithFile => "the argument '--demo' cannot be used with '[FILE]'"
  | emptyFileName => "a value is required for '[FILE]' but none was supplied"

/-- Why a command does not get to its work. -/
inductive Halt where
  /-- Help was asked for. -/
  | help
  /-- The arguments are not as they should be. -/
  | usage (error : UsageError)
deriving DecidableEq, Repr

/-- Where the source comes from. -/
inductive Input where
  /-- The built-in program. -/
  | demo
  /-- Standard input. -/
  | standardInput
  /-- A file. -/
  | file (path : String)
deriving DecidableEq, Repr

/-- The options of the command. -/
structure Options where
  /-- The file that was named, if any. -/
  file : Option String := none
  /-- Whether `--demo` was given. -/
  demo : Bool := false
  /-- Whether tokens are listed as they are produced. -/
  trace : Bool := false
  /-- How often more of the log was asked for, up to 255 times. -/
  verbose : Nat := 0
  /-- Whether the log is silenced. -/
  quiet : Bool := false
deriving DecidableEq, Repr

namespace Options

/-- Where the source comes from; the file `-` stands for standard input. -/
def input (o : Options) : Input :=
  if o.demo then .demo
  else
    match o.file with
    | none => .standardInput
    | some path => if path = "-" then .standardInput else .file path

/-- The verbosity of the log. Without any flag, warnings are shown. -/
def logVerbosity (o : Options) : Nat :=
  1 + o.verbose

/-- The options after one more flag. -/
def takeFlag (o : Options) : Flag → Except UsageError Options
  | .demo => if o.demo then .error .repeatedFlag else .ok { o with demo := true }
  | .trace => if o.trace then .error .repeatedFlag else .ok { o with trace := true }
  | .verbose => .ok { o with verbose := min 255 (o.verbose + 1) }
  | .quiet => if o.quiet then .error .repeatedFlag else .ok { o with quiet := true }

/-- Whether an empty file name waits for its refusal. -/
def hasEmptyFile (o : Options) : Bool :=
  o.file == some ""

/-- The options after one more item. -/
def take (o : Options) : Item → Except Halt Options
  | .unknown => .error (.usage .unknownArgument)
  | .attachedValue => .error (.usage .unexpectedValue)
  | .file path =>
    if o.file.isSome then .error (.usage .unknownArgument) else .ok { o with file := some path }
  | .help => if o.hasEmptyFile then .error (.usage .emptyFileName) else .error .help
  | .flag flag =>
    if o.hasEmptyFile then .error (.usage .emptyFileName)
    else (o.takeFlag flag).mapError .usage

/-- The options once all items have been taken. -/
def finish (o : Options) : Except Halt Options :=
  if o.hasEmptyFile then .error (.usage .emptyFileName)
  else if o.demo && o.file.isSome then .error (.usage .demoWithFile)
  else .ok o

/-- The options that the arguments of a command stand for. -/
def parse (arguments : List String) : Except Halt Options := do
  let options ← (Item.ofArguments arguments).foldlM take {}
  options.finish

end Options

end ScriptLexer
