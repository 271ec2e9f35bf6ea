import ScriptLexer.Program

/-!
# The executable

The outer layer of the command: it reads the input that the options name and prints the report. It
decides nothing itself.
-/

namespace ScriptLexer.Executable

open ScriptLexer

/-- The error that the system's answer to an attempt to read stands for. -/
def readErrorOf : IO.Error → ReadError
  | .noFileOrDirectory _ code details => .system code.toNat details
  | .permissionDenied _ code details => .system code.toNat details
  | .inappropriateType _ code details => .system code.toNat details
  | .invalidArgument _ code details => .system code.toNat details
  | .otherError code details => .system code.toNat details
  | e => .system 0 (toString e)

/-- All bytes of a stream, after those that were read already. -/
partial def readAll (stream : IO.FS.Stream) (bytes : ByteArray) : IO ByteArray := do
  let more ← stream.read 65536
  if more.isEmpty then return bytes
  readAll stream (bytes ++ more)

/-- The source that an input yields. -/
def readInput : Input → IO (Except ReadError String)
  | .demo => return .ok Program.demoSource
  | .standardInput => do
    let stream ← IO.getStdin
    match ← (readAll stream .empty).toBaseIO with
    | .ok bytes => return decodeUtf8 bytes
    | .error e => return .error (readErrorOf e)
  | .file path => do
    match ← (IO.FS.withFile path .read fun handle ↦ handle.readBinToEnd).toBaseIO with
    | .ok bytes => return decodeUtf8 bytes
    | .error e => return .error (readErrorOf e)

/-- Prints a report and answers its exit status. -/
def deliver (r : Report) : IO UInt32 := do
  IO.print r.outputText
  IO.eprint r.errorText
  return r.status.toUInt32

end ScriptLexer.Executable

/-- Runs the command. -/
def main (arguments : List String) : IO UInt32 := do
  match ScriptLexer.Options.parse arguments with
  | .error halt => ScriptLexer.Executable.deliver (ScriptLexer.Program.halted halt)
  | .ok options =>
    let source ← ScriptLexer.Executable.readInput options.input
    ScriptLexer.Executable.deliver (ScriptLexer.Program.reportRead options source)
