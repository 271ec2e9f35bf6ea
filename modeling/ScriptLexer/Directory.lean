/-!
# Reading bytes

What the command reads it gets as bytes, from standard input or from a file. A **directory** is a
flat collection of files, and a path leads to one of them if it is the name of the file, perhaps
behind steps that stay in the directory. Bytes that are read must be the UTF-8 form of a text.
-/

namespace ScriptLexer

/-- Why something cannot be read. -/
inductive ReadError where
  /-- The system refuses, with a number and a description. -/
  | system (code : Nat) (description : String)
  /-- The bytes are not the UTF-8 form of a text. -/
  | invalidUtf8
deriving DecidableEq, Repr

namespace ReadError

/-- There is nothing at a path. -/
def notFound : ReadError :=
  .system 2 "No such file or directory"

/-- A path goes through a file. -/
def notADirectory : ReadError :=
  .system 20 "Not a directory"

/-- A path leads to a directory. -/
def isADirectory : ReadError :=
  .system 21 "Is a directory"

/-- The wording of an error. -/
def message : ReadError → String
  | system code description => description ++ " (os error " ++ toString code ++ ")"
  | invalidUtf8 => "stream did not contain valid UTF-8"

end ReadError

/-- The text of which some bytes are the UTF-8 form. -/
def decodeUtf8 (bytes : ByteArray) : Except ReadError String :=
  match String.fromUTF8? bytes with
  | some text => .ok text
  | none => .error .invalidUtf8

/-- A flat collection of files. -/
structure Directory where
  /-- The files by their names. -/
  files : List (String × ByteArray)

namespace Directory

/-- The file to which the steps of a path lead. -/
def follow (d : Directory) : List String → Except ReadError ByteArray
  | [] => .error .isADirectory
  | step :: rest =>
    if step = "" ∨ step = "." then d.follow rest
    else
      match d.files.lookup step with
      | none => .error .notFound
      | some bytes => if rest.isEmpty then .ok bytes else .error .notADirectory

/-- The file at a path. Paths that begin at the root lead outside. -/
def read (d : Directory) (path : String) : Except ReadError ByteArray :=
  if path.startsWith "/" then .error .notFound else d.follow (path.splitOn "/")

end Directory

end ScriptLexer
