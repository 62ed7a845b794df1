/-!
# Files and environment

What a run sees of the world: the contents of files by path, and environment variables by name.
-/

namespace DarkGravity

/-- Why a file cannot be read as text. -/
inductive ReadError where
  | notFound
  /-- The path goes on behind a file. -/
  | notDirectory
  | isDirectory
  | nameTooLong
  | denied
  /-- The contents are not well-formed UTF-8. -/
  | notText
  | other (reason : String)
  deriving DecidableEq, Repr

/-- The wording of a failure. -/
def ReadError.message : ReadError → String
  | .notFound => "No such file or directory (os error 2)"
  | .notDirectory => "Not a directory (os error 20)"
  | .isDirectory => "Is a directory (os error 21)"
  | .nameTooLong => "File name too long (os error 36)"
  | .denied => "Permission denied (os error 13)"
  | .notText => "stream did not contain valid UTF-8"
  | .other reason => reason

/-- The files and the environment of a run. -/
structure World where
  file : String → Except ReadError ByteArray
  env : String → Option String

/-- The text in a file. -/
def World.readText (w : World) (path : String) : Except ReadError String := do
  let contents ← w.file path
  match String.fromUTF8? contents with
  | some text => .ok text
  | none => .error .notText

end DarkGravity
