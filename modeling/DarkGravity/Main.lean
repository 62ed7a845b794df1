import DarkGravity.CommandLine.Run
import DarkGravity.Json.Printer

/-!
# The program

Reads the environment and the files that a command may need, runs the command, and writes its
lines to the output and its log and report to the error output.
-/

open DarkGravity DarkGravity.CommandLine

/-- The variables that a run may look at. -/
def variableNames : List String :=
  [Params.fileVariable, Params.networkVariable, "GC_SERVICE_NAME", "GC_LOG_LEVEL",
    Log.Settings.directivesVariable, "GC_CONSOLE_OUTPUT", "GC_JSON_LOGS",
    "KUBERNETES_SERVICE_HOST", "DOCKER_CONTAINER"]

/-- The number of a failure of the system, which may come with a sign. -/
def failureNumber (code : UInt32) : UInt32 := if code < 0x80000000 then code else 0 - code

/-- Reads a file, or finds out why it cannot be read. -/
def readFile (path : String) : IO (Except ReadError ByteArray) :=
  try
    return .ok (← IO.FS.readBinFile path)
  catch
    | .noFileOrDirectory .. => return .error .notFound
    | .permissionDenied .. => return .error .denied
    | .inappropriateType _ code _ =>
      return .error (if failureNumber code = 20 then .notDirectory else .isDirectory)
    | .invalidArgument _ code details =>
      return .error (if failureNumber code = 36 then .nameTooLong else .other details)
    | e => return .error (.other (toString e))

/-- Runs the program on its arguments. -/
def main (arguments : List String) : IO UInt32 := do
  let values ← variableNames.mapM fun name => return (name, ← IO.getEnv name)
  let env name := (values.lookup name).join
  let paths := match Command.ofArguments arguments with
    | .ok command => command.paths env
    | .error _ => []
  let files ← paths.mapM fun path => return (path, ← readFile path)
  let world : World := ⟨fun path => (files.lookup path).getD (.error .notFound), env⟩
  let result := run world arguments
  for record in result.logged do
    IO.eprintln (if result.json then record.toJson.render else record.line)
  for line in result.printed do
    IO.println line
  for line in result.report do
    IO.eprintln line
  return UInt32.ofNat result.code
