import DarkGravity.CommandLine.Arguments
import DarkGravity.Log.Filter
import DarkGravity.Log.Metrics
import DarkGravity.Params.Source
import DarkGravity.Replay.ChainFile

/-!
# Runs of the program

A run takes its arguments and what it sees of the world, and gives the lines it prints, its log, a
report of the failure it ended in, and an exit code.
-/

namespace DarkGravity.CommandLine

/-- Something that a command does. -/
inductive Act where
  | log (event : Event)
  | print (line : String)
  deriving DecidableEq

/-- A command that is carried out; it fails with the wordings of an error, outermost first. -/
abbrev Run := Traced Act (List String)

/-- The acts of a computation that only logs. -/
def Run.ofTraced {ε α : Type} (messages : ε → List String) (x : Traced Event ε α) : Run α :=
  ⟨x.outcome.mapError messages, x.events.map .log⟩

/-- The parameters that a command asks for: a file before a name before the environment. -/
def chooseParams (w : World) (network params : Option String) : Except (List String) Params :=
  match params, network with
  | some path, _ =>
    (Params.ofFile w path).mapError fun e =>
      ("Failed to load parameters from " ++ path) :: e.messages
  | none, some name => (Params.ofNetworkName name).mapError Params.LoadError.messages
  | none, none =>
    (Params.ofEnvironment w).mapError fun e => "Failed to load network parameters" :: e.messages

/-- The chain in a file. -/
def readChain (w : World) (path : String) : Except (List String) ChainFile :=
  match w.readText path with
  | .error e => .error ["Failed to read chain file " ++ path, e.message]
  | .ok text =>
    (Json.parseAs ChainFile.ofJson? text).mapError fun e =>
      ["Failed to parse chain file " ++ path, e.message]

/-- How a rejection is reported. -/
def rejectionText (report : Report) (r : Rejection) : String :=
  s!"header {r.hash.display} at height {r.height.toNat} rejected: {r.reason.message} "
    ++ s!"({report.verified} verified before it)"

/-- Replays the chain in a file. -/
def verify (w : World) (chain : String) (network params : Option String) (skipWork metrics : Bool) :
    Run Unit := do
  let p ← Traced.ofExcept (chooseParams w network params)
  Traced.emit (.log (.paramsLoaded p.network))
  let verifier ← Traced.ofExcept
    ((Verifier.ofParams p).mapError fun fault => (Params.LoadError.invalid fault).messages)
  -- faults of the parameters are reported before the chain is read
  let file ← Traced.ofExcept (readChain w chain)
  let replayed := file.replay verifier .portable (!skipWork)
  let report ← Run.ofTraced ChainFile.Fault.messages replayed
  if metrics then
    (Log.Metrics.ofEvents replayed.events).lines.forM fun line => Traced.emit (.print line)
  match report.rejection with
  | none => Traced.emit (.print s!"OK: {report.verified} headers verified")
  | some r => Traced.fail [rejectionText report r]

/-- Prints the hashes of bytes that are given as digits; blanks around them do not count. -/
def hash (input : String) (single : Bool) : Run Unit := do
  let bytes ← Traced.ofExcept
    ((Hex.decode (String.ofList (Text.trim input.toList))).mapError fun e =>
      ["Input is not valid hex", e.message])
  Traced.emit (.print (workHash bytes).storedHex)
  if single then Traced.emit (.print (Hex.ofBytes (Groestl.digest bytes)))

/-- Carries out a command. -/
def Command.run (w : World) : Command → Run Unit
  | .verify chain network params skipWork metrics =>
    CommandLine.verify w chain network params skipWork metrics
  | .hash input single => CommandLine.hash input single

/-- The files that a command may read. -/
def Command.paths (env : String → Option String) : Command → List String
  | .verify chain network params _ _ =>
    let other := match params, network with
      | some path, _ => [path]
      | none, some _ => []
      | none, none => (env Params.fileVariable).toList
    chain :: other
  | .hash _ _ => []

/-- The lines of a text behind a first indentation, with a further one for all but the first. -/
def indented (first further text : String) : List String :=
  match text.toList.splitOn '\n' with
  | [] => [first]
  | line :: rest =>
    (first ++ String.ofList line) :: rest.map fun line => further ++ String.ofList line

/-- The lines that report an error and its causes. Several causes are numbered. -/
def reportLines : List String → List String
  | [] => []
  | message :: causes =>
    let head := indented "Error: " "" message
    match causes with
    | [] => head
    | [cause] => head ++ ["", "Caused by:"] ++ indented "    " "    " cause
    | causes =>
      head ++ ["", "Caused by:"] ++ (causes.zipIdx.flatMap fun (cause, i) =>
        let number := toString i
        let blanks := String.ofList (List.replicate (5 - number.length) ' ')
        indented (blanks ++ number ++ ": ") "       " cause)

/-- What a run leaves behind. -/
structure Result where
  code : Nat
  /-- The printed lines. -/
  printed : List String
  /-- The lines of the report of a failure. -/
  report : List String
  /-- The records that were logged. -/
  logged : List Log.Record
  /-- Whether records are written as JSON. -/
  json : Bool

/-- The name of the program in its log. -/
def serviceName : String := "gc-runtime"

/-- The result of a run that ends before its command is carried out. -/
def Result.early (code : Nat) (report : List String) : Result := ⟨code, [], report, [], false⟩

/-- The lines that acts print. -/
def printedLines (acts : List Act) : List String :=
  acts.filterMap fun
    | .print line => some line
    | .log _ => none

/-- The events that acts log. -/
def loggedEvents (acts : List Act) : List Event :=
  acts.filterMap fun
    | .print _ => none
    | .log event => some event

/-- Carries out a command under settings that are in force. -/
def runWith (w : World) (settings : Log.Settings) (filter : Log.Filter) (command : Command) :
    Result :=
  let run := command.run w
  let events := .loggingStarted settings.service settings.json :: loggedEvents run.events
  let records := (events.filterMap Log.Record.ofEvent?).filter filter.passes
  let (code, report) := match run.outcome with
    | .ok () => (0, [])
    | .error messages => (1, reportLines messages)
  let logged := if settings.console then records else []
  ⟨code, printedLines run.events, report, logged, settings.json⟩

/-- Runs the program. -/
def run (w : World) (arguments : List String) : Result :=
  match Command.ofArguments arguments with
  | .error .help => .early 0 [Usage.help.message]
  | .error usage => .early 2 [usage.message]
  | .ok command =>
    -- logging is set up before the command looks at any file
    let settings := Log.Settings.named serviceName w
    match settings.filter w with
    | .error .splitCharacter => .early 101 [Log.FilterError.splitCharacter.message]
    | .error e =>
      .early 1
        (reportLines ["Failed to initialize logging", "Invalid configuration: " ++ e.message])
    | .ok filter => runWith w settings filter command

end DarkGravity.CommandLine
