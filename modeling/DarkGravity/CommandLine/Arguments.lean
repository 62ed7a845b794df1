/-!
# Command line arguments

A command is named first and then takes options and values in any order. An option that takes a
value finds it behind an equals sign, behind its letter, or in the next argument; an argument that
begins with a hyphen is no value unless it is a hyphen alone or comes after two hyphens. No option
may come twice. Arguments are read from left to right, so a request for help counts only if nothing
before it is at fault.
-/

namespace DarkGravity.CommandLine

/-- What to do. -/
inductive Command where
  /-- Replay the chain in a file. -/
  | verify (chain : String) (network params : Option String) (skipWork metrics : Bool)
  /-- Hash bytes that are given as digits. -/
  | hash (input : String) (single : Bool)
  deriving DecidableEq, Repr

/-- Why there is nothing to do. -/
inductive Usage where
  | help
  | noCommand
  | unknownArgument (text : String)
  | missingValue (option : String)
  | unexpectedValue (option : String)
  | repeated (option : String)
  | missingOption (option : String)
  deriving DecidableEq, Repr

/-- The wording of a fault. -/
def Usage.message : Usage → String
  | .help =>
    "usage: verify --chain FILE [--network NAME] [--params FILE] [--skip-pow] [--metrics] | "
      ++ "hash INPUT [--single]"
  | .noCommand => "a command is required: verify or hash"
  | .unknownArgument text => "unexpected argument " ++ text
  | .missingValue option => "a value is required for --" ++ option
  | .unexpectedValue option => "--" ++ option ++ " takes no value"
  | .repeated option => "--" ++ option ++ " cannot be used more than once"
  | .missingOption option => option ++ " is required"

/-- An option of a command. -/
structure OptionSpec where
  name : String
  letter : Option Char
  takesValue : Bool
  /-- Whether the value may be empty. -/
  mayBeEmpty : Bool
  deriving DecidableEq, Repr

/-- What a command takes. -/
structure CommandSpec where
  options : List OptionSpec
  /-- How many values there may be that belong to no option. -/
  positionals : Nat
  deriving DecidableEq, Repr

/-- An argument whose role is known. -/
inductive Argument where
  | flag (name : String)
  | option (name value : String)
  | positional (value : String)
  deriving DecidableEq, Repr

namespace Argument

/-- The name of the option that an argument sets. -/
def optionName? : Argument → Option String
  | flag name => some name
  | option name _ => some name
  | positional _ => none

end Argument

/-- Whether an argument can be the value of an option. -/
def isValue (text : String) : Bool :=
  match text.toList with
  | '-' :: _ :: _ => false
  | _ => true

/-- The argument of an option with a value. -/
def withValue (spec : OptionSpec) (value : String) : Except Usage Argument :=
  if value.isEmpty && !spec.mayBeEmpty then .error (.missingValue spec.name)
  else .ok (.option spec.name value)

/-- What an argument that begins with a hyphen says by itself. -/
inductive Marked where
  /-- The option is complete, or faulty. -/
  | complete (argument : Except Usage Argument)
  /-- The value has to follow. -/
  | awaits (spec : OptionSpec)

/-- Looks at an argument behind two hyphens. -/
def readLong (specs : List OptionSpec) (text : List Char) : Marked :=
  let name := String.ofList (text.takeWhile (· ≠ '='))
  let attached := (text.dropWhile (· ≠ '=')).tail?.map String.ofList
  if name = "help" then
    .complete (.error (if attached.isSome then .unexpectedValue name else .help))
  else
    match specs.find? fun spec => spec.name == name with
    | none => .complete (.error (.unknownArgument name))
    | some spec =>
      match spec.takesValue, attached with
      | true, some value => .complete (withValue spec value)
      | true, none => .awaits spec
      | false, some _ => .complete (.error (.unexpectedValue spec.name))
      | false, none => .complete (.ok (.flag spec.name))

/-- Looks at an argument behind one hyphen. Every option with a letter takes a value. -/
def readShort (specs : List OptionSpec) (letter : Char) (attached : List Char) : Marked :=
  if letter = 'h' then .complete (.error .help)
  else
    match specs.find? fun spec => spec.letter == some letter with
    | none => .complete (.error (.unknownArgument (String.ofList [letter])))
    | some spec =>
      match attached with
      | [] => .awaits spec
      | '=' :: value => .complete (withValue spec (String.ofList value))
      | value => .complete (withValue spec (String.ofList value))

/-- Looks at an argument that begins with a hyphen; `none` is one that does not. -/
def readMarked? (specs : List OptionSpec) (text : String) : Option Marked :=
  match text.toList with
  | '-' :: '-' :: name => some (readLong specs name)
  | '-' :: letter :: attached => some (readShort specs letter attached)
  | _ => none

/-- The value of an option. -/
def value? (arguments : List Argument) (name : String) : Option String :=
  arguments.findSome? fun
    | .option other value => if other = name then some value else none
    | _ => none

/-- The arguments that are no options. -/
def positionals (arguments : List Argument) : List String :=
  arguments.filterMap fun
    | .positional value => some value
    | _ => none

/-- Adds an argument to those before it, unless its option is set already or it is one value too
many. -/
def accept (spec : CommandSpec) (before : List Argument) (argument : Argument) :
    Except Usage (List Argument) :=
  match argument.optionName? with
  | some name =>
    if before.any fun other => other.optionName? == some name then .error (.repeated name)
    else .ok (argument :: before)
  | none =>
    match (positionals [argument] ++ positionals before).drop spec.positionals with
    | [] => .ok (argument :: before)
    | value :: _ => .error (.unknownArgument value)

/-- Adds arguments that are no options, whatever they begin with. -/
def acceptPositionals (spec : CommandSpec) (before : List Argument) (values : List String) :
    Except Usage (List Argument) :=
  values.foldlM (fun before value => accept spec before (.positional value)) before

/-- Finds the roles of arguments and adds them to those before them. -/
def readAll (spec : CommandSpec) (before : List Argument) :
    List String → Except Usage (List Argument)
  | [] => .ok before
  | "--" :: values => acceptPositionals spec before values
  | text :: rest =>
    match readMarked? spec.options text with
    | none => do readAll spec (← accept spec before (.positional text)) rest
    | some (.complete argument) => do readAll spec (← accept spec before (← argument)) rest
    | some (.awaits option) =>
      match rest with
      | [] => .error (.missingValue option.name)
      | value :: rest =>
        if isValue value then do
          readAll spec (← accept spec before (← withValue option value)) rest
        else .error (.missingValue option.name)

/-- What `verify` takes. -/
def verifySpec : CommandSpec where
  options :=
    [⟨"chain", some 'c', true, false⟩, ⟨"network", some 'n', true, true⟩,
      ⟨"params", some 'p', true, false⟩, ⟨"skip-pow", none, false, false⟩,
      ⟨"metrics", none, false, false⟩]
  positionals := 0

/-- What `hash` takes. -/
def hashSpec : CommandSpec := ⟨[⟨"single", none, false, false⟩], 1⟩

/-- The command of `verify`. -/
def readVerify (texts : List String) : Except Usage Command := do
  let arguments ← readAll verifySpec [] texts
  match value? arguments "chain" with
  | none => .error (.missingOption "--chain")
  | some chain =>
    return .verify chain (value? arguments "network") (value? arguments "params")
      (arguments.contains (.flag "skip-pow")) (arguments.contains (.flag "metrics"))

/-- The command of `hash`. -/
def readHash (texts : List String) : Except Usage Command := do
  let arguments ← readAll hashSpec [] texts
  match positionals arguments with
  | input :: _ => return .hash input (arguments.contains (.flag "single"))
  | [] => .error (.missingOption "an input")

/-- The answer to a request for help, which may be about one command. -/
def readHelp : List String → Usage
  | [] => .help
  | topic :: more =>
    if ["verify", "hash", "help"].contains topic then
      match more with
      | [] => .help
      | text :: _ => .unknownArgument text
    else .unknownArgument topic

/-- The command that arguments ask for. -/
def Command.ofArguments : List String → Except Usage Command
  | [] => .error .noCommand
  | "verify" :: texts => readVerify texts
  | "hash" :: texts => readHash texts
  | "help" :: topics => .error (readHelp topics)
  | text :: _ =>
    match readMarked? [] text with
    | some (.complete (.error usage)) => .error usage
    | _ => .error (.unknownArgument text)

end DarkGravity.CommandLine
