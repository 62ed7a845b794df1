import DarkGravity.Json.Reader
import DarkGravity.Params.Json
import DarkGravity.World

/-!
# Where parameters come from

Parameters come from a file, from the name of a network, or from the environment, where a file wins
over a name. Parameters from a file or from the environment are validated.
-/

namespace DarkGravity

/-- Why there are no parameters. -/
inductive Params.LoadError where
  | unknownNetwork (name : String)
  | unreadable (path : String) (error : ReadError)
  | malformed (error : Json.Error)
  | invalid (fault : Params.Fault)
  deriving DecidableEq, Repr

/-- The wording of an error. -/
def Params.LoadError.message : LoadError → String
  | .unknownNetwork name => "unknown network: " ++ name
  | .unreadable path error => "failed to read parameter file " ++ path ++ ": " ++ error.message
  | .malformed error => "failed to parse parameters: " ++ error.message
  | .invalid fault => "invalid parameters: " ++ fault.message

/-- The wordings of an error and of its causes, outermost first. -/
def Params.LoadError.messages (e : LoadError) : List String :=
  match e with
  | .unreadable _ error => [e.message, error.message]
  | .malformed error => [e.message, error.message]
  | _ => [e.message]

namespace Params

/-- The same parameters, if they can drive the rules. -/
def validated (p : Params) : Except LoadError Params :=
  match p.validate with
  | .ok _ => .ok p
  | .error fault => .error (.invalid fault)

/-- The parameters in a text. -/
def ofText (text : String) : Except LoadError Params :=
  match Json.parseAs ofJson? text with
  | .ok p => p.validated
  | .error e => .error (.malformed e)

/-- The parameters in a file. -/
def ofFile (w : World) (path : String) : Except LoadError Params :=
  match w.readText path with
  | .ok text => ofText text
  | .error e => .error (.unreadable path e)

/-- The preset that a name chooses. -/
def ofNetworkName (name : String) : Except LoadError Params :=
  match Network.choose name with
  | .ok network => .ok (preset network)
  | .error name => .error (.unknownNetwork name)

/-- The variable that names a parameter file. -/
def fileVariable : String := "GC_PARAMS_FILE"

/-- The variable that names a network. -/
def networkVariable : String := "GC_NETWORK"

/-- The parameters that the environment asks for. -/
def ofEnvironment (w : World) : Except LoadError Params :=
  match w.env fileVariable with
  | some path => ofFile w path
  | none =>
    match w.env networkVariable with
    | some name => do (← ofNetworkName name).validated
    | none => mainnet.validated

end Params

end DarkGravity
