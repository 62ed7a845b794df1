import DarkGravity.Event
import DarkGravity.Json.Basic

/-!
# Log records

A record is what is written of an event: its level, the part of the program that it belongs to, a
message and named values. Lookups of ancestors are not logged.
-/

namespace DarkGravity.Log

/-- How urgent a record is, most urgent first. -/
inductive Level where
  | error
  | warn
  | info
  | debug
  | trace
  deriving DecidableEq, Repr

namespace Level

/-- The name of a level. -/
def name : Level → String
  | error => "ERROR"
  | warn => "WARN"
  | info => "INFO"
  | debug => "DEBUG"
  | trace => "TRACE"

/-- The number of levels that are at least as urgent. -/
def rank : Level → Nat
  | error => 1
  | warn => 2
  | info => 3
  | debug => 4
  | trace => 5

end Level

/-- A named value of a record. -/
inductive Value where
  /-- A text that is shown as it is. -/
  | text (shown : String)
  /-- A text that is shown between quotes. -/
  | quoted (label : String)
  | number (n : Int)
  | flag (b : Bool)
  deriving DecidableEq, Repr

namespace Value

/-- A value in a line of text. -/
def shown : Value → String
  | text s => s
  | quoted s => "\"" ++ s ++ "\""
  | number n => toString n
  | flag b => toString b

/-- A value in a JSON record. -/
def toJson : Value → Json
  | text s => .ofString s
  | quoted s => .ofString s
  | number n => .ofInt n
  | flag b => .bool b

end Value

/-- What is written of an event. -/
structure Record where
  level : Level
  /-- The part of the program that the event belongs to. -/
  target : String
  message : String
  fields : List (String × Value)
  deriving DecidableEq, Repr

namespace Record

/-- A record as a line of text. -/
def line (r : Record) : String :=
  r.level.name ++ " " ++ r.target ++ ": " ++ r.message
    ++ String.join (r.fields.map fun (name, value) => " " ++ name ++ "=" ++ value.shown)

/-- A record as a value; the message is one of its fields. -/
def toJson (r : Record) : Json :=
  .ofFields [("level", .ofString r.level.name), ("target", .ofString r.target),
    ("fields", .ofFields (("message", .ofString r.message) ::
      r.fields.map fun (name, value) => (name, value.toJson)))]

/-- The parts of the program that log. -/
def verifierTarget : String := "gc_difficulty::service"

/-- The part that compares claims with the ceiling. -/
def ceilingTarget : String := "gc_difficulty::domain::verification"

/-- The part that computes targets. -/
def retargetTarget : String := "gc_difficulty::domain::dgw"

/-- The part that replays chains. -/
def runTarget : String := "gc_runtime"

/-- The part that sets up logging. -/
def setupTarget : String := "gc_telemetry::logging"

/-- The record of an event. -/
def ofEvent? : Event → Option Record
  | .ancestorSought _ => none
  | .windowCut height visited =>
    some ⟨.debug, retargetTarget, "Ancestor window ends at oldest stored block",
      [("height", .number height.toNat), ("visited", .number visited)]⟩
  | .retargeted version height result =>
    some ⟨.debug, retargetTarget, version.name ++ " retarget",
      [("height", .number height.toNat), ("blocks", .number result.blocks),
        ("actual_timespan", .number result.actualTimespan),
        ("target_timespan", .number result.targetTimespan)]⟩
  | .ceilingHit calculated =>
    some ⟨.info, ceilingTarget, "Difficulty hit proof of work limit",
      [("calculated", .text (Hex.ofNat calculated))]⟩
  | .claimNotEnforced height =>
    some ⟨.debug, verifierTarget, "Pre-fork testnet block, retarget not enforced",
      [("height", .number height.toNat)]⟩
  | .targetRequired height version blocks =>
    some ⟨.debug, verifierTarget, "Computed required target",
      [("height", .number height.toNat), ("version", .text version.name),
        ("blocks", .number blocks)]⟩
  | .checkPassed height bits =>
    some ⟨.debug, verifierTarget, "Difficulty verified",
      [("height", .number height.toNat), ("bits", .text (Hex.ofNatPadded 8 bits.toNat))]⟩
  | .checkFailed height error =>
    some ⟨.warn, verifierTarget, "Difficulty check failed",
      [("height", .number height.toNat), ("reason", .quoted error.label),
        ("error", .text error.message)]⟩
  | .anchorLoaded height hash =>
    some ⟨.info, runTarget, "Anchor loaded",
      [("block_height", .number height.toNat), ("block_hash", .text hash.display)]⟩
  | .headerRejected height hash reason =>
    some ⟨.warn, runTarget, "Header rejected",
      [("height", .number height.toNat), ("hash", .text hash.display),
        ("reason", .text reason.message)]⟩
  | .replayFinished report backend =>
    some ⟨.info, runTarget, "Chain replay finished",
      [("verified", .number report.verified), ("valid", .flag report.allAccepted),
        ("backend", .text backend.name)]⟩
  | .paramsLoaded network =>
    some ⟨.info, runTarget, "Loaded network parameters", [("network", .text network.name)]⟩
  | .loggingStarted service json =>
    some ⟨.info, setupTarget, "Logging initialized",
      [("service", .text service), ("json_logs", .flag json)]⟩

end Record

end DarkGravity.Log
