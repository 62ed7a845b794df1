import DarkGravity.World

/-!
# Log settings

What is logged, under which name and in which form, as the environment asks for it. Inside a
container the form is JSON unless the environment says otherwise.
-/

namespace DarkGravity.Log

/-- How a run logs. -/
structure Settings where
  service : String
  /-- Directives that choose the events to log. -/
  level : String
  /-- Whether anything is written at all. -/
  console : Bool
  json : Bool
  deriving DecidableEq, Repr

/-- Whether a text switches something on. -/
def isOn (text : String) : Bool := ["1", "true", "yes", "on"].contains text.toLower

namespace Settings

/-- The settings where the environment is not asked. -/
def default : Settings := ⟨"groestl-chain", "info", true, false⟩

/-- Whether the environment is that of a container. -/
def inContainer (w : World) : Bool :=
  (w.env "KUBERNETES_SERVICE_HOST").isSome || (w.env "DOCKER_CONTAINER").isSome

/-- The variable whose directives come before those of the settings. -/
def directivesVariable : String := "RUST_LOG"

/-- The settings that the environment asks for. -/
def ofEnvironment (w : World) : Settings where
  service := (w.env "GC_SERVICE_NAME").getD default.service
  level := ((w.env "GC_LOG_LEVEL").or (w.env directivesVariable)).getD default.level
  console := ((w.env "GC_CONSOLE_OUTPUT").map isOn).getD default.console
  json := ((w.env "GC_JSON_LOGS").map isOn).getD (inContainer w)

/-- The same for a program that has a name. -/
def named (name : String) (w : World) : Settings := { ofEnvironment w with service := name }

end Settings

end DarkGravity.Log
