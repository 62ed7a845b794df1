/-!
# Networks

The networks that have a preset of parameters, and the names by which they are chosen.
-/

namespace DarkGravity

/-- A network. -/
inductive Network where
  /-- The production network. -/
  | mainnet
  /-- The public test network. -/
  | testnet
  /-- A private network for regression tests. -/
  | regtest
  /-- The test network whose blocks are signed. -/
  | signet
  deriving DecidableEq, Repr

namespace Network

/-- The name of a network. -/
def name : Network → String
  | mainnet => "mainnet"
  | testnet => "testnet"
  | regtest => "regtest"
  | signet => "signet"

/-- Every network. -/
def all : List Network := [mainnet, testnet, regtest, signet]

/-- The network with exactly this name. -/
def ofName? (text : String) : Option Network :=
  all.find? fun network => network.name == text

theorem ofName?_name (network : Network) : ofName? network.name = some network := by
  cases network <;> decide

/-- The network that a user asks for: ASCII case does not matter, and two networks have further
names. The lower-case text is the error. -/
def choose (text : String) : Except String Network :=
  let lower := text.toLower
  if lower = "mainnet" || lower = "main" then .ok mainnet
  else if lower = "testnet" || lower = "test" || lower = "testnet3" then .ok testnet
  else if lower = "regtest" then .ok regtest
  else if lower = "signet" then .ok signet
  else .error lower

end Network

end DarkGravity
