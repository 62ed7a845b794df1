import DarkGravity.Compact
import DarkGravity.Network

/-!
# Network parameters

The constants of a network, the preset of each network, and the conditions under which they can
drive the difficulty rules. `Params.validate` gives the ceiling, that is the decoded easiest
target, of parameters that can.
-/

namespace DarkGravity

/-- The two versions of Dark Gravity Wave: the first smooths block times and rules before the fork,
the third takes a fixed window and rules from the fork on. -/
inductive Version where
  | v1
  | v3
  deriving DecidableEq, Repr

/-- The name of a version. -/
def Version.name : Version → String
  | v1 => "DGWv1"
  | v3 => "DGWv3"

/-- How many ancestors a version looks at. -/
structure Window where
  /-- How many targets are averaged, and the least history that is needed. -/
  least : UInt64
  /-- How many blocks are visited at most. -/
  most : UInt64
  deriving DecidableEq, Repr

/-- How the target changes from block to block. -/
inductive Rule where
  /-- With every block, by Dark Gravity Wave. -/
  | darkGravityWave
  /-- Once in a period of blocks. -/
  | interval
  deriving DecidableEq, Repr

/-- The name of a rule. -/
def Rule.name : Rule → String
  | darkGravityWave => "dark_gravity_wave"
  | interval => "interval"

/-- Every rule. -/
def Rule.all : List Rule := [darkGravityWave, interval]

/-- The rule with exactly this name. -/
def Rule.ofName? (text : String) : Option Rule :=
  all.find? fun rule => rule.name == text

theorem Rule.ofName?_name (rule : Rule) : ofName? rule.name = some rule := by
  cases rule <;> decide

/-- The constants of a network. -/
structure Params where
  network : Network
  /-- The seconds that should pass between two blocks. -/
  spacing : UInt64
  /-- The seconds that a period of the interval rule should take. -/
  timespan : UInt64
  /-- The compact word of the easiest target. -/
  ceilingBits : UInt32
  /-- The first height that version 3 rules. -/
  forkHeight : UInt64
  windowV1 : Window
  windowV3 : Window
  rule : Rule
  /-- Whether blocks may claim easier targets when they come late or before the fork. -/
  relaxed : Bool
  deriving DecidableEq, Repr

namespace Params

/-- The preset of the production network. -/
def mainnet : Params where
  network := .mainnet
  spacing := 60
  timespan := 86400
  ceilingBits := 0x1e0fffff
  forkHeight := 100000
  windowV1 := ⟨12, 120⟩
  windowV3 := ⟨24, 24⟩
  rule := .darkGravityWave
  relaxed := false

/-- The preset of a network. -/
def preset : Network → Params
  | .mainnet => mainnet
  | .testnet => { mainnet with network := .testnet, ceilingBits := 0x1e00ffff, relaxed := true }
  | .regtest => { mainnet with network := .regtest, ceilingBits := 0x207fffff }
  | .signet => { mainnet with network := .signet, ceilingBits := 0x207fffff }

/-- The window of a version. -/
def window (p : Params) : Version → Window
  | .v1 => p.windowV1
  | .v3 => p.windowV3

/-- Whether a block is the last before the fork or a later one, so that version 3 rules its child.
-/
def forkedAfter (p : Params) (previousHeight : UInt64) : Bool :=
  p.forkHeight.toNat - 1 ≤ previousHeight.toNat

/-- The version that rules the child of a block at this height. -/
def versionAfter (p : Params) (previousHeight : UInt64) : Version :=
  if p.forkedAfter previousHeight then .v3 else .v1

/-- Why parameters cannot drive the rules. -/
inductive Fault where
  | zeroSpacing
  | shortTimespan
  | badWindow (version : Version)
  | badCeiling (error : Compact.Error)
  deriving DecidableEq, Repr

/-- The name of the window of a version where parameters are written. -/
def windowField : Version → String
  | .v1 => "dgw_v1"
  | .v3 => "dgw_v3"

/-- The wording of a fault. -/
def Fault.message : Fault → String
  | .zeroSpacing => "target_spacing must be non-zero"
  | .shortTimespan => "target_timespan must be at least target_spacing"
  | .badWindow version => windowField version ++ ": need 0 < past_blocks_min <= past_blocks_max"
  | .badCeiling error => "max_target_bits: " ++ error.message

/-- Whether a window is nonempty and its bounds are in order. -/
def windowOk (w : Window) : Bool := 0 < w.least && w.least ≤ w.most

/-- The ceiling of parameters that can drive the rules, or the first fault. -/
def validate (p : Params) : Except Fault Target :=
  if p.spacing = 0 then .error .zeroSpacing
  else if p.timespan < p.spacing then .error .shortTimespan
  else if !windowOk p.windowV1 then .error (.badWindow .v1)
  else if !windowOk p.windowV3 then .error (.badWindow .v3)
  else (Compact.decode p.ceilingBits).mapError .badCeiling

/-- The blocks of a period of the interval rule. -/
def periodLength (p : Params) : Nat := p.timespan.toNat / p.spacing.toNat

/-- Why parameters that were not validated define no period. -/
inductive PeriodFault where
  | zeroSpacing
  | emptyPeriod
  deriving DecidableEq, Repr

/-- The wording of a fault. -/
def PeriodFault.message : PeriodFault → String
  | .zeroSpacing => "attempt to divide by zero"
  | .emptyPeriod => "attempt to calculate the remainder with a divisor of zero"

/-- The blocks of a period, if there is a period at all. -/
def period (p : Params) : Except PeriodFault Nat :=
  if p.spacing = 0 then .error .zeroSpacing
  else if p.periodLength = 0 then .error .emptyPeriod
  else .ok p.periodLength

end Params

end DarkGravity
