import DarkGravity.Json.Record
import DarkGravity.Params

/-!
# Parameters in JSON

Every field of the parameters may be left out and then has its value in the preset of the production
network. The fields of a window have to be there.
-/

namespace DarkGravity

/-- A window as a value. -/
def Window.toJson (w : Window) : Json :=
  .ofFields [("past_blocks_min", .ofNat w.least.toNat), ("past_blocks_max", .ofNat w.most.toNat)]

/-- The window that a value stands for. -/
def Window.ofJson? (j : Json) : Option Window := do
  match ← j.record? ["past_blocks_min", "past_blocks_max"] with
  | [least, most] =>
    return ⟨← Json.required Json.uint64? least, ← Json.required Json.uint64? most⟩
  | _ => none

/-- The network that a value names. -/
def Network.ofJson? (j : Json) : Option Network := j.choice?.bind ofName?

/-- The rule that a value names. -/
def Rule.ofJson? (j : Json) : Option Rule := j.choice?.bind ofName?

namespace Params

/-- The names of the fields, in order. -/
def fieldNames : List String :=
  ["network", "target_spacing", "target_timespan", "max_target_bits", "threshold_height",
    windowField .v1, windowField .v3, "retarget", "allow_min_difficulty_blocks"]

/-- Parameters as a value. -/
def toJson (p : Params) : Json :=
  .ofFields [("network", .ofString p.network.name), ("target_spacing", .ofNat p.spacing.toNat),
    ("target_timespan", .ofNat p.timespan.toNat), ("max_target_bits", .ofNat p.ceilingBits.toNat),
    ("threshold_height", .ofNat p.forkHeight.toNat), (windowField .v1, p.windowV1.toJson),
    (windowField .v3, p.windowV3.toJson), ("retarget", .ofString p.rule.name),
    ("allow_min_difficulty_blocks", .bool p.relaxed)]

/-- The parameters that a value stands for, with `default` for the fields that are not there. -/
def ofJsonWith? (default : Params) (j : Json) : Option Params := do
  match ← j.record? fieldNames with
  | [network, spacing, timespan, ceilingBits, forkHeight, windowV1, windowV3, rule, relaxed] =>
    return {
      network := ← Json.withDefault default.network Network.ofJson? network
      spacing := ← Json.withDefault default.spacing Json.uint64? spacing
      timespan := ← Json.withDefault default.timespan Json.uint64? timespan
      ceilingBits := ← Json.withDefault default.ceilingBits Json.uint32? ceilingBits
      forkHeight := ← Json.withDefault default.forkHeight Json.uint64? forkHeight
      windowV1 := ← Json.withDefault default.windowV1 Window.ofJson? windowV1
      windowV3 := ← Json.withDefault default.windowV3 Window.ofJson? windowV3
      rule := ← Json.withDefault default.rule Rule.ofJson? rule
      relaxed := ← Json.withDefault default.relaxed Json.bool? relaxed }
  | _ => none

/-- The parameters that a value stands for. -/
def ofJson? (j : Json) : Option Params := ofJsonWith? mainnet j

end Params

end DarkGravity
