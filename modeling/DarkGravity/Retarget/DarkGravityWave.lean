import DarkGravity.Retarget.BlockTimes
import DarkGravity.Retarget.Walk
import DarkGravity.Ceiling

/-!
# Dark Gravity Wave

Both versions walk back from the last block, average the targets of the first blocks they visit,
and scale the average by the time that the visited blocks took. Version 1 blends smoothed block
times and may stop anywhere between its least and most blocks; version 3 sums the differences of
the timestamps as they are. A chain that is too short gets the ceiling, and nothing is looked up
for it.
-/

namespace DarkGravity

/-- Averages the target of the `count`-th block if it is among the first `least`. -/
def averageTarget (mean : Nat → Nat → Nat → Nat) (least count : Nat) (bits : UInt32)
    (average : Target) : Except CheckError Target :=
  if least < count then .ok average
  else
    match Compact.decode bits with
    | .ok sample => .ok (if count = 1 then sample else mean average sample count)
    | .error e => .error (.invalidCompact e)

/-- What version 1 keeps while it walks. -/
structure SmoothState where
  average : Target
  times : BlockTimes
  deriving DecidableEq, Repr

/-- How version 1 visits a block. -/
def visitSmooth (least : Nat) : Visitor SmoothState := fun count block s =>
  (averageTarget Mean.toward least count block.bits s.average).map fun average =>
    ⟨average, s.times.add least block.timestamp⟩

/-- The retarget of version 1 from a finished walk. -/
def SmoothState.retarget (s : SmoothState) (blocks : Nat) (spacing : UInt64) : Retarget :=
  if s.times.shortCount = 0 || s.times.longCount = 0 then ⟨s.average, blocks, 0, 0⟩
  else
    let (actual, expected) := s.times.timespans blocks spacing
    ⟨scaleTarget s.average actual expected, blocks, actual, expected⟩

/-- What version 3 keeps while it walks. -/
structure RawState where
  average : Target
  /-- The timestamp of the block before; zero or less stands for none. -/
  last : Int
  /-- The sum of the differences of the timestamps. -/
  elapsed : Int
  deriving DecidableEq, Repr

/-- How version 3 visits a block. The sum is not kept in 64 bits; along a window of dated blocks it
never leaves them (`Ranged.runsVisitor_raw`). -/
def visitRaw (least : Nat) : Visitor RawState := fun count block s =>
  (averageTarget Mean.weighted least count block.bits s.average).map fun average =>
    let time := signed block.timestamp
    ⟨average, time, if 0 < s.last then s.elapsed + (s.last - time) else s.elapsed⟩

/-- A timespan kept between a third and three times the expected one. The limits have no bound of
their own; they have 64 bits where three times the expected timespan does (`Ranged.clampWithin_eq`).
-/
def clampTimespan (actual expected : Int) : Int :=
  let actual := if actual < expected.tdiv 3 then expected.tdiv 3 else actual
  if actual > expected * 3 then expected * 3 else actual

/-- The retarget of version 3 from a finished walk. The expected timespan is a product without a
bound, which has 64 bits if the window leaves room (`Ranged.rawRetarget_eq`). -/
def RawState.retarget (s : RawState) (blocks : Nat) (spacing : UInt64) : Retarget :=
  let expected := (blocks : Int) * signed spacing
  let actual := clampTimespan s.elapsed expected
  ⟨scaleTarget s.average actual expected, blocks, actual, expected⟩

/-- Walks the window of a version from the last block and computes the target of its child. -/
def walkRetarget (version : Version) (p : Params) (previous : Block) (lookup : Lookup) :
    Check Retarget :=
  let window := p.window version
  let least := window.least.toNat
  match version with
  | .v1 => do
    let (blocks, s) ← visitAncestors lookup window (visitSmooth least) previous ⟨0, .empty⟩
    return s.retarget blocks p.spacing
  | .v3 => do
    let (blocks, s) ← visitAncestors lookup window (visitRaw least) previous ⟨0, 0, 0⟩
    return s.retarget blocks p.spacing

/-- The target that a version requires of the child of a block, before the ceiling. -/
def retarget (version : Version) (p : Params) (previous : Block) (lookup : Lookup) :
    Check Retarget :=
  if tooShort (p.window version) previous then
    Retarget.ofCeiling <$> decodeBits p.ceilingBits
  else do
    let result ← walkRetarget version p previous lookup
    Traced.emit (.retargeted version previous.height result)
    return result

end DarkGravity
