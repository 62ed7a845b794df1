import DarkGravity.Retarget.Mean

/-!
# Block times before the fork

Version 1 takes the differences of the timestamps along its walk. A short mean follows the first of
them and a sum all of them; a difference that is negative counts as zero. Both are blended in binary
floating point, with seven parts of the short mean and three of the long one.
-/

namespace DarkGravity

/-- The differences of the timestamps seen so far. -/
structure BlockTimes where
  /-- The timestamp of the block before; zero or less stands for none. -/
  last : Int
  shortCount : Nat
  shortMean : Int
  longCount : Nat
  longSum : Int
  deriving DecidableEq, Repr

namespace BlockTimes

/-- No block seen yet. -/
def empty : BlockTimes := ⟨0, 0, 0, 0, 0⟩

/-- Takes one difference. The short mean stops after `least + 1` of them. The count and the sum are
not kept in 64 bits; on timestamps of 32 bits they never leave them (`Ranged.addDelta_eq`). -/
def addDelta (t : BlockTimes) (least : Nat) (delta : Int) : BlockTimes :=
  let short := t.shortCount ≤ least
  let count := t.shortCount + 1
  { t with
    shortCount := if short then count else t.shortCount
    shortMean :=
      if !short then t.shortMean
      else if count = 1 then delta
      else Mean.towardInt t.shortMean delta count
    longCount := t.longCount + 1
    longSum := t.longSum + delta }

/-- Takes the timestamp of the next older block. -/
def add (t : BlockTimes) (least : Nat) (timestamp : UInt64) : BlockTimes :=
  let time := signed timestamp
  -- there is no difference at the first block, nor after a timestamp that is no positive number
  let t' := if 0 < t.last then t.addDelta least (max (t.last - time) 0) else t
  { t' with last := time }

/-- The mean of all differences, truncated. -/
def longMean (t : BlockTimes) : Int := t.longSum.tdiv t.longCount

/-- The blend of the two means, at least one second. -/
def blend (t : BlockTimes) : Float :=
  let mixed := (Int64.ofInt t.shortMean).toFloat * 0.7 + (Int64.ofInt t.longMean).toFloat * 0.3
  if mixed < 1.0 then 1.0 else mixed

/-- The actual and the expected timespan of `blocks` blocks. The actual one is kept between a third
and three times the expected one, and both lose their fractions. -/
def timespans (t : BlockTimes) (blocks : Nat) (spacing : UInt64) : Int × Int :=
  let spacing := spacing.toFloat
  let shift := spacing / t.blend
  let expected := (UInt64.ofNat blocks).toFloat * spacing
  let actual := expected / shift
  let actual := if actual < expected / 3.0 then expected / 3.0 else actual
  let actual := if actual > expected * 3.0 then expected * 3.0 else actual
  (actual.toInt64.toInt, expected.toInt64.toInt)

end BlockTimes

end DarkGravity
