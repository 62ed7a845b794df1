import DarkGravity.Ceiling
import DarkGravity.Retarget.Mean
import DarkGravity.Retarget.Walk

/-!
# The interval rule

The target changes once in a period of blocks and stays the same in between. The first block of a
period is a transition; its target is the one before times the time that the last period took over
the time that it should have taken, within a factor of four, and below the ceiling. A claim at a
transition is compared as a word, so only canonical words pass.
-/

namespace DarkGravity

/-- Whether the child of a block at this height starts a period. After the last height of 64 bits
heights begin again at zero. -/
def isTransition (period : Nat) (height : UInt64) : Bool := (height + 1).toNat % period = 0

/-- The same for a period that may be empty. -/
def isTransition? (period : Nat) (height : UInt64) : Except Params.PeriodFault Bool :=
  if period = 0 then .error .emptyPeriod else .ok (isTransition period height)

/-- The block `n` generations before a block. -/
def ancestor (lookup : Lookup) : (n : Nat) → Block → Check Block
  | 0, block => return block
  | n + 1, block => do
    match ← parent? lookup block with
    | some parent => ancestor lookup n parent
    | none => Traced.fail (parentMissing block)

/-- A timespan kept between a quarter and four times the expected one. The limits have no bound of
their own; they have 64 bits where four times the expected timespan does (`Ranged.clampWithin_eq`).
-/
def clampPeriod (actual expected : Int) : Int :=
  let actual := if actual < expected.tdiv 4 then expected.tdiv 4 else actual
  if actual > expected * 4 then expected * 4 else actual

/-- The seconds between the first and the last block of a period, within limits. On timestamps of 32
bits the difference has 64 bits (`Ranged.periodTime_eq`). -/
def periodTime (p : Params) (first last : Block) : Int :=
  clampPeriod (signed last.timestamp - signed first.timestamp) (signed p.timespan)

/-- The target of the next period before the ceiling. A negative time is taken modulo 2⁶⁴. -/
def nextPeriodTarget (p : Params) (target : Target) (time : Int) : Target :=
  target * (UInt64.ofInt time).toNat / p.timespan.toNat

/-- Compares a claim at a transition with the target of the next period. -/
def checkTransition (p : Params) (first last : Block) (claimed : UInt32) : Check Unit := do
  let target ← decodeBits last.bits
  let next := nextPeriodTarget p target (periodTime p first last)
  let ceiling ← decodeBits p.ceilingBits
  let required ← clampToCeiling ceiling next
  let expected := Compact.encode (Compact.truncate required claimed)
  if expected ≠ claimed then Traced.fail (.mismatch claimed.toNat expected.toNat)

/-- Whether a word may be claimed by the child of a block. -/
def checkInterval (p : Params) (previous : Block) (claimed : UInt32) (lookup : Lookup) :
    Check Unit := do
  if !isTransition p.periodLength previous.height then
    -- inside a period the word is handed on, whether or not it has a target
    if claimed ≠ previous.bits then
      Traced.fail (.unexpectedChange previous.height claimed previous.bits)
  else
    -- the walk has to end at the first block of the period
    let first ← ancestor lookup (p.periodLength - 1) previous
    if first.height.toNat % p.periodLength ≠ 0 then
      Traced.fail (.chainInconsistent previous.height first.height)
    checkTransition p first previous claimed

/-- The same for parameters that may define no period; nothing is looked up then. -/
def checkInterval? (p : Params) (previous : Block) (claimed : UInt32) (lookup : Lookup) :
    Except Params.PeriodFault (Check Unit) :=
  p.period.map fun _ => checkInterval p previous claimed lookup

end DarkGravity
