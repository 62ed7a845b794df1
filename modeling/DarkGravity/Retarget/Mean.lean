import DarkGravity.Compact

/-!
# Integer means

The means that the retarget rules keep while they walk. Every step divides and drops a fraction,
so a mean depends on the order of its samples: `Mean.toward` moves toward each new sample and
truncates the move, `Mean.weighted` weighs the mean so far by the number of the sample and
truncates the quotient.
-/

namespace DarkGravity

/-- The mean of `count` samples from the mean of those before and the last sample. The move toward
the sample is truncated toward zero; unsigned numbers need a case for each direction. -/
def Mean.toward (mean sample count : Nat) : Nat :=
  if mean ≤ sample then mean + (sample - mean) / count else mean - (mean - sample) / count

/-- The mean after the `count`-th sample, where the mean before has the weight `count`. -/
def Mean.weighted (mean sample count : Nat) : Nat :=
  (mean * count + sample) / (count + 1)

/-- The same as `Mean.toward` for signed numbers. They have no bound; between differences of
timestamps of 32 bits all results have 64 bits (`Ranged.meanTowardInt_eq`). -/
def Mean.towardInt (mean sample : Int) (count : Nat) : Int :=
  (sample - mean).tdiv count + mean

/-- A target times the quotient of two timespans. A timespan that is negative counts as zero, and an
expected one below one counts as one. -/
def scaleTarget (target : Target) (actual expected : Int) : Target :=
  target * actual.toNat / (max expected 1).toNat

/-- A timestamp or timespan as a signed 64-bit number: the upper half of the range is negative. -/
def signed (n : UInt64) : Int := n.toInt64.toInt

/-- The lower half of the range is read as it is. -/
theorem signed_of_lt {n : UInt64} (h : 2 * n.toNat < UInt64.size) : signed n = n.toNat :=
  BitVec.toInt_eq_toNat_of_lt h

end DarkGravity
