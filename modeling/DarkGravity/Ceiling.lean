import DarkGravity.Event

/-!
# Comparing a claim with a required target

A required target above the ceiling of the network is brought down to the ceiling. The claim is
right if its target is the required one at the precision of the claimed word.
-/

namespace DarkGravity

/-- The required target, brought down to the ceiling. Reaching the ceiling is an event but no
error. -/
def clampToCeiling {ε : Type} (ceiling calculated : Target) : Traced Event ε Target where
  outcome := .ok (min calculated ceiling)
  events := if ceiling < calculated then [.ceilingHit calculated] else []

/-- The target of a word, as a part of a check. -/
def decodeBits (bits : UInt32) : Check Target :=
  Traced.ofExcept ((Compact.decode bits).mapError .invalidCompact)

/-- Whether a word claims the required target. -/
def checkClaim (ceiling calculated : Target) (claimed : UInt32) : Check Unit := do
  let required ← clampToCeiling ceiling calculated
  let received ← decodeBits claimed
  let expected := Compact.truncate required claimed
  if expected ≠ received then Traced.fail (.mismatch received expected)

end DarkGravity
