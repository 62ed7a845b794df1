import DarkGravity.Replay.Basic

/-!
# Building chains

The other side of checking: the word that a new block should claim, and blocks mined on the tip of a
store.
-/

namespace DarkGravity

/-- The word of the target that Dark Gravity Wave requires of the child of a block. -/
def requiredBits (v : Verifier) (previous : Block) (lookup : Lookup) : Check UInt32 := do
  let required ← retarget (v.params.versionAfter previous.height) v.params previous lookup
  let target ← clampToCeiling v.ceiling required.target
  return Compact.encode target

/-- The header of a child that has not been worked on. -/
def Header.child (parent : Block) (merkleRoot : Hash) (timestamp bits : UInt32) : Header where
  version := 112
  previous := parent.hash
  merkleRoot := merkleRoot
  timestamp := timestamp
  bits := bits
  nonce := 0

/-- Why no block is mined. -/
inductive MiningError where
  /-- The claim has no target to work for. -/
  | noTarget (error : Compact.Error)
  /-- There is no required target, or the claim is not it. -/
  | refused (error : CheckError)
  deriving DecidableEq

/-- Raises the nonce until the work is done, at most `attempts` times. A claim without a target is
found at the first attempt. -/
def Header.work : (attempts : Nat) → Header → Except Compact.Error Header
  | 0, header => .ok header
  | attempts + 1, header => do
    if ← header.meetsTarget then return header
    else Header.work attempts { header with nonce := header.nonce + 1 }

/-- Mines a block on `tip`, `delay` seconds after it. The new block claims `bits`, or else the
required word, and is stored if the check accepts it. The result is its header and the new store.
-/
def mineOn (v : Verifier) (store : Store) (tip : Block) (delay : Int) (bits : Option UInt32)
    (attempts : Nat) : Traced Event MiningError (Header × Store) := do
  let claimed ← match bits with
    | some bits => pure bits
    | none => (requiredBits v tip store.lookup).mapError .refused
  let merkleRoot := Hash.ofCounter (tip.height + 1)
  let timestamp := UInt32.ofInt (tip.timestamp.toNat + delay)
  let candidate := Header.child tip merkleRoot timestamp claimed
  let header ← Traced.ofExcept ((candidate.work attempts).mapError .noTarget)
  (v.check tip header store.lookup).mapError .refused
  return (header, store.insert (Block.ofHeader header (tip.height + 1)))

end DarkGravity
