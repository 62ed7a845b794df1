import DarkGravity.Header

/-!
# Stored blocks

What the retarget rules need to know of a block in the chain, and the lookup that finds a block by
its hash. A lookup may not know the block, or may fail.
-/

namespace DarkGravity

/-- A block of the chain. -/
structure Block where
  hash : Hash
  /-- The distance from the first block of the chain. -/
  height : UInt64
  /-- The compact word of its target. -/
  bits : UInt32
  /-- Seconds since 1970. -/
  timestamp : UInt64
  /-- The hash of the parent. -/
  previous : Hash
  deriving DecidableEq

/-- A child is one higher, unless its parent has the last height of 64 bits. -/
theorem Block.toNat_height_add_one {height : UInt64} (h : height.toNat + 1 < UInt64.size) :
    (height + 1).toNat = height.toNat + 1 := by
  rw [UInt64.toNat_add]
  exact Nat.mod_eq_of_lt h

/-- After the last height of 64 bits heights begin again. -/
theorem Block.toNat_height_add_one_of_greatest {height : UInt64}
    (h : height.toNat + 1 = UInt64.size) : (height + 1).toNat = 0 := by
  rw [UInt64.toNat_add, UInt64.toNat_one, h]
  rfl

/-- The block of a header whose hash is already known. -/
def Block.ofHashedHeader (header : Header) (hash : Hash) (height : UInt64) : Block where
  hash := hash
  height := height
  bits := header.bits
  timestamp := header.timestamp.toUInt64
  previous := header.previous

/-- The block of a header. -/
def Block.ofHeader (header : Header) (height : UInt64) : Block :=
  .ofHashedHeader header header.hash height

/-- A failure of the storage behind a lookup. -/
structure Lookup.Failure where
  reason : String
  deriving DecidableEq, Repr

/-- The wording of a failure. -/
def Lookup.Failure.message (e : Lookup.Failure) : String := "block store error: " ++ e.reason

/-- Finds blocks by hash; `none` stands for a block that is not stored. -/
abbrev Lookup := Hash → Except Lookup.Failure (Option Block)

end DarkGravity
