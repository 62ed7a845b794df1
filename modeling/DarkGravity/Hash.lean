import DarkGravity.Bytes
import DarkGravity.Text.Hex

/-!
# Hashes

A hash is 32 bytes. They are kept in the order in which the digest yields them; people see them in
the opposite order, so that the number compared with a target reads from left to right.
-/

namespace DarkGravity

/-- 32 bytes, in stored order. -/
@[ext] structure Hash where
  bytes : List UInt8
  length_bytes : bytes.length = 32
  deriving DecidableEq

namespace Hash

instance : Hashable Hash := ⟨fun h => hash h.bytes⟩

/-- The hash of zero bytes, the parent of a first block. -/
def zero : Hash := ⟨List.replicate 32 0, by simp⟩

/-- The hash that ends, in stored order, in the eight bytes of a counter. -/
def ofCounter (n : UInt64) : Hash :=
  ⟨List.replicate 24 0 ++ Bytes.bigEndian 8 n.toNat, by simp⟩

/-- The bytes read as a little-endian number, which is what a target bounds. -/
def toNat (h : Hash) : Nat := Bytes.toNat h.bytes

theorem toNat_lt (h : Hash) : h.toNat < Bytes.weight 32 := by
  have bound := Bytes.toNat_lt h.bytes
  rw [h.length_bytes] at bound
  exact bound

/-- Stored-order digits. -/
def storedHex (h : Hash) : String := Hex.ofBytes h.bytes

/-- Display-order digits: the stored bytes from last to first. -/
def display (h : Hash) : String := Hex.ofBytes h.bytes.reverse

/-- The hash whose stored-order digits are given with blanks in the place of some of them. -/
def ofSpacedHex? (text : String) : Option Hash :=
  (Hex.decodeSpaced? 32 text).map fun bytes => ⟨bytes.1, bytes.2⟩

/-- The hash whose display-order digits are given. -/
def ofDisplay (text : String) : Except Hex.Error Hash :=
  (Hex.decodeExactly 32 text).map fun bytes => ⟨bytes.1.reverse, by simp [bytes.2]⟩

end Hash

end DarkGravity
