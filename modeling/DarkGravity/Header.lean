import DarkGravity.Compact
import DarkGravity.ProofOfWork

/-!
# Block headers

A header is laid out in 80 bytes, and the proof-of-work hash of these bytes is the identity of the
block. The work is done when that hash, read as a number, is at most the target that the header
claims.
-/

namespace DarkGravity

/-- The header of a candidate block. -/
structure Header where
  version : UInt32
  /-- The hash of the parent. -/
  previous : Hash
  merkleRoot : Hash
  /-- Seconds since 1970. -/
  timestamp : UInt32
  /-- The claimed target as a compact word. -/
  bits : UInt32
  nonce : UInt32
  deriving DecidableEq

/-- Whether a hash is at most the target of a word. -/
def Hash.meetsTarget (hash : Hash) (bits : UInt32) : Except Compact.Error Bool :=
  (Compact.decode bits).map fun target => hash.toNat ≤ target

namespace Header

/-- The fields in order, numbers least significant byte first and hashes in stored order. -/
def bytes (h : Header) : List UInt8 :=
  Bytes.littleEndian 4 h.version.toNat ++ h.previous.bytes ++ h.merkleRoot.bytes
    ++ Bytes.littleEndian 4 h.timestamp.toNat ++ Bytes.littleEndian 4 h.bits.toNat
    ++ Bytes.littleEndian 4 h.nonce.toNat

@[simp] theorem length_bytes (h : Header) : h.bytes.length = 80 := by
  simp [bytes, h.previous.length_bytes, h.merkleRoot.length_bytes]

/-- The identity of the block. -/
def hash (h : Header) : Hash := workHash h.bytes

/-- The claimed target. -/
def target (h : Header) : Except Compact.Error Target := Compact.decode h.bits

/-- Whether the identity is at most the claimed target. -/
def meetsTarget (h : Header) : Except Compact.Error Bool := h.hash.meetsTarget h.bits

end Header

end DarkGravity
