import DarkGravity.Bytes
import DarkGravity.Groestl.Permutation

/-!
# Grøstl-512

`digest` hashes a whole message: the message is padded to blocks of 128 bytes, the blocks are folded
into a chaining state, and half of a last permutation is the digest. `Hasher` takes a message in
pieces and can be used again after each digest.
-/

namespace DarkGravity.Groestl

/-- The bytes of a block. -/
def blockSize : Nat := 128

/-- The state before the first block: the digest length in bits in the last column. -/
def initial : State := (Vector.replicate 16 0).set 15 512

/-- The columns that a block fills, first byte in the first row. -/
def ofBlock (block : List UInt8) : State :=
  Vector.ofFn fun column =>
    ((block.drop (8 * column.val)).take 8).foldl (fun word b => (word <<< 8) ||| b.toUInt64) 0

/-- Folds one block into the chaining state. -/
def compress (chain : State) (block : List UInt8) : State :=
  let message := ofBlock block
  ((Variant.p.permute (chain.add message)).add (Variant.q.permute message)).add chain

/-- Folds as many whole blocks as there are. -/
def absorbBlocks (chain : State) (bytes : List UInt8) : State :=
  if bytes.length < blockSize then chain
  else absorbBlocks (compress chain (bytes.take blockSize)) (bytes.drop blockSize)
termination_by bytes.length
decreasing_by simp only [blockSize, List.length_drop] at *; omega

/-- What follows a message of `length` bytes: a marker, zeros up to the end of a block, and the
number of blocks in the last eight bytes. -/
def padding (length : Nat) : List UInt8 :=
  let blocks := (length + 9 + (blockSize - 1)) / blockSize
  0x80 :: List.replicate (blocks * blockSize - (length + 9)) 0 ++ Bytes.bigEndian 8 blocks

/-- The 64 bytes of the last eight columns after a last permutation. -/
def finish (chain : State) : List UInt8 :=
  (((Variant.p.permute chain).add chain).toList.drop 8).flatMap fun word =>
    Bytes.bigEndian 8 word.toNat

/-- Every column contributes eight bytes. -/
theorem length_flatMap_bigEndian (columns : List UInt64) :
    (columns.flatMap fun word => Bytes.bigEndian 8 word.toNat).length = 8 * columns.length := by
  induction columns with
  | nil => rfl
  | cons word rest ih => simp [List.flatMap_cons, ih, Nat.mul_succ, Nat.add_comm]

@[simp] theorem length_finish (chain : State) : (finish chain).length = 64 := by
  rw [finish, length_flatMap_bigEndian, List.length_drop, Vector.length_toList]

/-- The Grøstl-512 digest of a message. -/
def digest (message : List UInt8) : List UInt8 :=
  finish (absorbBlocks initial (message ++ padding message.length))

@[simp] theorem length_digest (message : List UInt8) : (digest message).length = 64 :=
  length_finish _

/-- A message being taken in pieces. -/
structure Hasher where
  /-- The state after the whole blocks taken so far. -/
  chain : State
  /-- The bytes after the last whole block. -/
  pending : Array UInt8
  /-- How many bytes were taken. -/
  taken : Nat

namespace Hasher

/-- No message taken yet. -/
def fresh : Hasher := ⟨initial, #[], 0⟩

/-- Takes one byte; a block that it fills is folded in at once. -/
def push (h : Hasher) (b : UInt8) : Hasher :=
  if h.pending.size + 1 = blockSize then
    ⟨compress h.chain (h.pending.push b).toList, #[], h.taken + 1⟩
  else ⟨h.chain, h.pending.push b, h.taken + 1⟩

/-- Takes the next piece of the message. -/
def update (h : Hasher) (piece : List UInt8) : Hasher := piece.foldl push h

/-- The digest of the pieces taken so far, and the hasher ready for another message. -/
def close (h : Hasher) : List UInt8 × Hasher :=
  (finish (h.update (padding h.taken)).chain, fresh)

theorem length_close (h : Hasher) : h.close.1.length = 64 :=
  length_finish _

end Hasher

end DarkGravity.Groestl
