import DarkGravity.Groestl.Field

/-!
# The two permutations of Grøstl-512

A state is a matrix of eight rows and sixteen columns of bytes, kept as one 64-bit word per column
with the first row in the highest byte. `P` and `Q` run fourteen rounds each; a round adds
constants, substitutes every byte, rotates the rows and multiplies each column by a circulant
matrix. The last three steps act on a column through `columnTable`, which holds the product of one
substituted byte with the first column of the matrix.
-/

namespace DarkGravity.Groestl

/-- Sixteen columns of eight bytes. -/
abbrev State := Vector UInt64 16

/-- The first column of the circulant matrix, from the first row down. -/
def mixColumn : List UInt8 := [2, 7, 5, 3, 5, 4, 3, 2]

/-- The matrix product with a column that holds `a`, substituted, in its first row only. -/
def mixedByte (a : UInt8) : UInt64 :=
  mixColumn.foldl (fun word c => (word <<< 8) ||| (mul c (substitute a)).toUInt64) 0

/-- `mixedByte` of every byte. -/
def columnTable : Vector UInt64 256 :=
  Vector.ofFn fun i => mixedByte (UInt8.ofNat i.val)

/-- Rotates a word to the right by whole bytes. -/
def rotateRows (word : UInt64) (rows : UInt64) : UInt64 :=
  (word >>> (8 * rows)) ||| (word <<< (8 * (8 - rows)))

/-- The byte of a column in a row. -/
def byteAt (word : UInt64) (row : Nat) : UInt8 :=
  (word >>> (UInt64.ofNat (56 - 8 * row))).toUInt8

/-- The share in a new column of the byte `a` that the row rotation brought to `row`. -/
def share (a : UInt8) (row : Nat) : UInt64 :=
  have := a.toNat_lt
  -- the matrix is circulant: the table holds its first column, the others are rotations of it
  if row = 0 then columnTable[a.toNat] else rotateRows columnTable[a.toNat] (UInt64.ofNat row)

/-- What distinguishes the two permutations. -/
structure Variant where
  /-- The word added to a column in a round. -/
  constant : (round column : Nat) → UInt64
  /-- How far each row is rotated to the left. -/
  shifts : List Nat

/-- The variant of `P`: the round and column enter the first row. -/
def Variant.p : Variant where
  constant round column := UInt64.ofNat (16 * column ^^^ round) <<< 56
  shifts := [0, 1, 2, 3, 4, 5, 6, 11]

/-- The variant of `Q`: every byte is inverted, and the round and column enter the last row. -/
def Variant.q : Variant where
  constant round column := UInt64.ofNat (16 * column ^^^ round) ^^^ 0xffffffffffffffff
  shifts := [1, 3, 5, 11, 0, 2, 4, 6]

/-- The new column gathers one byte of each row and mixes them. -/
def gather (s : State) (column : Nat) : List Nat → Nat → UInt64 → UInt64
  | [], _, word => word
  | shift :: rest, row, word =>
    have : (column + shift) % 16 < 16 := Nat.mod_lt _ (by decide)
    gather s column rest (row + 1) (word ^^^ share (byteAt s[(column + shift) % 16] row) row)

/-- One round. -/
def Variant.round (v : Variant) (s : State) (round : Nat) : State :=
  let keyed : State := s.mapIdx fun column word => word ^^^ v.constant round column
  Vector.ofFn fun column => gather keyed column.val v.shifts 0 0

/-- Fourteen rounds. -/
def Variant.permute (v : Variant) (s : State) : State :=
  (List.range 14).foldl v.round s

/-- The sum of two states. -/
def State.add (s t : State) : State := Vector.zipWith (· ^^^ ·) s t

end DarkGravity.Groestl
