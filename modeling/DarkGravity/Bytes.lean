/-!
# Words as bytes

Numbers are laid out as byte strings of a fixed width in either byte order. `Bytes.toNat` reads the
little-endian order back: `toNat_littleEndian` and `littleEndian_toNat` say that strings of a width
and numbers of that many bytes determine each other.
-/

namespace DarkGravity.Bytes

/-- What a byte counts in a number, where `place` bytes are less significant. -/
def weight (place : Nat) : Nat := Nat.pow 256 place

theorem weight_succ (place : Nat) : weight (place + 1) = 256 * weight place :=
  Nat.pow_succ'

theorem weight_add (low high : Nat) : weight (low + high) = weight low * weight high :=
  Nat.pow_add 256 low high

theorem weight_pos (place : Nat) : 0 < weight place :=
  Nat.pow_pos (by decide)

/-- The lowest `width` bytes of a number, least significant first. -/
def littleEndian : Nat → Nat → List UInt8
  | 0, _ => []
  | width + 1, n => UInt8.ofNat n :: littleEndian width (n / 256)

/-- The lowest `width` bytes of a number, most significant first. -/
def bigEndian (width n : Nat) : List UInt8 :=
  (littleEndian width n).reverse

/-- The number whose bytes, least significant first, are given. -/
def toNat : List UInt8 → Nat
  | [] => 0
  | b :: rest => b.toNat + 256 * toNat rest

@[simp] theorem length_littleEndian (width n : Nat) : (littleEndian width n).length = width := by
  induction width generalizing n with
  | zero => rfl
  | succ width ih => simp [littleEndian, ih]

@[simp] theorem length_bigEndian (width n : Nat) : (bigEndian width n).length = width := by
  simp [bigEndian]

/-- Reading gives back the lowest `width` bytes of what was laid out. -/
theorem toNat_littleEndian (width n : Nat) : toNat (littleEndian width n) = n % weight width := by
  induction width generalizing n with
  | zero => simp [littleEndian, toNat, weight, Nat.mod_one]
  | succ width ih =>
    have low : (UInt8.ofNat n).toNat = n % 256 := by simp
    rw [littleEndian, toNat, ih, low, weight_succ, Nat.mod_mul]

theorem toNat_lt (bytes : List UInt8) : toNat bytes < weight bytes.length := by
  induction bytes with
  | nil => simp [toNat, weight]
  | cons b rest ih =>
    have hb := b.toNat_lt
    rw [toNat, List.length_cons, weight_succ]
    omega

/-- Laying out what was read gives the bytes back. -/
theorem littleEndian_toNat (bytes : List UInt8) :
    littleEndian bytes.length (toNat bytes) = bytes := by
  induction bytes with
  | nil => rfl
  | cons b rest ih =>
    have hb := b.toNat_lt
    -- the first byte is the remainder, the others are laid out from the quotient
    have low : UInt8.ofNat (b.toNat + 256 * toNat rest) = b := by
      apply UInt8.toNat_inj.mp
      rw [UInt8.toNat_ofNat']
      omega
    have high : (b.toNat + 256 * toNat rest) / 256 = toNat rest := by omega
    rw [toNat, List.length_cons, littleEndian, low, high, ih]

theorem toNat_append (low high : List UInt8) :
    toNat (low ++ high) = toNat low + weight low.length * toNat high := by
  induction low with
  | nil => simp [toNat, weight]
  | cons b rest ih =>
    rw [List.cons_append, toNat, toNat, ih, List.length_cons, weight_succ, Nat.mul_add,
      Nat.mul_assoc, Nat.add_assoc]

end DarkGravity.Bytes
