import DarkGravity.Compact
import Mathlib.Tactic.Linarith
import Mathlib.Tactic.Ring

/-!
# Compact words as rounded targets

A word with size byte `s` and mantissa `w` stands for `w * 256 ^ s / 256 ^ 3`, so its target is a
multiple of `256 ^ (s - 3)` below half of `256 ^ s`. The word of a target has the least size byte
that leaves room for it, and its target is the one it was made of without the bytes below the
window: the greatest target of any word that is not above it (`le_truncate_encode`).

Masking by a foreign word clears what its window does not cover, so it never raises a target
(`truncate_le`), and it changes nothing about a target that the word itself stands for
(`truncate_of_decode`).
-/

namespace DarkGravity

theorem Bytes.weight_eq_pow (place : ℕ) : weight place = 256 ^ place := rfl

namespace Compact

open Bytes (weight weight_eq_pow)

/-- What the lowest byte counts in the three-byte window of a size. -/
def unit (size : ℕ) : ℕ := 256 ^ (size - 3)

theorem unit_pos (size : ℕ) : 0 < unit size := Nat.pow_pos (by omega)

/-- A byte has eight bits. -/
theorem pow_eq_two_pow (k : ℕ) : 256 ^ k = 2 ^ (8 * k) := by
  norm_num [pow_mul]

/-- The unit of a smaller size divides that of a larger one. -/
theorem unit_dvd_unit {small large : ℕ} (h : small ≤ large) : unit small ∣ unit large :=
  Nat.pow_dvd_pow 256 (by omega)

/-- Below three bytes the unit is one. -/
theorem unit_of_le {size : ℕ} (h : size ≤ 3) : unit size = 1 := by
  rw [unit, Nat.sub_eq_zero_of_le h, pow_zero]

/-- From three bytes on, the window ends three bytes above its unit. -/
theorem unit_mul {size : ℕ} (h : 3 ≤ size) : 256 ^ 3 * unit size = 256 ^ size := by
  rw [unit, ← pow_add, Nat.add_sub_cancel' h]

/-- What a mantissa stands for on a size byte. -/
def value (size word : ℕ) : ℕ := word * 256 ^ size / 256 ^ 3

theorem value_zero (size : ℕ) : value size 0 = 0 := by
  simp [value]

theorem value_of_le {size : ℕ} (h : size ≤ 3) (word : ℕ) :
    value size word = word / weight (3 - size) := by
  have hsplit : 256 ^ 3 = 256 ^ (3 - size) * 256 ^ size := by
    rw [← pow_add, Nat.sub_add_cancel h]
  rw [value, weight_eq_pow, hsplit, Nat.mul_div_mul_right _ _ (Nat.pow_pos (by omega))]

theorem value_of_ge {size : ℕ} (h : 3 ≤ size) (word : ℕ) :
    value size word = word * unit size := by
  rw [value, ← unit_mul h, Nat.mul_left_comm, Nat.mul_div_cancel_left _ (by omega)]

/-- The value is a multiple of the unit. -/
theorem unit_dvd_value (size word : ℕ) : unit size ∣ value size word := by
  rcases Nat.le_total size 3 with h | h
  · rw [unit_of_le h]
    exact one_dvd _
  · rw [value_of_ge h]
    exact Nat.dvd_mul_left _ _

/-- A mantissa without the sign bit fills less than half of its size. -/
theorem two_mul_value_lt {size word : ℕ} (h : word < signWeight) :
    2 * value size word < 256 ^ size := by
  have hpos : 0 < 256 ^ size := Nat.pow_pos (by omega)
  have hquot : 256 ^ 3 * value size word ≤ word * 256 ^ size := Nat.mul_div_le _ _
  have hword : 2 * word < 256 ^ 3 := by
    unfold signWeight at h
    omega
  have hscaled : 2 * word * 256 ^ size < 256 ^ 3 * 256 ^ size :=
    Nat.mul_lt_mul_of_pos_right hword hpos
  have hdouble : 256 ^ 3 * (2 * value size word) < 256 ^ 3 * 256 ^ size := by
    calc 256 ^ 3 * (2 * value size word) = 2 * (256 ^ 3 * value size word) := by ring
      _ ≤ 2 * (word * 256 ^ size) := Nat.mul_le_mul_left 2 hquot
      _ = 2 * word * 256 ^ size := by ring
      _ < 256 ^ 3 * 256 ^ size := hscaled
  exact Nat.lt_of_mul_lt_mul_left hdouble

/-- The three tests for the top bytes say that the value does not fit 256 bits. -/
theorem exceeds_eq_false_iff {size word : ℕ} (hpos : 0 < word) (hword : word < 256 ^ 3) :
    exceeds size word = false ↔ word * 256 ^ size < 256 ^ 35 := by
  rcases Nat.lt_trichotomy size 33 with h | rfl | h
  · have hfits : word * 256 ^ size < 256 ^ 35 := by
      calc word * 256 ^ size ≤ word * 256 ^ 32 :=
            Nat.mul_le_mul_left _ (Nat.pow_le_pow_right (by omega) (by omega))
        _ < 256 ^ 3 * 256 ^ 32 := Nat.mul_lt_mul_of_pos_right hword (by omega)
        _ = 256 ^ 35 := by norm_num
    have hnot : exceeds size word = false := by
      simp only [exceeds, Bool.or_eq_false_iff, Bool.and_eq_false_iff, decide_eq_false_iff_not]
      omega
    exact iff_of_true hnot hfits
  · simp only [exceeds, Bool.or_eq_false_iff, Bool.and_eq_false_iff, decide_eq_false_iff_not]
    omega
  · rcases Nat.lt_or_ge 34 size with h' | h'
    · have hlarge : 256 ^ 35 ≤ word * 256 ^ size :=
        (Nat.pow_le_pow_right (by omega) h').trans (Nat.le_mul_of_pos_left _ hpos)
      have htoo : exceeds size word = true := by simp [exceeds, h']
      rw [htoo]
      exact iff_of_false (by decide) (Nat.not_lt.mpr hlarge)
    · obtain rfl : size = 34 := by omega
      simp only [exceeds, Bool.or_eq_false_iff, Bool.and_eq_false_iff, decide_eq_false_iff_not]
      omega

/-! ## Decoding -/

theorem mantissa_lt (bits : UInt32) : mantissa bits < signWeight :=
  Nat.mod_lt _ (by decide)

/-- The sign is tested before the size, and what passes both tests has its value. -/
theorem decode_eq (bits : UInt32) :
    decode bits =
      if mantissa bits ≠ 0 ∧ sign bits = true then .error (.negative bits)
      else if mantissa bits ≠ 0 ∧ exceeds (sizeByte bits) (mantissa bits) = true then
        .error (.overflow bits)
      else .ok (value (sizeByte bits) (mantissa bits)) := by
  have hvalue : (if sizeByte bits ≤ 3 then
        (.ok (mantissa bits / weight (3 - sizeByte bits)) : Except Error Target)
      else .ok (mantissa bits * weight (sizeByte bits - 3))) =
      .ok (value (sizeByte bits) (mantissa bits)) := by
    split
    · next h => rw [value_of_le h]
    · next h =>
      rw [value_of_ge (by omega)]
      rfl
  rw [← hvalue]
  rfl

/-- A word has a target exactly when its mantissa is zero, or it is not negative and its value fits
256 bits; the target is its value. -/
theorem decode_eq_ok_iff {bits : UInt32} {target : ℕ} :
    decode bits = .ok target ↔
      (mantissa bits = 0 ∨
        sign bits = false ∧ exceeds (sizeByte bits) (mantissa bits) = false) ∧
      target = value (sizeByte bits) (mantissa bits) := by
  rw [decode_eq]
  split
  · next h => simp [h.1, h.2]
  · next hsign =>
    split
    · next h => simp [h.1, h.2]
    · next hexceeds =>
      rw [Except.ok.injEq, eq_comm, iff_and_self]
      intro _
      by_cases hzero : mantissa bits = 0
      · exact .inl hzero
      · exact .inr ⟨Bool.eq_false_iff.mpr fun h => hsign ⟨hzero, h⟩,
          Bool.eq_false_iff.mpr fun h => hexceeds ⟨hzero, h⟩⟩

variable {bits : UInt32} {target : ℕ}

/-- A decoded target fits 256 bits. -/
theorem lt_of_decode (h : decode bits = .ok target) : target < 2 ^ 256 := by
  obtain ⟨hfits, rfl⟩ := decode_eq_ok_iff.mp h
  rcases Nat.eq_zero_or_pos (mantissa bits) with hzero | hpos
  · rw [hzero, value_zero]
    exact Nat.two_pow_pos 256
  · have hexceeds := (hfits.resolve_left hpos.ne').2
    have hsmall := (exceeds_eq_false_iff hpos ((mantissa_lt bits).trans (by decide))).mp hexceeds
    rw [value, Nat.div_lt_iff_lt_mul (by omega)]
    exact hsmall.trans_eq (by norm_num)

theorem unit_dvd_of_decode (h : decode bits = .ok target) : unit (sizeByte bits) ∣ target := by
  obtain ⟨-, rfl⟩ := decode_eq_ok_iff.mp h
  exact unit_dvd_value _ _

theorem two_mul_lt_of_decode (h : decode bits = .ok target) :
    2 * target < 256 ^ sizeByte bits := by
  obtain ⟨-, rfl⟩ := decode_eq_ok_iff.mp h
  exact two_mul_value_lt (mantissa_lt bits)

/-! ## Masking -/

/-- Masking drops what lies above the window and rounds down to its unit. -/
theorem truncate_eq (target : ℕ) (bits : UInt32) :
    truncate target bits =
      target % 256 ^ sizeByte bits / unit (sizeByte bits) * unit (sizeByte bits) := by
  simp only [truncate]
  split
  · next h => rw [unit_of_le h, Nat.div_one, Nat.mul_one, weight_eq_pow]
  · next h =>
    have hsize : 256 ^ sizeByte bits = unit (sizeByte bits) * 256 ^ 3 := by
      rw [Nat.mul_comm, unit_mul (by omega)]
    rw [hsize, Nat.mod_mul_right_div_self]
    rfl

/-- Masking never raises a target. -/
theorem truncate_le (target : ℕ) (bits : UInt32) : truncate target bits ≤ target := by
  rw [truncate_eq]
  exact (Nat.div_mul_le_self _ _).trans (Nat.mod_le _ _)

/-- Only the size byte of a word matters for its mask. -/
theorem truncate_congr {bits' : UInt32} (target : ℕ) (h : sizeByte bits = sizeByte bits') :
    truncate target bits = truncate target bits' := by
  rw [truncate_eq, truncate_eq, h]

/-- A word loses nothing of the target that it stands for. -/
theorem truncate_of_decode (h : decode bits = .ok target) : truncate target bits = target := by
  have hlt : target < 256 ^ sizeByte bits :=
    (Nat.le_mul_of_pos_left target (by omega)).trans_lt (two_mul_lt_of_decode h)
  rw [truncate_eq, Nat.mod_eq_of_lt hlt, Nat.div_mul_cancel (unit_dvd_of_decode h)]

/-- The place of a bit is inside the three-byte window that the size byte of a word names. Below size
three the window is cut off at the lowest bit. -/
def InWindow (bits : UInt32) (place : ℕ) : Prop :=
  8 * (sizeByte bits - 3) ≤ place ∧ place < 8 * sizeByte bits

instance (bits : UInt32) (place : ℕ) : Decidable (InWindow bits place) :=
  inferInstanceAs (Decidable (_ ∧ _))

/-- Masking keeps the bits inside the window and clears all others. -/
theorem testBit_truncate (target : ℕ) (bits : UInt32) (place : ℕ) :
    (truncate target bits).testBit place =
      (decide (InWindow bits place) && target.testBit place) := by
  rw [truncate_eq, unit, pow_eq_two_pow, pow_eq_two_pow, Nat.testBit_mul_two_pow,
    Nat.testBit_div_two_pow, Nat.testBit_mod_two_pow]
  by_cases hlow : 8 * (sizeByte bits - 3) ≤ place
  · rw [Nat.sub_add_cancel hlow]
    simp [InWindow, hlow]
  · simp [InWindow, hlow]

/-! ## Encoding -/

/-- A number other than zero has a nonzero byte at the top of its byte length. -/
theorem byteLength_bounds {n : ℕ} (h : n ≠ 0) :
    256 ^ (byteLength n - 1) ≤ n ∧ n < 256 ^ byteLength n := by
  have hlength : byteLength n = n.log2 / 8 + 1 := by
    simp only [byteLength, bitLength, if_neg h]
    omega
  rw [hlength, Nat.add_sub_cancel, pow_eq_two_pow, pow_eq_two_pow]
  constructor
  · calc 2 ^ (8 * (n.log2 / 8)) ≤ 2 ^ n.log2 :=
          Nat.pow_le_pow_right (by omega) (Nat.mul_div_le _ _)
      _ ≤ n := Nat.log2_self_le h
  · calc n < 2 ^ (n.log2 + 1) := Nat.lt_log2_self
      _ ≤ 2 ^ (8 * (n.log2 / 8 + 1)) := Nat.pow_le_pow_right (by omega) (by omega)

/-- The fields of a word put together from a size and a mantissa without the sign bit. -/
theorem fields_ofNat {size word : ℕ} (hsize : size < 256) (hword : word < signWeight) :
    sizeByte (UInt32.ofNat (size * weight 3 + word)) = size ∧
      mantissa (UInt32.ofNat (size * weight 3 + word)) = word ∧
      sign (UInt32.ofNat (size * weight 3 + word)) = false := by
  have hweight : weight 3 = 16777216 := rfl
  have hsign : signWeight = 8388608 := rfl
  rw [hsign] at hword
  have htoNat : (UInt32.ofNat (size * weight 3 + word)).toNat = size * 16777216 + word := by
    rw [UInt32.toNat_ofNat', hweight, Nat.mod_eq_of_lt]
    omega
  refine ⟨?_, ?_, ?_⟩
  · rw [sizeByte, htoNat, hweight]
    omega
  · rw [mantissa, htoNat, hsign]
    omega
  · rw [sign, htoNat, hsign, decide_eq_false_iff_not]
    omega

/-- The word of a target has the least size that leaves room for it, and the leading bytes as its
mantissa. -/
theorem encode_eq (h : target ≠ 0) :
    ∃ size, 2 * target < 256 ^ size ∧ 256 ^ (size - 1) ≤ 2 * target ∧
      encode target = UInt32.ofNat (size * weight 3 + target * 256 ^ 3 / 256 ^ size) := by
  obtain ⟨hlow, hhigh⟩ := byteLength_bounds h
  generalize hlength : byteLength target = length at hlow hhigh
  have hpos : 0 < 256 ^ length := Nat.pow_pos (by omega)
  have hword : (if length ≤ 3 then target * weight (3 - length)
      else target / weight (length - 3)) = target * 256 ^ 3 / 256 ^ length := by
    split
    · next hle =>
      have hsplit : 256 ^ 3 = weight (3 - length) * 256 ^ length := by
        rw [weight_eq_pow, ← pow_add, Nat.sub_add_cancel hle]
      rw [hsplit, ← Nat.mul_assoc, Nat.mul_div_cancel _ hpos]
    · next hgt =>
      rw [← unit_mul (by omega : 3 ≤ length), Nat.mul_comm target,
        Nat.mul_div_mul_left _ _ (by omega)]
      rfl
  simp only [encode, if_neg h, hlength, hword]
  split
  · -- the leading byte would set the sign bit, so the size is one more than the length
    next hle =>
    rw [signWeight, Nat.le_div_iff_mul_le hpos] at hle
    refine ⟨length + 1, ?_, ?_, ?_⟩
    · rw [pow_succ]
      omega
    · rw [Nat.add_sub_cancel]
      omega
    · rw [Nat.div_div_eq_div_mul, ← pow_succ]
  · next hlt =>
    rw [signWeight, Nat.not_le, Nat.div_lt_iff_lt_mul hpos] at hlt
    refine ⟨length, ?_, ?_, rfl⟩
    · omega
    · omega

/-- The fields of the word of a target that fits 256 bits. -/
theorem encode_fields (h : target ≠ 0) (hlt : target < 2 ^ 256) :
    2 * target < 256 ^ sizeByte (encode target) ∧
      256 ^ (sizeByte (encode target) - 1) ≤ 2 * target ∧
      mantissa (encode target) = target * 256 ^ 3 / 256 ^ sizeByte (encode target) ∧
      sign (encode target) = false := by
  obtain ⟨size, hroom, hleast, hencode⟩ := encode_eq h
  have hsize : size < 256 := by
    by_contra hge
    have hpow : 256 ^ 33 ≤ 256 ^ (size - 1) := Nat.pow_le_pow_right (by omega) (by omega)
    omega
  have hword : target * 256 ^ 3 / 256 ^ size < signWeight := by
    rw [signWeight, Nat.div_lt_iff_lt_mul (Nat.pow_pos (by omega))]
    omega
  obtain ⟨hs, hm, hsign⟩ := fields_ofNat hsize hword
  rw [hencode, hs, hm]
  exact ⟨hroom, hleast, rfl, hsign⟩

/-- The leading bytes of a number stand for the number rounded down to the unit. -/
theorem value_leading (size target : ℕ) :
    value size (target * 256 ^ 3 / 256 ^ size) = target / unit size * unit size := by
  rcases Nat.le_total size 3 with h | h
  · have hsplit : 256 ^ 3 = 256 ^ (3 - size) * 256 ^ size := by
      rw [← pow_add, Nat.sub_add_cancel h]
    rw [value_of_le h, unit_of_le h, hsplit, ← Nat.mul_assoc,
      Nat.mul_div_cancel _ (Nat.pow_pos (by omega)), weight_eq_pow,
      Nat.mul_div_cancel _ (Nat.pow_pos (by omega)), Nat.div_one, Nat.mul_one]
  · rw [value_of_ge h, ← unit_mul h, Nat.mul_comm target, Nat.mul_div_mul_left _ _ (by omega)]

/-- Masking a target by its own word rounds it down to the unit of that word. -/
theorem truncate_encode (hlt : target < 2 ^ 256) :
    truncate target (encode target) =
      target / unit (sizeByte (encode target)) * unit (sizeByte (encode target)) := by
  rcases eq_or_ne target 0 with rfl | h
  · rw [truncate_eq]
    simp
  · obtain ⟨hroom, -, -, -⟩ := encode_fields h hlt
    rw [truncate_eq, Nat.mod_eq_of_lt]
    omega

/-- A target that fits 256 bits has a word, and that word stands for the target masked by it. -/
theorem decode_encode (hlt : target < 2 ^ 256) :
    decode (encode target) = .ok (truncate target (encode target)) := by
  rcases eq_or_ne target 0 with rfl | h
  · rfl
  · obtain ⟨-, -, hmantissa, hsign⟩ := encode_fields h hlt
    rw [decode_eq_ok_iff, truncate_encode hlt, ← value_leading, hmantissa]
    refine ⟨?_, rfl⟩
    rcases Nat.eq_zero_or_pos (mantissa (encode target)) with hzero | hpos
    · exact .inl (hmantissa ▸ hzero)
    · refine .inr ⟨hsign, ?_⟩
      rw [← hmantissa, exceeds_eq_false_iff hpos ((mantissa_lt _).trans (by decide)), hmantissa]
      calc target * 256 ^ 3 / 256 ^ sizeByte (encode target) * 256 ^ sizeByte (encode target)
          ≤ target * 256 ^ 3 := Nat.div_mul_le_self _ _
        _ < 256 ^ 35 := by omega

/-- Half of the next smaller size is a multiple of the unit. -/
theorem pow_pred_eq {size : ℕ} (h : 4 ≤ size) : 256 ^ (size - 1) = 2 * (2 ^ 15 * unit size) := by
  rw [← unit_mul (by omega : 3 ≤ size - 1), show size = size - 1 + 1 by omega, unit, unit,
    show size - 1 + 1 - 3 = size - 1 - 3 + 1 by omega, pow_succ]
  simp
  ring

/-- A target that needs its size has at least 2¹⁵ units, unless the unit is one. -/
theorem two_pow_le_div_unit {size target : ℕ} (h : 4 ≤ size)
    (hleast : 256 ^ (size - 1) ≤ 2 * target) : 2 ^ 15 ≤ target / unit size := by
  rw [Nat.le_div_iff_mul_le (unit_pos size)]
  have hhalf := pow_pred_eq h
  omega

/-- The word of a target stands for the greatest target of any word that is not above it. -/
theorem le_truncate_encode {received : ℕ} (hlt : target < 2 ^ 256)
    (hreceived : decode bits = .ok received) (hle : received ≤ target) :
    received ≤ truncate target (encode target) := by
  rcases eq_or_ne target 0 with rfl | h
  · exact hle.trans (Nat.zero_le _)
  obtain ⟨-, hleast, -, -⟩ := encode_fields h hlt
  rw [truncate_encode hlt]
  generalize sizeByte (encode target) = size at hleast
  rcases Nat.lt_or_ge (sizeByte bits) size with hsmall | hlarge
  · -- half of the next smaller size is a multiple of the unit between the two targets
    rcases Nat.lt_or_ge size 4 with hsize | hsize
    · rw [unit_of_le (by omega), Nat.div_one, Nat.mul_one]
      exact hle
    · have hbelow : received ≤ 2 ^ 15 * unit size := by
        have hpow : 256 ^ sizeByte bits ≤ 256 ^ (size - 1) :=
          Nat.pow_le_pow_right (by omega) (by omega)
        have hhalf := pow_pred_eq hsize
        have := two_mul_lt_of_decode hreceived
        omega
      exact hbelow.trans (Nat.mul_le_mul_right _ (two_pow_le_div_unit hsize hleast))
  · obtain ⟨k, rfl⟩ := (unit_dvd_unit hlarge).trans (unit_dvd_of_decode hreceived)
    rw [Nat.mul_comm]
    refine Nat.mul_le_mul_right _ ?_
    rwa [Nat.le_div_iff_mul_le (unit_pos size), Nat.mul_comm]

end Compact

end DarkGravity
