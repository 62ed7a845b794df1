import DarkGravity.Proofs.Compact.Rounding
import Mathlib.Order.Bounds.Defs

/-!
# Words as best lower approximations

The word of a target stands for the greatest target that any word can express without being above
it, and loses less than one part in 2¹⁵ (`isGreatest_decode_encode`). Words compare as numbers the
way their targets do, because the size is in the top byte and is the least that leaves room
(`encode_le_encode`). Encoding what a word of a target stands for gives this word back
(`encode_truncate_encode`).
-/

namespace DarkGravity.Compact

variable {target : ℕ}

/-- A number that needs one size and is not above a number that fits another. -/
theorem size_le_size {small large low high : ℕ} (hleast : 256 ^ (low - 1) ≤ small)
    (hle : small ≤ large) (hroom : large < 256 ^ high) : low ≤ high := by
  have hpow : 256 ^ (low - 1) < 256 ^ high := (hleast.trans hle).trans_lt hroom
  have hlt : low - 1 < high := (Nat.pow_lt_pow_iff_right (by omega)).mp hpow
  omega

/-- A word without the sign bit is its size above its mantissa. -/
theorem toNat_of_not_sign {bits : UInt32} (h : sign bits = false) :
    bits.toNat = sizeByte bits * 16777216 + mantissa bits := by
  have hweight : Bytes.weight 3 = 16777216 := rfl
  simp only [sign, decide_eq_false_iff_not] at h
  simp only [sizeByte, mantissa, hweight, signWeight] at h ⊢
  omega

/-- A greater target has no smaller word. -/
theorem encode_le_encode {small : ℕ} (hle : small ≤ target) (hlt : target < 2 ^ 256) :
    encode small ≤ encode target := by
  rcases eq_or_ne small 0 with rfl | hsmall
  · exact UInt32.zero_le
  obtain ⟨-, hleast, hword, hsign⟩ := encode_fields hsmall (hle.trans_lt hlt)
  obtain ⟨hroom, -, hword', hsign'⟩ := encode_fields (by omega : target ≠ 0) hlt
  have hsize : sizeByte (encode small) ≤ sizeByte (encode target) :=
    size_le_size hleast (Nat.mul_le_mul_left 2 hle) hroom
  rw [UInt32.le_iff_toNat_le, toNat_of_not_sign hsign, toNat_of_not_sign hsign']
  rcases Nat.lt_or_eq_of_le hsize with hless | heq
  · -- the mantissa stays below the weight of the size
    have hmantissa : mantissa (encode small) < 16777216 := (mantissa_lt _).trans (by decide)
    omega
  · have hmantissa : mantissa (encode small) ≤ mantissa (encode target) := by
      rw [hword, hword', heq]
      exact Nat.div_le_div_right (Nat.mul_le_mul_right _ hle)
    omega

/-- What a word loses of its target is less than one part in 2¹⁵. -/
theorem sub_truncate_encode_le (hlt : target < 2 ^ 256) :
    (target - truncate target (encode target)) * 2 ^ 15 ≤ truncate target (encode target) := by
  rcases eq_or_ne target 0 with rfl | h
  · simp
  obtain ⟨-, hleast, -, -⟩ := encode_fields h hlt
  rw [truncate_encode hlt]
  generalize sizeByte (encode target) = size at hleast
  rcases Nat.lt_or_ge size 4 with hsize | hsize
  · rw [unit_of_le (by omega), Nat.div_one, Nat.mul_one, Nat.sub_self, Nat.zero_mul]
    exact Nat.zero_le _
  · calc (target - target / unit size * unit size) * 2 ^ 15
        = target % unit size * 2 ^ 15 := by rw [Nat.mul_comm (target / _), Nat.mod_eq_sub]
      _ ≤ unit size * 2 ^ 15 := Nat.mul_le_mul_right _ (Nat.mod_lt _ (unit_pos size)).le
      _ = 2 ^ 15 * unit size := Nat.mul_comm _ _
      _ ≤ target / unit size * unit size :=
          Nat.mul_le_mul_right _ (two_pow_le_div_unit hsize hleast)

/-- A target other than zero is not rounded down to zero. -/
theorem truncate_encode_ne_zero (h : target ≠ 0) (hlt : target < 2 ^ 256) :
    truncate target (encode target) ≠ 0 := by
  intro hzero
  have hloss : (target - 0) * 2 ^ 15 ≤ 0 := hzero ▸ sub_truncate_encode_le hlt
  omega

/-- Rounding down to a multiple of the unit keeps a target in its size. -/
theorem pow_pred_le_of_leading {size : ℕ} (hleast : 256 ^ (size - 1) ≤ 2 * target) :
    256 ^ (size - 1) ≤ 2 * (target / unit size * unit size) := by
  rcases Nat.lt_or_ge size 4 with hsize | hsize
  · rwa [unit_of_le (by omega), Nat.div_one, Nat.mul_one]
  · rw [pow_pred_eq hsize]
    exact Nat.mul_le_mul_left 2 (Nat.mul_le_mul_right _ (two_pow_le_div_unit hsize hleast))

/-- The leading bytes of a target are those of the target rounded down to the unit. -/
theorem leading_of_leading (size target : ℕ) :
    target / unit size * unit size * 256 ^ 3 / 256 ^ size = target * 256 ^ 3 / 256 ^ size := by
  rcases Nat.le_total size 3 with h | h
  · rw [unit_of_le h, Nat.div_one, Nat.mul_one]
  · have hleading : ∀ n, n * 256 ^ 3 / 256 ^ size = n / unit size := by
      intro n
      rw [← unit_mul h, Nat.mul_comm n, Nat.mul_div_mul_left _ _ (by omega)]
    rw [hleading, hleading, Nat.mul_div_cancel _ (unit_pos size)]

/-- The word of what a word of a target stands for is the word itself. -/
theorem encode_truncate_encode (hlt : target < 2 ^ 256) :
    encode (truncate target (encode target)) = encode target := by
  rcases eq_or_ne target 0 with rfl | h
  · rfl
  have hle : truncate target (encode target) ≤ target := truncate_le _ _
  obtain ⟨hroom, hleast, hword, hsign⟩ := encode_fields h hlt
  obtain ⟨hroom', hleast', hword', hsign'⟩ :=
    encode_fields (truncate_encode_ne_zero h hlt) (hle.trans_lt hlt)
  have hsize : sizeByte (encode (truncate target (encode target))) =
      sizeByte (encode target) := by
    apply Nat.le_antisymm
    · exact size_le_size hleast' (Nat.mul_le_mul_left 2 hle) hroom
    · refine size_le_size ?_ le_rfl hroom'
      rw [truncate_encode hlt]
      exact pow_pred_le_of_leading hleast
  have hmantissa : mantissa (encode (truncate target (encode target))) =
      mantissa (encode target) := by
    rw [hword', hword, hsize, truncate_encode hlt, leading_of_leading]
  apply UInt32.toNat_inj.mp
  rw [toNat_of_not_sign hsign', toNat_of_not_sign hsign, hsize, hmantissa]

/-- Some word stands for the target. -/
def Representable (target : ℕ) : Prop := ∃ bits, decode bits = .ok target

/-- The word of a target that fits 256 bits stands for the greatest representable target that is not
above it. The loss is less than one part in 2¹⁵, a representable target loses nothing, and no
smaller target has a greater word. -/
theorem isGreatest_decode_encode (hlt : target < 2 ^ 256) :
    (∃ rounded, decode (encode target) = .ok rounded ∧
      IsGreatest {t | Representable t ∧ t ≤ target} rounded ∧
      (target - rounded) * 2 ^ 15 ≤ rounded ∧
      (Representable target → rounded = target)) ∧
    ∀ smaller ≤ target, encode smaller ≤ encode target := by
  have hdecode := decode_encode hlt
  have hgreatest : ∀ t, Representable t → t ≤ target → t ≤ truncate target (encode target) := by
    rintro t ⟨bits, hbits⟩ hle
    exact le_truncate_encode hlt hbits hle
  constructor
  · refine ⟨truncate target (encode target), hdecode, ⟨⟨⟨_, hdecode⟩, truncate_le _ _⟩, ?_⟩,
      sub_truncate_encode_le hlt, ?_⟩
    · rintro t ⟨hrepresentable, hle⟩
      exact hgreatest t hrepresentable hle
    · intro hrepresentable
      exact Nat.le_antisymm (truncate_le _ _) (hgreatest target hrepresentable le_rfl)
  · intro smaller hle
    exact encode_le_encode hle hlt

/-- A leading byte that would set the sign bit moves down, so two bytes of four are kept. -/
theorem isGreatest_decode_encode_of_shifted :
    decode (encode 0x80ffff01) = .ok 0x80ff0000 ∧
      IsGreatest {t | Representable t ∧ t ≤ 0x80ffff01} 0x80ff0000 ∧
      encode 0x7fffffff ≤ encode 0x80ffff01 := by
  have hdecode : decode (encode 0x80ffff01) = .ok 0x80ff0000 := by decide
  obtain ⟨⟨rounded, hrounded, hgreatest, -, -⟩, hmonotone⟩ :=
    isGreatest_decode_encode (show 0x80ffff01 < 2 ^ 256 by norm_num)
  rw [hdecode, Except.ok.injEq] at hrounded
  rw [hrounded]
  exact ⟨hrounded ▸ hdecode, hgreatest, hmonotone 0x7fffffff (by norm_num)⟩

end DarkGravity.Compact
