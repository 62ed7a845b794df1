import DarkGravity.Proofs.Check.Acceptance
import Mathlib.Algebra.Order.Floor.Semifield
import Mathlib.Data.Rat.Floor
import Mathlib.Tactic.NormNum

/-!
# The words that have targets

The fields of a word give a rational number: its mantissa, moved by three bytes less than its size.
The size byte and the mantissa are tested against fixed bounds and this number is never computed, yet
the bounds cut it exactly at 2²⁵⁶ (`exceeds_iff`). So a word that is not negative has a target
exactly if its number fits 256 bits, and the target is the number without its fraction
(`decode_eq_ok_iff_exactValue`).
-/

namespace DarkGravity.Compact

variable {bits : UInt32} {target : ℕ}

/-- The number that the fields of a word give. With a size below three it may have a fraction. -/
def exactValue (bits : UInt32) : ℚ := mantissa bits * 256 ^ ((sizeByte bits : ℤ) - 3)

/-- The sign is set on a mantissa that is not zero. -/
def Negative (bits : UInt32) : Prop := mantissa bits ≠ 0 ∧ sign bits = true

instance (bits : UInt32) : Decidable (Negative bits) :=
  inferInstanceAs (Decidable (_ ∧ _))

/-! ## Exact values -/

theorem exactValue_eq_div (bits : UInt32) :
    exactValue bits = (mantissa bits * 256 ^ sizeByte bits : ℕ) / (256 ^ 3 : ℕ) := by
  have hmoved : (256 : ℚ) ^ ((sizeByte bits : ℤ) - 3) = 256 ^ sizeByte bits / 256 ^ 3 := by
    rw [zpow_sub₀ (by norm_num), zpow_natCast]
    rfl
  rw [exactValue, hmoved, ← mul_div_assoc]
  push_cast
  rfl

/-- What a word stands for is the number of its fields without the fraction. -/
theorem floor_exactValue (bits : UInt32) :
    ⌊exactValue bits⌋₊ = value (sizeByte bits) (mantissa bits) := by
  rw [exactValue_eq_div, Nat.floor_div_eq_div]
  rfl

theorem two_pow_le_exactValue_iff :
    2 ^ 256 ≤ exactValue bits ↔ 256 ^ 35 ≤ mantissa bits * 256 ^ sizeByte bits := by
  have hpow : (2 : ℚ) ^ 256 * (256 ^ 3 : ℕ) = (256 ^ 35 : ℕ) := by norm_num
  have hpos : (0 : ℚ) < (256 ^ 3 : ℕ) := by norm_num
  rw [exactValue_eq_div, le_div_iff₀ hpos, hpow, Nat.cast_le]

/-- The three tests for the top bytes ask whether the number fits 256 bits. A zero mantissa fits with
every size. -/
theorem exceeds_iff :
    mantissa bits ≠ 0 ∧ exceeds (sizeByte bits) (mantissa bits) = true ↔
      2 ^ 256 ≤ exactValue bits := by
  rw [two_pow_le_exactValue_iff]
  rcases Nat.eq_zero_or_pos (mantissa bits) with hzero | hpos
  · rw [hzero, Nat.zero_mul]
    exact iff_of_false (fun h => h.1 rfl) (by norm_num)
  · have hfits : exceeds (sizeByte bits) (mantissa bits) = false ↔
        mantissa bits * 256 ^ sizeByte bits < 256 ^ 35 :=
      exceeds_eq_false_iff hpos ((mantissa_lt bits).trans (by decide))
    rw [and_iff_right hpos.ne', ← Bool.not_eq_false, hfits, Nat.not_lt]

/-- Without at least four bytes a number fits. -/
theorem three_lt_of_two_pow_le (h : 2 ^ 256 ≤ exactValue bits) : 3 < sizeByte bits := by
  rw [two_pow_le_exactValue_iff] at h
  by_contra hsmall
  have hsize : 256 ^ sizeByte bits ≤ 256 ^ 3 := Nat.pow_le_pow_right (by omega) (by omega)
  have hmantissa := mantissa_lt bits
  have hfits : mantissa bits * 256 ^ sizeByte bits ≤ signWeight * 256 ^ 3 :=
    Nat.mul_le_mul hmantissa.le hsize
  exact absurd (h.trans hfits) (by decide)

/-! ## Decoding -/

/-- The sign is looked at first, then the number of the fields. -/
theorem decode_eq_exactValue (bits : UInt32) :
    decode bits =
      if Negative bits then .error (.negative bits)
      else if 2 ^ 256 ≤ exactValue bits then .error (.overflow bits)
      else .ok ⌊exactValue bits⌋₊ := by
  simp only [decode_eq, exceeds_iff, floor_exactValue]
  rfl

theorem decode_eq_negative_iff :
    decode bits = .error (.negative bits) ↔ Negative bits := by
  rw [decode_eq_exactValue]
  split_ifs <;> simp_all

theorem decode_eq_overflow_iff :
    decode bits = .error (.overflow bits) ↔ ¬ Negative bits ∧ 2 ^ 256 ≤ exactValue bits := by
  rw [decode_eq_exactValue]
  split_ifs <;> simp_all

theorem decode_eq_ok_iff_exactValue :
    decode bits = .ok target ↔
      ¬ Negative bits ∧ exactValue bits < 2 ^ 256 ∧ target = ⌊exactValue bits⌋₊ := by
  rw [decode_eq_exactValue]
  split_ifs <;> simp_all [eq_comm]

/-- From size four on nothing is behind the point, below it the low digits of the mantissa are. -/
theorem floor_exactValue_eq_ite (bits : UInt32) :
    ⌊exactValue bits⌋₊ =
      if 3 < sizeByte bits then mantissa bits * 256 ^ (sizeByte bits - 3)
      else mantissa bits / 256 ^ (3 - sizeByte bits) := by
  rw [floor_exactValue]
  split_ifs with hlarge
  · rw [value_of_ge hlarge.le]
    rfl
  · rw [value_of_le (Nat.not_lt.mp hlarge)]
    rfl

/-- A word is negative, or its number does not fit 256 bits, which takes a size above three, or its
target is its number without the fraction. The sign comes first. So all targets fit 256 bits, and
among them the ceiling of all parameters that can drive the rules. -/
theorem decode_trichotomy :
    (∀ bits,
      (decode bits = .error (.negative bits) ↔ Negative bits) ∧
      (decode bits = .error (.overflow bits) ↔ ¬ Negative bits ∧ 2 ^ 256 ≤ exactValue bits) ∧
      (∀ target, decode bits = .ok target ↔
        ¬ Negative bits ∧ exactValue bits < 2 ^ 256 ∧ target = ⌊exactValue bits⌋₊) ∧
      (2 ^ 256 ≤ exactValue bits → 3 < sizeByte bits) ∧
      ⌊exactValue bits⌋₊ =
        if 3 < sizeByte bits then mantissa bits * 256 ^ (sizeByte bits - 3)
        else mantissa bits / 256 ^ (3 - sizeByte bits)) ∧
    (∀ bits target, decode bits = .ok target → target < 2 ^ 256) ∧
    ∀ (p : Params) (ceiling : Target), p.validate = .ok ceiling →
      decode p.ceilingBits = .ok ceiling ∧ ceiling < 2 ^ 256 := by
  refine ⟨fun bits => ⟨decode_eq_negative_iff, decode_eq_overflow_iff,
    fun target => decode_eq_ok_iff_exactValue, three_lt_of_two_pow_le,
    floor_exactValue_eq_ite bits⟩, fun bits target => lt_of_decode, ?_⟩
  intro p ceiling hvalid
  let v : Verifier := ⟨p, ceiling, hvalid⟩
  exact ⟨v.decode_ceilingBits, v.ceiling_lt⟩

/-- Size 34 has room for one byte of a mantissa and not for a second one. The sign of a mantissa that
is not zero comes before the size, and a zero mantissa goes with both. Size one drops two bytes. -/
theorem decode_trichotomy_of_top_bytes :
    decode 0x220000ff = .ok (0xff * 256 ^ 31) ∧
    decode 0x22000100 = .error (.overflow 0x22000100) ∧
    decode 0xff923456 = .error (.negative 0xff923456) ∧
    decode 0xff800000 = .ok 0 ∧
    decode 0x01123456 = .ok 0x12 ∧
    Params.mainnet.validate = .ok (0xfffff * Bytes.weight 27) ∧
    0xfffff * Bytes.weight 27 < 2 ^ 256 := by
  obtain ⟨hwords, -, hceiling⟩ := decode_trichotomy
  -- the number of a word is compared in whole numbers, and so is what is left of it
  have htarget : ∀ bits target, ¬ Negative bits →
      mantissa bits * 256 ^ sizeByte bits < 256 ^ 35 →
      target = value (sizeByte bits) (mantissa bits) → decode bits = .ok target := by
    intro bits target hsign hfits htarget
    obtain ⟨-, -, hok, -⟩ := hwords bits
    refine (hok target).mpr ⟨hsign, not_le.mp (mt two_pow_le_exactValue_iff.mp hfits.not_ge), ?_⟩
    rw [htarget, floor_exactValue]
  refine ⟨htarget _ _ (by decide) (by decide) (by decide), ?_, ?_,
    htarget _ _ (by decide) (by decide) (by decide),
    htarget _ _ (by decide) (by decide) (by decide), by decide, ?_⟩
  · exact (hwords 0x22000100).2.1.mpr ⟨by decide, two_pow_le_exactValue_iff.mpr (by decide)⟩
  · exact (hwords 0xff923456).1.mpr (by decide)
  · exact (hceiling .mainnet _ (by decide)).2

end DarkGravity.Compact
