import DarkGravity.Proofs.Compact.Canonical

/-!
# Words in normal form

Many words may stand for one target: digits may move between the mantissa and the size byte, small
sizes drop the low digits, and a zero mantissa goes with every size and with the sign bit. Encoding
gives exactly one of them, and its fields tell which: a word comes back from its own target exactly
if it is in normal form (`encode_eq_iff_normal`). So words stand for one target exactly if they are
encoded alike, and every target that some word stands for has one word in normal form
(`existsUnique_normal_word`).
-/

namespace DarkGravity.Compact

variable {bits : UInt32} {target : ℕ}

/-- The word is zero, or it has no sign, a mantissa that could not move to a smaller size, and no
digits in the mantissa that its size would drop. -/
def Normal (bits : UInt32) : Prop :=
  bits = 0 ∨ sign bits = false ∧ 0x8000 ≤ mantissa bits ∧
    (sizeByte bits < 3 → mantissa bits % 2 ^ (8 * (3 - sizeByte bits)) = 0)

instance (bits : UInt32) : Decidable (Normal bits) :=
  inferInstanceAs (Decidable (_ ∨ _))

/-! ## Fields of an encoded target -/

/-- The word of a target is the only one without a sign that has the least size with room for the
target, and its leading bytes as the mantissa. -/
theorem encode_eq_iff_fields (h : target ≠ 0) (hlt : target < 2 ^ 256) :
    encode target = bits ↔
      sign bits = false ∧ 2 * target < 256 ^ sizeByte bits ∧
        256 ^ (sizeByte bits - 1) ≤ 2 * target ∧
        mantissa bits = target * 256 ^ 3 / 256 ^ sizeByte bits := by
  obtain ⟨hroom, hleast, hmantissa, hsign⟩ := encode_fields h hlt
  constructor
  · rintro rfl
    exact ⟨hsign, hroom, hleast, hmantissa⟩
  · rintro ⟨hsign', hroom', hleast', hmantissa'⟩
    have hsize : sizeByte (encode target) = sizeByte bits :=
      Nat.le_antisymm (size_le_size hleast le_rfl hroom') (size_le_size hleast' le_rfl hroom)
    apply UInt32.toNat_inj.mp
    rw [toNat_of_not_sign hsign, toNat_of_not_sign hsign', hmantissa, hmantissa', hsize]

/-- Only sizes below three can drop digits of a mantissa. -/
theorem dvd_mul_pow_iff {size word : ℕ} :
    256 ^ 3 ∣ word * 256 ^ size ↔ (size < 3 → word % 2 ^ (8 * (3 - size)) = 0) := by
  rcases Nat.lt_or_ge size 3 with hsmall | hlarge
  · have hsplit : 256 ^ 3 = 256 ^ (3 - size) * 256 ^ size := by
      rw [← pow_add, Nat.sub_add_cancel hsmall.le]
    rw [hsplit, Nat.mul_dvd_mul_iff_right (Nat.pow_pos (by omega)), ← pow_eq_two_pow,
      Nat.dvd_iff_mod_eq_zero]
    exact (imp_iff_right hsmall).symm
  · refine iff_of_true (Dvd.dvd.mul_left (Nat.pow_dvd_pow 256 hlarge) word) ?_
    intro hsmall
    omega

/-- A mantissa is what its value leads with exactly if the size drops none of its digits. -/
theorem eq_leading_value_iff {size word : ℕ} :
    word = value size word * 256 ^ 3 / 256 ^ size ↔ 256 ^ 3 ∣ word * 256 ^ size := by
  have hpos : 0 < 256 ^ size := Nat.pow_pos (by omega)
  constructor
  · intro hleading
    have hle : word * 256 ^ size ≤ value size word * 256 ^ 3 := by
      calc word * 256 ^ size
          = value size word * 256 ^ 3 / 256 ^ size * 256 ^ size := by rw [← hleading]
        _ ≤ value size word * 256 ^ 3 := Nat.div_mul_le_self _ _
    have hge : value size word * 256 ^ 3 ≤ word * 256 ^ size := Nat.div_mul_le_self _ _
    rw [← Nat.le_antisymm hge hle]
    exact Nat.dvd_mul_left _ _
  · intro hdvd
    rw [value, Nat.div_mul_cancel hdvd, Nat.mul_div_cancel _ hpos]

/-- Where no digit is dropped, the value needs its size exactly if the mantissa could not move to a
smaller one. -/
theorem pow_pred_le_value_iff {size word : ℕ} (hne : value size word ≠ 0)
    (hdvd : 256 ^ 3 ∣ word * 256 ^ size) :
    256 ^ (size - 1) ≤ 2 * value size word ↔ 0x8000 ≤ word := by
  have hexact : value size word * 256 ^ 3 = word * 256 ^ size := Nat.div_mul_cancel hdvd
  cases size with
  | zero =>
    rw [pow_zero, Nat.mul_one] at hexact
    rw [Nat.zero_sub, pow_zero]
    omega
  | succ size =>
    have hpos : 0 < 256 ^ size := Nat.pow_pos (by omega)
    have hscaled : 2 ^ 23 * (2 * value (size + 1) word) = word * 256 * 256 ^ size := by
      calc 2 ^ 23 * (2 * value (size + 1) word) = value (size + 1) word * 256 ^ 3 := by ring
        _ = word * 256 ^ (size + 1) := hexact
        _ = word * 256 * 256 ^ size := by ring
    calc 256 ^ size ≤ 2 * value (size + 1) word
        ↔ 2 ^ 23 * 256 ^ size ≤ 2 ^ 23 * (2 * value (size + 1) word) :=
          (Nat.mul_le_mul_left_iff (by omega)).symm
      _ ↔ 2 ^ 23 * 256 ^ size ≤ word * 256 * 256 ^ size := by rw [hscaled]
      _ ↔ 2 ^ 23 ≤ word * 256 := Nat.mul_le_mul_right_iff hpos
      _ ↔ 0x8000 ≤ word := by omega

/-! ## Words that come back -/

/-- The word of a representable target stands for this target. -/
theorem decode_encode_of_decode (h : decode bits = .ok target) :
    decode (encode target) = .ok target := by
  have hlt := lt_of_decode h
  rw [decode_encode hlt]
  exact congrArg _ (Nat.le_antisymm (truncate_le _ _) (le_truncate_encode hlt h le_rfl))

/-- The only word in normal form that stands for zero is zero. -/
theorem eq_zero_of_normal (h : decode bits = .ok 0) (hnormal : Normal bits) : bits = 0 := by
  refine hnormal.resolve_right ?_
  rintro ⟨-, hmantissa, hdigits⟩
  obtain ⟨-, hzero⟩ := decode_eq_ok_iff.mp h
  have hexact : value (sizeByte bits) (mantissa bits) * 256 ^ 3 =
      mantissa bits * 256 ^ sizeByte bits := Nat.div_mul_cancel (dvd_mul_pow_iff.mpr hdigits)
  have hpos : 0 < mantissa bits * 256 ^ sizeByte bits :=
    Nat.mul_pos (by omega) (Nat.pow_pos (by omega))
  rw [← hexact, ← hzero] at hpos
  omega

/-- A word comes back from its target exactly if it is in normal form. -/
theorem encode_eq_iff_normal (h : decode bits = .ok target) :
    encode target = bits ↔ Normal bits := by
  rcases eq_or_ne target 0 with rfl | hne
  · constructor
    · intro hzero
      exact .inl hzero.symm
    · intro hnormal
      exact (eq_zero_of_normal h hnormal).symm
  have hroom := two_mul_lt_of_decode h
  have hbits : bits ≠ 0 := by
    rintro rfl
    exact hne (Except.ok.inj h).symm
  rw [encode_eq_iff_fields hne (lt_of_decode h), and_iff_right hroom, Normal, or_iff_right hbits]
  obtain ⟨-, rfl⟩ := decode_eq_ok_iff.mp h
  -- whether digits are dropped comes first, the size is then a matter of the mantissa alone
  rw [eq_leading_value_iff, dvd_mul_pow_iff]
  refine and_congr_right fun _ => and_congr_left fun hdigits => ?_
  exact pow_pred_le_value_iff hne (dvd_mul_pow_iff.mpr hdigits)

/-- Among the words that have targets, those in normal form are the canonical ones. -/
theorem normal_iff_canonical (h : decode bits = .ok target) : Normal bits ↔ Canonical bits := by
  rw [← encode_eq_iff_normal h]
  constructor
  · intro hback
    exact ⟨target, lt_of_decode h, hback.symm⟩
  · intro hcanonical
    exact hcanonical.encode_of_decode h

/-- Encoding the target of a word gives the word back exactly if it is in normal form. Two words
that have targets stand for the same one exactly if these are encoded alike. So of the words that
stand for a target, if there are any, exactly one is in normal form. -/
theorem existsUnique_normal_word :
    (∀ bits target, decode bits = .ok target → (encode target = bits ↔ Normal bits)) ∧
    (∀ bits bits' target target', decode bits = .ok target → decode bits' = .ok target' →
      (decode bits = decode bits' ↔ encode target = encode target')) ∧
    ∀ target, Representable target → ∃! bits, Normal bits ∧ decode bits = .ok target := by
  refine ⟨fun bits target => encode_eq_iff_normal, ?_, ?_⟩
  · intro bits bits' target target' h h'
    constructor
    · intro hsame
      rw [h, h', Except.ok.injEq] at hsame
      rw [hsame]
    · intro hword
      rw [h, h', ← decode_encode_of_decode h, hword, decode_encode_of_decode h']
  · rintro target ⟨bits, h⟩
    have hword := decode_encode_of_decode h
    refine ⟨encode target, ⟨(encode_eq_iff_normal hword).mp rfl, hword⟩, ?_⟩
    rintro other ⟨hnormal, hother⟩
    exact ((encode_eq_iff_normal hother).mpr hnormal).symm

/-- Three words for `0x1234`: the first is in normal form, size two drops the lowest byte of the
second, and the third has a mantissa that could move to size two. A sign on a zero mantissa and a
mantissa that size zero drops stand for zero, and neither comes back. -/
theorem existsUnique_normal_word_of_aliases :
    encode 0x1234 = 0x02123400 ∧ ¬ Normal 0x02123456 ∧ ¬ Normal 0x03001234 ∧
    decode 0x02123456 = decode 0x03001234 ∧
    encode 0 ≠ 0x01800000 ∧ encode 0 ≠ 0x00123456 ∧
    ∃! bits, Normal bits ∧ decode bits = .ok 0x1234 := by
  obtain ⟨hback, halike, hunique⟩ := existsUnique_normal_word
  have hnormal : decode 0x02123400 = .ok 0x1234 := by decide
  have hdropped : decode 0x02123456 = .ok 0x1234 := by decide
  have hlarge : decode 0x03001234 = .ok 0x1234 := by decide
  have hsigned : decode 0x01800000 = .ok 0 := by decide
  have hnothing : decode 0x00123456 = .ok 0 := by decide
  refine ⟨(hback _ _ hnormal).mpr (by decide), by decide, by decide,
    (halike _ _ _ _ hdropped hlarge).mpr rfl, ?_, ?_, hunique _ ⟨_, hnormal⟩⟩
  · exact mt (hback _ _ hsigned).mp (by decide)
  · exact mt (hback _ _ hnothing).mp (by decide)

end DarkGravity.Compact
