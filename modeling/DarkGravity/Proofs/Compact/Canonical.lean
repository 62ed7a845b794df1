import DarkGravity.Proofs.Compact.BestApproximation

/-!
# Canonical words

Several words may stand for one target, but encoding gives only one of them, the canonical one. So
there are two ways to compare a claimed word with a target that is masked by it: as words or as
targets. They differ by canonicity alone (`encode_truncate_eq_iff`).
-/

namespace DarkGravity.Compact

variable {bits : UInt32} {target : ℕ}

/-- The word is that of some target that fits 256 bits. -/
def Canonical (bits : UInt32) : Prop := ∃ target < 2 ^ 256, bits = encode target

/-- The word of the target of a canonical word is this word. -/
theorem Canonical.encode_of_decode (h : Canonical bits) (hdecode : decode bits = .ok target) :
    encode target = bits := by
  obtain ⟨origin, hlt, rfl⟩ := h
  rw [decode_encode hlt, Except.ok.injEq] at hdecode
  rw [← hdecode, encode_truncate_encode hlt]

/-- What is left of a target under a mask is below the end of its window. -/
theorem truncate_lt_pow (target : ℕ) (bits : UInt32) :
    truncate target bits < 256 ^ sizeByte bits := by
  rw [truncate_eq]
  exact (Nat.div_mul_le_self _ _).trans_lt (Nat.mod_lt _ (Nat.pow_pos (by omega)))

/-- Masking twice is masking once. -/
theorem truncate_truncate (target : ℕ) (bits : UInt32) :
    truncate (truncate target bits) bits = truncate target bits := by
  have hmultiple : truncate target bits / unit (sizeByte bits) * unit (sizeByte bits) =
      truncate target bits := by
    rw [truncate_eq, Nat.mul_div_cancel _ (unit_pos _)]
  rw [truncate_eq (truncate target bits), Nat.mod_eq_of_lt (truncate_lt_pow target bits),
    hmultiple]

/-- A target under the mask of a claimed word has this word exactly if the claim stands for it and
is canonical. -/
theorem encode_truncate_eq_iff (hlt : target < 2 ^ 256) :
    encode (truncate target bits) = bits ↔
      decode bits = .ok (truncate target bits) ∧ Canonical bits := by
  constructor
  · intro hword
    have hmasked : truncate target bits < 2 ^ 256 := (truncate_le _ _).trans_lt hlt
    have hdecode := decode_encode hmasked
    -- the word of the masked target is the mask itself, so nothing more is lost
    rw [hword, truncate_truncate] at hdecode
    exact ⟨hdecode, truncate target bits, hmasked, hword.symm⟩
  · rintro ⟨hdecode, hcanonical⟩
    exact hcanonical.encode_of_decode hdecode

end DarkGravity.Compact
