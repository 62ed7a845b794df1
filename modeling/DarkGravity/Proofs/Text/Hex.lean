import DarkGravity.Hash
import Mathlib.Data.Nat.Notation

/-!
# Written digits are read back

A digit is a single byte of text, so bytes written as digits are read back two digits at a time. A
hash in display order goes through its bytes from last to first both ways (`ofDisplay_display`).
-/

namespace DarkGravity

namespace Hex

/-- A digit is encoded as one byte, its code. -/
theorem utf8EncodeChar_digit :
    ∀ n < 16, String.utf8EncodeChar (digit n) = [UInt8.ofNat (digit n).toNat] := by
  decide

/-- The byte of a digit has the value of the digit. -/
theorem value?_utf8_digit : ∀ n < 16, value? (UInt8.ofNat (digit n).toNat).toNat = some n := by
  decide

/-- The text of bytes, two digits for each. -/
theorem bytes_ofBytes_cons (b : UInt8) (rest : List UInt8) :
    Text.bytes (ofBytes (b :: rest)) =
      UInt8.ofNat (digit (b.toNat / 16)).toNat :: UInt8.ofNat (digit (b.toNat % 16)).toNat ::
        Text.bytes (ofBytes rest) := by
  have hhigh := utf8EncodeChar_digit (b.toNat / 16) (Nat.div_lt_of_lt_mul b.toNat_lt)
  have hlow := utf8EncodeChar_digit (b.toNat % 16) (Nat.mod_lt _ (by omega))
  simp only [Text.bytes, ofBytes, ofByte, String.toList_ofList, List.flatMap_cons,
    List.cons_append, List.nil_append, hhigh, hlow]

/-- Bytes written as digits are read back. -/
theorem decodePairs_ofBytes (position : ℕ) (bytes : List UInt8) :
    decodePairs position (Text.bytes (ofBytes bytes)) = .ok bytes := by
  induction bytes generalizing position with
  | nil => rfl
  | cons b rest ih =>
    have hhigh := value?_utf8_digit (b.toNat / 16) (Nat.div_lt_of_lt_mul b.toNat_lt)
    have hlow := value?_utf8_digit (b.toNat % 16) (Nat.mod_lt _ (by omega))
    rw [bytes_ofBytes_cons, decodePairs]
    simp only [hhigh, hlow, ih, Nat.div_add_mod, UInt8.ofNat_toNat]
    rfl

/-- A text whose digits name `n` bytes is read as these bytes. -/
theorem decodeExactly_of_decodePairs {n : ℕ} {text : String} {bytes : List UInt8}
    (h : decodePairs 0 (Text.bytes text) = .ok bytes) (hlength : bytes.length = n) :
    decodeExactly n text = .ok ⟨bytes, hlength⟩ := by
  have hdigits : (Text.bytes text).length = 2 * n := hlength ▸ length_of_decodePairs h
  have heven : ¬ (Text.bytes text).length % 2 = 1 := by omega
  simp only [decodeExactly]
  rw [if_neg heven, dif_pos hdigits]
  split
  · next bytes' h' =>
    obtain rfl : bytes = bytes' := Except.ok.inj (h.symm.trans h')
    rfl
  · next e h' =>
    rw [h] at h'
    cases h'

end Hex

/-- A displayed hash is read back. -/
theorem Hash.ofDisplay_display (h : Hash) : Hash.ofDisplay h.display = .ok h := by
  have hlength : h.bytes.reverse.length = 32 := by rw [List.length_reverse, h.length_bytes]
  rw [ofDisplay, display,
    Hex.decodeExactly_of_decodePairs (Hex.decodePairs_ofBytes 0 h.bytes.reverse) hlength]
  simp only [Except.map, List.reverse_reverse]

end DarkGravity
