import DarkGravity.Proofs.Text.Hex
import Mathlib.Data.List.Basic
import Mathlib.Tactic.SplitIfs

/-!
# Which texts spell bytes

`decodeExactly` looks at a text byte by byte of its encoding. A character outside ASCII is encoded
by bytes that are no digits, so the texts that are read are those whose characters are digits, of
either case and twice as many as the bytes (`Hex.Spells`). Writing the bytes that were read gives
such a text back in lower case, and no other bytes are written so (`Hex.decodeExactly_eq_ok_iff`).
-/

namespace DarkGravity

/-! ## Characters -/

namespace Text

/-- A text is put in lower case character by character. -/
theorem toList_toLower (text : String) : text.toLower.toList = text.toList.map Char.toLower :=
  String.toList_map

/-- A character of ASCII is encoded as one byte, its code. -/
theorem utf8EncodeChar_of_lt {c : Char} (h : c.toNat < 128) :
    String.utf8EncodeChar c = [UInt8.ofNat c.toNat] := by
  have hcode : c.val.toNat ≤ 0x7f := Nat.le_of_lt_succ h
  simp only [String.utf8EncodeChar, if_pos hcode]
  rfl

/-- Every byte of another character lies outside ASCII. -/
theorem le_of_mem_utf8EncodeChar {c : Char} (h : 128 ≤ c.toNat) :
    ∀ b ∈ String.utf8EncodeChar c, 128 ≤ b.toNat := by
  have hcode : ¬ c.val.toNat ≤ 0x7f := Nat.not_le.mpr h
  simp only [String.utf8EncodeChar, if_neg hcode]
  split_ifs <;> simp <;> omega

end Text

namespace Hex

/-! ## Digits -/

/-- A digit of either case. -/
def IsDigit (c : Char) : Prop :=
  ('0' ≤ c ∧ c ≤ '9') ∨ ('a' ≤ c ∧ c ≤ 'f') ∨ ('A' ≤ c ∧ c ≤ 'F')

instance (c : Char) : Decidable (IsDigit c) :=
  inferInstanceAs (Decidable (_ ∨ _))

/-- The characters that have a value are the digits. -/
theorem isSome_value?_iff {c : Char} : (value? c.toNat).isSome ↔ IsDigit c := by
  have hle : ∀ a b : Char, a ≤ b ↔ a.toNat ≤ b.toNat := fun _ _ => Iff.rfl
  simp only [IsDigit, hle, value?, Char.reduceToNat, Bool.and_eq_true, decide_eq_true_eq]
  split_ifs <;> simp <;> omega

theorem IsDigit.lt {c : Char} (h : IsDigit c) : c.toNat < 128 := by
  have hle : ∀ a b : Char, a ≤ b ↔ a.toNat ≤ b.toNat := fun _ _ => Iff.rfl
  simp only [IsDigit, hle, Char.reduceToNat] at h
  omega

theorem lt_of_value? {code n : ℕ} (h : value? code = some n) : code < 128 := by
  rw [value?] at h
  split_ifs at h with hdecimal hlower hupper <;>
    simp only [Bool.and_eq_true, decide_eq_true_eq] at * <;> omega

theorem digit_of_value?_of_lt :
    ∀ code < 128, ∀ n, value? code = some n → n < 16 ∧ digit n = (Char.ofNat code).toLower := by
  decide

/-- A value is below 16, and its digit is the one that was read, in lower case. -/
theorem digit_of_value? {code n : ℕ} (h : value? code = some n) :
    n < 16 ∧ digit n = (Char.ofNat code).toLower :=
  digit_of_value?_of_lt code (lt_of_value? h) n h

/-- The digits of a byte are those of its two halves. -/
theorem ofByte_of_lt {high low : ℕ} (hhigh : high < 16) (hlow : low < 16) :
    ofByte (UInt8.ofNat (16 * high + low)) = [digit high, digit low] := by
  have hvalue : (UInt8.ofNat (16 * high + low)).toNat = 16 * high + low := by
    rw [UInt8.toNat_ofNat']
    omega
  have hdiv : (16 * high + low) / 16 = high := by omega
  have hmod : (16 * high + low) % 16 = low := by omega
  rw [ofByte, hvalue, hdiv, hmod]

/-! ## Pairs of digits -/

/-- What is read consists of digits, and the bytes are written by the same digits in lower case. -/
theorem spelled_of_decodePairs {position : ℕ} {text bytes : List UInt8}
    (h : decodePairs position text = .ok bytes) :
    (∀ b ∈ text, (value? b.toNat).isSome) ∧
      bytes.flatMap ofByte = text.map fun b => (Char.ofNat b.toNat).toLower := by
  fun_induction decodePairs position text generalizing bytes with
  | case1 => cases h; simp
  | case2 => cases h
  | case3 => cases h
  | case4 => cases h
  | case5 position hi lo rest high hhigh low hlow ih =>
    cases hrest : decodePairs (position + 2) rest with
    | error e => rw [hrest] at h; cases h
    | ok bytes =>
      rw [hrest] at h
      cases h
      obtain ⟨hdigits, hwritten⟩ := ih hrest
      obtain ⟨hlt, hhi⟩ := digit_of_value? hhigh
      obtain ⟨hlt', hlo⟩ := digit_of_value? hlow
      refine ⟨?_, ?_⟩
      · simp only [List.forall_mem_cons, hhigh, hlow, Option.isSome_some, true_and]
        exact hdigits
      · simp only [List.flatMap_cons, ofByte_of_lt hlt hlt', hwritten, hhi, hlo, List.map_cons,
          List.cons_append, List.nil_append]

/-- An even number of digits is read. -/
theorem exists_decodePairs (position : ℕ) {text : List UInt8} (heven : text.length % 2 = 0)
    (hdigits : ∀ b ∈ text, (value? b.toNat).isSome) :
    ∃ bytes, decodePairs position text = .ok bytes := by
  fun_induction decodePairs position text with
  | case1 => exact ⟨[], rfl⟩
  | case2 => simp at heven
  | case3 position hi lo rest hnone => simp [hnone] at hdigits
  | case4 position hi lo rest high hhigh hnone => simp [hnone] at hdigits
  | case5 position hi lo rest high hhigh low hlow ih =>
    simp only [List.forall_mem_cons] at hdigits
    have heven' : rest.length % 2 = 0 := by
      simp only [List.length_cons] at heven
      omega
    obtain ⟨bytes, hbytes⟩ := ih heven' hdigits.2.2
    exact ⟨UInt8.ofNat (16 * high + low) :: bytes, by rw [hbytes]; rfl⟩

/-! ## Texts -/

/-- A text of the digits of `n` bytes, and of nothing else. -/
def Spells (n : ℕ) (text : String) : Prop :=
  text.length = 2 * n ∧ ∀ c ∈ text.toList, IsDigit c

instance (n : ℕ) (text : String) : Decidable (Spells n text) :=
  inferInstanceAs (Decidable (_ ∧ _))

/-- A text of digits is encoded digit by digit. -/
theorem bytes_of_isDigit {text : String} (h : ∀ c ∈ text.toList, IsDigit c) :
    Text.bytes text = text.toList.map fun c => UInt8.ofNat c.toNat := by
  rw [Text.bytes, List.map_eq_flatMap]
  exact List.flatMap_congr fun c hc => Text.utf8EncodeChar_of_lt (h c hc).lt

theorem toNat_ofNat_of_isDigit {c : Char} (h : IsDigit c) :
    (UInt8.ofNat c.toNat).toNat = c.toNat := by
  have hlt : c.toNat < 128 := h.lt
  rw [UInt8.toNat_ofNat']
  omega

/-- A text all of whose bytes are digits has no other characters: one outside ASCII would bring a
byte that is no digit. -/
theorem isDigit_of_bytes {text : String}
    (h : ∀ b ∈ Text.bytes text, (value? b.toNat).isSome) : ∀ c ∈ text.toList, IsDigit c := by
  intro c hc
  have hbytes : ∀ b ∈ String.utf8EncodeChar c, (value? b.toNat).isSome := fun b hb =>
    h b (List.mem_flatMap.mpr ⟨c, hc, hb⟩)
  by_cases hascii : c.toNat < 128
  · have hvalue := hbytes (UInt8.ofNat c.toNat) (by rw [Text.utf8EncodeChar_of_lt hascii]; simp)
    rw [UInt8.toNat_ofNat', Nat.mod_eq_of_lt (by omega)] at hvalue
    exact isSome_value?_iff.mp hvalue
  · have hsize : 0 < (String.utf8EncodeChar c).length := by
      rw [String.length_utf8EncodeChar]
      exact c.utf8Size_pos
    obtain ⟨b, hb⟩ := List.exists_mem_of_length_pos hsize
    obtain ⟨n, hn⟩ := Option.isSome_iff_exists.mp (hbytes b hb)
    have hhigh := Text.le_of_mem_utf8EncodeChar (Nat.not_lt.mp hascii) b hb
    exact absurd (lt_of_value? hn) (Nat.not_lt.mpr hhigh)

/-- A text spells `n` bytes exactly when its encoding is `2 * n` digits. -/
theorem spells_iff_bytes {n : ℕ} {text : String} :
    Spells n text ↔ (Text.bytes text).length = 2 * n ∧
      ∀ b ∈ Text.bytes text, (value? b.toNat).isSome := by
  constructor
  · rintro ⟨hlength, hdigits⟩
    rw [bytes_of_isDigit hdigits, List.length_map, String.length_toList]
    refine ⟨hlength, ?_⟩
    simp only [List.forall_mem_map]
    intro c hc
    rw [toNat_ofNat_of_isDigit (hdigits c hc)]
    exact isSome_value?_iff.mpr (hdigits c hc)
  · rintro ⟨hlength, hvalues⟩
    have hdigits := isDigit_of_bytes hvalues
    rw [bytes_of_isDigit hdigits, List.length_map, String.length_toList] at hlength
    exact ⟨hlength, hdigits⟩

/-- The bytes that were read are written as the text in lower case. -/
theorem ofBytes_of_decodePairs {text : String} {bytes : List UInt8}
    (h : decodePairs 0 (Text.bytes text) = .ok bytes) : ofBytes bytes = text.toLower := by
  obtain ⟨hvalues, hwritten⟩ := spelled_of_decodePairs h
  have hdigits := isDigit_of_bytes hvalues
  rw [← String.toList_inj, ofBytes, String.toList_ofList, hwritten, bytes_of_isDigit hdigits,
    List.map_map, Text.toList_toLower]
  refine List.map_congr_left fun c hc => ?_
  rw [Function.comp_apply, toNat_ofNat_of_isDigit (hdigits c hc), Char.ofNat_toNat]

/-- Different bytes are written differently. -/
theorem ofBytes_injective {bytes bytes' : List UInt8} (h : ofBytes bytes = ofBytes bytes') :
    bytes = bytes' := by
  have hread := decodePairs_ofBytes 0 bytes
  rw [h, decodePairs_ofBytes] at hread
  exact (Except.ok.inj hread).symm

/-- A text that is read spells the bytes, and they are written as the text in lower case. -/
theorem spells_of_decodeExactly {n : ℕ} {text : String}
    {bytes : { bytes : List UInt8 // bytes.length = n }} (h : decodeExactly n text = .ok bytes) :
    Spells n text ∧ ofBytes bytes.1 = text.toLower := by
  simp only [decodeExactly] at h
  split at h
  · cases h
  · split at h
    · next hlength =>
      split at h
      · next out hout =>
        obtain rfl := Except.ok.inj h
        exact ⟨spells_iff_bytes.mpr ⟨hlength, (spelled_of_decodePairs hout).1⟩,
          ofBytes_of_decodePairs hout⟩
      · cases h
    · cases h

theorem exists_decodeExactly {n : ℕ} {text : String} (h : Spells n text) :
    ∃ bytes, decodeExactly n text = .ok bytes := by
  obtain ⟨hlength, hvalues⟩ := spells_iff_bytes.mp h
  obtain ⟨bytes, hbytes⟩ := exists_decodePairs 0 (by omega) hvalues
  have hread : bytes.length = n := by
    have hpairs := length_of_decodePairs hbytes
    omega
  exact ⟨⟨bytes, hread⟩, decodeExactly_of_decodePairs hbytes hread⟩

/-- Exactly the texts that spell `n` bytes are read, and as the bytes that are written as the text
in lower case. -/
theorem decodeExactly_eq_ok_iff {n : ℕ} {text : String}
    {bytes : { bytes : List UInt8 // bytes.length = n }} :
    decodeExactly n text = .ok bytes ↔ Spells n text ∧ ofBytes bytes.1 = text.toLower := by
  refine ⟨spells_of_decodeExactly, ?_⟩
  rintro ⟨hspells, hwritten⟩
  obtain ⟨out, hout⟩ := exists_decodeExactly hspells
  have hwritten' : ofBytes out.1 = text.toLower := (spells_of_decodeExactly hout).2
  obtain rfl : out = bytes := Subtype.ext (ofBytes_injective (hwritten'.trans hwritten.symm))
  exact hout

end Hex

/-- Exactly the texts that spell 32 bytes name a hash, and it is displayed as the text in lower
case. -/
theorem Hash.ofDisplay_eq_ok_iff {text : String} {hash : Hash} :
    Hash.ofDisplay text = .ok hash ↔ Hex.Spells 32 text ∧ hash.display = text.toLower := by
  constructor
  · intro h
    cases hread : Hex.decodeExactly 32 text with
    | error e => simp [ofDisplay, hread, Except.map] at h
    | ok bytes =>
      rw [ofDisplay, hread] at h
      obtain rfl := Except.ok.inj h
      rw [display, List.reverse_reverse]
      exact Hex.decodeExactly_eq_ok_iff.mp hread
  · rintro ⟨hspells, hdisplay⟩
    have hlength : hash.bytes.reverse.length = 32 := by rw [List.length_reverse, hash.length_bytes]
    have hread : Hex.decodeExactly 32 text = .ok ⟨hash.bytes.reverse, hlength⟩ :=
      Hex.decodeExactly_eq_ok_iff.mpr ⟨hspells, hdisplay⟩
    rw [ofDisplay, hread]
    simp only [Except.map, List.reverse_reverse]

/-- Every text that spells 32 bytes names a hash. -/
theorem Hash.exists_ofDisplay {text : String} (h : Hex.Spells 32 text) :
    ∃ hash, Hash.ofDisplay text = .ok hash := by
  obtain ⟨bytes, hbytes⟩ := Hex.exists_decodeExactly h
  exact ⟨⟨bytes.1.reverse, by simp [bytes.2]⟩, by rw [ofDisplay, hbytes]; rfl⟩

end DarkGravity
