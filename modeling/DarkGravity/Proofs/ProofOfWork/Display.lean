import DarkGravity.Header
import DarkGravity.Proofs.Compact.Rounding
import DarkGravity.Proofs.Text.Digits
import Mathlib.Data.String.Basic

/-!
# Displayed hashes as numbers

A hash is compared with a target as a number, and people compare it with the target as a text. Both
give the same answer. A hash in display order is the number in lower-case digits
(`Hash.writes_display`), and texts of digits of one length are ordered as the numbers that they
write (`Hex.Writes.le_iff_le`), so the work of a block is done exactly if its displayed hash is not
behind the target written with as many digits (`meetsTarget_iff_display_le`).
-/

namespace DarkGravity

namespace Hex

/-! ## Digits -/

/-- The number that digits give, most significant first, behind those of another number. -/
def numeralFrom (start : ℕ) (digits : List ℕ) : ℕ :=
  digits.foldl (fun number d => 16 * number + d) start

theorem numeralFrom_cons (start d : ℕ) (digits : List ℕ) :
    numeralFrom start (d :: digits) = numeralFrom (16 * start + d) digits := rfl

theorem numeralFrom_append (start : ℕ) (digits digits' : List ℕ) :
    numeralFrom start (digits ++ digits') = numeralFrom (numeralFrom start digits) digits' :=
  List.foldl_append

/-- Zeros in front do not count. -/
theorem numeralFrom_replicate_zero (n : ℕ) : numeralFrom 0 (List.replicate n 0) = 0 := by
  induction n with
  | zero => rfl
  | succ n ih => rw [List.replicate_succ, numeralFrom_cons, ih]

/-- Digits are in the order of their values. -/
theorem digit_lt_digit_iff : ∀ m < 16, ∀ n < 16, digit m < digit n ↔ m < n := by
  decide

theorem digit_eq_digit_iff : ∀ m < 16, ∀ n < 16, digit m = digit n ↔ m = n := by
  decide

theorem digitChar_eq_digit : ∀ n < 16, n.digitChar = digit n := by
  decide

theorem isDigit_digit : ∀ n < 16, IsDigit (digit n) ∧ (digit n).toLower = digit n := by
  decide

/-- Of two numbers with as many digits the one with the smaller digits, compared from the left, is
smaller. The digits in front of both, which count more, are compared first. -/
theorem numeralFrom_lt_iff {digits digits' : List ℕ} (hlength : digits.length = digits'.length)
    (hdigits : ∀ d ∈ digits, d < 16) (hdigits' : ∀ d ∈ digits', d < 16) (m n : ℕ) :
    numeralFrom m digits < numeralFrom n digits' ↔
      m < n ∨ m = n ∧ digits.map digit < digits'.map digit := by
  induction digits generalizing digits' m n with
  | nil =>
    obtain rfl := List.eq_nil_of_length_eq_zero hlength.symm
    simp [numeralFrom]
  | cons d digits ih =>
    obtain ⟨d', digits', rfl⟩ := List.exists_cons_of_length_eq_add_one hlength.symm
    obtain ⟨hd, hdigits⟩ := List.forall_mem_cons.mp hdigits
    obtain ⟨hd', hdigits'⟩ := List.forall_mem_cons.mp hdigits'
    rw [numeralFrom_cons, numeralFrom_cons, ih (Nat.succ.inj hlength) hdigits hdigits',
      List.map_cons, List.map_cons, List.cons_lt_cons_iff, digit_lt_digit_iff d hd d' hd',
      digit_eq_digit_iff d hd d' hd']
    have hless : 16 * m + d < 16 * n + d' ↔ m < n ∨ m = n ∧ d < d' := by omega
    have hequal : 16 * m + d = 16 * n + d' ↔ m = n ∧ d = d' := by omega
    rw [hless, hequal, or_assoc, and_assoc, ← and_or_left]

/-! ## Texts -/

/-- The text writes a number with `width` lower-case digits. -/
def Writes (width : ℕ) (text : String) (number : ℕ) : Prop :=
  ∃ digits : List ℕ, digits.length = width ∧ (∀ d ∈ digits, d < 16) ∧
    text = String.ofList (digits.map digit) ∧ numeralFrom 0 digits = number

section

variable {width number number' : ℕ} {text text' : String}

/-- Such a text consists of as many digits and is in lower case. -/
theorem Writes.spells {n : ℕ} (h : Writes (2 * n) text number) :
    Spells n text ∧ text.toLower = text := by
  obtain ⟨digits, hlength, hsmall, rfl, -⟩ := h
  refine ⟨⟨by simp [hlength], ?_⟩, ?_⟩
  · simp only [String.toList_ofList, List.forall_mem_map]
    exact fun d hd => (isDigit_digit d (hsmall d hd)).1
  · rw [← String.toList_inj, Text.toList_toLower, String.toList_ofList, List.map_map]
    exact List.map_congr_left fun d hd => (isDigit_digit d (hsmall d hd)).2

/-- It is read as the number. -/
theorem Writes.toNat?_eq (h : Writes width text number) : toNat? text = some number := by
  obtain ⟨digits, -, hsmall, rfl, rfl⟩ := h
  have hread : ∀ start, (digits.map digit).foldlM
      (fun n c => (value? c.toNat).map (16 * n + ·)) start = some (numeralFrom start digits) := by
    induction digits with
    | nil => exact fun start => rfl
    | cons d digits ih =>
      intro start
      obtain ⟨hd, hsmall⟩ := List.forall_mem_cons.mp hsmall
      rw [List.map_cons, List.foldlM_cons, value?_digit d hd]
      exact ih hsmall _
  rw [toNat?, String.toList_ofList, hread]

/-- Texts with as many digits are in the order of their numbers. -/
theorem Writes.le_iff_le (h : Writes width text number) (h' : Writes width text' number') :
    text ≤ text' ↔ number ≤ number' := by
  obtain ⟨digits, hlength, hsmall, rfl, rfl⟩ := h
  obtain ⟨digits', hlength', hsmall', rfl, rfl⟩ := h'
  rw [← not_lt, ← not_lt, numeralFrom_lt_iff (hlength'.trans hlength.symm) hsmall' hsmall,
    String.lt_iff_toList_lt, String.toList_ofList, String.toList_ofList]
  simp

/-- The digits of a number give the number. -/
theorem exists_digits (number : ℕ) :
    ∃ digits : List ℕ, Nat.toDigits 16 number = digits.map digit ∧ (∀ d ∈ digits, d < 16) ∧
      numeralFrom 0 digits = number := by
  induction number using Nat.strongRecOn with
  | ind number ih =>
    rcases Nat.lt_or_ge number 16 with hone | hmore
    · refine ⟨[number], ?_, by simpa using hone, ?_⟩
      · rw [Nat.toDigits_of_lt_base hone, digitChar_eq_digit number hone]
        rfl
      · simp [numeralFrom]
    · obtain ⟨digits, hdigits, hsmall, hnumber⟩ := ih (number / 16) (by omega)
      have hlast : number % 16 < 16 := Nat.mod_lt _ (by omega)
      refine ⟨digits ++ [number % 16], ?_, ?_, ?_⟩
      · rw [Nat.toDigits_of_base_le (by omega) hmore, hdigits, digitChar_eq_digit _ hlast,
          List.map_append, List.map_singleton]
      · intro d hd
        rcases List.mem_append.mp hd with hd | hd
        · exact hsmall d hd
        · rwa [List.mem_singleton.mp hd]
      · rw [numeralFrom_append, hnumber]
        exact Nat.div_add_mod number 16

/-- A number is written behind zeros, if its own digits are not too many. -/
theorem writes_ofNatPadded (hwidth : 0 < width) (h : number < 16 ^ width) :
    Writes width (ofNatPadded width number) number := by
  obtain ⟨digits, hdigits, hsmall, hnumber⟩ := exists_digits number
  have hlength : digits.length ≤ width := by
    rw [← List.length_map (f := digit), ← hdigits]
    exact (Nat.length_toDigits_le_iff (by omega) hwidth).mpr h
  refine ⟨List.replicate (width - digits.length) 0 ++ digits, ?_, ?_, ?_, ?_⟩
  · rw [List.length_append, List.length_replicate]
    omega
  · intro d hd
    rcases List.mem_append.mp hd with hd | hd
    · rw [List.eq_of_mem_replicate hd]
      omega
    · exact hsmall d hd
  · rw [ofNatPadded, hdigits, List.length_map, List.map_append, List.map_replicate]
    rfl
  · rw [numeralFrom_append, numeralFrom_replicate_zero, hnumber]

/-- Bytes from last to first are written as the number that they give least significant first. -/
theorem writes_ofBytes_reverse (bytes : List UInt8) :
    Writes (2 * bytes.length) (ofBytes bytes.reverse) (Bytes.toNat bytes) := by
  induction bytes with
  | nil => exact ⟨[], rfl, by simp, rfl, rfl⟩
  | cons b rest ih =>
    obtain ⟨digits, hlength, hsmall, htext, hnumber⟩ := ih
    have hb : b.toNat < 256 := b.toNat_lt
    refine ⟨digits ++ [b.toNat / 16, b.toNat % 16], ?_, ?_, ?_, ?_⟩
    · simp [hlength]
      omega
    · intro d hd
      rcases List.mem_append.mp hd with hd | hd
      · exact hsmall d hd
      · simp only [List.mem_cons, List.not_mem_nil, or_false] at hd
        omega
    · rw [ofBytes, String.ofList_inj] at htext
      rw [ofBytes, String.ofList_inj, List.reverse_cons, List.flatMap_append, htext,
        List.map_append]
      rfl
    · rw [numeralFrom_append, hnumber, Bytes.toNat]
      simp only [numeralFrom, List.foldl_cons, List.foldl_nil]
      omega

end

end Hex

/-! ## Hashes and targets -/

/-- A displayed hash is written as the number of the hash. -/
theorem Hash.writes_display (hash : Hash) : Hex.Writes 64 hash.display hash.toNat := by
  have hwritten := Hex.writes_ofBytes_reverse hash.bytes
  rwa [hash.length_bytes] at hwritten

/-- A target has at most as many digits as a hash. -/
theorem Compact.writes_of_decode {bits : UInt32} {target : Target}
    (h : Compact.decode bits = .ok target) :
    Hex.Writes 64 (Hex.ofNatPadded 64 target) target := by
  refine Hex.writes_ofNatPadded (by omega) ?_
  calc target < 2 ^ 256 := Compact.lt_of_decode h
    _ = 16 ^ 64 := by norm_num

/-- A displayed hash is read back, and exactly the texts that spell 32 bytes name a hash, namely the
one that is displayed as the text in lower case. The displayed hash, read as a number with the most
significant digit first, is what a target bounds. Written with 64 digits in lower case, the target
is not before the displayed hash exactly where it is not below this number. -/
theorem meetsTarget_iff_display_le (hash : Hash) :
    Hash.ofDisplay hash.display = .ok hash ∧
    (∀ text, Hash.ofDisplay text = .ok hash ↔
      Hex.Spells 32 text ∧ hash.display = text.toLower) ∧
    ∃ number, Hex.toNat? hash.display = some number ∧
      ∀ (bits : UInt32) (target : Target), Compact.decode bits = .ok target →
        let written := Hex.ofNatPadded 64 target
        (hash.meetsTarget bits = .ok true ↔ number ≤ target) ∧
        (hash.meetsTarget bits = .ok true ↔ hash.display ≤ written) ∧
        Hex.Spells 32 written ∧ written.toLower = written ∧ Hex.toNat? written = some target := by
  refine ⟨Hash.ofDisplay_display hash, fun text => Hash.ofDisplay_eq_ok_iff, hash.toNat,
    hash.writes_display.toNat?_eq, ?_⟩
  intro bits target hdecode written
  have hwritten : Hex.Writes 64 written target := Compact.writes_of_decode hdecode
  have hmeets : hash.meetsTarget bits = .ok true ↔ hash.toNat ≤ target := by
    rw [Hash.meetsTarget, hdecode]
    simp [Except.map]
  obtain ⟨hspells, hlower⟩ := hwritten.spells (n := 32)
  refine ⟨hmeets, ?_, hspells, hlower, hwritten.toNat?_eq⟩
  rw [hmeets, hash.writes_display.le_iff_le hwritten]

/-- The greatest hash that this word admits is displayed as its target is written. The next
hash differs from it in the first stored byte, which is the last one displayed. -/
theorem meetsTarget_iff_display_le_of_greatest :
    let bits : UInt32 := 0x207fffff
    let written := Hex.ofNatPadded 64 (0x7fffff * Bytes.weight 29)
    let hash (low : UInt8) : Hash := ⟨low :: List.replicate 28 0 ++ [0xff, 0xff, 0x7f], rfl⟩
    Compact.decode bits = .ok (0x7fffff * Bytes.weight 29) ∧
    (hash 0).meetsTarget bits = .ok true ∧ (hash 0).display ≤ written ∧
    (hash 1).meetsTarget bits ≠ .ok true ∧ ¬ (hash 1).display ≤ written := by
  intro bits written hash
  have hdecode : Compact.decode bits = .ok (0x7fffff * Bytes.weight 29) := by decide
  have hmeets : (hash 0).meetsTarget bits = .ok true := by decide
  have hfails : (hash 1).meetsTarget bits ≠ .ok true := by decide
  obtain ⟨-, -, number, -, htargets⟩ := meetsTarget_iff_display_le (hash 0)
  obtain ⟨-, -, number', -, htargets'⟩ := meetsTarget_iff_display_le (hash 1)
  obtain ⟨-, hordered, -⟩ := htargets bits _ hdecode
  obtain ⟨-, hordered', -⟩ := htargets' bits _ hdecode
  exact ⟨hdecode, hmeets, hordered.mp hmeets, hfails, mt hordered'.mpr hfails⟩

end DarkGravity
