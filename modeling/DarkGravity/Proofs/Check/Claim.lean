import DarkGravity.Proofs.Check.Acceptance

/-!
# What a claim can reach

A claim chooses the window through which the required target is seen, by its size byte. Whatever it
chooses, it passes only with the bits of the required target inside this window and no others
(`checkClaim_eq_ok_iff_testBit`). So a claim can only lose bits: its target is never easier than the
required one or the ceiling, and of all words with one size byte only those of one target can pass
(`checkClaim_never_easier`). This is a fact about all words and all numbers, whether they fit 256
bits or not.
-/

namespace DarkGravity

section

variable {ceiling calculated target : Target} {claimed other : UInt32}

/-- A claim is accepted exactly when its target has the bits of the required one inside the window
of the claimed word, and no others. -/
theorem checkClaim_eq_ok_iff_testBit :
    (checkClaim ceiling calculated claimed).outcome = .ok () ↔
      ∃ target, Compact.decode claimed = .ok target ∧
        ∀ place, target.testBit place =
          (decide (Compact.InWindow claimed place) && (min ceiling calculated).testBit place) := by
  rw [checkClaim_eq_ok_iff, min_comm]
  constructor
  · intro hclaim
    exact ⟨_, hclaim, Compact.testBit_truncate _ _⟩
  · rintro ⟨target, htarget, hbits⟩
    have hmasked : target = Compact.truncate (min ceiling calculated) claimed := by
      refine Nat.eq_of_testBit_eq fun place => ?_
      rw [hbits, Compact.testBit_truncate]
    rw [htarget, hmasked]

/-- An accepted claim has at most the required target below the ceiling. -/
theorem le_of_checkClaim (h : (checkClaim ceiling calculated claimed).outcome = .ok ())
    (htarget : Compact.decode claimed = .ok target) : target ≤ min ceiling calculated := by
  rw [checkClaim_eq_ok_iff, htarget, Except.ok.injEq] at h
  rw [h, min_comm]
  exact Compact.truncate_le _ _

/-- Two accepted claims with one size byte claim one target. -/
theorem decode_eq_of_checkClaim (h : (checkClaim ceiling calculated claimed).outcome = .ok ())
    (h' : (checkClaim ceiling calculated other).outcome = .ok ())
    (hsize : Compact.sizeByte other = Compact.sizeByte claimed) :
    Compact.decode other = Compact.decode claimed := by
  rw [checkClaim_eq_ok_iff] at h h'
  rw [h, h', Compact.truncate_congr _ hsize]

end

/-- Of the words with one size byte only those of one target pass, if any do, and this target has
the bits of the required one below the ceiling inside the window of the size byte, and no others.
So whatever size byte a claim chooses, an easier target than the required one or the ceiling never
passes. -/
theorem checkClaim_never_easier (ceiling calculated : Target) :
    (∀ claimed, (checkClaim ceiling calculated claimed).outcome = .ok () ↔
      ∃ target, Compact.decode claimed = .ok target ∧
        ∀ place, target.testBit place = (decide (Compact.InWindow claimed place) &&
          (min ceiling calculated).testBit place)) ∧
    (∀ claimed target, (checkClaim ceiling calculated claimed).outcome = .ok () →
      Compact.decode claimed = .ok target → target ≤ ceiling ∧ target ≤ calculated) ∧
    ∀ claimed other, Compact.sizeByte other = Compact.sizeByte claimed →
      (checkClaim ceiling calculated claimed).outcome = .ok () →
      (checkClaim ceiling calculated other).outcome = .ok () →
      Compact.decode other = Compact.decode claimed := by
  refine ⟨fun claimed => checkClaim_eq_ok_iff_testBit, ?_, ?_⟩
  · intro claimed target hclaimed htarget
    exact le_min_iff.mp (le_of_checkClaim hclaimed htarget)
  · intro claimed other hsize hclaimed hother
    exact decode_eq_of_checkClaim hclaimed hother hsize

/-- Size byte two sees only the two lowest bytes of the required target, under two words with a
different third byte. Size byte four sees the bytes above the lowest, and one more of its units is
refused. -/
theorem checkClaim_never_easier_of_windows :
    let ceiling : Target := 0xfffff * Bytes.weight 27
    (checkClaim ceiling 0x991234 0x02123456).outcome = .ok () ∧
    (checkClaim ceiling 0x991234 0x021234ff).outcome = .ok () ∧
    Compact.decode 0x021234ff = Compact.decode 0x02123456 ∧
    (checkClaim ceiling 0x991234 0x04009912).outcome = .ok () ∧
    (checkClaim ceiling 0x991234 0x04009913).outcome ≠ .ok () := by
  intro ceiling
  obtain ⟨hiff, hle, hunique⟩ := checkClaim_never_easier ceiling 0x991234
  have hlow : (checkClaim ceiling 0x991234 0x02123456).outcome = .ok () := by decide +kernel
  have hlow' : (checkClaim ceiling 0x991234 0x021234ff).outcome = .ok () := by decide +kernel
  have hmasked : Compact.truncate (min ceiling 0x991234) 0x04009912 = 0x991200 := by decide
  have hhigh : (checkClaim ceiling 0x991234 0x04009912).outcome = .ok () := by
    refine (hiff _).mpr ⟨0x991200, by decide, fun place => ?_⟩
    rw [← hmasked, Compact.testBit_truncate]
  refine ⟨hlow, hlow', hunique _ _ (by decide) hlow hlow', hhigh, fun hmore => ?_⟩
  exact absurd (hle _ 0x991300 hmore (by decide)).2 (by decide)

end DarkGravity
