import DarkGravity.Proofs.Check.Acceptance
import DarkGravity.Proofs.Compact.Canonical

/-!
# Transitions of the interval rule

At a transition the interval rule compares words, while the other ways of checking compare targets.
As long as times fit signed numbers, the target of the next period is a plain quotient
(`nextPeriodTarget_eq`), and comparing words with it accepts the canonical words among those that
comparing targets accepts (`checkInterval_eq_ok_iff_canonical`).
-/

namespace DarkGravity

/-! ## The time of a period -/

/-- The times of a period fit signed 64-bit numbers, and so does four times the expected one. -/
structure Params.TimesFit (p : Params) (first last : Block) : Prop where
  timespan : 4 * p.timespan.toNat < 2 ^ 63
  first : first.timestamp.toNat < 2 ^ 63
  last : last.timestamp.toNat < 2 ^ 63

/-- The seconds from the first to the last block of a period, at least a quarter of the expected
ones and at most four times as many. -/
def Params.boundedTime (p : Params) (first last : Block) : ℕ :=
  max (p.timespan.toNat / 4)
    (min (last.timestamp.toNat - first.timestamp.toNat) (4 * p.timespan.toNat))

/-- The old target times the time of the period over the expected one. -/
def Params.scaledTarget (p : Params) (target : Target) (first last : Block) : Target :=
  target * p.boundedTime first last / p.timespan.toNat

/-- The clamped time of numbers that are not negative. Time that runs backward is below every
bound, so it may as well be zero. -/
theorem clampPeriod_eq (later earlier expected : ℕ) :
    clampPeriod ((later : ℤ) - earlier) expected =
      (max (expected / 4) (min (later - earlier) (4 * expected)) : ℕ) := by
  have hquarter : (expected : ℤ).tdiv 4 = (expected / 4 : ℕ) := (Int.ofNat_tdiv expected 4).symm
  simp only [clampPeriod, hquarter]
  split_ifs <;> omega

section

variable {p : Params} {first last : Block} {target : Target}

/-- Nothing wraps around where times fit. -/
theorem periodTime_eq (h : p.TimesFit first last) :
    periodTime p first last = p.boundedTime first last := by
  obtain ⟨htimespan, hfirst, hlast⟩ := h
  have hsize : UInt64.size = 2 ^ 64 := rfl
  rw [periodTime, signed_of_lt (by omega), signed_of_lt (by omega), signed_of_lt (by omega),
    clampPeriod_eq]
  rfl

theorem nextPeriodTarget_eq (h : p.TimesFit first last) :
    nextPeriodTarget p target (periodTime p first last) = p.scaledTarget target first last := by
  have hsmall : p.boundedTime first last < 2 ^ 64 := by
    have htimespan := h.timespan
    unfold Params.boundedTime
    omega
  have hunsigned : (UInt64.ofInt (p.boundedTime first last)).toNat = p.boundedTime first last := by
    rw [UInt64.ofInt, UInt64.toNat_ofNat']
    omega
  rw [periodTime_eq h, nextPeriodTarget, hunsigned]
  rfl

end

/-! ## Periods -/

/-- The last block ends a period of the interval rule, and the walk to the first block of it
succeeds. -/
structure Lookup.SpansPeriod (lookup : Lookup) (p : Params) (first last : Block) : Prop where
  transition : isTransition p.periodLength last.height = true
  found : (ancestor lookup (p.periodLength - 1) last).outcome = .ok first
  boundary : first.height.toNat % p.periodLength = 0

section

variable {p : Params} {lookup : Lookup} {first previous : Block} {claimed : UInt32}

/-- An error on the way back is the error of the check. -/
theorem outcome_checkInterval_of_error {e : CheckError}
    (htransition : isTransition p.periodLength previous.height = true)
    (h : (ancestor lookup (p.periodLength - 1) previous).outcome = .error e) :
    (checkInterval p previous claimed lookup).outcome = .error e := by
  rw [checkInterval_of_transition htransition, h]
  rfl

/-- A way back that does not end at the boundary of a period is one as well. -/
theorem outcome_checkInterval_of_not_boundary
    (htransition : isTransition p.periodLength previous.height = true)
    (h : (ancestor lookup (p.periodLength - 1) previous).outcome = .ok first)
    (hboundary : first.height.toNat % p.periodLength ≠ 0) :
    (checkInterval p previous claimed lookup).outcome =
      .error (.chainInconsistent previous.height first.height) := by
  rw [checkInterval_of_transition htransition, h]
  exact if_pos hboundary

/-- On a whole period only the comparison at its end counts. -/
theorem outcome_checkInterval_of_spansPeriod (h : lookup.SpansPeriod p first previous) :
    (checkInterval p previous claimed lookup).outcome =
      (checkTransition p first previous claimed).outcome := by
  rw [checkInterval_of_transition h.transition, h.found]
  exact if_neg (not_not_intro h.boundary)

/-- Exactly the word of the next target passes, where the target is brought down to the ceiling and
masked by the claimed word. -/
theorem checkInterval_eq_ok_iff_of_spansPeriod {ceiling target : Target}
    (hceiling : Compact.decode p.ceilingBits = .ok ceiling)
    (hperiod : lookup.SpansPeriod p first previous) (hfits : p.TimesFit first previous)
    (htarget : Compact.decode previous.bits = .ok target) :
    (checkInterval p previous claimed lookup).outcome = .ok () ↔
      Compact.encode (Compact.truncate
        (min (p.scaledTarget target first previous) ceiling) claimed) = claimed := by
  rw [outcome_checkInterval_of_spansPeriod hperiod, checkTransition_eq_ok_iff hceiling, htarget]
  constructor
  · rintro ⟨target', htarget', hword⟩
    obtain rfl := Except.ok.inj htarget'
    rwa [nextPeriodTarget_eq hfits] at hword
  · intro hword
    refine ⟨target, rfl, ?_⟩
    rwa [nextPeriodTarget_eq hfits]

/-- So the word of the next target passes. -/
theorem checkInterval_encode_of_spansPeriod {ceiling target : Target}
    (hceiling : Compact.decode p.ceilingBits = .ok ceiling)
    (hperiod : lookup.SpansPeriod p first previous) (hfits : p.TimesFit first previous)
    (htarget : Compact.decode previous.bits = .ok target) :
    (checkInterval p previous
      (Compact.encode (min (p.scaledTarget target first previous) ceiling)) lookup).outcome =
      .ok () := by
  rw [checkInterval_eq_ok_iff_of_spansPeriod hceiling hperiod hfits htarget]
  apply Compact.encode_truncate_encode
  exact (min_le_right _ _).trans_lt (Compact.lt_of_decode hceiling)

end

/-! ## Words and targets -/

/-- At the end of a whole period a claim passes exactly if it is accepted against the target of the
next period and is canonical. Its target is then the next one, brought down to the ceiling and
masked by the claim, so it is neither above the ceiling nor above the next target. -/
theorem checkInterval_eq_ok_iff_canonical {v : Verifier} {lookup : Lookup} {first previous : Block}
    {target : Target} (hperiod : lookup.SpansPeriod v.params first previous)
    (hfits : v.params.TimesFit first previous)
    (htarget : Compact.decode previous.bits = .ok target) (claimed : UInt32) :
    let next := v.params.scaledTarget target first previous
    let masked := Compact.truncate (min next v.ceiling) claimed
    ((checkInterval v.params previous claimed lookup).outcome = .ok () ↔
      (checkClaim v.ceiling next claimed).outcome = .ok () ∧ Compact.Canonical claimed) ∧
    ((checkInterval v.params previous claimed lookup).outcome = .ok () →
      Compact.decode claimed = .ok masked ∧ masked ≤ v.ceiling ∧ masked ≤ next) := by
  intro next masked
  have hiff : (checkInterval v.params previous claimed lookup).outcome = .ok () ↔
      Compact.decode claimed = .ok masked ∧ Compact.Canonical claimed := by
    rw [checkInterval_eq_ok_iff_of_spansPeriod v.decode_ceilingBits hperiod hfits htarget]
    exact Compact.encode_truncate_eq_iff (v.min_ceiling_lt next)
  have hmasked : masked ≤ min next v.ceiling := Compact.truncate_le _ _
  constructor
  · rw [hiff, checkClaim_eq_ok_iff]
  · intro hpasses
    exact ⟨(hiff.mp hpasses).1, hmasked.trans (min_le_right _ _), hmasked.trans (min_le_left _ _)⟩

/-- After a period that took five times as long as it should, the target is four times the old one.
Its word passes. A word with the next size byte is as good a claim but not canonical, and is
refused. -/
theorem checkInterval_eq_ok_iff_canonical_of_slow :
    let params : Params := { Params.mainnet with rule := .interval, timespan := 120 }
    let v : Verifier := ⟨params, 0xfffff * Bytes.weight 27, by decide⟩
    let first : Block := ⟨.zero, 0, 0x1c7fffff, 1400000000, .zero⟩
    let last : Block := ⟨.zero, 1, 0x1c7fffff, 1400000600, .zero⟩
    let lookup : Lookup := fun _ => .ok (some first)
    let next := params.scaledTarget (0x7fffff * Bytes.weight 25) first last
    next = 4 * (0x7fffff * Bytes.weight 25) ∧
    (checkInterval params last 0x1d01ffff lookup).outcome = .ok () ∧
    (checkClaim v.ceiling next 0x1e0001ff).outcome = .ok () ∧
    (checkInterval params last 0x1e0001ff lookup).outcome ≠ .ok () := by
  intro params v first last lookup next
  have hperiod : lookup.SpansPeriod params first last :=
    ⟨by decide, by decide +kernel, by decide⟩
  have hfits : params.TimesFit first last := ⟨by decide, by decide, by decide⟩
  have htarget : Compact.decode last.bits = .ok (0x7fffff * Bytes.weight 25) := by decide
  obtain ⟨hiff, -⟩ := checkInterval_eq_ok_iff_canonical (v := v) hperiod hfits htarget 0x1d01ffff
  obtain ⟨hiff', -⟩ := checkInterval_eq_ok_iff_canonical (v := v) hperiod hfits htarget 0x1e0001ff
  refine ⟨by decide, hiff.mpr ⟨by decide, 0x1fffffc * Bytes.weight 25, by decide, by decide⟩,
    by decide, ?_⟩
  intro hpasses
  have hdecode : Compact.decode 0x1e0001ff = .ok (0x1ff * Bytes.weight 27) := by decide
  have hword := (hiff'.mp hpasses).2.encode_of_decode hdecode
  exact absurd hword (by decide)

end DarkGravity
