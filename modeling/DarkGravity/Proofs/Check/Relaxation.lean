import DarkGravity.Proofs.Check.Acceptance

/-!
# What a relaxed network decides

On a relaxed network a candidate is late, comes before the fork, or is checked as on any other
network. The first two are decided without a look at the chain: a late candidate passes with exactly
the words within the ceiling, since its claim is compared with itself and loses nothing under its
own mask, and before the fork everything passes. What is left comes after the fork, where version 3
rules. So version 1 never decides on a relaxed network (`checkHeader_of_windowV1`).
-/

namespace DarkGravity

/-! ## Lookups -/

/-- A claim is compared without a lookup. -/
theorem lookups_checkClaim {ceiling calculated : Target} {claimed : UInt32} :
    (checkClaim ceiling calculated claimed).lookups = 0 := by
  apply Traced.lookups_bind_eq_zero lookups_clampToCeiling
  intro required
  apply Traced.lookups_bind_eq_zero (Traced.lookups_ofExcept _)
  intro received
  dsimp only
  split <;> rfl

theorem lookups_checkLate {ceiling : Target} {candidate : Header} :
    (checkLate ceiling candidate).lookups = 0 :=
  Traced.lookups_bind_eq_zero (Traced.lookups_ofExcept _) fun _ => lookups_checkClaim

/-! ## Which relaxation applies -/

section

variable {p : Params} {ceiling : Target} {previous : Block} {candidate : Header} {lookup : Lookup}

theorem relaxation?_of_late (hrelaxed : p.relaxed = true)
    (hlate : lateAfter p previous < candidate.timestamp.toNat) :
    relaxation? p previous candidate = some .late := by
  simp [relaxation?, hrelaxed, hlate]

/-- A candidate in time is relaxed exactly where version 1 rules. -/
theorem relaxation?_of_in_time (hrelaxed : p.relaxed = true)
    (htime : candidate.timestamp.toNat ≤ lateAfter p previous) :
    relaxation? p previous candidate =
      if p.versionAfter previous.height = .v1 then some .beforeFork else none := by
  rw [relaxation?, hrelaxed, if_neg (Nat.not_lt.mpr htime), Params.versionAfter]
  cases p.forkedAfter previous.height <;> rfl

/-- From the fork on, the rule of a network does not look at the window of version 1. -/
theorem checkRule_of_windowV1 (hversion : p.versionAfter previous.height ≠ .v1) (window : Window) :
    checkRule { p with windowV1 := window } ceiling previous candidate lookup =
      checkRule p ceiling previous candidate lookup := by
  have hv3 : p.versionAfter previous.height = .v3 := by
    cases h : p.versionAfter previous.height with
    | v1 => exact absurd h hversion
    | v3 => rfl
  have hsame : Params.versionAfter { p with windowV1 := window } previous.height = .v3 := hv3
  have hwave : checkWave { p with windowV1 := window } ceiling previous candidate.bits lookup =
      checkWave p ceiling previous candidate.bits lookup := by
    -- version 3 reads its own window only, so both sides compute the same
    simp only [checkWave, hv3, hsame]
    rfl
  rw [checkRule, checkRule, hwave]
  rfl

/-- A relaxed network never looks at the window of version 1. -/
theorem checkHeader_of_windowV1 (hrelaxed : p.relaxed = true) (window : Window) :
    checkHeader { p with windowV1 := window } ceiling previous candidate lookup =
      checkHeader p ceiling previous candidate lookup := by
  have hsame : relaxation? { p with windowV1 := window } previous candidate =
      relaxation? p previous candidate := rfl
  rw [checkHeader, checkHeader, hsame]
  split
  · rfl
  · rfl
  · next hnone =>
    -- nothing relaxes the check, so the candidate is in time and comes after the fork
    apply checkRule_of_windowV1
    intro hversion
    rcases Nat.lt_or_ge (lateAfter p previous) candidate.timestamp.toNat with hlate | htime
    · rw [relaxation?_of_late hrelaxed hlate] at hnone
      cases hnone
    · rw [relaxation?_of_in_time hrelaxed htime, if_pos hversion] at hnone
      cases hnone

/-- After the relaxations a network decides as it would without them. -/
theorem checkHeader_of_not_relaxed (h : relaxation? p previous candidate = none) :
    checkHeader { p with relaxed := false } ceiling previous candidate lookup =
      checkHeader p ceiling previous candidate lookup := by
  have hstrict : relaxation? { p with relaxed := false } previous candidate = none :=
    Verifier.relaxation?_of_not_relaxed rfl
  rw [checkHeader, checkHeader, h, hstrict]
  rfl

end

namespace Verifier

variable {v : Verifier} {previous : Block} {candidate : Header} {lookup : Lookup}

/-- The verifier of a network without its relaxation. -/
def strict (v : Verifier) : Verifier where
  params := { v.params with relaxed := false }
  ceiling := v.ceiling
  valid := v.valid

/-- The event of how a check ended is not a lookup. -/
theorem lookups_check : (v.check previous candidate lookup).lookups =
    (checkHeader v.params v.ceiling previous candidate lookup).lookups := by
  rw [Traced.lookups, check, List.countP_append]
  cases (checkHeader v.params v.ceiling previous candidate lookup).outcome <;> rfl

theorem check_eq_check_strict (h : relaxation? v.params previous candidate = none) :
    v.check previous candidate lookup = v.strict.check previous candidate lookup := by
  have hsame : checkHeader v.strict.params v.strict.ceiling previous candidate lookup =
      checkHeader v.params v.ceiling previous candidate lookup := checkHeader_of_not_relaxed h
  rw [check, check, hsame]

/-- A late candidate of a relaxed network passes exactly if its word is within the ceiling, and one
in time passes with any word where version 1 would rule. Neither needs a lookup. Where version 3
rules, a candidate in time is checked as if there was no relaxation. So the window of version 1 is
never looked at. A late claim is compared with itself, and this is harmless because no word loses
anything of its own target. -/
theorem check_of_relaxed (hrelaxed : v.params.relaxed = true) (previous : Block)
    (candidate : Header) (lookup : Lookup) :
    (lateAfter v.params previous < candidate.timestamp.toNat →
      ((v.check previous candidate lookup).outcome = .ok () ↔
        Compact.Within v.ceiling candidate.bits) ∧
      (v.check previous candidate lookup).lookups = 0) ∧
    (candidate.timestamp.toNat ≤ lateAfter v.params previous →
      v.params.versionAfter previous.height = .v1 →
      (v.check previous candidate lookup).outcome = .ok () ∧
      (v.check previous candidate lookup).lookups = 0) ∧
    (candidate.timestamp.toNat ≤ lateAfter v.params previous →
      v.params.versionAfter previous.height ≠ .v1 →
      v.check previous candidate lookup = v.strict.check previous candidate lookup) ∧
    (∀ window,
      checkHeader { v.params with windowV1 := window } v.ceiling previous candidate lookup =
        checkHeader v.params v.ceiling previous candidate lookup) ∧
    ∀ bits target, Compact.decode bits = .ok target → Compact.truncate target bits = target := by
  refine ⟨?_, ?_, ?_, ?_, ?_⟩
  · intro hlate
    rw [outcome_check, lookups_check, checkHeader, relaxation?_of_late hrelaxed hlate]
    exact ⟨checkLate_eq_ok_iff, lookups_checkLate⟩
  · intro htime hversion
    rw [outcome_check, lookups_check, checkHeader, relaxation?_of_in_time hrelaxed htime,
      if_pos hversion]
    exact ⟨rfl, rfl⟩
  · intro htime hversion
    apply check_eq_check_strict
    rw [relaxation?_of_in_time hrelaxed htime, if_neg hversion]
  · exact checkHeader_of_windowV1 hrelaxed
  · intro bits target
    exact Compact.truncate_of_decode

/-- On the test network: a late candidate passes with the greatest word of size 31 below the ceiling
and not with the next one, one in time passes before the fork even with a negative word, and after
the fork it is checked as on a network without relaxation. -/
theorem check_of_relaxed_of_testnet :
    let v : Verifier := ⟨.preset .testnet, 0xffff * Bytes.weight 27, by decide⟩
    let early : Block := ⟨.zero, 99998, 0x1e00ffff, 1400000000, .zero⟩
    let forked : Block := { early with height := 99999 }
    let empty : Lookup := fun _ => .ok none
    let child (bits : UInt32) (timestamp : UInt32) : Header :=
      ⟨0, .zero, .zero, timestamp, bits, 0⟩
    (v.check early (child 0x1f0000ff 1400000121) empty).outcome = .ok () ∧
    (v.check early (child 0x1f000100 1400000121) empty).outcome ≠ .ok () ∧
    (v.check early (child 0x04923456 1400000120) empty).outcome = .ok () ∧
    (v.check early (child 0x04923456 1400000120) empty).lookups = 0 ∧
    v.check forked (child 0x1e00ffff 1400000120) empty =
      v.strict.check forked (child 0x1e00ffff 1400000120) empty := by
  intro v early forked empty child
  have hrelaxed : v.params.relaxed = true := rfl
  obtain ⟨hlate, -⟩ := check_of_relaxed hrelaxed early (child 0x1f0000ff 1400000121) empty
  obtain ⟨hlate', -⟩ := check_of_relaxed hrelaxed early (child 0x1f000100 1400000121) empty
  obtain ⟨-, hearly, -⟩ := check_of_relaxed hrelaxed early (child 0x04923456 1400000120) empty
  obtain ⟨-, -, hforked, -⟩ :=
    check_of_relaxed hrelaxed forked (child 0x1e00ffff 1400000120) empty
  obtain ⟨hpasses, hlookups⟩ := hearly (by decide) (by decide)
  have habove : ¬ Compact.Within v.ceiling 0x1f000100 := by
    rintro ⟨target, htarget, hle⟩
    obtain rfl := Except.ok.inj (htarget.symm.trans
      (by decide : Compact.decode 0x1f000100 = .ok (0x100 * Bytes.weight 28)))
    exact absurd hle (by decide)
  refine ⟨(hlate (by decide)).1.mpr ⟨0xff * Bytes.weight 28, by decide, by decide⟩,
    fun h => habove ((hlate' (by decide)).1.mp h), hpasses, hlookups,
    hforked (by decide) (by decide)⟩

end Verifier

end DarkGravity
