import DarkGravity.Proofs.Check.Acceptance

/-!
# Claims against a required target

Where Dark Gravity Wave decides, a claim is compared with the required target under the mask of the
claimed word. The claims that pass are therefore the required target seen through a window that the
claim itself chooses: with the size byte of the required word that is the required target at the
precision of words, with another size byte it may be less. It is never more.
-/

namespace DarkGravity.Verifier

variable {v : Verifier} {previous : Block} {candidate : Header} {lookup : Lookup}

/-- Without a relaxation Dark Gravity Wave decides alone. -/
theorem check_eq_checkWave (hrule : v.params.rule = .darkGravityWave)
    (hrelaxed : v.params.relaxed = false) :
    (v.check previous candidate lookup).outcome =
      (checkWave v.params v.ceiling previous candidate.bits lookup).outcome := by
  rw [outcome_check, checkHeader, relaxation?_of_not_relaxed hrelaxed]
  simp only [checkRule, hrule]

/-- A claim passes exactly when its target is the required one below the ceiling, seen through the
window of the claimed word. For a claim with the size byte of the required word that is the target
of the required word, and no claim of an easier target than that passes. -/
theorem check_eq_ok_iff_masked {required : Retarget}
    (hrule : v.params.rule = .darkGravityWave) (hrelaxed : v.params.relaxed = false)
    (hrequired : (retarget (v.params.versionAfter previous.height) v.params previous
      lookup).outcome = .ok required) :
    ((v.check previous candidate lookup).outcome = .ok () ↔
      Compact.decode candidate.bits =
        .ok (Compact.truncate (min required.target v.ceiling) candidate.bits)) ∧
    (Compact.sizeByte candidate.bits =
        Compact.sizeByte (Compact.encode (min required.target v.ceiling)) →
      ((v.check previous candidate lookup).outcome = .ok () ↔
        Compact.decode candidate.bits =
          Compact.decode (Compact.encode (min required.target v.ceiling)))) ∧
    (∀ claimed easiest,
      Compact.decode candidate.bits = .ok claimed →
      Compact.decode (Compact.encode (min required.target v.ceiling)) = .ok easiest →
      easiest < claimed → (v.check previous candidate lookup).outcome ≠ .ok ()) := by
  have hlt := v.min_ceiling_lt required.target
  have hiff : (v.check previous candidate lookup).outcome = .ok () ↔
      Compact.decode candidate.bits =
        .ok (Compact.truncate (min required.target v.ceiling) candidate.bits) := by
    rw [check_eq_checkWave hrule hrelaxed, checkWave_eq_ok_iff, hrequired]
    constructor
    · rintro ⟨required', heq, hclaim⟩
      obtain rfl := Except.ok.inj heq
      exact hclaim
    · intro hclaim
      exact ⟨required, rfl, hclaim⟩
  refine ⟨hiff, ?_, ?_⟩
  · intro hsize
    rw [hiff, Compact.decode_encode hlt, Compact.truncate_congr _ hsize]
  · intro claimed easiest hclaimed heasiest hless hok
    have hmasked := hiff.mp hok
    rw [hclaimed, Except.ok.injEq] at hmasked
    rw [Compact.decode_encode hlt, Except.ok.injEq] at heasiest
    -- the word of the required target stands for the greatest target that is not above it
    have hle : claimed ≤ Compact.truncate (min required.target v.ceiling)
        (Compact.encode (min required.target v.ceiling)) :=
      Compact.le_truncate_encode hlt hclaimed (hmasked ▸ Compact.truncate_le _ _)
    exact absurd hless (Nat.not_lt.mpr (heasiest ▸ hle))

/-- The verifier of the production network. -/
def mainnet : Verifier := ⟨.mainnet, 0xfffff * Bytes.weight 27, by decide⟩

/-- A header that claims a word and leaves the rest at zero. -/
def claim (bits : UInt32) : Header := ⟨0, .zero, .zero, 0, bits, 0⟩

/-- On a window of equal blocks without any time between them a third of their target is required,
and the word of that third passes. -/
theorem check_eq_ok_iff_masked_of_no_time :
    let previous : Block := ⟨.zero, 100000, 0x1c00ffff, 1, .zero⟩
    let lookup : Lookup := fun _ => .ok (some previous)
    (retarget .v3 mainnet.params previous lookup).outcome =
      .ok ⟨0x5555 * Bytes.weight 25, 24, 480, 1440⟩ ∧
    (mainnet.check previous (claim 0x1c005555) lookup).outcome = .ok () := by
  intro previous lookup
  have hrequired : (retarget .v3 mainnet.params previous lookup).outcome =
      .ok ⟨0x5555 * Bytes.weight 25, 24, 480, 1440⟩ := by decide +kernel
  obtain ⟨hiff, -, -⟩ :=
    check_eq_ok_iff_masked (v := mainnet) rfl rfl hrequired
  exact ⟨hrequired, hiff.mpr (by decide +kernel)⟩

/-- Not only the required target passes: on a first block the ceiling is required, but a word with
the next size byte sees one byte less of it, and passes with what it sees. -/
theorem not_only_required_target_passes :
    ¬ ∀ (v : Verifier) (previous : Block) (candidate : Header) (lookup : Lookup)
        (required : Retarget),
      v.params.rule = .darkGravityWave → v.params.relaxed = false →
      (retarget (v.params.versionAfter previous.height) v.params previous lookup).outcome =
        .ok required →
      ((v.check previous candidate lookup).outcome = .ok () ↔
        ∃ claimed, Compact.decode candidate.bits = .ok claimed ∧
          Compact.decode (Compact.encode (min required.target v.ceiling)) = .ok claimed) := by
  intro honly
  have hiff := honly mainnet ⟨.zero, 0, 0x1e0fffff, 0, .zero⟩ (claim 0x1f000fff) (fun _ => .ok none)
    (.ofCeiling mainnet.ceiling) rfl rfl (by decide +kernel)
  obtain ⟨claimed, hclaimed, hrequired⟩ := hiff.mp (by decide +kernel)
  rw [← hclaimed] at hrequired
  exact absurd hrequired (by decide +kernel)

end DarkGravity.Verifier
