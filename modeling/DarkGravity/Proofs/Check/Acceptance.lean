import DarkGravity.Proofs.Compact.Rounding
import DarkGravity.Verifier

/-!
# What a check accepts

A claim is accepted against a required target when its own target is the required one, brought down
to the ceiling and masked by the claimed word. From this follow the words that each way of checking
a candidate accepts: late candidates, Dark Gravity Wave and the interval rule.
-/

namespace DarkGravity

/-! ## Validated parameters -/

namespace Verifier

/-- The ceiling of a verifier is the target of its easiest word. -/
theorem decode_ceilingBits (v : Verifier) : Compact.decode v.params.ceilingBits = .ok v.ceiling := by
  have hvalid := v.valid
  simp only [Params.validate] at hvalid
  split_ifs at hvalid
  cases hdecode : Compact.decode v.params.ceilingBits with
  | error e => simp [hdecode, Except.mapError] at hvalid
  | ok target => simpa [hdecode, Except.mapError] using hvalid

theorem ceiling_lt (v : Verifier) : v.ceiling < 2 ^ 256 :=
  Compact.lt_of_decode v.decode_ceilingBits

/-- A target brought down to the ceiling fits 256 bits. -/
theorem min_ceiling_lt (v : Verifier) (target : Target) : min target v.ceiling < 2 ^ 256 :=
  (min_le_right _ _).trans_lt v.ceiling_lt

theorem spacing_pos (v : Verifier) : 0 < v.params.spacing.toNat := by
  have hvalid := v.valid
  simp only [Params.validate] at hvalid
  split_ifs at hvalid with hzero
  rw [Nat.pos_iff_ne_zero]
  intro hspacing
  exact hzero (UInt64.toNat_inj.mp hspacing)

/-- A period has at least one block. -/
theorem periodLength_pos (v : Verifier) : 0 < v.params.periodLength := by
  have hvalid := v.valid
  simp only [Params.validate] at hvalid
  split_ifs at hvalid with hzero hshort
  rw [UInt64.not_lt, UInt64.le_iff_toNat_le] at hshort
  exact Nat.div_pos hshort v.spacing_pos

end Verifier

/-! ## Claims -/

@[simp] theorem outcome_clampToCeiling {ε : Type} (ceiling calculated : Target) :
    (clampToCeiling (ε := ε) ceiling calculated).outcome = .ok (min calculated ceiling) := rfl

/-- The ceiling is known without a lookup. -/
theorem lookups_clampToCeiling {ε : Type} {ceiling calculated : Target} :
    (clampToCeiling (ε := ε) ceiling calculated).lookups = 0 := by
  rw [Traced.lookups, clampToCeiling]
  split <;> rfl

theorem outcome_decodeBits_of_ok {bits : UInt32} {target : Target}
    (h : Compact.decode bits = .ok target) : (decodeBits bits).outcome = .ok target := by
  rw [decodeBits, Traced.outcome_ofExcept, h]
  rfl

theorem outcome_decodeBits_eq_ok_iff {bits : UInt32} {target : Target} :
    (decodeBits bits).outcome = .ok target ↔ Compact.decode bits = .ok target := by
  rw [decodeBits, Traced.outcome_ofExcept]
  cases Compact.decode bits <;> simp [Except.mapError]

/-- A claim is accepted exactly when its target is the required one below the ceiling, masked by the
claimed word. -/
theorem checkClaim_eq_ok_iff {ceiling calculated : Target} {claimed : UInt32} :
    (checkClaim ceiling calculated claimed).outcome = .ok () ↔
      Compact.decode claimed = .ok (Compact.truncate (min calculated ceiling) claimed) := by
  simp only [checkClaim]
  rw [Traced.outcome_bind_of_ok (outcome_clampToCeiling _ _), Traced.outcome_bind_eq_ok_iff]
  constructor
  · rintro ⟨received, hreceived, heq⟩
    rw [outcome_decodeBits_eq_ok_iff] at hreceived
    rw [hreceived]
    by_contra hne
    have hne' : Compact.truncate (min calculated ceiling) claimed ≠ received :=
      fun h => hne (congrArg _ h.symm)
    simp [hne'] at heq
  · intro h
    exact ⟨_, outcome_decodeBits_of_ok h, by simp⟩

/-- The word has a target that is at most the ceiling. -/
def Compact.Within (ceiling : Target) (bits : UInt32) : Prop :=
  ∃ target, Compact.decode bits = .ok target ∧ target ≤ ceiling

/-- The word of a target within the ceiling is within the ceiling. -/
theorem Compact.within_encode {ceiling target : Target} (hceiling : ceiling < 2 ^ 256)
    (hle : target ≤ ceiling) : Compact.Within ceiling (Compact.encode target) :=
  ⟨_, Compact.decode_encode (hle.trans_lt hceiling), (Compact.truncate_le _ _).trans hle⟩

/-- An accepted claim is within the ceiling. -/
theorem within_of_checkClaim {ceiling calculated : Target} {claimed : UInt32}
    (h : (checkClaim ceiling calculated claimed).outcome = .ok ()) :
    Compact.Within ceiling claimed :=
  ⟨_, checkClaim_eq_ok_iff.mp h, (Compact.truncate_le _ _).trans (min_le_right _ _)⟩

/-! ## The rules -/

/-- A late candidate may claim exactly the words within the ceiling. -/
theorem checkLate_eq_ok_iff {ceiling : Target} {candidate : Header} :
    (checkLate ceiling candidate).outcome = .ok () ↔ Compact.Within ceiling candidate.bits := by
  rw [checkLate, Traced.outcome_bind_eq_ok_iff]
  constructor
  · rintro ⟨own, -, hclaim⟩
    exact within_of_checkClaim hclaim
  · rintro ⟨own, hown, hle⟩
    refine ⟨own, outcome_decodeBits_of_ok hown, ?_⟩
    rw [checkClaim_eq_ok_iff, min_eq_left hle, Compact.truncate_of_decode hown, hown]

/-- Dark Gravity Wave accepts a claim exactly when there is a required target and the claim is
accepted against it. -/
theorem checkWave_eq_ok_iff {p : Params} {ceiling : Target} {previous : Block} {claimed : UInt32}
    {lookup : Lookup} :
    (checkWave p ceiling previous claimed lookup).outcome = .ok () ↔
      ∃ required,
        (retarget (p.versionAfter previous.height) p previous lookup).outcome = .ok required ∧
        Compact.decode claimed =
          .ok (Compact.truncate (min required.target ceiling) claimed) := by
  simp only [checkWave]
  rw [Traced.outcome_bind_eq_ok_iff]
  refine exists_congr fun required => and_congr_right fun _ => ?_
  rw [Traced.outcome_bind_of_ok (Traced.outcome_emit _), checkClaim_eq_ok_iff]

/-- At a transition exactly the word of the required target passes, where the target is masked by
the claimed word itself. -/
theorem checkTransition_eq_ok_iff {p : Params} {ceiling : Target} {first last : Block}
    {claimed : UInt32} (hceiling : Compact.decode p.ceilingBits = .ok ceiling) :
    (checkTransition p first last claimed).outcome = .ok () ↔
      ∃ target, Compact.decode last.bits = .ok target ∧
        Compact.encode (Compact.truncate
          (min (nextPeriodTarget p target (periodTime p first last)) ceiling) claimed) =
          claimed := by
  simp only [checkTransition]
  rw [Traced.outcome_bind_eq_ok_iff]
  refine exists_congr fun target => and_congr outcome_decodeBits_eq_ok_iff ?_
  rw [Traced.outcome_bind_of_ok (outcome_decodeBits_of_ok hceiling),
    Traced.outcome_bind_of_ok (outcome_clampToCeiling _ _)]
  split
  · next hne => exact iff_of_false (by simp) hne
  · next heq => exact iff_of_true rfl (not_ne_iff.mp heq)

section Interval

variable {p : Params} {previous : Block} {claimed : UInt32} {lookup : Lookup}

/-- Inside a period a claim is compared with the word of the previous block. -/
theorem checkInterval_of_inside (h : isTransition p.periodLength previous.height = false) :
    (checkInterval p previous claimed lookup).outcome =
      if claimed ≠ previous.bits then
        .error (.unexpectedChange previous.height claimed previous.bits)
      else .ok () := by
  simp only [checkInterval, h]
  by_cases hchange : claimed ≠ previous.bits
  · rw [if_pos hchange]
    simp [hchange]
  · rw [if_neg hchange]
    simp [hchange]

/-- At a transition the first block of the period is looked for. -/
theorem checkInterval_of_transition
    (h : isTransition p.periodLength previous.height = true) :
    (checkInterval p previous claimed lookup).outcome =
      (ancestor lookup (p.periodLength - 1) previous).outcome >>= fun first =>
        if first.height.toNat % p.periodLength ≠ 0 then
          .error (.chainInconsistent previous.height first.height)
        else (checkTransition p first previous claimed).outcome := by
  simp only [checkInterval, h, Bool.not_true, Bool.false_eq_true, if_false]
  rw [Traced.outcome_bind]
  congr 1
  funext first
  split <;> rfl

/-- At a transition only the word of a target within the ceiling passes. -/
theorem encode_of_checkInterval {ceiling : Target}
    (hceiling : Compact.decode p.ceilingBits = .ok ceiling)
    (htransition : isTransition p.periodLength previous.height = true)
    (h : (checkInterval p previous claimed lookup).outcome = .ok ()) :
    ∃ target ≤ ceiling, claimed = Compact.encode target := by
  rw [checkInterval_of_transition htransition] at h
  cases hfirst : (ancestor lookup (p.periodLength - 1) previous).outcome with
  | error e => simp [hfirst, bind, Except.bind] at h
  | ok first =>
    rw [hfirst] at h
    simp only [bind, Except.bind] at h
    split at h
    · cases h
    · obtain ⟨target, -, hword⟩ := (checkTransition_eq_ok_iff hceiling).mp h
      exact ⟨_, (Compact.truncate_le _ claimed).trans (min_le_right _ ceiling), hword.symm⟩

/-- Inside a period only the word of the previous block passes. -/
theorem checkInterval_eq_ok_iff_of_inside
    (hinside : isTransition p.periodLength previous.height = false) :
    (checkInterval p previous claimed lookup).outcome = .ok () ↔ claimed = previous.bits := by
  rw [checkInterval_of_inside hinside]
  split
  · next hchange => exact iff_of_false (by simp) hchange
  · next hsame => exact iff_of_true rfl (not_ne_iff.mp hsame)

/-- What the interval rule accepts is the word of the previous block or the word of a target within
the ceiling. -/
theorem eq_or_encode_of_checkInterval {ceiling : Target}
    (hceiling : Compact.decode p.ceilingBits = .ok ceiling)
    (h : (checkInterval p previous claimed lookup).outcome = .ok ()) :
    claimed = previous.bits ∨ ∃ target ≤ ceiling, claimed = Compact.encode target := by
  cases htransition : isTransition p.periodLength previous.height with
  | false => exact .inl ((checkInterval_eq_ok_iff_of_inside htransition).mp h)
  | true => exact .inr (encode_of_checkInterval hceiling htransition h)

end Interval

/-! ## Candidates -/

namespace Verifier

variable {v : Verifier} {previous : Block} {candidate : Header} {lookup : Lookup}

@[simp] theorem outcome_check :
    (v.check previous candidate lookup).outcome =
      (checkHeader v.params v.ceiling previous candidate lookup).outcome := rfl

theorem relaxation?_of_not_relaxed {p : Params} (h : p.relaxed = false) :
    relaxation? p previous candidate = none := by
  simp [relaxation?, h]

/-- From the fork on, only lateness relaxes a check. -/
theorem relaxation?_ne_beforeFork {p : Params}
    (h : p.relaxed = false ∨ p.forkedAfter previous.height = true) :
    relaxation? p previous candidate ≠ some .beforeFork := by
  rw [relaxation?]
  rcases h with h | h <;> split_ifs <;> simp_all

/-- An accepted candidate is within the ceiling, unless it comes before the fork on a network that
lets it claim what it likes. The interval rule hands on the word of the previous block. -/
theorem within_of_check (hcheck : (v.check previous candidate lookup).outcome = .ok ())
    (henforced : v.params.relaxed = false ∨ v.params.forkedAfter previous.height = true)
    (hprevious : v.params.rule = .darkGravityWave ∨ Compact.Within v.ceiling previous.bits) :
    Compact.Within v.ceiling candidate.bits := by
  rw [outcome_check, checkHeader] at hcheck
  have hfork : relaxation? v.params previous candidate ≠ some .beforeFork :=
    relaxation?_ne_beforeFork henforced
  split at hcheck
  · exact checkLate_eq_ok_iff.mp hcheck
  · next h => exact absurd h hfork
  · rw [checkRule] at hcheck
    split at hcheck
    · next hrule =>
      have hword := eq_or_encode_of_checkInterval v.decode_ceilingBits hcheck
      rcases hword with heq | ⟨target, hle, heq⟩
      · rw [heq]
        exact hprevious.resolve_left (by simp [hrule])
      · rw [heq]
        exact Compact.within_encode v.ceiling_lt hle
    · obtain ⟨required, -, hclaim⟩ := checkWave_eq_ok_iff.mp hcheck
      exact ⟨_, hclaim, (Compact.truncate_le _ _).trans (min_le_right _ _)⟩

/-- The word of the required target passes, whatever relaxation applies. -/
theorem check_of_encode {required : Retarget} (hrule : v.params.rule = .darkGravityWave)
    (hrequired : (retarget (v.params.versionAfter previous.height) v.params previous
      lookup).outcome = .ok required)
    (hbits : candidate.bits = Compact.encode (min required.target v.ceiling)) :
    (v.check previous candidate lookup).outcome = .ok () := by
  rw [outcome_check, checkHeader]
  split
  · rw [checkLate_eq_ok_iff, hbits]
    exact Compact.within_encode v.ceiling_lt (min_le_right _ _)
  · rfl
  · rw [checkRule, hrule]
    dsimp only
    rw [checkWave_eq_ok_iff, hbits]
    exact ⟨required, hrequired, Compact.decode_encode (v.min_ceiling_lt _)⟩

end Verifier

end DarkGravity
