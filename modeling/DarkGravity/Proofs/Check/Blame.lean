import DarkGravity.Proofs.Check.RequiredTarget
import DarkGravity.Proofs.Compact.BestApproximation
import DarkGravity.Proofs.Retarget.Faults

/-!
# Who is to blame for a refusal

However a candidate is checked, one of two things holds for all the words that it could claim: a
fault below it refuses every word with the same error, or some word passes and no refusal blames the
chain (`separates_check`). So an error that blames the chain refuses every word. The converse fails
for a word without a target in an ancestor, which refuses every word without blaming the chain.
-/

namespace DarkGravity

variable {lookup : Lookup} {previous : Block} {e : CheckError}

/-- The check of a word on a block separates faults below the word from faults of the word. -/
inductive Separates (lookup : Lookup) (previous : Block)
    (check : UInt32 → Except CheckError Unit) : Prop
  /-- A fault at the block or below it refuses every word. -/
  | below {e : CheckError} (fault : lookup.IsFault previous e)
      (refused : ∀ bits, check bits = .error e)
  /-- Some word passes, and the refusal of another does not blame the chain. -/
  | own (bits : UInt32) (passes : check bits = .ok ())
      (blames : ∀ bits e, check bits = .error e → e.blamesChain = false)

/-! ## Claims -/

theorem outcome_decodeBits_of_error {bits : UInt32} {source : Compact.Error}
    (h : Compact.decode bits = .error source) :
    (decodeBits bits).outcome = .error (.invalidCompact source) := by
  rw [decodeBits, Traced.outcome_ofExcept, h]
  rfl

/-- A word without a target does not blame the chain, wherever it is. -/
theorem blamesChain_of_decodeBits {bits : UInt32} (h : (decodeBits bits).outcome = .error e) :
    e.blamesChain = false := by
  rw [decodeBits, Traced.outcome_ofExcept] at h
  cases hdecode : Compact.decode bits with
  | ok target => simp [hdecode, Except.mapError] at h
  | error source =>
    simp only [hdecode, Except.mapError, Except.error.injEq] at h
    exact h ▸ rfl

/-- A claim that is not the required target does not blame the chain. -/
theorem blamesChain_of_checkClaim {ceiling calculated : Target} {claimed : UInt32}
    (h : (checkClaim ceiling calculated claimed).outcome = .error e) : e.blamesChain = false := by
  simp only [checkClaim] at h
  rw [Traced.outcome_bind_of_ok (outcome_clampToCeiling _ _),
    Traced.outcome_bind_eq_error_iff] at h
  rcases h with hdecode | ⟨received, -, hmismatch⟩
  · exact blamesChain_of_decodeBits hdecode
  · split at hmismatch
    · cases hmismatch
      rfl
    · cases hmismatch

/-- Nor does a claim that is not the target of the next period. -/
theorem blamesChain_of_checkTransition {p : Params} {first : Block} {claimed : UInt32}
    (h : (checkTransition p first previous claimed).outcome = .error e) :
    e.blamesChain = false := by
  simp only [checkTransition] at h
  rcases Traced.outcome_bind_eq_error_iff.mp h with hlast | ⟨target, -, h⟩
  · exact blamesChain_of_decodeBits hlast
  rcases Traced.outcome_bind_eq_error_iff.mp h with hceiling | ⟨ceiling, -, h⟩
  · exact blamesChain_of_decodeBits hceiling
  rw [Traced.outcome_bind_of_ok (outcome_clampToCeiling _ _)] at h
  split at h
  · cases h
    rfl
  · cases h

/-! ## The rules -/

/-- A late candidate may always claim the easiest word. -/
theorem separates_checkLate (v : Verifier) (candidate : Header) :
    Separates lookup previous fun bits =>
      (checkLate v.ceiling { candidate with bits := bits }).outcome := by
  refine .own v.params.ceilingBits ?_ ?_
  · exact checkLate_eq_ok_iff.mpr ⟨v.ceiling, v.decode_ceilingBits, le_rfl⟩
  · intro bits e h
    rw [checkLate, Traced.outcome_bind_eq_error_iff] at h
    rcases h with hdecode | ⟨own, -, hclaim⟩
    · exact blamesChain_of_decodeBits hdecode
    · exact blamesChain_of_checkClaim hclaim

/-- Without a required target Dark Gravity Wave refuses every word. -/
theorem outcome_checkWave_of_error {p : Params} {ceiling : Target} {claimed : UInt32}
    (h : (retarget (p.versionAfter previous.height) p previous lookup).outcome = .error e) :
    (checkWave p ceiling previous claimed lookup).outcome = .error e := by
  simp only [checkWave]
  rw [Traced.outcome_bind_of_error h]

/-- Dark Gravity Wave blames the chain exactly where this leaves no required target. -/
theorem checkWave_eq_error_iff {p : Params} {ceiling : Target} {claimed : UInt32}
    (hblames : e.blamesChain = true) :
    (checkWave p ceiling previous claimed lookup).outcome = .error e ↔
      (retarget (p.versionAfter previous.height) p previous lookup).outcome = .error e := by
  constructor
  · intro h
    simp only [checkWave] at h
    rcases Traced.outcome_bind_eq_error_iff.mp h with hretarget | ⟨required, -, hclaim⟩
    · exact hretarget
    · rw [Traced.outcome_bind_of_ok (Traced.outcome_emit _)] at hclaim
      rw [blamesChain_of_checkClaim hclaim] at hblames
      cases hblames
  · exact outcome_checkWave_of_error

/-- By Dark Gravity Wave the word of the required target passes, if there is one. -/
theorem separates_checkWave (v : Verifier) :
    Separates lookup previous fun bits =>
      (checkWave v.params v.ceiling previous bits lookup).outcome := by
  cases hretarget : (retarget (v.params.versionAfter previous.height) v.params previous
      lookup).outcome with
  | error e =>
    exact .below (retarget_eq_error v hretarget) fun _ => outcome_checkWave_of_error hretarget
  | ok required =>
    refine .own (Compact.encode (min required.target v.ceiling)) ?_ ?_
    · exact checkWave_eq_ok_iff.mpr
        ⟨required, hretarget, Compact.decode_encode (v.min_ceiling_lt _)⟩
    · intro bits e h
      simp only [checkWave] at h
      rw [Traced.outcome_bind_of_ok hretarget,
        Traced.outcome_bind_of_ok (Traced.outcome_emit _)] at h
      exact blamesChain_of_checkClaim h

/-- At a transition the word of the target of the next period passes, if the last period had a
target. -/
theorem separates_checkTransition (v : Verifier) (first : Block) :
    Separates lookup previous fun bits =>
      (checkTransition v.params first previous bits).outcome := by
  cases hdecode : Compact.decode previous.bits with
  | error source =>
    -- the word of the last block is read before any claim
    refine .below (.inr (.of_decode hdecode)) fun bits => ?_
    simp only [checkTransition]
    rw [Traced.outcome_bind_of_error (outcome_decodeBits_of_error hdecode)]
  | ok target =>
    let next := nextPeriodTarget v.params target (periodTime v.params first previous)
    refine .own (Compact.encode (min next v.ceiling)) ?_ ?_
    · rw [checkTransition_eq_ok_iff v.decode_ceilingBits]
      exact ⟨target, hdecode, Compact.encode_truncate_encode (v.min_ceiling_lt _)⟩
    · intro bits e h
      exact blamesChain_of_checkTransition h

/-- Inside a period the word of the previous block passes, at a transition that of the next period,
if the walk through the last period ends where it should. -/
theorem separates_checkInterval (v : Verifier) :
    Separates lookup previous fun bits =>
      (checkInterval v.params previous bits lookup).outcome := by
  cases htransition : isTransition v.params.periodLength previous.height with
  | false =>
    refine .own previous.bits ((checkInterval_eq_ok_iff_of_inside htransition).mpr rfl) ?_
    intro bits e h
    rw [checkInterval_of_inside htransition] at h
    split at h
    · cases h
      rfl
    · cases h
  | true =>
    simp only [checkInterval_of_transition htransition]
    cases hfirst : (ancestor lookup (v.params.periodLength - 1) previous).outcome with
    | error e => exact .below (.inl (ancestor_eq_error hfirst)) fun _ => rfl
    | ok first =>
      by_cases hstart : first.height.toNat % v.params.periodLength ≠ 0
      · refine .below (e := .chainInconsistent previous.height first.height) (.inl rfl) ?_
        intro bits
        exact if_pos hstart
      · simp only [bind, Except.bind, if_neg hstart]
        exact separates_checkTransition v first

/-! ## Candidates -/

namespace Verifier

variable {v : Verifier} {candidate other : Header}

/-- A check reads the timestamp and the word of a candidate and nothing else. -/
theorem outcome_check_of_timestamp (h : other.timestamp = candidate.timestamp) :
    (v.check previous other lookup).outcome =
      (v.check previous { candidate with bits := other.bits } lookup).outcome := by
  have hrelaxation : relaxation? v.params previous other =
      relaxation? v.params previous { candidate with bits := other.bits } := by
    simp only [relaxation?, h]
  rw [outcome_check, outcome_check, checkHeader, checkHeader, hrelaxation]
  rfl

/-- However a candidate is checked, a fault below it refuses every word, or some word passes. -/
theorem separates_check (v : Verifier) (previous : Block) (candidate : Header) (lookup : Lookup) :
    Separates lookup previous fun bits =>
      (v.check previous { candidate with bits := bits } lookup).outcome := by
  have hrelaxation : ∀ bits, relaxation? v.params previous { candidate with bits := bits } =
      relaxation? v.params previous candidate := fun _ => rfl
  simp only [outcome_check, checkHeader, hrelaxation]
  cases relaxation? v.params previous candidate with
  | some relaxation =>
    cases relaxation with
    | late => exact separates_checkLate v candidate
    | beforeFork => exact .own 0 rfl fun _ _ h => by cases h
  | none =>
    simp only [checkRule]
    cases v.params.rule with
    | interval => exact separates_checkInterval v
    | darkGravityWave => exact separates_checkWave v

/-- When a candidate is refused, an error that blames the chain would have refused every other
candidate of that time in the same way. If every candidate of that time is refused, then all are
refused with this error, and it blames the chain or names a word without a target in the previous
block or an ancestor. -/
theorem check_error_separates (h : (v.check previous candidate lookup).outcome = .error e) :
    (e.blamesChain = true → ∀ other : Header, other.timestamp = candidate.timestamp →
      (v.check previous other lookup).outcome = .error e) ∧
    ((∀ other : Header, other.timestamp = candidate.timestamp →
        (v.check previous other lookup).outcome ≠ .ok ()) →
      (∀ other : Header, other.timestamp = candidate.timestamp →
        (v.check previous other lookup).outcome = .error e) ∧
      (e.blamesChain = true ∨ lookup.IsWordFault previous e)) := by
  cases separates_check v previous candidate lookup with
  | @below e' hfault hrefused =>
    obtain rfl : e' = e := Except.error.inj ((hrefused candidate.bits).symm.trans h)
    have hall : ∀ other : Header, other.timestamp = candidate.timestamp →
        (v.check previous other lookup).outcome = .error e' := by
      intro other htime
      rw [outcome_check_of_timestamp htime]
      exact hrefused other.bits
    exact ⟨fun _ => hall, fun _ => ⟨hall, hfault⟩⟩
  | own bits hpasses hblames =>
    constructor
    · intro hblame
      rw [hblames candidate.bits e h] at hblame
      cases hblame
    · intro hrefused
      exact absurd hpasses (hrefused { candidate with bits := bits } rfl)

/-- A last block whose parent is missing refuses every word and blames the chain. -/
theorem check_error_separates_of_missing_parent :
    let previous : Block := ⟨.zero, 100000, 0x1e0fffff, 0, .zero⟩
    let lookup : Lookup := fun _ => .ok none
    (mainnet.check previous (claim 0x1e0fffff) lookup).outcome =
      .error (.chainIncomplete 100000 .zero none) ∧
    ∀ bits, (mainnet.check previous (claim bits) lookup).outcome =
      .error (.chainIncomplete 100000 .zero none) := by
  intro previous lookup
  have hmissing : (mainnet.check previous (claim 0x1e0fffff) lookup).outcome =
      .error (.chainIncomplete 100000 .zero none) := by decide +kernel
  obtain ⟨hblamed, -⟩ := check_error_separates hmissing
  exact ⟨hmissing, fun bits => hblamed rfl (claim bits) rfl⟩

/-- Not only errors that blame the chain refuse every word: a last block whose own word is negative
has no child that passes, and the error does not blame the chain. -/
theorem not_only_blamed_chain_refuses_all :
    ¬ ∀ (v : Verifier) (previous : Block) (candidate : Header) (lookup : Lookup) (e : CheckError),
      (v.check previous candidate lookup).outcome = .error e →
      (e.blamesChain = true ↔ ∀ other : Header, other.timestamp = candidate.timestamp →
        (v.check previous other lookup).outcome ≠ .ok ()) := by
  intro honly
  let previous : Block := ⟨.zero, 100000, 0x04923456, 0, .zero⟩
  let lookup : Lookup := fun _ => .ok none
  have hretarget : (retarget .v3 mainnet.params previous lookup).outcome =
      .error (.invalidCompact (.negative 0x04923456)) := by decide +kernel
  have hrefused : ∀ other, (mainnet.check previous other lookup).outcome =
      .error (.invalidCompact (.negative 0x04923456)) := by
    intro other
    rw [check_eq_checkWave rfl rfl]
    exact outcome_checkWave_of_error hretarget
  have hblames := (honly mainnet previous (claim 0) lookup _ (hrefused (claim 0))).mpr
    fun other _ hpasses => by cases (hrefused other).symm.trans hpasses
  cases hblames

end Verifier

end DarkGravity
