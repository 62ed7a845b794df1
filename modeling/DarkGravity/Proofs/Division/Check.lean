import DarkGravity.Proofs.Check.Acceptance
import DarkGravity.Proofs.Division.Retarget

/-!
# Checks with guarded divisions

The interval rule divides by the spacing for the length of a period, takes remainders by that
length, and divides by the timespan. The first two guards fire exactly on parameters that define no
period, before anything is looked up (`Guarded.checkInterval_of_fault`), and then `checkUnvalidated`
reports the fault; on a period of at least one block no guard fires (`Guarded.checkInterval_eq`). So
a check divides by zero exactly where it is left to the interval rule with such parameters, and never
after `Params.validate` (`divides_by_zero_iff`).
-/

namespace DarkGravity

/-- The division that fails for parameters that define no period. -/
def Params.PeriodFault.division : PeriodFault → Division
  | .zeroSpacing => .quotient
  | .emptyPeriod => .remainder

namespace Guarded

variable {α : Type}

/-- The computation ends at a division by zero. -/
def DividesByZero (x : Guarded α) : Prop := ∃ division, x.outcome = .error (.zeroDivisor division)

/-- The guarded computation is the one that it guards, and no guard fires. -/
def RunsAs (x : Guarded α) (check : Check α) : Prop :=
  x = check.mapError .refused ∧ ¬ x.DividesByZero

theorem runsAs_of_eq {x : Guarded α} {check : Check α} (h : x = check.mapError .refused) :
    x.RunsAs check := by
  refine ⟨h, ?_⟩
  rintro ⟨division, hzero⟩
  rw [h, Traced.outcome_mapError] at hzero
  cases houtcome : check.outcome with
  | ok a => simp [houtcome, Except.mapError] at hzero
  | error e => simp [houtcome, Except.mapError] at hzero

theorem dividesByZero_fail (division : Division) :
    DividesByZero (Traced.fail (.zeroDivisor division) : Guarded α) := ⟨division, rfl⟩

/-! ## The interval rule -/

/-- `Params.periodLength` divides by the spacing. -/
def periodLength (p : Params) : Except Halt ℕ := quotient p.timespan.toNat p.spacing.toNat

/-- `isTransition` takes the remainder by the length of a period. -/
def isTransition (period : ℕ) (height : UInt64) : Except Halt Bool :=
  (remainder (height + 1).toNat period).map fun position => position = 0

/-- `nextPeriodTarget` divides by the timespan. -/
def nextPeriodTarget (p : Params) (target : Target) (time : Int) : Except Halt Target :=
  quotient (target * (UInt64.ofInt time).toNat) p.timespan.toNat

/-- `checkTransition` with a guarded target of the next period. -/
def checkTransition (p : Params) (first last : Block) (claimed : UInt32) : Guarded Unit := do
  let target ← (decodeBits last.bits).mapError .refused
  let next ← Traced.ofExcept (nextPeriodTarget p target (periodTime p first last))
  let ceiling ← (decodeBits p.ceilingBits).mapError .refused
  let required ← clampToCeiling ceiling next
  let expected := Compact.encode (Compact.truncate required claimed)
  if expected ≠ claimed then Traced.fail (.refused (.mismatch claimed.toNat expected.toNat))

/-- `checkInterval`, which needs the length of a period before anything else. -/
def checkInterval (p : Params) (previous : Block) (claimed : UInt32) (lookup : Lookup) :
    Guarded Unit := do
  let period ← Traced.ofExcept (periodLength p)
  let atTransition ← Traced.ofExcept (isTransition period previous.height)
  if !atTransition then
    if claimed ≠ previous.bits then
      Traced.fail (.refused (.unexpectedChange previous.height claimed previous.bits))
  else
    let first ← (ancestor lookup (period - 1) previous).mapError .refused
    let position ← Traced.ofExcept (remainder first.height.toNat period)
    if position ≠ 0 then
      Traced.fail (.refused (.chainInconsistent previous.height first.height))
    checkTransition p first previous claimed

section

variable {p : Params} {previous first : Block} {claimed : UInt32} {lookup : Lookup}

theorem periodLength_eq (h : p.spacing ≠ 0) : periodLength p = .ok p.periodLength := by
  refine quotient_of_ne_zero _ ?_
  intro hspacing
  exact h (UInt64.toNat_inj.mp hspacing)

theorem isTransition_eq {period : ℕ} (h : period ≠ 0) (height : UInt64) :
    isTransition period height = .ok (DarkGravity.isTransition period height) := by
  rw [isTransition, remainder_of_ne_zero _ h]
  rfl

/-- A period with a block takes some time. -/
theorem nextPeriodTarget_eq (h : p.periodLength ≠ 0) (target : Target) (time : Int) :
    nextPeriodTarget p target time = .ok (DarkGravity.nextPeriodTarget p target time) := by
  refine quotient_of_ne_zero _ ?_
  intro htimespan
  exact h (by rw [Params.periodLength, htimespan, Nat.zero_div])

theorem checkTransition_eq (h : p.periodLength ≠ 0) :
    checkTransition p first previous claimed =
      (DarkGravity.checkTransition p first previous claimed).mapError .refused := by
  unfold checkTransition DarkGravity.checkTransition
  rw [Traced.mapError_bind]
  congr 1
  funext target
  rw [nextPeriodTarget_eq h, Traced.ofExcept_ok_bind, Traced.mapError_bind]
  congr 1
  funext ceiling
  rw [Traced.mapError_bind]
  congr 1
  funext required
  dsimp only
  split_ifs <;> rfl

/-- Without a spacing, or with a period of no block, a guard fires at once. -/
theorem checkInterval_of_fault {fault : Params.PeriodFault} (h : p.period = .error fault) :
    checkInterval p previous claimed lookup = Traced.fail (.zeroDivisor fault.division) := by
  rw [Params.period] at h
  split_ifs at h with hspacing hperiod
  · obtain rfl := Except.error.inj h
    rw [checkInterval, periodLength, hspacing]
    rfl
  · obtain rfl := Except.error.inj h
    rw [checkInterval, periodLength_eq hspacing, Traced.ofExcept_ok_bind, hperiod]
    rfl

/-- With a period no guard fires. -/
theorem checkInterval_eq (h : p.periodLength ≠ 0) :
    checkInterval p previous claimed lookup =
      (DarkGravity.checkInterval p previous claimed lookup).mapError .refused := by
  have hspacing : p.spacing ≠ 0 := by
    intro hspacing
    exact h (by rw [Params.periodLength, hspacing]; exact Nat.div_zero _)
  unfold checkInterval DarkGravity.checkInterval
  rw [periodLength_eq hspacing, Traced.ofExcept_ok_bind, isTransition_eq h,
    Traced.ofExcept_ok_bind]
  cases DarkGravity.isTransition p.periodLength previous.height with
  | false =>
    simp only [Bool.not_false, if_true]
    split_ifs <;> rfl
  | true =>
    simp only [Bool.not_true, Bool.false_eq_true, if_false]
    rw [Traced.mapError_bind]
    congr 1
    funext first
    rw [remainder_of_ne_zero _ h, Traced.ofExcept_ok_bind, checkTransition_eq h]
    split_ifs <;> rfl

end

/-! ## Candidates -/

/-- `checkWave` with a guarded retarget. -/
def checkWave (p : Params) (ceiling : Target) (previous : Block) (claimed : UInt32)
    (lookup : Lookup) : Guarded Unit := do
  let version := p.versionAfter previous.height
  let required ← retarget version p previous lookup
  Traced.emit (.targetRequired (previous.height + 1) version required.blocks)
  (checkClaim ceiling required.target claimed).mapError .refused

/-- `checkRule` with guarded rules. -/
def checkRule (p : Params) (ceiling : Target) (previous : Block) (candidate : Header)
    (lookup : Lookup) : Guarded Unit :=
  match p.rule with
  | .interval => checkInterval p previous candidate.bits lookup
  | .darkGravityWave => checkWave p ceiling previous candidate.bits lookup

/-- `checkHeader` with guarded rules. Its relaxations do not divide. -/
def checkHeader (p : Params) (ceiling : Target) (previous : Block) (candidate : Header)
    (lookup : Lookup) : Guarded Unit :=
  match relaxation? p previous candidate with
  | some .late => (checkLate ceiling candidate).mapError .refused
  | some .beforeFork => Traced.emit (.claimNotEnforced (previous.height + 1))
  | none => checkRule p ceiling previous candidate lookup

/-- The check of a candidate under any parameters. -/
def checkUnvalidated (p : Params) (previous : Block) (candidate : Header) (lookup : Lookup) :
    Guarded Unit := do
  let ceiling ← (decodeBits p.ceilingBits).mapError .refused
  checkHeader p ceiling previous candidate lookup

/-- `Verifier.check` with guarded rules. A division by zero is no outcome to record. -/
def check (v : Verifier) (previous : Block) (candidate : Header) (lookup : Lookup) :
    Guarded Unit :=
  let result := checkHeader v.params v.ceiling previous candidate lookup
  let height := previous.height + 1
  match result.outcome with
  | .ok () => ⟨result.outcome, result.events ++ [.checkPassed height candidate.bits]⟩
  | .error (.refused e) => ⟨result.outcome, result.events ++ [.checkFailed height e]⟩
  | .error (.zeroDivisor _) => result

section

variable {p : Params} {ceiling : Target} {previous : Block} {candidate : Header} {lookup : Lookup}

theorem checkWave_eq {claimed : UInt32} :
    checkWave p ceiling previous claimed lookup =
      (DarkGravity.checkWave p ceiling previous claimed lookup).mapError .refused := by
  unfold checkWave DarkGravity.checkWave
  dsimp only
  rw [retarget_eq, Traced.mapError_bind]
  rfl

/-- A guard can only fire where the candidate is left to the interval rule. -/
theorem checkHeader_eq
    (h : p.rule = .interval → relaxation? p previous candidate = none → p.periodLength ≠ 0) :
    checkHeader p ceiling previous candidate lookup =
      (DarkGravity.checkHeader p ceiling previous candidate lookup).mapError .refused := by
  unfold checkHeader DarkGravity.checkHeader
  cases hrelaxation : relaxation? p previous candidate with
  | some relaxation => cases relaxation <;> rfl
  | none =>
    dsimp only
    unfold checkRule DarkGravity.checkRule
    cases hrule : p.rule with
    | interval => exact checkInterval_eq (h hrule hrelaxation)
    | darkGravityWave => exact checkWave_eq

/-- Without a period the interval rule ends at once. -/
theorem checkHeader_of_fault {fault : Params.PeriodFault} (hfault : p.period = .error fault)
    (hrule : p.rule = .interval) (hrelaxation : relaxation? p previous candidate = none) :
    checkHeader p ceiling previous candidate lookup =
      Traced.fail (.zeroDivisor fault.division) := by
  rw [checkHeader, hrelaxation]
  dsimp only
  rw [checkRule, hrule]
  exact checkInterval_of_fault hfault

/-- Parameters that were validated define a period. -/
theorem check_eq (v : Verifier) :
    check v previous candidate lookup = (v.check previous candidate lookup).mapError .refused := by
  have hperiod : v.params.periodLength ≠ 0 := Nat.pos_iff_ne_zero.mp v.periodLength_pos
  unfold check Verifier.check
  dsimp only
  rw [checkHeader_eq fun _ _ => hperiod, Traced.outcome_mapError]
  cases (DarkGravity.checkHeader v.params v.ceiling previous candidate lookup).outcome <;> rfl

end

/-! ## Parameters that were not validated -/

section

variable {p : Params} {previous : Block} {candidate : Header} {lookup : Lookup}
  {fault : Params.PeriodFault}

/-- Parameters define no period if they have no spacing or a shorter timespan. -/
theorem exists_period_eq_error_iff :
    (∃ fault, p.period = .error fault) ↔ p.spacing = 0 ∨ p.timespan < p.spacing := by
  have hlt : p.timespan < p.spacing ↔ p.timespan.toNat < p.spacing.toNat := UInt64.lt_iff_toNat_lt
  rw [Params.period]
  split_ifs with hspacing hperiod
  · exact iff_of_true ⟨_, rfl⟩ (.inl hspacing)
  · have hpos : p.spacing.toNat ≠ 0 := fun hzero => hspacing (UInt64.toNat_inj.mp hzero)
    refine iff_of_true ⟨_, rfl⟩ (.inr (hlt.mpr ?_))
    exact ((Nat.div_eq_zero_iff).mp hperiod).resolve_left hpos
  · refine iff_of_false (by simp) ?_
    rintro (hzero | hshort)
    · exact hspacing hzero
    · exact hperiod (Nat.div_eq_of_lt (hlt.mp hshort))

theorem periodLength_ne_zero {period : ℕ} (h : p.period = .ok period) : p.periodLength ≠ 0 := by
  rw [Params.period] at h
  split_ifs at h with hspacing hperiod
  exact hperiod

/-- A fault is reported where the ceiling is known and the interval rule decides. -/
theorem checkUnvalidated_eq_error_iff :
    DarkGravity.checkUnvalidated p previous candidate lookup = .error fault ↔
      (∃ ceiling, Compact.decode p.ceilingBits = .ok ceiling) ∧
      relaxation? p previous candidate = none ∧ p.rule = .interval ∧ p.period = .error fault := by
  unfold DarkGravity.checkUnvalidated
  cases Compact.decode p.ceilingBits with
  | error e => simp
  | ok ceiling =>
    dsimp only
    split_ifs with hdecides
    · obtain ⟨hrule, hrelaxation⟩ := hdecides
      cases hperiod : p.period <;> simp [hrule, hrelaxation, Except.map]
    · simp only [false_iff]
      rintro ⟨-, hrelaxation, hrule, -⟩
      exact hdecides ⟨hrule, hrelaxation⟩

theorem checkUnvalidated_of_decode {ceiling : Target}
    (h : Compact.decode p.ceilingBits = .ok ceiling) :
    checkUnvalidated p previous candidate lookup =
      checkHeader p ceiling previous candidate lookup := by
  rw [checkUnvalidated, decodeBits, h]
  exact Traced.ofExcept_ok_bind ceiling _

/-- Where a fault is reported, a guard fires before anything else. -/
theorem checkUnvalidated_of_fault
    (h : DarkGravity.checkUnvalidated p previous candidate lookup = .error fault) :
    checkUnvalidated p previous candidate lookup = Traced.fail (.zeroDivisor fault.division) := by
  obtain ⟨⟨ceiling, hceiling⟩, hrelaxation, hrule, hfault⟩ := checkUnvalidated_eq_error_iff.mp h
  rw [checkUnvalidated_of_decode hceiling, checkHeader_of_fault hfault hrule hrelaxation]

/-- Everywhere else no guard fires. -/
theorem runsAs_of_checkUnvalidated {checked : Check Unit}
    (h : DarkGravity.checkUnvalidated p previous candidate lookup = .ok checked) :
    RunsAs (checkUnvalidated p previous candidate lookup) checked := by
  refine runsAs_of_eq ?_
  cases hceiling : Compact.decode p.ceilingBits with
  | error e =>
    rw [DarkGravity.checkUnvalidated, hceiling] at h
    obtain rfl := Except.ok.inj h
    rw [checkUnvalidated, decodeBits, hceiling]
    rfl
  | ok ceiling =>
    rw [checkUnvalidated_of_decode hceiling]
    rw [DarkGravity.checkUnvalidated, hceiling] at h
    dsimp only at h
    split_ifs at h with hdecides
    · cases hperiod : p.period with
      | error fault => simp [hperiod, Except.map] at h
      | ok period =>
        rw [hperiod] at h
        obtain rfl := Except.ok.inj h
        exact checkHeader_eq fun _ _ => periodLength_ne_zero hperiod
    · obtain rfl := Except.ok.inj h
      exact checkHeader_eq fun hrule hrelaxation => absurd ⟨hrule, hrelaxation⟩ hdecides

/-- A division by zero is the same as a fault. -/
theorem dividesByZero_iff_fault :
    DividesByZero (checkUnvalidated p previous candidate lookup) ↔
      ∃ fault, DarkGravity.checkUnvalidated p previous candidate lookup = .error fault := by
  cases h : DarkGravity.checkUnvalidated p previous candidate lookup with
  | error fault =>
    rw [checkUnvalidated_of_fault h]
    exact iff_of_true (dividesByZero_fail _) ⟨fault, rfl⟩
  | ok checked => exact iff_of_false (runsAs_of_checkUnvalidated h).2 (by simp)

end

end Guarded

/-- A check divides by zero exactly where the ceiling is known, no relaxation decides, and the
interval rule is left with parameters that define no period; then it does so before any lookup. The
check without guards reports a fault exactly there, of the division that fails, and is the guarded
check everywhere else. With validated parameters no guard fires, neither in a check nor in a
retarget of either version nor in the interval rule. -/
theorem divides_by_zero_iff (p : Params) (previous : Block) (candidate : Header)
    (lookup : Lookup) :
    let run := Guarded.checkUnvalidated p previous candidate lookup
    (run.DividesByZero ↔
      (∃ ceiling, Compact.decode p.ceilingBits = .ok ceiling) ∧
      relaxation? p previous candidate = none ∧ p.rule = .interval ∧
      (p.spacing = 0 ∨ p.timespan < p.spacing)) ∧
    (run.DividesByZero → run.lookups = 0) ∧
    (∀ fault, checkUnvalidated p previous candidate lookup = .error fault →
      run = Traced.fail (.zeroDivisor fault.division)) ∧
    (∀ checked, checkUnvalidated p previous candidate lookup = .ok checked →
      run.RunsAs checked) ∧
    ∀ (ceiling : Target) (valid : p.validate = .ok ceiling),
      (Guarded.check ⟨p, ceiling, valid⟩ previous candidate lookup).RunsAs
        (Verifier.check ⟨p, ceiling, valid⟩ previous candidate lookup) ∧
      (∀ version, (Guarded.retarget version p previous lookup).RunsAs
        (retarget version p previous lookup)) ∧
      ∀ claimed, (Guarded.checkInterval p previous claimed lookup).RunsAs
        (checkInterval p previous claimed lookup) := by
  intro run
  refine ⟨?_, ?_, fun _ => Guarded.checkUnvalidated_of_fault,
    fun _ => Guarded.runsAs_of_checkUnvalidated, ?_⟩
  · simp only [run, Guarded.dividesByZero_iff_fault, Guarded.checkUnvalidated_eq_error_iff,
      exists_and_left, Guarded.exists_period_eq_error_iff]
  · intro hzero
    obtain ⟨fault, hfault⟩ := Guarded.dividesByZero_iff_fault.mp hzero
    rw [show run = _ from Guarded.checkUnvalidated_of_fault hfault, Traced.lookups_fail]
  · intro ceiling valid
    let v : Verifier := ⟨p, ceiling, valid⟩
    have hperiod : p.periodLength ≠ 0 := Nat.pos_iff_ne_zero.mp v.periodLength_pos
    exact ⟨Guarded.runsAs_of_eq (Guarded.check_eq v),
      fun version => Guarded.runsAs_of_eq (Guarded.retarget_eq version p previous lookup),
      fun claimed => Guarded.runsAs_of_eq (Guarded.checkInterval_eq hperiod)⟩

/-- Under the interval rule a preset with a timespan one second shorter than its spacing divides by
zero, and a lookup that would fail is not asked. The preset as it is does not. -/
theorem divides_by_zero_iff_of_short_timespan :
    let lookup : Lookup := fun _ => .error ⟨"down"⟩
    let previous : Block := ⟨.zero, 1439, 0x1e0fffff, 0, .zero⟩
    let candidate : Header := ⟨0, .zero, .zero, 60, 0x1e0fffff, 0⟩
    let p : Params := { Params.mainnet with rule := .interval }
    let short : Params := { p with timespan := 59 }
    (Guarded.checkUnvalidated short previous candidate lookup).DividesByZero ∧
    (Guarded.checkUnvalidated short previous candidate lookup).lookups = 0 ∧
    p.validate = .ok (0xfffff * Bytes.weight 27) ∧
    ¬ (Guarded.checkInterval p previous candidate.bits lookup).DividesByZero := by
  intro lookup previous candidate p short
  obtain ⟨hiff, hbefore, -⟩ := divides_by_zero_iff short previous candidate lookup
  have hzero := hiff.mpr ⟨⟨0xfffff * Bytes.weight 27, by decide⟩, by decide, rfl, by decide⟩
  have hvalid : p.validate = .ok (0xfffff * Bytes.weight 27) := by decide
  obtain ⟨-, -, -, -, hguards⟩ := divides_by_zero_iff p previous candidate lookup
  obtain ⟨-, -, hinterval⟩ := hguards _ hvalid
  exact ⟨hzero, hbefore hzero, hvalid, (hinterval candidate.bits).2⟩

end DarkGravity
