import DarkGravity.Log.Metrics
import DarkGravity.Proofs.Check.Transition

/-!
# What a check counts

Three kinds of events move counters: a check passes, a check fails, or a computed target is above
the ceiling. Walks move none of them. A check computes at most one target that it brings down to the
ceiling (`Verifier.Computes`), so what it counts is that target, if it is above the ceiling, and
then how the check ended (`counted_check`).
-/

namespace DarkGravity

/-- Whether an event moves a counter. -/
def Event.isCounted : Event → Bool
  | ceilingHit _ => true
  | checkPassed .. => true
  | checkFailed .. => true
  | _ => false

namespace Traced

variable {ε α β : Type}

/-- The events of a computation that move counters. -/
def counted (x : Traced Event ε α) : List Event := x.events.filter Event.isCounted

@[simp] theorem counted_pure (a : α) : (pure a : Traced Event ε α).counted = [] := rfl

@[simp] theorem counted_fail (e : ε) : (fail e : Traced Event ε α).counted = [] := rfl

theorem counted_emit_of_not_isCounted {event : Event} (h : event.isCounted = false) :
    (emit event : Traced Event ε Unit).counted = [] := by
  simp [counted, emit, h]

theorem counted_bind_of_ok {x : Traced Event ε α} {a : α} (h : x.outcome = .ok a)
    (f : α → Traced Event ε β) : (x >>= f).counted = x.counted ++ (f a).counted := by
  rw [counted, events_bind_of_ok h, List.filter_append]
  rfl

theorem counted_bind_of_error {x : Traced Event ε α} {e : ε} (h : x.outcome = .error e)
    (f : α → Traced Event ε β) : (x >>= f).counted = x.counted := by
  rw [counted, events_bind_of_error h]
  rfl

/-- A sequence counts nothing if no part of it does. -/
theorem counted_bind_eq_nil {x : Traced Event ε α} {f : α → Traced Event ε β}
    (hx : x.counted = []) (hf : ∀ a, (f a).counted = []) : (x >>= f).counted = [] := by
  cases h : x.outcome with
  | ok a => rw [counted_bind_of_ok h, hx, hf, List.append_nil]
  | error e => rw [counted_bind_of_error h, hx]

end Traced

/-! ## Walks -/

section

variable {p : Params} {lookup : Lookup} {block previous first : Block} {n : ℕ}

theorem counted_parent? : (parent? lookup block).counted = [] := by
  apply Traced.counted_bind_eq_nil (Traced.counted_emit_of_not_isCounted rfl)
  intro _
  cases lookup block.previous <;> rfl

theorem counted_visitFrom {σ : Type} {visit : Visitor σ} {least remaining count : ℕ} {state : σ} :
    (visitFrom lookup least visit remaining count block state).counted = [] := by
  induction remaining generalizing count block state with
  | zero => exact Traced.counted_bind_eq_nil rfl fun _ => rfl
  | succ remaining ih =>
    apply Traced.counted_bind_eq_nil rfl
    intro state'
    split
    · rfl
    · apply Traced.counted_bind_eq_nil counted_parent?
      rintro (_ | parent)
      · dsimp only
        split
        · exact Traced.counted_bind_eq_nil (Traced.counted_emit_of_not_isCounted rfl) fun _ => rfl
        · rfl
      · exact ih

theorem counted_ancestor : (ancestor lookup n block).counted = [] := by
  induction n generalizing block with
  | zero => rfl
  | succ n ih =>
    apply Traced.counted_bind_eq_nil counted_parent?
    rintro (_ | parent)
    · rfl
    · exact ih

theorem counted_retarget {version : Version} :
    (retarget version p previous lookup).counted = [] := by
  have hwalk : (walkRetarget version p previous lookup).counted = [] := by
    cases version <;> exact Traced.counted_bind_eq_nil counted_visitFrom fun _ => rfl
  rw [retarget]
  split
  · rw [← bind_pure_comp]
    exact Traced.counted_bind_eq_nil rfl fun _ => rfl
  · apply Traced.counted_bind_eq_nil hwalk
    intro result
    exact Traced.counted_bind_eq_nil (Traced.counted_emit_of_not_isCounted rfl) fun _ => rfl

/-! ## Comparisons with the ceiling -/

/-- The count of a target above the ceiling. -/
def overCeiling (ceiling calculated : Target) : List Event :=
  if ceiling < calculated then [.ceilingHit calculated] else []

theorem counted_clampToCeiling {ε : Type} {ceiling calculated : Target} :
    (clampToCeiling (ε := ε) ceiling calculated).counted = overCeiling ceiling calculated := by
  rw [Traced.counted, clampToCeiling, overCeiling]
  split <;> rfl

/-- The target is counted before the claim is decoded. -/
theorem counted_checkClaim {ceiling calculated : Target} {claimed : UInt32} :
    (checkClaim ceiling calculated claimed).counted = overCeiling ceiling calculated := by
  have hcompare : ∀ received, (if Compact.truncate (min calculated ceiling) claimed ≠ received then
      Traced.fail (.mismatch received (Compact.truncate (min calculated ceiling) claimed))
      else pure () : Check Unit).counted = [] := by
    intro received
    split <;> rfl
  rw [checkClaim, Traced.counted_bind_of_ok (outcome_clampToCeiling _ _), counted_clampToCeiling,
    Traced.counted_bind_eq_nil rfl hcompare, List.append_nil]

theorem counted_checkTransition {ceiling target : Target} {claimed : UInt32}
    (hceiling : Compact.decode p.ceilingBits = .ok ceiling)
    (htarget : Compact.decode previous.bits = .ok target) :
    (checkTransition p first previous claimed).counted =
      overCeiling ceiling (nextPeriodTarget p target (periodTime p first previous)) := by
  rw [checkTransition, Traced.counted_bind_of_ok (outcome_decodeBits_of_ok htarget)]
  dsimp only
  rw [Traced.counted_bind_of_ok (outcome_decodeBits_of_ok hceiling),
    Traced.counted_bind_of_ok (outcome_clampToCeiling _ _), counted_clampToCeiling]
  split <;> exact List.append_nil _

theorem counted_checkTransition_of_error {claimed : UInt32} {source : Compact.Error}
    (htarget : Compact.decode previous.bits = .error source) :
    (checkTransition p first previous claimed).counted = [] := by
  have hdecode : (decodeBits previous.bits).outcome = .error (.invalidCompact source) := by
    rw [decodeBits, Traced.outcome_ofExcept, htarget]
    rfl
  rw [checkTransition, Traced.counted_bind_of_error hdecode]
  rfl

/-! ## The interval rule -/

section Interval

variable {claimed : UInt32}

theorem counted_checkInterval_of_inside
    (h : isTransition p.periodLength previous.height = false) :
    (checkInterval p previous claimed lookup).counted = [] := by
  simp only [checkInterval, h]
  by_cases hchange : claimed ≠ previous.bits
  · simp [hchange]
  · simp [hchange]

/-- At a transition the walk counts nothing, so all depends on its end. -/
theorem counted_checkInterval_of_transition
    (h : isTransition p.periodLength previous.height = true) :
    (checkInterval p previous claimed lookup).counted =
      match (ancestor lookup (p.periodLength - 1) previous).outcome with
      | .ok first =>
        if first.height.toNat % p.periodLength ≠ 0 then []
        else (checkTransition p first previous claimed).counted
      | .error _ => [] := by
  simp only [checkInterval, h, Bool.not_true, Bool.false_eq_true, if_false]
  cases hfirst : (ancestor lookup (p.periodLength - 1) previous).outcome with
  | error e => rw [Traced.counted_bind_of_error hfirst, counted_ancestor]
  | ok first =>
    rw [Traced.counted_bind_of_ok hfirst, counted_ancestor, List.nil_append]
    dsimp only
    split <;> rfl

end Interval

end

/-! ## Candidates -/

namespace Verifier

/-- The check of the candidate computes this target and brings it down to the ceiling. -/
inductive Computes (v : Verifier) (previous : Block) (candidate : Header) (lookup : Lookup) :
    Target → Prop
  /-- A late candidate is compared with its own claim. -/
  | late {own : Target} (late : relaxation? v.params previous candidate = some .late)
      (decodes : Compact.decode candidate.bits = .ok own) : Computes v previous candidate lookup own
  /-- Dark Gravity Wave computes a target from the blocks below the candidate. -/
  | wave {required : Retarget} (enforced : relaxation? v.params previous candidate = none)
      (rule : v.params.rule = .darkGravityWave)
      (retargets : (retarget (v.params.versionAfter previous.height) v.params previous
        lookup).outcome = .ok required) : Computes v previous candidate lookup required.target
  /-- The interval rule computes a target at the end of a period. -/
  | transition {first : Block} {target : Target}
      (enforced : relaxation? v.params previous candidate = none)
      (rule : v.params.rule = .interval) (period : lookup.SpansPeriod v.params first previous)
      (decodes : Compact.decode previous.bits = .ok target) :
      Computes v previous candidate lookup
        (nextPeriodTarget v.params target (periodTime v.params first previous))

variable {v : Verifier} {previous : Block} {candidate : Header} {lookup : Lookup}

/-- A check that computes a target counts it, if it is above the ceiling. -/
theorem Computes.counted_checkHeader {target : Target}
    (h : v.Computes previous candidate lookup target) :
    (checkHeader v.params v.ceiling previous candidate lookup).counted =
      overCeiling v.ceiling target := by
  rw [checkHeader]
  cases h with
  | late hlate hdecodes =>
    simp only [hlate]
    rw [checkLate, Traced.counted_bind_of_ok (outcome_decodeBits_of_ok hdecodes),
      counted_checkClaim]
    rfl
  | wave henforced hrule hrequired =>
    simp only [henforced, checkRule, hrule]
    rw [checkWave, Traced.counted_bind_of_ok hrequired, counted_retarget, List.nil_append,
      Traced.counted_bind_of_ok (Traced.outcome_emit _),
      Traced.counted_emit_of_not_isCounted rfl, counted_checkClaim, List.nil_append]
  | transition henforced hrule hperiod hdecodes =>
    simp only [henforced, checkRule, hrule]
    rw [counted_checkInterval_of_transition hperiod.transition, hperiod.found]
    dsimp only
    rw [if_neg (not_not_intro hperiod.boundary),
      counted_checkTransition v.decode_ceilingBits hdecodes]

/-- A check that computes no target counts none. -/
theorem counted_checkHeader_of_not_computes
    (h : ∀ target, ¬ v.Computes previous candidate lookup target) :
    (checkHeader v.params v.ceiling previous candidate lookup).counted = [] := by
  rw [checkHeader]
  cases hrelaxation : relaxation? v.params previous candidate with
  | some relaxation =>
    cases relaxation with
    | beforeFork => exact Traced.counted_emit_of_not_isCounted rfl
    | late =>
      cases hdecode : (decodeBits candidate.bits).outcome with
      | ok own =>
        exact absurd (.late hrelaxation (outcome_decodeBits_eq_ok_iff.mp hdecode)) (h own)
      | error e =>
        dsimp only
        rw [checkLate, Traced.counted_bind_of_error hdecode]
        rfl
  | none =>
    simp only [checkRule]
    cases hrule : v.params.rule with
    | darkGravityWave =>
      dsimp only
      cases hrequired : (retarget (v.params.versionAfter previous.height) v.params previous
          lookup).outcome with
      | ok required => exact absurd (.wave hrelaxation hrule hrequired) (h required.target)
      | error e => rw [checkWave, Traced.counted_bind_of_error hrequired, counted_retarget]
    | interval =>
      dsimp only
      cases htransition : isTransition v.params.periodLength previous.height with
      | false => exact counted_checkInterval_of_inside htransition
      | true =>
        rw [counted_checkInterval_of_transition htransition]
        split
        · next first hfound =>
          split
          · rfl
          · next hboundary =>
            have hperiod : lookup.SpansPeriod v.params first previous :=
              ⟨htransition, hfound, not_ne_iff.mp hboundary⟩
            cases hdecode : Compact.decode previous.bits with
            | ok target => exact absurd (.transition hrelaxation hrule hperiod hdecode) (h _)
            | error source => exact counted_checkTransition_of_error hdecode
        · rfl

/-- The check of the candidate computes a target above the ceiling. -/
def Exceeds (v : Verifier) (previous : Block) (candidate : Header) (lookup : Lookup) : Prop :=
  ∃ target, v.Computes previous candidate lookup target ∧ v.ceiling < target

/-- Before its end a check counts a target above the ceiling or nothing. -/
theorem counted_checkHeader_cases (v : Verifier) (previous : Block) (candidate : Header)
    (lookup : Lookup) :
    (∃ target, v.Computes previous candidate lookup target ∧ v.ceiling < target ∧
      (checkHeader v.params v.ceiling previous candidate lookup).counted =
        [.ceilingHit target]) ∨
    ¬ v.Exceeds previous candidate lookup ∧
      (checkHeader v.params v.ceiling previous candidate lookup).counted = [] := by
  by_cases hexceeds : v.Exceeds previous candidate lookup
  · obtain ⟨target, hcomputes, habove⟩ := hexceeds
    refine .inl ⟨target, hcomputes, habove, ?_⟩
    rw [hcomputes.counted_checkHeader, overCeiling, if_pos habove]
  · refine .inr ⟨hexceeds, ?_⟩
    by_cases hcomputes : ∃ target, v.Computes previous candidate lookup target
    · obtain ⟨target, hcomputes⟩ := hcomputes
      rw [hcomputes.counted_checkHeader, overCeiling, if_neg]
      exact fun habove => hexceeds ⟨target, hcomputes, habove⟩
    · exact counted_checkHeader_of_not_computes fun target h => hcomputes ⟨target, h⟩

/-- The event of how a check ended. -/
def verdict (previous : Block) (candidate : Header) : Except CheckError Unit → Event
  | .ok () => .checkPassed (previous.height + 1) candidate.bits
  | .error e => .checkFailed (previous.height + 1) e

/-- At its end a check counts how it ended. -/
theorem counted_check :
    (v.check previous candidate lookup).counted =
      (checkHeader v.params v.ceiling previous candidate lookup).counted ++
        [verdict previous candidate (v.check previous candidate lookup).outcome] := by
  rw [outcome_check, Traced.counted, check, List.filter_append]
  congr 1
  cases (checkHeader v.params v.ceiling previous candidate lookup).outcome <;> rfl

open Log.Metrics

/-- Only the end of a check can be counted as anything but a target above the ceiling. -/
theorem countP_check {f : Event → Bool} (hf : ∀ target, f (.ceilingHit target) = false) :
    (v.check previous candidate lookup).counted.countP f =
      if f (verdict previous candidate (v.check previous candidate lookup).outcome) then 1
      else 0 := by
  have hbefore :
      (checkHeader v.params v.ceiling previous candidate lookup).counted.countP f = 0 := by
    rcases counted_checkHeader_cases v previous candidate lookup with
      ⟨target, -, -, hcounted⟩ | ⟨-, hcounted⟩
    · rw [hcounted, List.countP_singleton, hf]
      rfl
    · rw [hcounted, List.countP_nil]
  rw [counted_check, List.countP_append, hbefore, Nat.zero_add, List.countP_singleton]

/-- A check that passes is counted as that, and not as one that fails. -/
theorem countP_check_of_ok (h : (v.check previous candidate lookup).outcome = .ok ()) :
    (v.check previous candidate lookup).counted.countP isPass = 1 ∧
      ∀ label, (v.check previous candidate lookup).counted.countP (isFailure label) = 0 := by
  constructor
  · rw [countP_check fun _ => rfl, h]
    rfl
  · intro label
    rw [countP_check fun _ => rfl, h]
    rfl

/-- A check that fails is counted under the label of its error, and not as one that passes. -/
theorem countP_check_of_error {e : CheckError}
    (h : (v.check previous candidate lookup).outcome = .error e) :
    (v.check previous candidate lookup).counted.countP isPass = 0 ∧
      ∀ label, (v.check previous candidate lookup).counted.countP (isFailure label) =
        if e.label = label then 1 else 0 := by
  constructor
  · rw [countP_check fun _ => rfl, h]
    rfl
  · intro label
    rw [countP_check fun _ => rfl, h]
    simp [verdict, isFailure]

open Classical in
/-- A check counts at most one target above the ceiling. -/
theorem countP_isCeilingHit_check :
    (v.check previous candidate lookup).counted.countP isCeilingHit =
      if v.Exceeds previous candidate lookup then 1 else 0 := by
  have hlast : ∀ outcome, [verdict previous candidate outcome].countP isCeilingHit = 0 := by
    rintro (e | ⟨⟩) <;> rfl
  rw [counted_check, List.countP_append, hlast]
  rcases counted_checkHeader_cases v previous candidate lookup with
    ⟨target, hcomputes, habove, hcounted⟩ | ⟨hexceeds, hcounted⟩
  · rw [hcounted, if_pos ⟨target, hcomputes, habove⟩]
    rfl
  · rw [hcounted, if_neg hexceeds]
    rfl

end Verifier

end DarkGravity
