import DarkGravity.Retarget.DarkGravityWave
import Mathlib.Data.Nat.Notation
import Mathlib.Tactic.SplitIfs

/-!
# Retargets with guarded divisions

The operators of the rules give a result for every divisor. Here each division by a number that is
no constant is guarded: it halts the computation where the divisor is zero. Every function of the
rules with such a division has a guarded one of the same name, which is shown to run as the function
that it guards. For Dark Gravity Wave that needs no condition on the parameters
(`Guarded.retarget_eq`): means divide by the number of a sample, the blend is made only after a
difference of timestamps, and the expected timespan counts as one at least.
-/

namespace DarkGravity

/-- The operations that have no result for a divisor of zero. -/
inductive Division where
  | quotient
  | remainder
  deriving DecidableEq, Repr

/-- How a guarded computation ends without a value. -/
inductive Halt where
  /-- A divisor was zero. -/
  | zeroDivisor (division : Division)
  /-- The candidate is refused, as without guards. -/
  | refused (error : CheckError)
  deriving DecidableEq

/-- A part of a check with guarded divisions. -/
abbrev Guarded := Traced Event Halt

namespace Traced

variable {ω ε ε' α β : Type} (f : ε → ε')

theorem mapError_ofExcept (x : Except ε α) :
    (ofExcept x : Traced ω ε α).mapError f = ofExcept (x.mapError f) := rfl

theorem ofExcept_ok_bind (a : α) (g : α → Traced ω ε β) : ofExcept (.ok a) >>= g = g a :=
  pure_bind a g

/-- The errors of a sequence are those of its parts. -/
theorem mapError_bind (x : Traced ω ε α) (g : α → Traced ω ε β) :
    (x >>= g).mapError f = x.mapError f >>= fun a => (g a).mapError f := by
  obtain ⟨outcome, events⟩ := x
  cases outcome <;> rfl

end Traced

namespace Guarded

/-! ## Divisions -/

/-- The quotient of natural numbers. -/
def quotient (dividend divisor : ℕ) : Except Halt ℕ :=
  if divisor = 0 then .error (.zeroDivisor .quotient) else .ok (dividend / divisor)

/-- The quotient of signed numbers, truncated toward zero. -/
def quotientInt (dividend divisor : Int) : Except Halt Int :=
  if divisor = 0 then .error (.zeroDivisor .quotient) else .ok (dividend.tdiv divisor)

/-- The remainder of natural numbers. -/
def remainder (dividend divisor : ℕ) : Except Halt ℕ :=
  if divisor = 0 then .error (.zeroDivisor .remainder) else .ok (dividend % divisor)

theorem quotient_of_ne_zero (dividend : ℕ) {divisor : ℕ} (h : divisor ≠ 0) :
    quotient dividend divisor = .ok (dividend / divisor) :=
  if_neg h

theorem quotientInt_of_ne_zero (dividend : Int) {divisor : Int} (h : divisor ≠ 0) :
    quotientInt dividend divisor = .ok (dividend.tdiv divisor) :=
  if_neg h

theorem remainder_of_ne_zero (dividend : ℕ) {divisor : ℕ} (h : divisor ≠ 0) :
    remainder dividend divisor = .ok (dividend % divisor) :=
  if_neg h

/-! ## Means -/

/-- `Mean.toward` divides by the number of the sample. -/
def meanToward (mean sample count : ℕ) : Except Halt ℕ :=
  if mean ≤ sample then (quotient (sample - mean) count).map (mean + ·)
  else (quotient (mean - sample) count).map (mean - ·)

/-- `Mean.weighted` divides by the number after that of the sample. -/
def meanWeighted (mean sample count : ℕ) : Except Halt ℕ :=
  quotient (mean * count + sample) (count + 1)

/-- `Mean.towardInt` divides by the number of the sample. -/
def meanTowardInt (mean sample : Int) (count : ℕ) : Except Halt Int :=
  (quotientInt (sample - mean) count).map (· + mean)

/-- The guarded mean is the mean for every sample that has a number. -/
def GuardsMean (guarded : ℕ → ℕ → ℕ → Except Halt ℕ) (mean : ℕ → ℕ → ℕ → ℕ) : Prop :=
  ∀ average sample count, count ≠ 0 →
    guarded average sample count = .ok (mean average sample count)

theorem guardsMean_toward : GuardsMean meanToward Mean.toward := by
  intro average sample count hcount
  unfold meanToward Mean.toward
  split_ifs
  · rw [quotient_of_ne_zero _ hcount]
    rfl
  · rw [quotient_of_ne_zero _ hcount]
    rfl

theorem guardsMean_weighted : GuardsMean meanWeighted Mean.weighted := by
  intro average sample count _
  exact quotient_of_ne_zero _ (Nat.succ_ne_zero count)

theorem meanTowardInt_eq (mean sample : Int) {count : ℕ} (hcount : count ≠ 0) :
    meanTowardInt mean sample count = .ok (Mean.towardInt mean sample count) := by
  rw [meanTowardInt, quotientInt_of_ne_zero _ (Int.natCast_ne_zero.mpr hcount)]
  rfl

/-! ## Visits -/

/-- `averageTarget` divides as its mean does, and not for the first sample. -/
def averageTarget (mean : ℕ → ℕ → ℕ → Except Halt ℕ) (least count : ℕ) (bits : UInt32)
    (average : Target) : Except Halt Target :=
  if least < count then .ok average
  else
    match Compact.decode bits with
    | .ok sample => if count = 1 then .ok sample else mean average sample count
    | .error e => .error (.refused (.invalidCompact e))

theorem averageTarget_eq {guarded : ℕ → ℕ → ℕ → Except Halt ℕ} {mean : ℕ → ℕ → ℕ → ℕ}
    (h : GuardsMean guarded mean) (least : ℕ) {count : ℕ} (hcount : count ≠ 0) (bits : UInt32)
    (average : Target) :
    averageTarget guarded least count bits average =
      (DarkGravity.averageTarget mean least count bits average).mapError .refused := by
  unfold averageTarget DarkGravity.averageTarget
  by_cases hpast : least < count
  · rw [if_pos hpast, if_pos hpast]
    rfl
  · rw [if_neg hpast, if_neg hpast]
    cases Compact.decode bits with
    | error e => rfl
    | ok sample =>
      dsimp only
      split_ifs
      · rfl
      · exact h average sample count hcount

/-- The short mean after one more difference. -/
def shortMean (t : BlockTimes) (least : ℕ) (delta : Int) : Except Halt Int :=
  if ¬ t.shortCount ≤ least then .ok t.shortMean
  else if t.shortCount + 1 = 1 then .ok delta
  else meanTowardInt t.shortMean delta (t.shortCount + 1)

/-- `BlockTimes.addDelta` divides for its short mean. -/
def addDelta (t : BlockTimes) (least : ℕ) (delta : Int) : Except Halt BlockTimes :=
  (shortMean t least delta).map fun mean =>
    { t with
      shortCount := if t.shortCount ≤ least then t.shortCount + 1 else t.shortCount
      shortMean := mean
      longCount := t.longCount + 1
      longSum := t.longSum + delta }

theorem addDelta_eq (t : BlockTimes) (least : ℕ) (delta : Int) :
    addDelta t least delta = .ok (t.addDelta least delta) := by
  have hmean : shortMean t least delta = .ok (t.addDelta least delta).shortMean := by
    by_cases hshort : t.shortCount ≤ least
    · by_cases hfirst : t.shortCount = 0
      · simp [shortMean, BlockTimes.addDelta, hfirst]
      · simp [shortMean, BlockTimes.addDelta, hshort, hfirst, meanTowardInt_eq]
    · simp [shortMean, BlockTimes.addDelta, hshort]
  rw [addDelta, hmean]
  simp [Except.map, BlockTimes.addDelta]

/-- `BlockTimes.add` divides for a difference that it takes. -/
def add (t : BlockTimes) (least : ℕ) (timestamp : UInt64) : Except Halt BlockTimes :=
  let time := signed timestamp
  let t' := if 0 < t.last then addDelta t least (max (t.last - time) 0) else .ok t
  t'.map fun t' => { t' with last := time }

theorem add_eq (t : BlockTimes) (least : ℕ) (timestamp : UInt64) :
    add t least timestamp = .ok (t.add least timestamp) := by
  unfold add BlockTimes.add
  dsimp only
  split_ifs
  · rw [addDelta_eq]
    rfl
  · rfl

/-- A visitor with guarded divisions. -/
abbrev Visitor (σ : Type) := (count : ℕ) → Block → σ → Except Halt σ

/-- The visit of version 1. -/
def visitSmooth (least : ℕ) : Visitor SmoothState := fun count block s => do
  let average ← averageTarget meanToward least count block.bits s.average
  let times ← add s.times least block.timestamp
  return ⟨average, times⟩

/-- The visit of version 3. -/
def visitRaw (least : ℕ) : Visitor RawState := fun count block s => do
  let average ← averageTarget meanWeighted least count block.bits s.average
  let time := signed block.timestamp
  return ⟨average, time, if 0 < s.last then s.elapsed + (s.last - time) else s.elapsed⟩

/-- The guarded visitor visits every block that has a number as the visitor does. -/
def GuardsVisitor {σ : Type} (guarded : Visitor σ) (visit : DarkGravity.Visitor σ) : Prop :=
  ∀ count block state, count ≠ 0 →
    guarded count block state = (visit count block state).mapError .refused

theorem guardsVisitor_smooth (least : ℕ) :
    GuardsVisitor (visitSmooth least) (DarkGravity.visitSmooth least) := by
  intro count block s hcount
  rw [visitSmooth, averageTarget_eq guardsMean_toward least hcount, DarkGravity.visitSmooth,
    add_eq]
  cases DarkGravity.averageTarget Mean.toward least count block.bits s.average <;> rfl

theorem guardsVisitor_raw (least : ℕ) :
    GuardsVisitor (visitRaw least) (DarkGravity.visitRaw least) := by
  intro count block s hcount
  rw [visitRaw, averageTarget_eq guardsMean_weighted least hcount, DarkGravity.visitRaw]
  cases DarkGravity.averageTarget Mean.weighted least count block.bits s.average <;> rfl

/-! ## Walks -/

/-- A walk divides only in its visits. -/
def visitFrom {σ : Type} (lookup : Lookup) (least : ℕ) (visit : Visitor σ) :
    (remaining count : ℕ) → Block → σ → Guarded (ℕ × σ)
  | 0, count, block, state => do
    let state ← Traced.ofExcept (visit count block state)
    return (count, state)
  | remaining + 1, count, block, state => do
    let state ← Traced.ofExcept (visit count block state)
    if block.height ≤ 1 then return (count, state)
    else
      match ← (parent? lookup block).mapError .refused with
      | some parent => visitFrom lookup least visit remaining (count + 1) parent state
      | none =>
        if least ≤ count then do
          Traced.emit (.windowCut block.height count)
          return (count, state)
        else Traced.fail (.refused (parentMissing block))

/-- Blocks are numbered from one on, so no guard of a visit fires. -/
theorem visitFrom_eq {σ : Type} {guarded : Visitor σ} {visit : DarkGravity.Visitor σ}
    (h : GuardsVisitor guarded visit) (lookup : Lookup) (least remaining : ℕ) {count : ℕ}
    (hcount : count ≠ 0) (block : Block) (state : σ) :
    visitFrom lookup least guarded remaining count block state =
      (DarkGravity.visitFrom lookup least visit remaining count block state).mapError
        .refused := by
  induction remaining generalizing count block state with
  | zero =>
    rw [visitFrom, DarkGravity.visitFrom, Traced.mapError_bind, Traced.mapError_ofExcept,
      h count block state hcount]
    rfl
  | succ remaining ih =>
    rw [visitFrom, DarkGravity.visitFrom, Traced.mapError_bind, Traced.mapError_ofExcept,
      h count block state hcount]
    congr 1
    funext state
    by_cases hlow : block.height ≤ 1
    · rw [if_pos hlow, if_pos hlow]
      rfl
    · rw [if_neg hlow, if_neg hlow, Traced.mapError_bind]
      congr 1
      funext found
      cases found with
      | some parent => exact ih (Nat.succ_ne_zero count) parent state
      | none =>
        dsimp only
        split_ifs <;> rfl

/-- `visitAncestors` with guarded visits. -/
def visitAncestors {σ : Type} (lookup : Lookup) (window : Window) (visit : Visitor σ)
    (block : Block) (state : σ) : Guarded (ℕ × σ) :=
  visitFrom lookup window.least.toNat visit (window.most.toNat - 1) 1 block state

theorem visitAncestors_eq {σ : Type} {guarded : Visitor σ} {visit : DarkGravity.Visitor σ}
    (h : GuardsVisitor guarded visit) (lookup : Lookup) (window : Window) (block : Block)
    (state : σ) :
    visitAncestors lookup window guarded block state =
      (DarkGravity.visitAncestors lookup window visit block state).mapError .refused :=
  visitFrom_eq h lookup _ _ Nat.one_ne_zero block state

/-! ## Required targets -/

/-- `scaleTarget` divides by an expected timespan that counts as one at least. -/
def scaleTarget (target : Target) (actual expected : Int) : Except Halt Target :=
  quotient (target * actual.toNat) (max expected 1).toNat

theorem scaleTarget_eq (target : Target) (actual expected : Int) :
    scaleTarget target actual expected = .ok (DarkGravity.scaleTarget target actual expected) :=
  quotient_of_ne_zero _ (by omega)

/-- `BlockTimes.blend` divides for the mean of all differences. -/
def blend (t : BlockTimes) : Except Halt Float :=
  (quotientInt t.longSum t.longCount).map fun longMean =>
    let mixed := (Int64.ofInt t.shortMean).toFloat * 0.7 + (Int64.ofInt longMean).toFloat * 0.3
    if mixed < 1.0 then 1.0 else mixed

theorem blend_eq {t : BlockTimes} (h : t.longCount ≠ 0) : blend t = .ok t.blend := by
  rw [blend, quotientInt_of_ne_zero _ (Int.natCast_ne_zero.mpr h)]
  rfl

/-- `BlockTimes.timespans` divides for the blend. Its other quotients are of floating-point numbers,
which have a result for every divisor. -/
def timespans (t : BlockTimes) (blocks : ℕ) (spacing : UInt64) : Except Halt (Int × Int) :=
  (blend t).map fun blend =>
    let spacing := spacing.toFloat
    let shift := spacing / blend
    let expected := (UInt64.ofNat blocks).toFloat * spacing
    let actual := expected / shift
    let actual := if actual < expected / 3.0 then expected / 3.0 else actual
    let actual := if actual > expected * 3.0 then expected * 3.0 else actual
    (actual.toInt64.toInt, expected.toInt64.toInt)

theorem timespans_eq {t : BlockTimes} (h : t.longCount ≠ 0) (blocks : ℕ) (spacing : UInt64) :
    timespans t blocks spacing = .ok (t.timespans blocks spacing) := by
  rw [timespans, blend_eq h]
  rfl

/-- The retarget of version 1 from a finished walk. -/
def smoothRetarget (s : SmoothState) (blocks : ℕ) (spacing : UInt64) : Except Halt Retarget :=
  if s.times.shortCount = 0 || s.times.longCount = 0 then .ok ⟨s.average, blocks, 0, 0⟩
  else do
    let (actual, expected) ← timespans s.times blocks spacing
    let target ← scaleTarget s.average actual expected
    return ⟨target, blocks, actual, expected⟩

/-- Without a difference there is no blend. -/
theorem smoothRetarget_eq (s : SmoothState) (blocks : ℕ) (spacing : UInt64) :
    smoothRetarget s blocks spacing = .ok (s.retarget blocks spacing) := by
  unfold smoothRetarget SmoothState.retarget
  split_ifs with hnone
  · rfl
  · have hlong : s.times.longCount ≠ 0 := by
      intro hzero
      simp [hzero] at hnone
    rw [timespans_eq hlong]
    show (do
      let target ← scaleTarget s.average _ _
      return (⟨target, _, _, _⟩ : Retarget)) = _
    rw [scaleTarget_eq]
    rfl

/-- The retarget of version 3 from a finished walk. -/
def rawRetarget (s : RawState) (blocks : ℕ) (spacing : UInt64) : Except Halt Retarget :=
  let expected := (blocks : Int) * signed spacing
  let actual := clampTimespan s.elapsed expected
  (scaleTarget s.average actual expected).map fun target => ⟨target, blocks, actual, expected⟩

theorem rawRetarget_eq (s : RawState) (blocks : ℕ) (spacing : UInt64) :
    rawRetarget s blocks spacing = .ok (s.retarget blocks spacing) := by
  simp only [rawRetarget, scaleTarget_eq]
  rfl

/-- `walkRetarget` with guarded visits and a guarded end. -/
def walkRetarget (version : Version) (p : Params) (previous : Block) (lookup : Lookup) :
    Guarded Retarget :=
  let window := p.window version
  let least := window.least.toNat
  match version with
  | .v1 => do
    let (blocks, s) ← visitAncestors lookup window (visitSmooth least) previous ⟨0, .empty⟩
    Traced.ofExcept (smoothRetarget s blocks p.spacing)
  | .v3 => do
    let (blocks, s) ← visitAncestors lookup window (visitRaw least) previous ⟨0, 0, 0⟩
    Traced.ofExcept (rawRetarget s blocks p.spacing)

theorem walkRetarget_eq (version : Version) (p : Params) (previous : Block) (lookup : Lookup) :
    walkRetarget version p previous lookup =
      (DarkGravity.walkRetarget version p previous lookup).mapError .refused := by
  cases version with
  | v1 =>
    simp only [walkRetarget, DarkGravity.walkRetarget, Traced.mapError_bind,
      visitAncestors_eq (guardsVisitor_smooth _), smoothRetarget_eq]
    rfl
  | v3 =>
    simp only [walkRetarget, DarkGravity.walkRetarget, Traced.mapError_bind,
      visitAncestors_eq (guardsVisitor_raw _), rawRetarget_eq]
    rfl

/-- `retarget` with a guarded walk. -/
def retarget (version : Version) (p : Params) (previous : Block) (lookup : Lookup) :
    Guarded Retarget :=
  if tooShort (p.window version) previous then
    (Retarget.ofCeiling <$> decodeBits p.ceilingBits).mapError .refused
  else do
    let result ← walkRetarget version p previous lookup
    Traced.emit (.retargeted version previous.height result)
    return result

/-- Neither version divides by zero, whatever the parameters and the stored blocks are. -/
theorem retarget_eq (version : Version) (p : Params) (previous : Block) (lookup : Lookup) :
    retarget version p previous lookup =
      (DarkGravity.retarget version p previous lookup).mapError .refused := by
  unfold retarget DarkGravity.retarget
  split_ifs
  · rfl
  · rw [walkRetarget_eq, Traced.mapError_bind]
    rfl

end Guarded

end DarkGravity
