import DarkGravity.Proofs.Division.Retarget
import DarkGravity.Proofs.Range.Bounds

/-!
# Retargets in 64 bits

The numbers of the rules are unbounded. Here every operation whose result is to fit a 64-bit number
is guarded: it halts the computation where the result does not fit. Every function of Dark Gravity
Wave with such an operation has a guarded one of the same name, which is shown to run as the
function that it guards as long as blocks are dated and the windows are not too wide
(`Ranged.retarget_eq`). Targets have no bound, and a conversion from floating point stays in range
by itself.
-/

namespace DarkGravity

/-- How a computation in 64 bits ends without a value. -/
inductive Ranged.Stop (ε : Type) where
  /-- The result of an operation does not fit. -/
  | outOfRange (result : ℤ)
  /-- The computation fails as without guards. -/
  | failed (error : ε)
  deriving DecidableEq

/-- A computation with guarded operations. -/
abbrev Ranged (ε : Type) := Traced Event (Ranged.Stop ε)

/-- The windows and timespans of parameters leave room for the sums and products of a check. -/
structure Params.KeepsRange (p : Params) : Prop where
  most : ∀ version, (p.window version).most.toNat < 2 ^ 31
  windowTime : ∀ version, 3 * (p.window version).most.toNat * p.spacing.toNat < 2 ^ 63
  periodTime : 4 * p.timespan.toNat < 2 ^ 63

namespace Traced

variable {ω ε α β : Type}

/-- Sequences with the same first part differ at most after its values. -/
theorem bind_congr_of_ok {x : Traced ω ε α} {f g : α → Traced ω ε β}
    (h : ∀ a, x.outcome = .ok a → f a = g a) : x >>= f = x >>= g := by
  obtain ⟨outcome, events⟩ := x
  cases outcome with
  | error e => rfl
  | ok a =>
    show andThen _ f = andThen _ g
    simp only [andThen, h a rfl]

end Traced

namespace Ranged

/-! ## Operations -/

section

variable {ε : Type}

/-- The result of an operation on signed numbers, if it fits. -/
def signed64 (result : ℤ) : Except (Stop ε) ℤ :=
  if -2 ^ 63 ≤ result ∧ result < 2 ^ 63 then .ok result else .error (.outOfRange result)

/-- The result of an operation on unsigned numbers, if it fits. -/
def unsigned64 (result : ℤ) : Except (Stop ε) ℕ :=
  if 0 ≤ result ∧ result < 2 ^ 64 then .ok result.toNat else .error (.outOfRange result)

theorem signed64_eq {result : ℤ} (hlow : -2 ^ 63 ≤ result) (hhigh : result < 2 ^ 63) :
    (signed64 result : Except (Stop ε) ℤ) = .ok result :=
  if_pos ⟨hlow, hhigh⟩

theorem unsigned64_eq {result : ℤ} (hlow : 0 ≤ result) (hhigh : result < 2 ^ 64) :
    (unsigned64 result : Except (Stop ε) ℕ) = .ok result.toNat :=
  if_pos ⟨hlow, hhigh⟩

/-- Where no guard fires a computation goes on. -/
theorem ok_bind {α β : Type} (a : α) (f : α → Except (Stop ε) β) : Except.ok a >>= f = f a := rfl

end

/-! ## Visits -/

/-- `Mean.towardInt` subtracts, divides and adds. -/
def meanTowardInt (mean sample count : ℤ) : Except (Stop CheckError) ℤ := do
  let difference ← signed64 (sample - mean)
  let move ← signed64 (difference.tdiv count)
  signed64 (move + mean)

/-- The short mean after one more difference, which is counted. -/
def shortMean (t : BlockTimes) (least : ℕ) (delta : ℤ) : Except (Stop CheckError) (ℕ × ℤ) :=
  if ¬ t.shortCount ≤ least then .ok (t.shortCount, t.shortMean)
  else do
    let count ← signed64 (t.shortCount + 1)
    if count = 1 then return (count.toNat, delta)
    else return (count.toNat, ← meanTowardInt t.shortMean delta count)

/-- `BlockTimes.addDelta` counts and sums. -/
def addDelta (t : BlockTimes) (least : ℕ) (delta : ℤ) : Except (Stop CheckError) BlockTimes := do
  let (shortCount, shortMean) ← shortMean t least delta
  let longCount ← signed64 (t.longCount + 1)
  let longSum ← signed64 (t.longSum + delta)
  return ⟨t.last, shortCount, shortMean, longCount.toNat, longSum⟩

/-- `BlockTimes.add` makes a signed number of a timestamp and subtracts it. -/
def add (t : BlockTimes) (least : ℕ) (timestamp : UInt64) :
    Except (Stop CheckError) BlockTimes := do
  let time ← signed64 timestamp.toNat
  if 0 < t.last then
    let difference ← signed64 (t.last - time)
    let t' ← addDelta t least (max difference 0)
    return { t' with last := time }
  else return { t with last := time }

/-- A visitor with guarded operations. -/
abbrev Visitor (σ : Type) := (count : ℕ) → Block → σ → Except (Stop CheckError) σ

/-- The visit of version 1. Its average is one of targets. -/
def visitSmooth (least : ℕ) : Visitor SmoothState := fun count block s => do
  let average ←
    (averageTarget Mean.toward least count block.bits s.average).mapError Stop.failed
  let times ← add s.times least block.timestamp
  return ⟨average, times⟩

/-- The average of version 3 is weighted by the number after that of the sample. -/
def averageWeighted (least count : ℕ) (bits : UInt32) (average : Target) :
    Except (Stop CheckError) Target :=
  if least < count then .ok average
  else
    match Compact.decode bits with
    | .ok sample =>
      if count = 1 then .ok sample
      else (unsigned64 (count + 1)).map fun weight => (average * count + sample) / weight
    | .error e => .error (.failed (.invalidCompact e))

/-- The visit of version 3. -/
def visitRaw (least : ℕ) : Visitor RawState := fun count block s => do
  let average ← averageWeighted least count block.bits s.average
  let time ← signed64 block.timestamp.toNat
  if 0 < s.last then
    let difference ← signed64 (s.last - time)
    let elapsed ← signed64 (s.elapsed + difference)
    return ⟨average, time, elapsed⟩
  else return ⟨average, time, s.elapsed⟩

section

variable {t : BlockTimes} {seen least : ℕ} {mean sample delta : ℤ} {block : Block}

theorem meanTowardInt_eq (hmean : 0 ≤ mean ∧ mean < 2 ^ 32) (hsample : 0 ≤ sample ∧ sample < 2 ^ 32)
    (count : ℕ) : meanTowardInt mean sample count = .ok (Mean.towardInt mean sample count) := by
  have hmove := Int.natAbs_tdiv_le_natAbs (sample - mean) count
  have hresult := Mean.towardInt_bounds hmean hsample count
  rw [Mean.towardInt] at hresult
  rw [meanTowardInt, signed64_eq (by omega) (by omega), ok_bind,
    signed64_eq (by omega) (by omega), ok_bind, signed64_eq (by omega) (by omega)]
  rfl

theorem shortMean_eq (h : t.InRange seen) (hseen : seen < 2 ^ 31)
    (hdelta : 0 ≤ delta ∧ delta < 2 ^ 32) :
    shortMean t least delta =
      .ok ((t.addDelta least delta).shortCount, (t.addDelta least delta).shortMean) := by
  obtain ⟨-, hcount, hmean, -⟩ := h
  rcases Nat.lt_or_ge least t.shortCount with hfull | hroom
  · rw [shortMean, if_pos (Nat.not_le.mpr hfull), BlockTimes.addDelta_of_full hfull]
  · rw [shortMean, if_neg (not_not.mpr hroom), signed64_eq (by omega) (by omega), ok_bind,
      BlockTimes.addDelta_of_room hroom]
    by_cases hfirst : t.shortCount = 0
    · rw [hfirst]
      rfl
    · have hmore : ¬ (t.shortCount + 1 : ℤ) = 1 := by omega
      have hnext := meanTowardInt_eq hmean hdelta (t.shortCount + 1)
      push_cast at hnext
      rw [if_neg hmore, hnext, if_neg hfirst]
      rfl

theorem addDelta_eq (h : t.InRange seen) (hseen : seen < 2 ^ 31)
    (hdelta : 0 ≤ delta ∧ delta < 2 ^ 32) :
    addDelta t least delta = .ok (t.addDelta least delta) := by
  have hshort : shortMean t least delta = _ := shortMean_eq h hseen hdelta
  obtain ⟨-, -, -, hcount, hsum⟩ := h
  rw [addDelta, hshort, ok_bind]
  dsimp only
  rw [signed64_eq (by omega) (by omega), ok_bind, signed64_eq (by omega) (by omega)]
  rfl

/-- The timestamp of a dated block is a signed number. -/
theorem signed64_timestamp (hblock : block.Dated) :
    (signed64 block.timestamp.toNat : Except (Stop CheckError) ℤ) =
      .ok (signed block.timestamp) := by
  have htime : block.timestamp.toNat < 2 ^ 32 := hblock
  rw [hblock.signed_timestamp, signed64_eq (by omega) (by omega)]

/-- So is its difference from another. -/
theorem difference_bounds (hblock : block.Dated) {last : ℤ} (hlast : 0 ≤ last ∧ last < 2 ^ 32) :
    -2 ^ 32 < last - signed block.timestamp ∧ last - signed block.timestamp < 2 ^ 32 := by
  have htime := hblock.signed_bounds
  omega

theorem add_eq (h : t.InRange seen) (hseen : seen < 2 ^ 31) (hblock : block.Dated) :
    add t least block.timestamp = .ok (t.add least block.timestamp) := by
  have hdifference := difference_bounds hblock h.last
  rw [add, signed64_timestamp hblock, ok_bind, signed64_eq (by omega) (by omega), ok_bind,
    addDelta_eq h hseen (h.delta_bounds hblock), BlockTimes.add]
  split_ifs <;> rfl

theorem averageWeighted_eq (least : ℕ) {count : ℕ} (hcount : count < 2 ^ 31) (bits : UInt32)
    (average : Target) :
    averageWeighted least count bits average =
      (averageTarget Mean.weighted least count bits average).mapError .failed := by
  have hweight : (unsigned64 (count + 1) : Except (Stop CheckError) ℕ) = .ok (count + 1) :=
    unsigned64_eq (by omega) (by omega)
  unfold averageWeighted averageTarget
  by_cases hpast : least < count
  · rw [if_pos hpast, if_pos hpast]
    rfl
  · rw [if_neg hpast, if_neg hpast, hweight]
    cases Compact.decode bits with
    | error e => rfl
    | ok sample =>
      dsimp only
      split_ifs <;> rfl

/-- Within `most` visits from a state that the invariant admits, the guarded visitor visits dated
blocks as the visitor does. -/
def RunsVisitor {σ : Type} (ranged : Visitor σ) (visit : DarkGravity.Visitor σ) (most : ℕ)
    (invariant : ℕ → σ → Prop) : Prop :=
  ∀ ⦃seen block state⦄, seen < most → block.Dated → invariant seen state →
    ranged (seen + 1) block state = (visit (seen + 1) block state).mapError .failed

theorem runsVisitor_smooth (least : ℕ) {most : ℕ} (hmost : most < 2 ^ 31) :
    RunsVisitor (visitSmooth least) (DarkGravity.visitSmooth least) most SmoothState.InRange := by
  intro seen block s hseen hblock hrange
  rw [visitSmooth, add_eq hrange (hseen.trans hmost) hblock, DarkGravity.visitSmooth]
  cases averageTarget Mean.toward least (seen + 1) block.bits s.average <;> rfl

theorem runsVisitor_raw (least : ℕ) {most : ℕ} (hmost : most < 2 ^ 31) :
    RunsVisitor (visitRaw least) (DarkGravity.visitRaw least) most RawState.InRange := by
  intro seen block s hseen hblock hrange
  have hdifference := difference_bounds hblock hrange.last
  have helapsed := abs_le.mp hrange.elapsed
  rw [visitRaw, averageWeighted_eq least (by omega), signed64_timestamp hblock,
    DarkGravity.visitRaw]
  cases averageTarget Mean.weighted least (seen + 1) block.bits s.average with
  | error e => rfl
  | ok average =>
    simp only [Except.mapError, Except.map, ok_bind]
    rw [signed64_eq (by omega) (by omega), ok_bind, signed64_eq (by omega) (by omega), ok_bind]
    split_ifs <;> rfl

end

/-! ## Walks -/

/-- A walk counts the blocks that it visits. -/
def visitFrom {σ : Type} (lookup : Lookup) (least : ℕ) (visit : Visitor σ) :
    (remaining count : ℕ) → Block → σ → Ranged CheckError (ℕ × σ)
  | 0, count, block, state => do
    let state ← Traced.ofExcept (visit count block state)
    return (count, state)
  | remaining + 1, count, block, state => do
    let state ← Traced.ofExcept (visit count block state)
    if block.height ≤ 1 then return (count, state)
    else
      match ← (parent? lookup block).mapError Stop.failed with
      | some parent => do
        let next ← Traced.ofExcept (unsigned64 (count + 1))
        visitFrom lookup least visit remaining next parent state
      | none =>
        if least ≤ count then do
          Traced.emit (.windowCut block.height count)
          return (count, state)
        else Traced.fail (.failed (parentMissing block))

/-- `visitAncestors` with guarded visits. -/
def visitAncestors {σ : Type} (lookup : Lookup) (window : Window) (visit : Visitor σ)
    (block : Block) (state : σ) : Ranged CheckError (ℕ × σ) :=
  visitFrom lookup window.least.toNat visit (window.most.toNat - 1) 1 block state

section

variable {σ : Type} {ranged : Visitor σ} {visit : DarkGravity.Visitor σ} {lookup : Lookup}
  {invariant : ℕ → σ → Prop} {most remaining seen : ℕ} {block : Block} {state : σ}

/-- No guard fires on a walk from a state that the invariant admits, because every visit hands it
on. -/
theorem visitFrom_eq (hruns : RunsVisitor ranged visit most invariant)
    (hpreserves : visit.Preserves invariant) (hmost : most < 2 ^ 31) (hlookup : lookup.Dated)
    (least : ℕ) (hremaining : seen + remaining < most) (hblock : block.Dated)
    (hstate : invariant seen state) :
    visitFrom lookup least ranged remaining (seen + 1) block state =
      (DarkGravity.visitFrom lookup least visit remaining (seen + 1) block state).mapError
        .failed := by
  induction remaining generalizing seen block state with
  | zero =>
    rw [visitFrom, DarkGravity.visitFrom, hruns hremaining hblock hstate, Traced.mapError_bind,
      Traced.mapError_ofExcept]
    rfl
  | succ remaining ih =>
    rw [visitFrom, DarkGravity.visitFrom, hruns (by omega) hblock hstate, Traced.mapError_bind,
      Traced.mapError_ofExcept]
    refine Traced.bind_congr_of_ok fun next hnext => ?_
    have hvisit : visit (seen + 1) block state = .ok next := Except.mapError_eq_ok_iff.mp hnext
    by_cases hlow : block.height ≤ 1
    · rw [if_pos hlow, if_pos hlow]
      rfl
    · rw [if_neg hlow, if_neg hlow, Traced.mapError_bind]
      refine Traced.bind_congr_of_ok fun found hfound => ?_
      cases found with
      | some parent =>
        have hparent : parent.Dated := hlookup.parent (Except.mapError_eq_ok_iff.mp hfound)
        have hcount : (unsigned64 ((seen + 1 : ℕ) + 1) : Except (Stop CheckError) ℕ) =
            .ok (seen + 1 + 1) := unsigned64_eq (by omega) (by omega)
        dsimp only
        rw [hcount, Traced.ofExcept_ok_bind]
        exact ih (by omega) hparent (hpreserves hblock hstate hvisit)
      | none =>
        dsimp only
        split_ifs <;> rfl

/-- Through a window of `most` blocks a walk from its start can go on as long as it has to. -/
theorem visitAncestors_eq {window : Window}
    (hruns : RunsVisitor ranged visit window.most.toNat invariant)
    (hpreserves : visit.Preserves invariant) (hpos : 0 < window.most.toNat)
    (hmost : window.most.toNat < 2 ^ 31) (hlookup : lookup.Dated) (hblock : block.Dated)
    (hstate : invariant 0 state) :
    visitAncestors lookup window ranged block state =
      (DarkGravity.visitAncestors lookup window visit block state).mapError .failed :=
  visitFrom_eq hruns hpreserves hmost hlookup _ (by omega) hblock hstate

/-- What holds at the end of a walk. -/
theorem bounds_of_visitAncestors {window : Window} {n : ℕ} {final : σ}
    (hpreserves : visit.Preserves invariant) (hpos : 0 < window.most.toNat)
    (hlookup : lookup.Dated) (hblock : block.Dated) (hstate : invariant 0 state)
    (hwalk : (DarkGravity.visitAncestors lookup window visit block state).outcome =
      .ok (n, final)) :
    n ≤ window.most.toNat ∧ invariant n final := by
  obtain ⟨rfl, hfold⟩ := visitAncestors_eq_ok hwalk
  have hfinal := hpreserves.fold (hlookup.visitedFrom _ hblock) hstate hfold
  rw [Nat.zero_add] at hfinal
  exact ⟨lookup.length_visited_le block hpos, hfinal⟩

/-- So what comes after a walk may rely on the invariant. -/
theorem visitAncestors_bind_eq {β : Type} {window : Window}
    (hruns : RunsVisitor ranged visit window.most.toNat invariant)
    (hpreserves : visit.Preserves invariant) (hpos : 0 < window.most.toNat)
    (hmost : window.most.toNat < 2 ^ 31) (hlookup : lookup.Dated) (hblock : block.Dated)
    (hstate : invariant 0 state) {f : ℕ × σ → Ranged CheckError β}
    {g : ℕ × σ → Traced Event CheckError β}
    (h : ∀ n s, n ≤ window.most.toNat → invariant n s → f (n, s) = (g (n, s)).mapError .failed) :
    visitAncestors lookup window ranged block state >>= f =
      (DarkGravity.visitAncestors lookup window visit block state >>= g).mapError .failed := by
  rw [visitAncestors_eq hruns hpreserves hpos hmost hlookup hblock hstate, Traced.mapError_bind]
  refine Traced.bind_congr_of_ok fun finished houtcome => ?_
  obtain ⟨n, s⟩ := finished
  obtain ⟨hn, hfinal⟩ := bounds_of_visitAncestors hpreserves hpos hlookup hblock hstate
    (Except.mapError_eq_ok_iff.mp houtcome)
  exact h n s hn hfinal

end

/-! ## Required targets -/

/-- `scaleTarget` takes both timespans as unsigned numbers. -/
def scaleTarget (target : Target) (actual expected : ℤ) : Except (Stop CheckError) Target := do
  let factor ← unsigned64 (max actual 0)
  let divisor ← unsigned64 (max expected 1)
  return target * factor / divisor

theorem scaleTarget_eq (target : Target) {actual expected : ℤ} (hactual : actual < 2 ^ 63)
    (hexpected : expected < 2 ^ 63) :
    scaleTarget target actual expected =
      .ok (DarkGravity.scaleTarget target actual expected) := by
  have hfactor : (max actual 0).toNat = actual.toNat := by omega
  rw [scaleTarget, unsigned64_eq (by omega) (by omega), ok_bind,
    unsigned64_eq (by omega) (by omega), hfactor]
  rfl

/-- The retarget of version 1 from a finished walk. The mean of all differences is a quotient of
signed numbers. -/
def smoothRetarget (s : SmoothState) (blocks : ℕ) (spacing : UInt64) :
    Except (Stop CheckError) Retarget :=
  if s.times.shortCount = 0 || s.times.longCount = 0 then .ok ⟨s.average, blocks, 0, 0⟩
  else do
    let _ ← signed64 s.times.longMean
    let (actual, expected) := s.times.timespans blocks spacing
    let target ← scaleTarget s.average actual expected
    return ⟨target, blocks, actual, expected⟩

/-- Timespans that come from floating point are signed numbers of 64 bits. -/
theorem smoothRetarget_eq {s : SmoothState} {seen : ℕ} (h : s.InRange seen)
    (hseen : seen < 2 ^ 31) (blocks : ℕ) (spacing : UInt64) :
    smoothRetarget s blocks spacing = .ok (s.retarget blocks spacing) := by
  have hsum := BlockTimes.InRange.longSum h
  have hmean := Int.natAbs_tdiv_le_natAbs s.times.longSum s.times.longCount
  have hlongMean : s.times.longMean = s.times.longSum.tdiv s.times.longCount := rfl
  unfold smoothRetarget SmoothState.retarget
  split_ifs
  · rfl
  · have hactual : (s.times.timespans blocks spacing).1 < 2 ^ 63 := Int64.toInt_lt _
    have hexpected : (s.times.timespans blocks spacing).2 < 2 ^ 63 := Int64.toInt_lt _
    rw [signed64_eq (by omega) (by omega), ok_bind]
    dsimp only
    rw [scaleTarget_eq _ hactual hexpected]
    rfl

/-- A timespan within a factor of the expected one. -/
def clampWithin (factor actual expected : ℤ) : Except (Stop CheckError) ℤ := do
  let least ← signed64 (expected.tdiv factor)
  let actual := if actual < least then least else actual
  let most ← signed64 (expected * factor)
  return if actual > most then most else actual

theorem clampWithin_eq {factor expected : ℤ} (actual : ℤ) (hexpected : 0 ≤ expected)
    (hmost : 0 ≤ expected * factor ∧ expected * factor < 2 ^ 63) (hrange : expected < 2 ^ 63) :
    clampWithin factor actual expected =
      .ok (let actual := if actual < expected.tdiv factor then expected.tdiv factor else actual
        if actual > expected * factor then expected * factor else actual) := by
  have hleast := Int.natAbs_tdiv_le_natAbs expected factor
  rw [clampWithin, signed64_eq (by omega) (by omega), ok_bind,
    signed64_eq (by omega) hmost.2]
  rfl

/-- The retarget of version 3 from a finished walk. -/
def rawRetarget (s : RawState) (blocks : ℕ) (spacing : UInt64) :
    Except (Stop CheckError) Retarget := do
  let count ← signed64 blocks
  let spacing ← signed64 spacing.toNat
  let expected ← signed64 (count * spacing)
  let actual ← clampWithin 3 s.elapsed expected
  let target ← scaleTarget s.average actual expected
  return ⟨target, blocks, actual, expected⟩

theorem rawRetarget_eq {blocks most : ℕ} {spacing : UInt64} (s : RawState)
    (hblocks : blocks ≤ most) (hpos : 0 < most) (hmost : most < 2 ^ 31)
    (htime : 3 * most * spacing.toNat < 2 ^ 63) :
    rawRetarget s blocks spacing = .ok (s.retarget blocks spacing) := by
  have hsize : UInt64.size = 2 ^ 64 := rfl
  have hspacing : spacing.toNat ≤ most * spacing.toNat := Nat.le_mul_of_pos_left _ hpos
  have hwindow : blocks * spacing.toNat ≤ most * spacing.toNat := Nat.mul_le_mul_right _ hblocks
  rw [Nat.mul_assoc] at htime
  have hsigned : signed spacing = spacing.toNat := signed_of_lt (by omega)
  have hexpected : (blocks : ℤ) * spacing.toNat = (blocks * spacing.toNat : ℕ) := by
    rw [Nat.cast_mul]
  have hclamped : clampWithin 3 s.elapsed (blocks * spacing.toNat : ℕ) =
      .ok (clampTimespan s.elapsed (blocks * spacing.toNat : ℕ)) :=
    clampWithin_eq s.elapsed (by omega) (by omega) (by omega)
  have hactual : clampTimespan s.elapsed (blocks * spacing.toNat : ℕ) < 2 ^ 63 := by
    unfold clampTimespan
    dsimp only
    split_ifs <;> omega
  rw [rawRetarget, signed64_eq (by omega) (by omega), ok_bind, signed64_eq (by omega) (by omega),
    ok_bind, hexpected, signed64_eq (by omega) (by omega), ok_bind, hclamped, ok_bind,
    scaleTarget_eq _ hactual (by omega), RawState.retarget, hsigned, hexpected]
  rfl

/-- `walkRetarget` with guarded visits and a guarded end. -/
def walkRetarget (version : Version) (p : Params) (previous : Block) (lookup : Lookup) :
    Ranged CheckError Retarget :=
  let window := p.window version
  let least := window.least.toNat
  match version with
  | .v1 => do
    let (blocks, s) ← visitAncestors lookup window (visitSmooth least) previous ⟨0, .empty⟩
    Traced.ofExcept (smoothRetarget s blocks p.spacing)
  | .v3 => do
    let (blocks, s) ← visitAncestors lookup window (visitRaw least) previous ⟨0, 0, 0⟩
    Traced.ofExcept (rawRetarget s blocks p.spacing)

/-- `retarget` with a guarded walk. -/
def retarget (version : Version) (p : Params) (previous : Block) (lookup : Lookup) :
    Ranged CheckError Retarget :=
  if tooShort (p.window version) previous then
    (Retarget.ofCeiling <$> decodeBits p.ceilingBits).mapError Stop.failed
  else do
    let result ← walkRetarget version p previous lookup
    Traced.emit (.retargeted version previous.height result)
    return result

section

variable {p : Params} {previous : Block} {lookup : Lookup}

theorem walkRetarget_eq (version : Version) (hrange : p.KeepsRange)
    (hpos : 0 < (p.window version).most.toNat) (hlookup : lookup.Dated)
    (hprevious : previous.Dated) :
    walkRetarget version p previous lookup =
      (DarkGravity.walkRetarget version p previous lookup).mapError .failed := by
  have hmost := hrange.most version
  have htime := hrange.windowTime version
  cases version with
  | v1 =>
    refine visitAncestors_bind_eq (runsVisitor_smooth _ hmost) (visitSmooth_preserves _) hpos hmost
      hlookup hprevious SmoothState.inRange_start fun n s hn hfinal => ?_
    dsimp only
    rw [smoothRetarget_eq hfinal (by omega)]
    rfl
  | v3 =>
    refine visitAncestors_bind_eq (runsVisitor_raw _ hmost) (visitRaw_preserves _) hpos hmost
      hlookup hprevious RawState.inRange_start fun n s hn _ => ?_
    dsimp only
    rw [rawRetarget_eq s hn hpos hmost htime]
    rfl

/-- On dated blocks no guard of either version fires. -/
theorem retarget_eq (version : Version) (hrange : p.KeepsRange)
    (hpos : 0 < (p.window version).most.toNat) (hlookup : lookup.Dated)
    (hprevious : previous.Dated) :
    retarget version p previous lookup =
      (DarkGravity.retarget version p previous lookup).mapError .failed := by
  unfold retarget DarkGravity.retarget
  split_ifs
  · rfl
  · rw [walkRetarget_eq version hrange hpos hlookup hprevious, Traced.mapError_bind]
    rfl

end

end Ranged

end DarkGravity
