import DarkGravity.Proofs.Check.Transition
import DarkGravity.Proofs.Range.Retarget

/-!
# Checks in 64 bits

The interval rule and the check of a candidate with guarded operations. A late candidate is told by
saturated sums, which need no guard. On dated blocks no guard fires below the greatest height, with
parameters that leave room for sums and products (`Ranged.check_eq`).
-/

namespace DarkGravity

/-- A number has no more bits than a power of two above it. -/
theorem Compact.bitLength_le {n k : ℕ} (h : n < 2 ^ k) : bitLength n ≤ k := by
  unfold bitLength
  split_ifs with hzero
  · exact Nat.zero_le k
  · exact (Nat.log2_lt hzero).mpr h

namespace Ranged

/-! ## Heights -/

/-- The height of a child. -/
def nextHeight {ε : Type} (height : UInt64) : Except (Stop ε) UInt64 :=
  (unsigned64 (height.toNat + 1)).map UInt64.ofNat

theorem nextHeight_eq {ε : Type} {height : UInt64} (h : height.toNat + 1 < 2 ^ 64) :
    (nextHeight height : Except (Stop ε) UInt64) = .ok (height + 1) := by
  have hsum : ((height.toNat : ℤ) + 1).toNat = height.toNat + 1 := by omega
  rw [nextHeight, unsigned64_eq (by omega) (by omega), hsum, Except.map, UInt64.ofNat_add,
    UInt64.ofNat_toNat]
  rfl

/-- After the last height of 64 bits there is none. -/
theorem nextHeight_of_greatest {ε : Type} {height : UInt64} (h : height.toNat + 1 = 2 ^ 64) :
    (nextHeight height : Except (Stop ε) UInt64) = .error (.outOfRange (2 ^ 64)) := by
  have hsum : (height.toNat : ℤ) + 1 = 2 ^ 64 := by omega
  rw [nextHeight, hsum]
  rfl

/-! ## Words -/

/-- `Compact.truncate` moves its window by the size byte less three. -/
def truncate (target : Target) (bits : UInt32) : Except (Stop CheckError) Target :=
  (signed64 (Compact.sizeByte bits - 3)).map fun _ => Compact.truncate target bits

theorem truncate_eq (target : Target) (bits : UInt32) :
    truncate target bits = .ok (Compact.truncate target bits) := by
  have hsize : Compact.sizeByte bits ≤ bits.toNat := Nat.div_le_self _ _
  have hbits := bits.toNat_lt
  rw [truncate, signed64_eq (by omega) (by omega)]
  rfl

/-- `Compact.encode` rounds a number of bits up to bytes. -/
def encode (target : Target) : Except (Stop CheckError) UInt32 :=
  (unsigned64 (Compact.bitLength target + 7)).map fun _ => Compact.encode target

theorem encode_eq {target : Target} (h : target < 2 ^ 256) :
    encode target = .ok (Compact.encode target) := by
  have hbits := Compact.bitLength_le h
  rw [encode, unsigned64_eq (by omega) (by omega)]
  rfl

/-- `checkClaim` with a guarded window. -/
def checkClaim (ceiling calculated : Target) (claimed : UInt32) : Ranged CheckError Unit := do
  let required ← clampToCeiling ceiling calculated
  let received ← (decodeBits claimed).mapError Stop.failed
  let expected ← Traced.ofExcept (truncate required claimed)
  if expected ≠ received then Traced.fail (.failed (.mismatch received expected))

theorem checkClaim_eq (ceiling calculated : Target) (claimed : UInt32) :
    checkClaim ceiling calculated claimed =
      (DarkGravity.checkClaim ceiling calculated claimed).mapError .failed := by
  unfold checkClaim DarkGravity.checkClaim
  rw [Traced.mapError_bind]
  refine Traced.bind_congr_of_ok fun required _ => ?_
  rw [Traced.mapError_bind]
  refine Traced.bind_congr_of_ok fun received _ => ?_
  rw [truncate_eq, Traced.ofExcept_ok_bind]
  dsimp only
  split_ifs <;> rfl

/-! ## The interval rule -/

/-- `isTransition` needs the next height. -/
def isTransition (period : ℕ) (height : UInt64) : Except (Stop CheckError) Bool :=
  (nextHeight height).map fun next => next.toNat % period = 0

/-- `periodTime` subtracts signed numbers. -/
def periodTime (p : Params) (first last : Block) : Except (Stop CheckError) ℤ := do
  let timespan ← signed64 p.timespan.toNat
  let newer ← signed64 last.timestamp.toNat
  let older ← signed64 first.timestamp.toNat
  let actual ← signed64 (newer - older)
  clampWithin 4 actual timespan

/-- `nextPeriodTarget` takes the time as an unsigned number. -/
def nextPeriodTarget (p : Params) (target : Target) (time : ℤ) :
    Except (Stop CheckError) Target :=
  (unsigned64 time).map fun factor => target * factor / p.timespan.toNat

/-- `checkTransition` with a guarded time, target and word. -/
def checkTransition (p : Params) (first last : Block) (claimed : UInt32) :
    Ranged CheckError Unit := do
  let time ← Traced.ofExcept (periodTime p first last)
  let target ← (decodeBits last.bits).mapError Stop.failed
  let next ← Traced.ofExcept (nextPeriodTarget p target time)
  let ceiling ← (decodeBits p.ceilingBits).mapError Stop.failed
  let required ← clampToCeiling ceiling next
  let masked ← Traced.ofExcept (truncate required claimed)
  let expected ← Traced.ofExcept (encode masked)
  if expected ≠ claimed then Traced.fail (.failed (.mismatch claimed.toNat expected.toNat))

/-- `checkInterval` with a guarded height. -/
def checkInterval (p : Params) (previous : Block) (claimed : UInt32) (lookup : Lookup) :
    Ranged CheckError Unit := do
  let atTransition ← Traced.ofExcept (isTransition p.periodLength previous.height)
  if !atTransition then
    if claimed ≠ previous.bits then
      Traced.fail (.failed (.unexpectedChange previous.height claimed previous.bits))
  else
    let first ← (ancestor lookup (p.periodLength - 1) previous).mapError Stop.failed
    if first.height.toNat % p.periodLength ≠ 0 then
      Traced.fail (.failed (.chainInconsistent previous.height first.height))
    checkTransition p first previous claimed

section

variable {p : Params} {first last previous : Block} {claimed : UInt32} {lookup : Lookup}

theorem isTransition_eq (period : ℕ) {height : UInt64} (h : height.toNat + 1 < 2 ^ 64) :
    isTransition period height = .ok (DarkGravity.isTransition period height) := by
  rw [isTransition, nextHeight_eq h]
  rfl

theorem timesFit (hrange : p.KeepsRange) (hfirst : first.Dated) (hlast : last.Dated) :
    p.TimesFit first last := by
  have hsmall : first.timestamp.toNat < 2 ^ 32 := hfirst
  have hsmall' : last.timestamp.toNat < 2 ^ 32 := hlast
  exact ⟨hrange.periodTime, by omega, by omega⟩

theorem periodTime_eq (hrange : p.KeepsRange) (hfirst : first.Dated) (hlast : last.Dated) :
    periodTime p first last = .ok (DarkGravity.periodTime p first last) := by
  have htimespan := hrange.periodTime
  have hsize : UInt64.size = 2 ^ 64 := rfl
  have hsigned : signed p.timespan = p.timespan.toNat := signed_of_lt (by omega)
  have hdifference := difference_bounds hfirst hlast.signed_bounds
  rw [periodTime, signed64_eq (by omega) (by omega), ok_bind, signed64_timestamp hlast, ok_bind,
    signed64_timestamp hfirst, ok_bind, signed64_eq (by omega) (by omega), ok_bind, ← hsigned]
  exact clampWithin_eq _ (by omega) (by omega) (by omega)

/-- The time of a period is not negative. -/
theorem nextPeriodTarget_eq (hfits : p.TimesFit first last) (target : Target) :
    nextPeriodTarget p target (DarkGravity.periodTime p first last) =
      .ok (DarkGravity.nextPeriodTarget p target (DarkGravity.periodTime p first last)) := by
  have htimespan := hfits.timespan
  have hbounded : p.boundedTime first last < 2 ^ 64 := by
    unfold Params.boundedTime
    omega
  rw [DarkGravity.nextPeriodTarget_eq hfits, DarkGravity.periodTime_eq hfits, nextPeriodTarget,
    unsigned64_eq (by omega) (by omega)]
  rfl

/-- What is compared is below the ceiling, and so its number of bits is known. -/
theorem checkTransition_eq (hrange : p.KeepsRange) (hfirst : first.Dated) (hlast : last.Dated) :
    checkTransition p first last claimed =
      (DarkGravity.checkTransition p first last claimed).mapError .failed := by
  unfold checkTransition DarkGravity.checkTransition
  rw [periodTime_eq hrange hfirst hlast, Traced.ofExcept_ok_bind, Traced.mapError_bind]
  refine Traced.bind_congr_of_ok fun target _ => ?_
  rw [nextPeriodTarget_eq (timesFit hrange hfirst hlast), Traced.ofExcept_ok_bind,
    Traced.mapError_bind]
  refine Traced.bind_congr_of_ok fun ceiling hceiling => ?_
  rw [Traced.mapError_bind]
  refine Traced.bind_congr_of_ok fun required hrequired => ?_
  have hdecoded : Compact.decode p.ceilingBits = .ok ceiling :=
    outcome_decodeBits_eq_ok_iff.mp (Except.mapError_eq_ok_iff.mp hceiling)
  have hle : required ≤ ceiling := by
    rw [← Except.ok.inj hrequired]
    exact min_le_right _ _
  have hsmall : Compact.truncate required claimed < 2 ^ 256 :=
    (Compact.truncate_le _ _).trans_lt (hle.trans_lt (Compact.lt_of_decode hdecoded))
  rw [truncate_eq, Traced.ofExcept_ok_bind, encode_eq hsmall, Traced.ofExcept_ok_bind]
  dsimp only
  split_ifs <;> rfl

theorem checkInterval_eq (hrange : p.KeepsRange) (hlookup : lookup.Dated)
    (hprevious : previous.Dated) (hheight : previous.height.toNat + 1 < 2 ^ 64) :
    checkInterval p previous claimed lookup =
      (DarkGravity.checkInterval p previous claimed lookup).mapError .failed := by
  unfold checkInterval DarkGravity.checkInterval
  rw [isTransition_eq _ hheight, Traced.ofExcept_ok_bind]
  cases DarkGravity.isTransition p.periodLength previous.height with
  | false =>
    simp only [Bool.not_false, if_true]
    split_ifs <;> rfl
  | true =>
    simp only [Bool.not_true, Bool.false_eq_true, if_false]
    rw [Traced.mapError_bind]
    refine Traced.bind_congr_of_ok fun first hfirst => ?_
    have hdated : first.Dated := hlookup.ancestor hprevious (Except.mapError_eq_ok_iff.mp hfirst)
    rw [checkTransition_eq hrange hdated hprevious]
    split_ifs <;> rfl

end

/-! ## Candidates -/

/-- `checkLate` with a guarded claim. -/
def checkLate (ceiling : Target) (candidate : Header) : Ranged CheckError Unit := do
  let own ← (decodeBits candidate.bits).mapError Stop.failed
  checkClaim ceiling own candidate.bits

/-- `checkWave` with a guarded retarget, height and claim. -/
def checkWave (p : Params) (ceiling : Target) (previous : Block) (claimed : UInt32)
    (lookup : Lookup) : Ranged CheckError Unit := do
  let version := p.versionAfter previous.height
  let required ← retarget version p previous lookup
  let height ← Traced.ofExcept (nextHeight previous.height)
  Traced.emit (.targetRequired height version required.blocks)
  checkClaim ceiling required.target claimed

/-- `checkRule` with guarded rules. -/
def checkRule (p : Params) (ceiling : Target) (previous : Block) (candidate : Header)
    (lookup : Lookup) : Ranged CheckError Unit :=
  match p.rule with
  | .interval => checkInterval p previous candidate.bits lookup
  | .darkGravityWave => checkWave p ceiling previous candidate.bits lookup

/-- `checkHeader` with guarded rules. Whether a candidate is late is told by saturated sums. -/
def checkHeader (p : Params) (ceiling : Target) (previous : Block) (candidate : Header)
    (lookup : Lookup) : Ranged CheckError Unit :=
  match relaxation? p previous candidate with
  | some .late => checkLate ceiling candidate
  | some .beforeFork => do
    let height ← Traced.ofExcept (nextHeight previous.height)
    Traced.emit (.claimNotEnforced height)
  | none => checkRule p ceiling previous candidate lookup

/-- `Verifier.check` with a guarded check, of which the height is recorded. -/
def check (v : Verifier) (previous : Block) (candidate : Header) (lookup : Lookup) :
    Ranged CheckError Unit :=
  let result := checkHeader v.params v.ceiling previous candidate lookup
  match result.outcome, nextHeight previous.height with
  | .error (.outOfRange _), _ => result
  | _, .error stop => ⟨.error stop, result.events⟩
  | .error (.failed e), .ok height => ⟨result.outcome, result.events ++ [.checkFailed height e]⟩
  | .ok (), .ok height => ⟨result.outcome, result.events ++ [.checkPassed height candidate.bits]⟩

section

variable {v : Verifier} {previous : Block} {lookup : Lookup}

theorem checkHeader_eq (hrange : v.params.KeepsRange) (hlookup : lookup.Dated)
    (hprevious : previous.Dated) (hheight : previous.height.toNat + 1 < 2 ^ 64)
    (ceiling : Target) (candidate : Header) :
    checkHeader v.params ceiling previous candidate lookup =
      (DarkGravity.checkHeader v.params ceiling previous candidate lookup).mapError .failed := by
  have hnext := nextHeight_eq (ε := CheckError) hheight
  unfold checkHeader DarkGravity.checkHeader
  cases relaxation? v.params previous candidate with
  | some relaxation =>
    cases relaxation with
    | late =>
      simp only [checkLate, DarkGravity.checkLate, Traced.mapError_bind, checkClaim_eq]
    | beforeFork =>
      dsimp only
      rw [hnext]
      rfl
  | none =>
    dsimp only
    unfold checkRule DarkGravity.checkRule
    cases v.params.rule with
    | interval => exact checkInterval_eq hrange hlookup hprevious hheight
    | darkGravityWave =>
      obtain ⟨hleast, hmost⟩ := v.window_ok (v.params.versionAfter previous.height)
      dsimp only
      unfold checkWave DarkGravity.checkWave
      dsimp only
      rw [retarget_eq _ hrange (hleast.trans_le hmost) hlookup hprevious, hnext,
        Traced.mapError_bind]
      simp only [Traced.ofExcept_ok_bind, checkClaim_eq]
      rfl

/-- On dated blocks no guard of a check fires. -/
theorem check_eq (hrange : v.params.KeepsRange) (hlookup : lookup.Dated)
    (hprevious : previous.Dated) (hheight : previous.height.toNat + 1 < 2 ^ 64)
    (candidate : Header) :
    check v previous candidate lookup = (v.check previous candidate lookup).mapError .failed := by
  unfold check Verifier.check
  dsimp only
  rw [checkHeader_eq hrange hlookup hprevious hheight, nextHeight_eq hheight,
    Traced.outcome_mapError]
  cases (DarkGravity.checkHeader v.params v.ceiling previous candidate lookup).outcome <;> rfl

end

end Ranged

end DarkGravity
