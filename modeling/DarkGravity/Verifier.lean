import DarkGravity.Retarget.DarkGravityWave
import DarkGravity.Retarget.Interval

/-!
# Checking candidates

A candidate is checked against the target that the chain below it requires. A network may relax
this: a block that comes more than two spacings late may claim any target up to the ceiling, and
blocks before the fork may claim what they like. `Verifier` holds parameters that can drive the
rules; `checkUnvalidated` takes any parameters and reports those that define no period.
-/

namespace DarkGravity

/-- How a network relaxes the check of a candidate. -/
inductive Relaxation where
  /-- The candidate comes late. -/
  | late
  /-- The candidate comes before the fork. -/
  | beforeFork
  deriving DecidableEq, Repr

/-- The last second at which a child of the block is not late. It stays in 64 bits. -/
def lateAfter (p : Params) (previous : Block) : Nat :=
  min (previous.timestamp.toNat + 2 * p.spacing.toNat) (UInt64.size - 1)

/-- The relaxation that applies to a candidate. Being late comes first. -/
def relaxation? (p : Params) (previous : Block) (candidate : Header) : Option Relaxation :=
  if !p.relaxed then none
  else if lateAfter p previous < candidate.timestamp.toNat then some .late
  else if !p.forkedAfter previous.height then some .beforeFork
  else none

/-- Checks a late candidate: its own target may be anything up to the ceiling. -/
def checkLate (ceiling : Target) (candidate : Header) : Check Unit := do
  let own ← decodeBits candidate.bits
  checkClaim ceiling own candidate.bits

/-- Checks a candidate by Dark Gravity Wave. -/
def checkWave (p : Params) (ceiling : Target) (previous : Block) (claimed : UInt32)
    (lookup : Lookup) : Check Unit := do
  let version := p.versionAfter previous.height
  let required ← retarget version p previous lookup
  Traced.emit (.targetRequired (previous.height + 1) version required.blocks)
  checkClaim ceiling required.target claimed

/-- Checks a candidate by the rule of the network. -/
def checkRule (p : Params) (ceiling : Target) (previous : Block) (candidate : Header)
    (lookup : Lookup) : Check Unit :=
  match p.rule with
  | .interval => checkInterval p previous candidate.bits lookup
  | .darkGravityWave => checkWave p ceiling previous candidate.bits lookup

/-- Checks a candidate, by its relaxation if there is one. -/
def checkHeader (p : Params) (ceiling : Target) (previous : Block) (candidate : Header)
    (lookup : Lookup) : Check Unit :=
  match relaxation? p previous candidate with
  | some .late => checkLate ceiling candidate
  | some .beforeFork => Traced.emit (.claimNotEnforced (previous.height + 1))
  | none => checkRule p ceiling previous candidate lookup

/-- Checks a candidate under parameters that were not validated. The period matters only where the
interval rule decides. -/
def checkUnvalidated (p : Params) (previous : Block) (candidate : Header) (lookup : Lookup) :
    Except Params.PeriodFault (Check Unit) :=
  match Compact.decode p.ceilingBits with
  | .error e => .ok (Traced.fail (.invalidCompact e))
  | .ok ceiling =>
    if p.rule = .interval ∧ relaxation? p previous candidate = none then
      p.period.map fun _ => checkHeader p ceiling previous candidate lookup
    else .ok (checkHeader p ceiling previous candidate lookup)

/-- Parameters that can drive the rules, with their ceiling. -/
structure Verifier where
  params : Params
  /-- The decoded easiest target. -/
  ceiling : Target
  valid : params.validate = .ok ceiling

namespace Verifier

/-- The verifier of parameters, or their first fault. -/
def ofParams (p : Params) : Except Params.Fault Verifier :=
  match h : p.validate with
  | .ok ceiling => .ok ⟨p, ceiling, h⟩
  | .error fault => .error fault

/-- Checks a candidate on a block and records the outcome. -/
def check (v : Verifier) (previous : Block) (candidate : Header) (lookup : Lookup) : Check Unit :=
  let result := checkHeader v.params v.ceiling previous candidate lookup
  let height := previous.height + 1
  -- the event of the outcome comes after everything that led to it
  let last := match result.outcome with
    | .ok () => Event.checkPassed height candidate.bits
    | .error e => Event.checkFailed height e
  ⟨result.outcome, result.events ++ [last]⟩

end Verifier

end DarkGravity
