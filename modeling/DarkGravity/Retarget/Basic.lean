import DarkGravity.Params
import DarkGravity.Block

/-!
# Required targets and the errors of a check

A retarget is the target that the next block has to carry together with what it was computed from. A
check of a candidate fails with one of five errors; two of them blame the chain, the others the
candidate.
-/

namespace DarkGravity

/-- The target for the next block, before the ceiling. -/
structure Retarget where
  target : Target
  /-- How many blocks were visited; none if the history is too short. -/
  blocks : Nat
  /-- The seconds that the visited blocks took, within limits. -/
  actualTimespan : Int
  /-- The seconds that they should have taken. -/
  targetTimespan : Int
  deriving DecidableEq, Repr

/-- The retarget of a chain that is too short. -/
def Retarget.ofCeiling (target : Target) : Retarget := ⟨target, 0, 0, 0⟩

/-- Why a candidate is refused. -/
inductive CheckError where
  /-- An ancestor that was needed is missing, or the lookup failed. `height` is that of the last
  block reached. -/
  | chainIncomplete (height : UInt64) (missing : Hash) (source : Option Lookup.Failure)
  /-- The claim is not the required target. Both numbers are as compared. -/
  | mismatch (received calculated : Nat)
  /-- The claim changed inside a period. -/
  | unexpectedChange (height : UInt64) (received previous : UInt32)
  /-- A word on the way has no target. -/
  | invalidCompact (source : Compact.Error)
  /-- The first block of the period is not where it should be. -/
  | chainInconsistent (start stop : UInt64)
  deriving DecidableEq

namespace CheckError

/-- The wording of an error. -/
def message : CheckError → String
  | chainIncomplete height missing _ =>
    "chain incomplete below height " ++ toString height.toNat ++ ": ancestor " ++ missing.display
      ++ " not found"
  | mismatch received calculated =>
    "Network provided difficulty bits do not match what was calculated: " ++ Hex.ofNat received
      ++ " vs " ++ Hex.ofNat calculated
  | unexpectedChange height received previous =>
    "Unexpected change in difficulty at height " ++ toString height.toNat ++ ": "
      ++ Hex.ofNat received.toNat ++ " vs " ++ Hex.ofNat previous.toNat
  | invalidCompact source => "invalid compact target " ++ Compact.wordText source.bits
  | chainInconsistent start stop =>
    "chain inconsistent: walk from height " ++ toString start.toNat ++ " ended at height "
      ++ toString stop.toNat ++ ", not a retarget boundary"

/-- The wording of the cause of an error, if it has one. -/
def cause? : CheckError → Option String
  | chainIncomplete _ _ source => source.map Lookup.Failure.message
  | invalidCompact source => some source.message
  | _ => none

/-- The label under which an error is counted. -/
def label : CheckError → String
  | chainIncomplete .. => "chain_incomplete"
  | mismatch .. => "difficulty_mismatch"
  | unexpectedChange .. => "unexpected_change"
  | invalidCompact .. => "invalid_compact"
  | chainInconsistent .. => "chain_inconsistent"

/-- Whether the chain is to blame and not the candidate. -/
def blamesChain : CheckError → Bool
  | chainIncomplete .. => true
  | chainInconsistent .. => true
  | _ => false

end CheckError

end DarkGravity
