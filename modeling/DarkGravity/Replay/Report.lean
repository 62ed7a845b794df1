import DarkGravity.Retarget.Basic

/-!
# Reports of a replay

A replay counts the headers it accepts after the anchor and ends at the first that it rejects.
-/

namespace DarkGravity

/-- Why a header of a chain is rejected. -/
inductive Rejection.Reason where
  /-- Its parent is not the header before it. -/
  | disconnected
  /-- It does not claim the required target. -/
  | difficulty (error : CheckError)
  /-- Its hash is above the target it claims. -/
  | insufficientWork
  deriving DecidableEq

/-- The wording of a reason. -/
def Rejection.Reason.message : Rejection.Reason → String
  | .disconnected => "does not connect to previous header"
  | .difficulty error => error.message
  | .insufficientWork => "hash above claimed target"

/-- The header at which a replay ended. -/
structure Rejection where
  height : UInt64
  hash : Hash
  reason : Rejection.Reason
  deriving DecidableEq

/-- The result of a replay. -/
structure Report where
  /-- The headers accepted after the anchor. -/
  verified : Nat
  rejection : Option Rejection
  deriving DecidableEq

namespace Report

/-- The report before any header is looked at. -/
def empty : Report := ⟨0, none⟩

/-- Whether every header was accepted. -/
def allAccepted (r : Report) : Bool := r.rejection.isNone

end Report

end DarkGravity
