import DarkGravity.ProofOfWork
import DarkGravity.Replay.Report
import DarkGravity.Traced

/-!
# Events

What happens while difficulty is checked and chains are replayed. Lookups of ancestors are counted,
the other events are logged, and some of them move counters.
-/

namespace DarkGravity

/-- Something that happened. -/
inductive Event where
  /-- An ancestor was looked up. -/
  | ancestorSought (hash : Hash)
  /-- A walk ended at the oldest stored block after visiting enough blocks. -/
  | windowCut (height : UInt64) (visited : Nat)
  /-- A target was computed from a window. -/
  | retargeted (version : Version) (height : UInt64) (result : Retarget)
  /-- A computed target was above the ceiling. -/
  | ceilingHit (calculated : Target)
  /-- A block before the fork may claim what it likes. -/
  | claimNotEnforced (height : UInt64)
  /-- A target is about to be compared with a claim. -/
  | targetRequired (height : UInt64) (version : Version) (blocks : Nat)
  /-- A check succeeded. -/
  | checkPassed (height : UInt64) (bits : UInt32)
  /-- A check failed. -/
  | checkFailed (height : UInt64) (error : CheckError)
  /-- The first header of a chain was taken on trust. -/
  | anchorLoaded (height : UInt64) (hash : Hash)
  /-- A header was rejected. -/
  | headerRejected (height : UInt64) (hash : Hash) (reason : Rejection.Reason)
  /-- A replay ended. -/
  | replayFinished (report : Report) (backend : Backend)
  /-- The parameters of a run are known. -/
  | paramsLoaded (network : Network)
  /-- Logging is ready. -/
  | loggingStarted (service : String) (json : Bool)
  deriving DecidableEq

/-- Whether an event is a lookup. -/
def Event.isLookup : Event → Bool
  | ancestorSought _ => true
  | _ => false

/-- A check of difficulty or a part of one. -/
abbrev Check := Traced Event CheckError

/-- How many lookups a traced computation made. -/
def Traced.lookups {ε α : Type} (x : Traced Event ε α) : Nat :=
  x.events.countP Event.isLookup

namespace Traced

variable {ε α β : Type}

@[simp] theorem lookups_pure (a : α) : (pure a : Traced Event ε α).lookups = 0 := rfl

@[simp] theorem lookups_fail (e : ε) : (fail e : Traced Event ε α).lookups = 0 := rfl

@[simp] theorem lookups_ofExcept (outcome : Except ε α) :
    (ofExcept outcome : Traced Event ε α).lookups = 0 := rfl

/-- If the first part of a sequence succeeds, the lookups of both parts add up. -/
theorem lookups_bind_of_ok {x : Traced Event ε α} {a : α} (h : x.outcome = .ok a)
    (f : α → Traced Event ε β) : (x >>= f).lookups = x.lookups + (f a).lookups := by
  rw [lookups, events_bind_of_ok h, List.countP_append]
  rfl

/-- If it fails, nothing is looked up any more. -/
theorem lookups_bind_of_error {x : Traced Event ε α} {e : ε} (h : x.outcome = .error e)
    (f : α → Traced Event ε β) : (x >>= f).lookups = x.lookups := by
  rw [lookups, events_bind_of_error h]
  rfl

/-- A sequence looks nothing up if no part of it does. -/
theorem lookups_bind_eq_zero {x : Traced Event ε α} {f : α → Traced Event ε β}
    (hx : x.lookups = 0) (hf : ∀ a, (f a).lookups = 0) : (x >>= f).lookups = 0 := by
  cases h : x.outcome with
  | ok a => rw [lookups_bind_of_ok h, hx, hf]
  | error e => rw [lookups_bind_of_error h, hx]

end Traced

end DarkGravity
