import DarkGravity.Event

/-!
# Counters

The counters of a run follow from its events. They are written in the exposition format of metrics,
families in order of their names; a counter that was never moved is not written. Of the durations of
checks only the number is written, because durations are not measured.
-/

namespace DarkGravity.Log

/-- The counters of a run. -/
structure Metrics where
  /-- Checks that succeeded. -/
  verified : Nat
  /-- Checks that failed, by the label of their error. -/
  rejected : List (String × Nat)
  /-- Computed targets above the ceiling. -/
  ceilingHits : Nat
  deriving DecidableEq, Repr

namespace Metrics

/-- The labels of errors, in order. -/
def labels : List String :=
  ["chain_incomplete", "chain_inconsistent", "difficulty_mismatch", "invalid_compact",
    "unexpected_change"]

/-- Whether an event is a check that succeeded. -/
def isPass : Event → Bool
  | .checkPassed .. => true
  | _ => false

/-- Whether an event is a check that failed with an error of this label. -/
def isFailure (label : String) : Event → Bool
  | .checkFailed _ error => error.label == label
  | _ => false

/-- Whether an event is a computed target above the ceiling. -/
def isCeilingHit : Event → Bool
  | .ceilingHit _ => true
  | _ => false

/-- The counters after some events. -/
def ofEvents (events : List Event) : Metrics where
  verified := events.countP isPass
  rejected := labels.map fun label => (label, events.countP (isFailure label))
  ceilingHits := events.countP isCeilingHit

/-- Checks that failed with any error. -/
def rejectedTotal (m : Metrics) : Nat := m.rejected.foldl (fun total sample => total + sample.2) 0

/-- The lines before the samples of a family. -/
def familyHead (name kind help : String) : List String :=
  ["# HELP " ++ name ++ " " ++ help, "# TYPE " ++ name ++ " " ++ kind]

/-- A family with one sample. -/
def counterLines (name help : String) (count : Nat) : List String :=
  if count = 0 then []
  else familyHead name "counter" help ++ [name ++ " " ++ toString count]

/-- A label and its value between braces. -/
def labelText (name value : String) : String := "\x7b" ++ name ++ "=\"" ++ value ++ "\"\x7d"

/-- The failed checks. -/
def rejectedLines (m : Metrics) : List String :=
  let name := "difficulty_blocks_rejected_total"
  let moved := m.rejected.filter fun sample => sample.2 ≠ 0
  if moved.isEmpty then []
  else
    familyHead name "counter" "Total number of candidate blocks rejected by difficulty checks"
      ++ moved.map fun (label, count) =>
        name ++ labelText "reason" label ++ " " ++ toString count

/-- How many checks there were. -/
def latencyLines (m : Metrics) : List String :=
  let name := "difficulty_verification_latency_seconds"
  let count := m.verified + m.rejectedTotal
  if count = 0 then []
  else
    familyHead name "histogram" "Time taken to verify a candidate's difficulty in seconds"
      ++ [name ++ "_bucket" ++ labelText "le" "+Inf" ++ " " ++ toString count,
        name ++ "_count " ++ toString count]

/-- The counters as text. -/
def lines (m : Metrics) : List String :=
  m.rejectedLines
    ++ counterLines "difficulty_blocks_verified_total"
      "Total number of candidate blocks whose difficulty verified" m.verified
    ++ counterLines "difficulty_ceiling_clamps_total"
      "Total number of computed targets clamped to the proof-of-work limit" m.ceilingHits
    ++ m.latencyLines

end Metrics

end DarkGravity.Log
