/-!
# Computations with a trace

A traced computation ends in a value or an error and leaves the list of what happened on the way.
The trace of a sequence is the traces of its parts one after the other, up to the part that
failed. The outcome of a sequence does not depend on the traces.
-/

namespace DarkGravity

/-- An outcome and the events before it, oldest first. -/
structure Traced (ω ε α : Type) where
  outcome : Except ε α
  events : List ω

namespace Traced

variable {ω ε α β : Type}

/-- A value without events. -/
def value (a : α) : Traced ω ε α := ⟨.ok a, []⟩

/-- An error without events. -/
def fail (e : ε) : Traced ω ε α := ⟨.error e, []⟩

/-- An outcome without events. -/
def ofExcept (outcome : Except ε α) : Traced ω ε α := ⟨outcome, []⟩

/-- One event. -/
def emit (event : ω) : Traced ω ε Unit := ⟨.ok (), [event]⟩

/-- Continues with the value, if there is one. -/
def andThen (x : Traced ω ε α) (f : α → Traced ω ε β) : Traced ω ε β :=
  match x.outcome with
  | .ok a =>
    let y := f a
    ⟨y.outcome, x.events ++ y.events⟩
  | .error e => ⟨.error e, x.events⟩

instance : Monad (Traced ω ε) where
  pure := value
  bind := andThen

instance : LawfulMonad (Traced ω ε) :=
  LawfulMonad.mk' (Traced ω ε)
    (by
      intro α x
      obtain ⟨outcome, events⟩ := x
      cases outcome <;> simp [Functor.map, andThen, value])
    (by
      intro α β a f
      simp [bind, andThen, pure, value])
    (by
      intro α β γ x f g
      obtain ⟨outcome, events⟩ := x
      cases outcome with
      | error e => rfl
      | ok a =>
        simp only [bind, andThen]
        cases (f a).outcome <;> simp)

/-- The same events with an error of another type. -/
def mapError {ε' : Type} (f : ε → ε') (x : Traced ω ε α) : Traced ω ε' α :=
  ⟨x.outcome.mapError f, x.events⟩

/-- A computation that cannot fail and gives the outcome as its value. -/
def attempt {ε' : Type} (x : Traced ω ε α) : Traced ω ε' (Except ε α) :=
  ⟨.ok x.outcome, x.events⟩

@[simp] theorem outcome_pure (a : α) : (pure a : Traced ω ε α).outcome = .ok a := rfl

@[simp] theorem outcome_fail (e : ε) : (fail e : Traced ω ε α).outcome = .error e := rfl

@[simp] theorem outcome_ofExcept (outcome : Except ε α) :
    (ofExcept outcome : Traced ω ε α).outcome = outcome := rfl

@[simp] theorem outcome_emit (event : ω) : (emit event : Traced ω ε Unit).outcome = .ok () := rfl

@[simp] theorem outcome_mapError {ε' : Type} (f : ε → ε') (x : Traced ω ε α) :
    (x.mapError f).outcome = x.outcome.mapError f := rfl

@[simp] theorem outcome_attempt {ε' : Type} (x : Traced ω ε α) :
    (x.attempt : Traced ω ε' (Except ε α)).outcome = .ok x.outcome := rfl

@[simp] theorem events_pure (a : α) : (pure a : Traced ω ε α).events = [] := rfl

/-- The outcome of a sequence is that of the outcomes alone. -/
@[simp] theorem outcome_bind (x : Traced ω ε α) (f : α → Traced ω ε β) :
    (x >>= f).outcome = x.outcome >>= fun a => (f a).outcome := by
  show (andThen x f).outcome = _
  unfold andThen
  cases x.outcome <;> rfl

/-- A sequence succeeds exactly when both its parts do. -/
theorem outcome_bind_eq_ok_iff {x : Traced ω ε α} {f : α → Traced ω ε β} {b : β} :
    (x >>= f).outcome = .ok b ↔ ∃ a, x.outcome = .ok a ∧ (f a).outcome = .ok b := by
  rw [outcome_bind]
  cases x.outcome with
  | error e => simp [bind, Except.bind]
  | ok a => simp [bind, Except.bind]

/-- A sequence fails exactly when its first part does or the second after it. -/
theorem outcome_bind_eq_error_iff {x : Traced ω ε α} {f : α → Traced ω ε β} {e : ε} :
    (x >>= f).outcome = .error e ↔
      x.outcome = .error e ∨ ∃ a, x.outcome = .ok a ∧ (f a).outcome = .error e := by
  rw [outcome_bind]
  cases x.outcome with
  | error e' => simp [bind, Except.bind]
  | ok a => simp [bind, Except.bind]

/-- After a success only the second part counts for the outcome. -/
theorem outcome_bind_of_ok {x : Traced ω ε α} {a : α} (h : x.outcome = .ok a)
    (f : α → Traced ω ε β) : (x >>= f).outcome = (f a).outcome := by
  rw [outcome_bind, h]
  rfl

/-- A failure ends a sequence. -/
theorem outcome_bind_of_error {x : Traced ω ε α} {e : ε} (h : x.outcome = .error e)
    (f : α → Traced ω ε β) : (x >>= f).outcome = .error e := by
  rw [outcome_bind, h]
  rfl

/-- The events of a sequence whose first part succeeds. -/
theorem events_bind_of_ok {x : Traced ω ε α} {a : α} (h : x.outcome = .ok a)
    (f : α → Traced ω ε β) : (x >>= f).events = x.events ++ (f a).events := by
  show (andThen x f).events = _
  simp [andThen, h]

/-- The events of a sequence whose first part fails. -/
theorem events_bind_of_error {x : Traced ω ε α} {e : ε} (h : x.outcome = .error e)
    (f : α → Traced ω ε β) : (x >>= f).events = x.events := by
  show (andThen x f).events = _
  simp [andThen, h]

/-- The events of the first part of a sequence are events of the sequence. -/
theorem mem_events_bind {x : Traced ω ε α} {event : ω} (h : event ∈ x.events)
    (f : α → Traced ω ε β) : event ∈ (x >>= f).events := by
  cases hx : x.outcome with
  | ok a =>
    rw [events_bind_of_ok hx]
    exact List.mem_append_left _ h
  | error e => rwa [events_bind_of_error hx]

end Traced

end DarkGravity
