import DarkGravity.Proofs.Check.Acceptance
import DarkGravity.Proofs.ProofOfWork.Batch

/-!
# Runs of a replay

A replay tests header after header, each on the block of the header before it and the store of the
blocks so far. `judge_eq_none_iff`, `judge_eq_some_iff` and `judge_eq_error_iff` say what a single
test means. The state before a test is a function of the number of headers accepted so far
(`Progress.after`), so a run is described by that number: some headers pass every test, and then the
chain ends, the next header fails a test, or the work of the next header cannot be tested
(`replay_cases`).
-/

namespace DarkGravity

/-! ## The tests of one header -/

/-- The header passes every test on its parent. -/
structure Accepts (v : Verifier) (checkWork : Bool) (parent : Block) (store : Store)
    (next : Header) : Prop where
  connected : next.previous = parent.hash
  difficulty : (v.check parent next store.lookup).outcome = .ok ()
  work : checkWork = true → next.meetsTarget = .ok true

/-- The header fails a test, and the reason is that of the first test that it fails. -/
inductive Rejects (v : Verifier) (checkWork : Bool) (parent : Block) (store : Store)
    (next : Header) : Rejection.Reason → Prop
  | disconnected (connected : next.previous ≠ parent.hash) :
      Rejects v checkWork parent store next .disconnected
  | difficulty {error : CheckError} (connected : next.previous = parent.hash)
      (difficulty : (v.check parent next store.lookup).outcome = .error error) :
      Rejects v checkWork parent store next (.difficulty error)
  | insufficientWork (connected : next.previous = parent.hash)
      (difficulty : (v.check parent next store.lookup).outcome = .ok ())
      (checked : checkWork = true) (work : next.meetsTarget = .ok false) :
      Rejects v checkWork parent store next .insufficientWork

/-- The header passes the tests before that of its work, but its word has no target to work for. -/
structure Stuck (v : Verifier) (checkWork : Bool) (parent : Block) (store : Store)
    (next : Header) (error : Compact.Error) : Prop where
  connected : next.previous = parent.hash
  difficulty : (v.check parent next store.lookup).outcome = .ok ()
  checked : checkWork = true
  work : next.meetsTarget = .error error

section Judge

variable {v : Verifier} {checkWork : Bool} {p : Progress} {next : Header}

/-- The three tests in order. -/
theorem outcome_judge :
    (judge v checkWork p next.hashed).outcome =
      if next.previous ≠ p.previous.hash then .ok (some .disconnected)
      else match (v.check p.previous next p.store.lookup).outcome with
        | .error e => .ok (some (.difficulty e))
        | .ok () =>
          if checkWork then
            next.meetsTarget.map fun enough => if enough then none else some .insufficientWork
          else .ok none := by
  unfold judge
  by_cases hconnected : next.previous ≠ p.previous.hash
  · have hconnected' : next.hashed.header.previous ≠ p.previous.hash := hconnected
    rw [if_pos hconnected, if_pos hconnected']
    rfl
  · have hconnected' : ¬ next.hashed.header.previous ≠ p.previous.hash := hconnected
    rw [if_neg hconnected, if_neg hconnected',
      Traced.outcome_bind_of_ok (Traced.outcome_attempt _)]
    simp only [Header.hashed]
    cases (v.check p.previous next p.store.lookup).outcome with
    | error e => rfl
    | ok _ =>
      cases checkWork with
      | false => rfl
      | true =>
        simp only [Header.meetsTarget]
        cases next.hash.meetsTarget next.bits <;> rfl

theorem judge_eq_none_iff :
    (judge v checkWork p next.hashed).outcome = .ok none ↔
      Accepts v checkWork p.previous p.store next := by
  rw [outcome_judge]
  constructor
  · intro h
    split at h
    · cases h
    · next hconnected =>
      split at h
      · cases h
      · next hcheck =>
        refine ⟨not_ne_iff.mp hconnected, hcheck, ?_⟩
        rintro rfl
        cases hwork : next.meetsTarget with
        | error e => simp [hwork, Except.map] at h
        | ok enough => simpa [hwork, Except.map] using h
  · rintro ⟨hconnected, hcheck, hwork⟩
    rw [if_neg (not_ne_iff.mpr hconnected), hcheck]
    cases checkWork with
    | false => rfl
    | true => simp [hwork rfl, Except.map]

theorem judge_eq_some_iff {reason : Rejection.Reason} :
    (judge v checkWork p next.hashed).outcome = .ok (some reason) ↔
      Rejects v checkWork p.previous p.store next reason := by
  rw [outcome_judge]
  constructor
  · intro h
    split at h
    · next hconnected =>
      cases h
      exact .disconnected hconnected
    · next hconnected =>
      split at h
      · next e hcheck =>
        cases h
        exact .difficulty (not_ne_iff.mp hconnected) hcheck
      · next hcheck =>
        split at h
        · next hchecked =>
          cases hwork : next.meetsTarget with
          | error e => simp [hwork, Except.map] at h
          | ok enough =>
            cases enough with
            | true => simp [hwork, Except.map] at h
            | false =>
              obtain rfl : Rejection.Reason.insufficientWork = reason := by
                simpa [hwork, Except.map] using h
              exact .insufficientWork (not_ne_iff.mp hconnected) hcheck hchecked hwork
        · cases h
  · rintro (hconnected | ⟨hconnected, hcheck⟩ | ⟨hconnected, hcheck, rfl, hwork⟩)
    · rw [if_pos hconnected]
    · rw [if_neg (not_ne_iff.mpr hconnected), hcheck]
    · rw [if_neg (not_ne_iff.mpr hconnected), hcheck]
      simp [hwork, Except.map]

theorem judge_eq_error_iff {error : Compact.Error} :
    (judge v checkWork p next.hashed).outcome = .error error ↔
      Stuck v checkWork p.previous p.store next error := by
  rw [outcome_judge]
  constructor
  · intro h
    split at h
    · cases h
    · next hconnected =>
      split at h
      · cases h
      · next hcheck =>
        split at h
        · next hchecked =>
          refine ⟨not_ne_iff.mp hconnected, hcheck, hchecked, ?_⟩
          cases hwork : next.meetsTarget with
          | error e => simpa [hwork, Except.map] using h
          | ok enough => simp [hwork, Except.map] at h
        · cases h
  · rintro ⟨hconnected, hcheck, rfl, hwork⟩
    rw [if_neg (not_ne_iff.mpr hconnected), hcheck]
    simp [hwork, Except.map]

end Judge

/-! ## The state of a run -/

/-- The blocks of the headers of a chain whose first is at `start`. -/
def chainBlocks (start : UInt64) (headers : List Header) : List Block :=
  headers.mapIdx fun i header => Block.ofHeader header (start + UInt64.ofNat i)

/-- The store of the blocks of the headers up to the `i`-th, counted from zero. -/
def storeUpTo (start : UInt64) (headers : List Header) (i : ℕ) : Store :=
  Store.empty.insertAll ((chainBlocks start headers).take (i + 1))

/-- The state of a run whose last accepted header is the `k`-th. -/
def Progress.after (start : UInt64) (headers : List Header) (k : ℕ) (last : Header) : Progress :=
  ⟨Block.ofHeader last (start + UInt64.ofNat k), storeUpTo start headers k, k⟩

section State

variable {start : UInt64} {headers : List Header} {k : ℕ} {last next : Header}

/-- One more header adds its block. -/
theorem storeUpTo_succ (hnext : headers[k + 1]? = some next) :
    storeUpTo start headers (k + 1) =
      (storeUpTo start headers k).insert
        (Block.ofHeader next (start + UInt64.ofNat (k + 1))) := by
  have hblock : (chainBlocks start headers)[k + 1]? =
      some (Block.ofHeader next (start + UInt64.ofNat (k + 1))) := by
    rw [chainBlocks, List.getElem?_mapIdx, hnext]
    rfl
  rw [storeUpTo, List.take_add_one, hblock, Store.insertAll_append]
  rfl

theorem Progress.nextHeight_after :
    (Progress.after start headers k last).nextHeight = start + UInt64.ofNat (k + 1) := by
  rw [UInt64.ofNat_add, ← UInt64.add_assoc]
  rfl

/-- A run starts after its anchor. -/
theorem Progress.ofAnchor_hashed (anchor : Header) (rest : List Header) :
    Progress.ofAnchor anchor.hashed start = Progress.after start (anchor :: rest) 0 anchor := by
  have hblock : Block.ofHeader anchor (start + UInt64.ofNat 0) = Block.ofHeader anchor start := by
    show Block.ofHeader anchor (start + 0) = _
    rw [UInt64.add_zero]
  rw [Progress.after, hblock, storeUpTo, chainBlocks, List.mapIdx_cons, hblock]
  rfl

/-- An accepted header brings a run to the next state. -/
theorem Progress.accept_after (hnext : headers[k + 1]? = some next) :
    (Progress.after start headers k last).accept next.hashed =
      Progress.after start headers (k + 1) next := by
  rw [Progress.accept, nextHeight_after]
  simp only [Progress.after, storeUpTo_succ hnext]
  rfl

end State

/-! ## Whole runs -/

section Runs

variable {v : Verifier} {checkWork : Bool} {start : UInt64} {headers : List Header}

/-- Two headers that follow each other in a chain. -/
structure Adjacent (headers : List Header) (i : ℕ) (parent next : Header) : Prop where
  parent : headers[i]? = some parent
  next : headers[i + 1]? = some next

/-- There is a header after the `i`-th, and it passes every test on the blocks up to the `i`-th. -/
def AcceptedAfter (v : Verifier) (checkWork : Bool) (start : UInt64) (headers : List Header)
    (i : ℕ) : Prop :=
  ∃ parent next, Adjacent headers i parent next ∧
    Accepts v checkWork (Block.ofHeader parent (start + UInt64.ofNat i))
      (storeUpTo start headers i) next

/-- Two headers that are accepted one after the other are a run. -/
theorem acceptedAfter_of_lt_two {i : ℕ} (hfirst : AcceptedAfter v checkWork start headers 0)
    (hsecond : AcceptedAfter v checkWork start headers 1) (hlt : i < 2) :
    AcceptedAfter v checkWork start headers i := by
  obtain rfl | rfl := Nat.le_one_iff_eq_zero_or_eq_one.mp (Nat.lt_succ_iff.mp hlt)
  · exact hfirst
  · exact hsecond

/-- How a run ends after `n` accepted headers. -/
inductive EndsAfter (v : Verifier) (checkWork : Bool) (start : UInt64) (headers : List Header)
    (n : ℕ) : Except Compact.Error Report → Prop
  | finished (length : headers.length = n + 1) :
      EndsAfter v checkWork start headers n (.ok ⟨n, none⟩)
  | rejected {parent next : Header} {reason : Rejection.Reason}
      (adjacent : Adjacent headers n parent next)
      (rejects : Rejects v checkWork (Block.ofHeader parent (start + UInt64.ofNat n))
        (storeUpTo start headers n) next reason) :
      EndsAfter v checkWork start headers n
        (.ok ⟨n, some ⟨start + UInt64.ofNat (n + 1), next.hash, reason⟩⟩)
  | stuck {parent next : Header} {error : Compact.Error}
      (adjacent : Adjacent headers n parent next)
      (stuck : Stuck v checkWork (Block.ofHeader parent (start + UInt64.ofNat n))
        (storeUpTo start headers n) next error) :
      EndsAfter v checkWork start headers n (.error error)

section Unique

variable {parent next : Header} {n : ℕ}

theorem Adjacent.unique {parent' next' : Header} (h : Adjacent headers n parent next)
    (h' : Adjacent headers n parent' next') : parent = parent' ∧ next = next' :=
  ⟨Option.some.inj (h.parent.symm.trans h'.parent), Option.some.inj (h.next.symm.trans h'.next)⟩

theorem Adjacent.lt_length (h : Adjacent headers n parent next) : n + 1 < headers.length :=
  (List.getElem?_eq_some_iff.mp h.next).1

/-- Where a header follows, a chain does not end. -/
theorem Adjacent.length_ne (h : Adjacent headers n parent next) : headers.length ≠ n + 1 :=
  h.lt_length.ne'

variable {block : Block} {store : Store} {reason : Rejection.Reason}

/-- The three verdicts on a header exclude each other, because they are outcomes of one test. -/
theorem Rejects.not_accepts (h : Rejects v checkWork block store next reason) :
    ¬ Accepts v checkWork block store next := by
  intro haccepts
  have hnone := judge_eq_none_iff (p := ⟨block, store, 0⟩).mpr haccepts
  have hsome := judge_eq_some_iff (p := ⟨block, store, 0⟩).mpr h
  rw [hnone] at hsome
  cases hsome

theorem Rejects.unique {reason' : Rejection.Reason}
    (h : Rejects v checkWork block store next reason)
    (h' : Rejects v checkWork block store next reason') : reason = reason' := by
  have hsome := judge_eq_some_iff (p := ⟨block, store, 0⟩).mpr h
  have hsome' := judge_eq_some_iff (p := ⟨block, store, 0⟩).mpr h'
  rw [hsome] at hsome'
  cases hsome'
  rfl

theorem Stuck.not_accepts {error : Compact.Error} (h : Stuck v checkWork block store next error) :
    ¬ Accepts v checkWork block store next := by
  intro haccepts
  have hwork := haccepts.work h.checked
  rw [h.work] at hwork
  cases hwork

theorem Stuck.not_rejects {error : Compact.Error} (h : Stuck v checkWork block store next error) :
    ¬ Rejects v checkWork block store next reason := by
  intro hrejects
  have herror := judge_eq_error_iff (p := ⟨block, store, 0⟩).mpr h
  have hsome := judge_eq_some_iff (p := ⟨block, store, 0⟩).mpr hrejects
  rw [herror] at hsome
  cases hsome

/-- A run does not accept another header after its end. -/
theorem EndsAfter.not_acceptedAfter {outcome : Except Compact.Error Report}
    (h : EndsAfter v checkWork start headers n outcome) :
    ¬ AcceptedAfter v checkWork start headers n := by
  rintro ⟨parent, next, hadjacent, haccepts⟩
  cases h with
  | finished hlength => exact absurd hlength hadjacent.length_ne
  | rejected hadjacent' hrejects =>
    obtain ⟨rfl, rfl⟩ := hadjacent.unique hadjacent'
    exact hrejects.not_accepts haccepts
  | stuck hadjacent' hstuck =>
    obtain ⟨rfl, rfl⟩ := hadjacent.unique hadjacent'
    exact hstuck.not_accepts haccepts

/-- A run ends in one way. -/
theorem EndsAfter.unique {outcome outcome' : Except Compact.Error Report}
    (h : EndsAfter v checkWork start headers n outcome)
    (h' : EndsAfter v checkWork start headers n outcome') : outcome = outcome' := by
  cases h with
  | finished hlength =>
    cases h' with
    | finished => rfl
    | rejected hadjacent => exact absurd hlength hadjacent.length_ne
    | stuck hadjacent => exact absurd hlength hadjacent.length_ne
  | rejected hadjacent hrejects =>
    cases h' with
    | finished hlength => exact absurd hlength hadjacent.length_ne
    | rejected hadjacent' hrejects' =>
      obtain ⟨rfl, rfl⟩ := hadjacent.unique hadjacent'
      rw [hrejects.unique hrejects']
    | stuck hadjacent' hstuck =>
      obtain ⟨rfl, rfl⟩ := hadjacent.unique hadjacent'
      exact absurd hrejects hstuck.not_rejects
  | stuck hadjacent hstuck =>
    cases h' with
    | finished hlength => exact absurd hlength hadjacent.length_ne
    | rejected hadjacent' hrejects =>
      obtain ⟨rfl, rfl⟩ := hadjacent.unique hadjacent'
      exact absurd hrejects hstuck.not_rejects
    | stuck hadjacent' hstuck' =>
      obtain ⟨rfl, rfl⟩ := hadjacent.unique hadjacent'
      rw [Except.error.inj (hstuck.work.symm.trans hstuck'.work)]

/-- The number of accepted headers of a run is determined. -/
theorem EndsAfter.count_unique {m : ℕ} {outcome outcome' : Except Compact.Error Report}
    (haccepted : ∀ i < n, AcceptedAfter v checkWork start headers i)
    (h : EndsAfter v checkWork start headers n outcome)
    (haccepted' : ∀ i < m, AcceptedAfter v checkWork start headers i)
    (h' : EndsAfter v checkWork start headers m outcome') : n = m := by
  rcases Nat.lt_trichotomy n m with hlt | heq | hlt
  · exact absurd (haccepted' n hlt) h.not_acceptedAfter
  · exact heq
  · exact absurd (haccepted m hlt) h'.not_acceptedAfter

end Unique

theorem outcome_replay_nil (backend : Backend) :
    (replay v backend checkWork start []).outcome = .ok Report.empty := by
  rw [replay, hashHeaders_eq_map]
  rfl

/-- The outcome of a replay is that of the run after its anchor, whatever computes the hashes. -/
theorem outcome_replay_cons (backend : Backend) (anchor : Header) (rest : List Header) :
    (replay v backend checkWork start (anchor :: rest)).outcome =
      (replayFrom v checkWork (.ofAnchor anchor.hashed start)
        (rest.map Header.hashed)).outcome := by
  rw [replay, hashHeaders_eq_map, List.map_cons]
  dsimp only
  rw [Traced.outcome_bind_of_ok (Traced.outcome_emit _), Traced.outcome_bind]
  cases (replayFrom v checkWork (.ofAnchor anchor.hashed start)
    (rest.map Header.hashed)).outcome <;> rfl

variable (v checkWork start)

/-- From the `k`-th header on, a run accepts some headers and then ends. -/
theorem replayFrom_cases {k : ℕ} {last : Header} {rest : List Header}
    (hrest : headers.drop k = last :: rest) :
    ∃ n, (∀ i, k ≤ i → i < n → AcceptedAfter v checkWork start headers i) ∧
      EndsAfter v checkWork start headers n
        (replayFrom v checkWork (.after start headers k last)
          (rest.map Header.hashed)).outcome := by
  have hlast : headers[k]? = some last := by
    rw [← List.head?_drop, hrest, List.head?_cons]
  induction rest generalizing k last with
  | nil =>
    have hlength : headers.length = k + 1 := by
      have hdrop := congrArg List.length hrest
      rw [List.length_drop, List.length_singleton] at hdrop
      omega
    exact ⟨k, fun i hle hlt => absurd hlt (Nat.not_lt.mpr hle), .finished hlength⟩
  | cons next rest ih =>
    have hdrop : headers.drop (k + 1) = next :: rest := by
      rw [← List.drop_drop, hrest, List.drop_one, List.tail_cons]
    have hnext : headers[k + 1]? = some next := by
      rw [← List.head?_drop, hdrop, List.head?_cons]
    have hadjacent : Adjacent headers k last next := ⟨hlast, hnext⟩
    rw [List.map_cons, replayFrom]
    cases hjudge : (judge v checkWork (.after start headers k last) next.hashed).outcome with
    | error e =>
      rw [Traced.outcome_bind_of_error hjudge]
      exact ⟨k, fun i hle hlt => absurd hlt (Nat.not_lt.mpr hle),
        .stuck hadjacent (judge_eq_error_iff.mp hjudge)⟩
    | ok verdict =>
      rw [Traced.outcome_bind_of_ok hjudge]
      cases verdict with
      | some reason =>
        refine ⟨k, fun i hle hlt => absurd hlt (Nat.not_lt.mpr hle), ?_⟩
        rw [Traced.outcome_bind_of_ok (Traced.outcome_emit _), Progress.nextHeight_after]
        exact .rejected hadjacent (judge_eq_some_iff.mp hjudge)
      | none =>
        obtain ⟨n, haccepted, hends⟩ := ih hdrop hnext
        refine ⟨n, ?_, ?_⟩
        · intro i hle hlt
          rcases Nat.eq_or_lt_of_le hle with rfl | hlater
          · exact ⟨last, next, hadjacent, judge_eq_none_iff.mp hjudge⟩
          · exact haccepted i hlater hlt
        · dsimp only
          rw [Progress.accept_after hnext]
          exact hends

/-- Every replay of a chain that has an anchor accepts some headers and then ends. -/
theorem replay_cases (backend : Backend) (hne : headers ≠ []) :
    ∃ n, (∀ i < n, AcceptedAfter v checkWork start headers i) ∧
      EndsAfter v checkWork start headers n
        (replay v backend checkWork start headers).outcome := by
  obtain ⟨anchor, rest, rfl⟩ := List.exists_cons_of_ne_nil hne
  obtain ⟨n, haccepted, hends⟩ := replayFrom_cases v checkWork start
    (List.drop_zero (l := anchor :: rest))
  refine ⟨n, fun i hlt => haccepted i i.zero_le hlt, ?_⟩
  rw [outcome_replay_cons, Progress.ofAnchor_hashed]
  exact hends

end Runs

end DarkGravity
