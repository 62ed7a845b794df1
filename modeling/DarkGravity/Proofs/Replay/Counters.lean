import DarkGravity.Proofs.Check.Counted
import DarkGravity.Proofs.Replay.Specification
import Mathlib.Algebra.BigOperators.Group.Finset.Piecewise
import Mathlib.Data.Set.Card

/-!
# The counters of a replay

A run that accepts `n` headers tests the headers after the `i`-th for all `i ≤ n`, and checks those
of them that are connected. What the run counts is what these checks count, one after the other
(`counted_replay`). So the counters follow from the report: all accepted headers passed their
checks, and the rejected one passed, failed or was not checked (`ChainFile.metrics_of_replay`).
-/

namespace DarkGravity

/-! ## The checks of a run -/

/-- What the check of the header after the `i`-th counts. A header that is not connected is not
checked. -/
def countedAfter (v : Verifier) (start : UInt64) (headers : List Header) (i : ℕ) : List Event :=
  match headers[i]?, headers[i + 1]? with
  | some parent, some next =>
    if next.previous = parent.hash then
      (v.check (Block.ofHeader parent (start + UInt64.ofNat i)) next
        (storeUpTo start headers i).lookup).counted
    else []
  | _, _ => []

/-- What the checks of the headers after the first `k` count, one after the other. -/
def countedBefore (v : Verifier) (start : UInt64) (headers : List Header) (k : ℕ) : List Event :=
  (List.range k).flatMap (countedAfter v start headers)

/-- The header after the `i`-th is checked, and the check computes a target above the ceiling. -/
def ExceedsAfter (v : Verifier) (start : UInt64) (headers : List Header) (i : ℕ) : Prop :=
  ∃ parent next, Adjacent headers i parent next ∧ next.previous = parent.hash ∧
    v.Exceeds (Block.ofHeader parent (start + UInt64.ofNat i)) next
      (storeUpTo start headers i).lookup

section

variable {v : Verifier} {checkWork : Bool} {start : UInt64} {headers : List Header} {i k : ℕ}
  {parent next last : Header} {report : Report}

theorem countedAfter_of_connected (h : Adjacent headers i parent next)
    (hconnected : next.previous = parent.hash) :
    countedAfter v start headers i =
      (v.check (Block.ofHeader parent (start + UInt64.ofNat i)) next
        (storeUpTo start headers i).lookup).counted := by
  rw [countedAfter, h.parent, h.next]
  exact if_pos hconnected

theorem countedAfter_of_disconnected (h : Adjacent headers i parent next)
    (hdisconnected : next.previous ≠ parent.hash) : countedAfter v start headers i = [] := by
  rw [countedAfter, h.parent, h.next]
  exact if_neg hdisconnected

theorem countedAfter_of_end (h : headers.length ≤ i + 1) : countedAfter v start headers i = [] := by
  rw [countedAfter, List.getElem?_eq_none h]
  cases headers[i]? <;> rfl

theorem countedBefore_succ :
    countedBefore v start headers (k + 1) =
      countedBefore v start headers k ++ countedAfter v start headers k := by
  rw [countedBefore, List.range_succ, List.flatMap_append, List.flatMap_singleton]
  rfl

/-- Neither the test of the connection nor that of the work counts anything. -/
theorem counted_judge (h : Adjacent headers k last next) :
    (judge v checkWork (.after start headers k last) next.hashed).counted =
      countedAfter v start headers k := by
  unfold judge
  by_cases hconnected : next.previous = last.hash
  · have hconnected' : ¬ next.hashed.header.previous ≠
        (Progress.after start headers k last).previous.hash := not_not_intro hconnected
    rw [countedAfter_of_connected h hconnected, if_neg hconnected',
      Traced.counted_bind_of_ok (Traced.outcome_attempt _)]
    -- what follows the check is a constant or the comparison of the work
    refine (congrArg _ ?_).trans (List.append_nil _)
    split
    · rfl
    · split
      · rfl
      · exact Traced.counted_bind_eq_nil rfl fun _ => rfl
  · have hconnected' : next.hashed.header.previous ≠
        (Progress.after start headers k last).previous.hash := hconnected
    rw [countedAfter_of_disconnected h hconnected, if_pos hconnected']
    rfl

/-- What a run has counted before its `k`-th header and what it counts from there on is what the
checks up to its end count. -/
theorem counted_replayFrom {rest : List Header} (hrest : headers.drop k = last :: rest)
    (hok : (replayFrom v checkWork (.after start headers k last)
      (rest.map Header.hashed)).outcome = .ok report) :
    countedBefore v start headers k ++
        (replayFrom v checkWork (.after start headers k last) (rest.map Header.hashed)).counted =
      countedBefore v start headers (report.verified + 1) := by
  induction rest generalizing k last with
  | nil =>
    obtain rfl : ⟨k, none⟩ = report := Except.ok.inj hok
    have hlength : headers.length ≤ k + 1 := by
      have hdrop := congrArg List.length hrest
      rw [List.length_drop, List.length_singleton] at hdrop
      omega
    rw [countedBefore_succ, countedAfter_of_end hlength]
    rfl
  | cons next rest ih =>
    have hlast : headers[k]? = some last := by
      rw [← List.head?_drop, hrest, List.head?_cons]
    have hdrop : headers.drop (k + 1) = next :: rest := by
      rw [← List.drop_drop, hrest, List.drop_one, List.tail_cons]
    have hnext : headers[k + 1]? = some next := by
      rw [← List.head?_drop, hdrop, List.head?_cons]
    have hjudged : (judge v checkWork (.after start headers k last) next.hashed).counted =
        countedAfter v start headers k := counted_judge ⟨hlast, hnext⟩
    rw [List.map_cons, replayFrom] at hok ⊢
    cases hjudge : (judge v checkWork (.after start headers k last) next.hashed).outcome with
    | error e =>
      rw [Traced.outcome_bind_of_error hjudge] at hok
      cases hok
    | ok verdict =>
      rw [Traced.outcome_bind_of_ok hjudge] at hok
      rw [Traced.counted_bind_of_ok hjudge, hjudged, ← List.append_assoc, ← countedBefore_succ]
      cases verdict with
      | some reason =>
        dsimp only at hok ⊢
        rw [Traced.outcome_bind_of_ok (Traced.outcome_emit _)] at hok
        rw [Traced.counted_bind_of_ok (Traced.outcome_emit _),
          Traced.counted_emit_of_not_isCounted rfl]
        obtain rfl := Except.ok.inj hok
        exact List.append_nil _
      | none =>
        dsimp only at hok ⊢
        rw [Progress.accept_after hnext] at hok ⊢
        exact ih hdrop hok

/-- A replay that ends in a report counts what the checks up to its end count. -/
theorem counted_replay (backend : Backend)
    (hok : (replay v backend checkWork start headers).outcome = .ok report) :
    (replay v backend checkWork start headers).counted =
      countedBefore v start headers (report.verified + 1) := by
  cases headers with
  | nil =>
    rw [outcome_replay_nil] at hok
    obtain rfl := Except.ok.inj hok
    rw [replay, hashHeaders_eq_map]
    rfl
  | cons anchor rest =>
    rw [outcome_replay_cons] at hok
    have hrun : (replayFrom v checkWork (.ofAnchor anchor.hashed start)
        (rest.map Header.hashed)).counted =
        countedBefore v start (anchor :: rest) (report.verified + 1) := by
      rw [Progress.ofAnchor_hashed] at hok ⊢
      exact counted_replayFrom List.drop_zero hok
    rw [replay, hashHeaders_eq_map, List.map_cons]
    dsimp only
    rw [Traced.counted_bind_of_ok (Traced.outcome_emit _),
      Traced.counted_emit_of_not_isCounted rfl, Traced.counted_bind_of_ok hok, hrun]
    exact List.append_nil _

/-- How often an event is counted in the checks of a run is the sum over the checks. -/
theorem countP_countedBefore (f : Event → Bool) :
    (countedBefore v start headers k).countP f =
      ∑ i ∈ Finset.range k, (countedAfter v start headers i).countP f := by
  induction k with
  | zero => rfl
  | succ k ih => rw [countedBefore_succ, List.countP_append, ih, Finset.sum_range_succ]

/-! ## The counters -/

/-- The label of the error of the check at which a replay ended, if it ended so. -/
def Report.failureLabel? (report : Report) : Option String :=
  match report.rejection.map Rejection.reason with
  | some (.difficulty error) => some error.label
  | _ => none

open Log.Metrics

/-- The check of an accepted header is counted as passed. -/
theorem AcceptedAfter.countP (h : AcceptedAfter v checkWork start headers i) :
    (countedAfter v start headers i).countP isPass = 1 ∧
      ∀ label, (countedAfter v start headers i).countP (isFailure label) = 0 := by
  obtain ⟨parent, next, hadjacent, haccepts⟩ := h
  rw [countedAfter_of_connected hadjacent haccepts.connected]
  exact Verifier.countP_check_of_ok haccepts.difficulty

/-- After the accepted headers a check is counted as passed if the work of its header is not done,
and as failed if it fails. -/
theorem Report.Describes.countP_last (h : report.Describes v checkWork start headers) :
    (countedAfter v start headers report.verified).countP isPass =
        (if report.rejection.map Rejection.reason = some .insufficientWork then 1 else 0) ∧
      ∀ label, (countedAfter v start headers report.verified).countP (isFailure label) =
        if report.failureLabel? = some label then 1 else 0 := by
  cases hrejection : report.rejection with
  | none =>
    have hend : headers.length ≤ report.verified + 1 := by
      have hcomplete := h.complete.mp hrejection
      omega
    rw [countedAfter_of_end hend]
    simp [failureLabel?, hrejection]
  | some rejection =>
    obtain ⟨parent, next, hadjacent, -, -, hrejects⟩ := h.rejected rejection hrejection
    obtain ⟨height, hash, reason⟩ := rejection
    cases hrejects with
    | disconnected hconnected =>
      rw [countedAfter_of_disconnected hadjacent hconnected]
      simp [failureLabel?, hrejection]
    | difficulty hconnected herror =>
      rw [countedAfter_of_connected hadjacent hconnected]
      obtain ⟨hpass, hfailure⟩ := Verifier.countP_check_of_error herror
      refine ⟨by simp [hpass], fun label => ?_⟩
      rw [hfailure]
      simp [failureLabel?, hrejection]
    | insufficientWork hconnected hpasses =>
      rw [countedAfter_of_connected hadjacent hconnected]
      obtain ⟨hpass, hfailure⟩ := Verifier.countP_check_of_ok hpasses
      refine ⟨by simp [hpass], fun label => ?_⟩
      rw [hfailure]
      simp [failureLabel?, hrejection]

theorem exceedsAfter_iff (h : Adjacent headers i parent next) :
    ExceedsAfter v start headers i ↔ next.previous = parent.hash ∧
      v.Exceeds (Block.ofHeader parent (start + UInt64.ofNat i)) next
        (storeUpTo start headers i).lookup := by
  constructor
  · rintro ⟨parent', next', hadjacent, hexceeds⟩
    obtain ⟨rfl, rfl⟩ := h.unique hadjacent
    exact hexceeds
  · intro hexceeds
    exact ⟨parent, next, h, hexceeds⟩

open Classical in
/-- The check of a header counts a target above the ceiling if it computes one. -/
theorem countP_isCeilingHit_countedAfter :
    (countedAfter v start headers i).countP isCeilingHit =
      if ExceedsAfter v start headers i then 1 else 0 := by
  by_cases hend : headers.length ≤ i + 1
  · have hnot : ¬ ExceedsAfter v start headers i := by
      rintro ⟨parent, next, hadjacent, -⟩
      exact absurd hadjacent.lt_length (Nat.not_lt.mpr hend)
    rw [countedAfter_of_end hend, if_neg hnot, List.countP_nil]
  · obtain ⟨next, hnext⟩ : ∃ next, headers[i + 1]? = some next :=
      ⟨_, List.getElem?_eq_getElem (Nat.not_le.mp hend)⟩
    obtain ⟨parent, hparent⟩ : ∃ parent, headers[i]? = some parent :=
      ⟨_, List.getElem?_eq_getElem (Nat.lt_of_succ_lt (Nat.not_le.mp hend))⟩
    have hadjacent : Adjacent headers i parent next := ⟨hparent, hnext⟩
    by_cases hconnected : next.previous = parent.hash
    · rw [countedAfter_of_connected hadjacent hconnected, Verifier.countP_isCeilingHit_check]
      simp only [exceedsAfter_iff hadjacent, hconnected, true_and]
    · have hnot : ¬ ExceedsAfter v start headers i :=
        fun h => hconnected ((exceedsAfter_iff hadjacent).mp h).1
      rw [countedAfter_of_disconnected hadjacent hconnected, if_neg hnot, List.countP_nil]

/-- As many checks pass as headers are accepted, and one more if the work of the next is not
done. -/
theorem Report.Describes.countP_isPass (h : report.Describes v checkWork start headers) :
    (countedBefore v start headers (report.verified + 1)).countP isPass =
      report.verified +
        if report.rejection.map Rejection.reason = some .insufficientWork then 1 else 0 := by
  have haccepted : ∀ i ∈ Finset.range report.verified,
      (countedAfter v start headers i).countP isPass = 1 :=
    fun i hi => (h.accepted i (Finset.mem_range.mp hi)).countP.1
  rw [countP_countedBefore, Finset.sum_range_succ, Finset.sum_congr rfl haccepted, h.countP_last.1]
  simp

/-- At most the last check fails. -/
theorem Report.Describes.countP_isFailure (h : report.Describes v checkWork start headers)
    (label : String) :
    (countedBefore v start headers (report.verified + 1)).countP (isFailure label) =
      if report.failureLabel? = some label then 1 else 0 := by
  have haccepted : ∀ i ∈ Finset.range report.verified,
      (countedAfter v start headers i).countP (isFailure label) = 0 :=
    fun i hi => (h.accepted i (Finset.mem_range.mp hi)).countP.2 label
  rw [countP_countedBefore, Finset.sum_range_succ, Finset.sum_eq_zero haccepted, Nat.zero_add,
    h.countP_last.2]

/-- Each check that computes a target above the ceiling is counted once. -/
theorem countP_isCeilingHit_countedBefore :
    (countedBefore v start headers (k + 1)).countP isCeilingHit =
      {i | i ≤ k ∧ ExceedsAfter v start headers i}.ncard := by
  classical
  have hset : {i | i ≤ k ∧ ExceedsAfter v start headers i} =
      ((Finset.range (k + 1)).filter fun i => ExceedsAfter v start headers i : Finset ℕ) := by
    ext i
    simp
  rw [countP_countedBefore, hset, Set.ncard_coe_finset, Finset.card_filter]
  refine Finset.sum_congr rfl fun i _ => ?_
  convert countP_isCeilingHit_countedAfter

end

/-- A predicate on events that move counters is counted in these alone. -/
theorem Traced.countP_counted {ε α : Type} (x : Traced Event ε α) {f : Event → Bool}
    (hf : ∀ event, f event = true → event.isCounted = true) :
    x.counted.countP f = x.events.countP f := by
  rw [counted, List.countP_filter]
  refine List.countP_congr fun event _ => ?_
  rw [Bool.and_eq_true]
  exact and_iff_left_of_imp (hf event)

open Log.Metrics

/-- The counters of a computation are those of the events that move counters. -/
theorem Log.Metrics.ofEvents_counted {ε α : Type} (x : Traced Event ε α) :
    ofEvents x.counted = ofEvents x.events := by
  have hpass : ∀ event, isPass event = true → event.isCounted = true := by
    intro event h
    cases event <;> simp_all [isPass, Event.isCounted]
  have hfailure : ∀ label event, isFailure label event = true → event.isCounted = true := by
    intro label event h
    cases event <;> simp_all [isFailure, Event.isCounted]
  have hceiling : ∀ event, isCeilingHit event = true → event.isCounted = true := by
    intro event h
    cases event <;> simp_all [isCeilingHit, Event.isCounted]
  simp only [ofEvents, x.countP_counted hpass, x.countP_counted (hfailure _),
    x.countP_counted hceiling]

/-- Every error is counted under one label. -/
theorem Log.Metrics.rejectedTotal_of_label (error : CheckError) {m : Log.Metrics}
    (hrejected : m.rejected =
      labels.map fun label => (label, if some error.label = some label then 1 else 0)) :
    m.rejectedTotal = 1 ∧ (error.label, 1) ∈ m.rejected := by
  rw [rejectedTotal, hrejected]
  cases error <;> simp [labels, CheckError.label]

/-- The counters that belong to a report, for a number of targets above the ceiling. -/
def Report.metrics (report : Report) (ceilingHits : ℕ) : Log.Metrics where
  verified := report.verified +
    if report.rejection.map Rejection.reason = some .insufficientWork then 1 else 0
  rejected := labels.map fun label => (label, if report.failureLabel? = some label then 1 else 0)
  ceilingHits := ceilingHits

/-- The counters of a replay that ends in a report. -/
theorem ofEvents_replay {v : Verifier} {checkWork : Bool} {start : UInt64}
    {headers : List Header} {report : Report} (backend : Backend)
    (hok : (replay v backend checkWork start headers).outcome = .ok report) :
    ofEvents (replay v backend checkWork start headers).events =
      report.metrics {i | i ≤ report.verified ∧ ExceedsAfter v start headers i}.ncard := by
  have hdescribes := (outcome_replay_eq_ok_iff backend).mp hok
  rw [← Log.Metrics.ofEvents_counted, counted_replay backend hok]
  simp only [ofEvents, Report.metrics, hdescribes.countP_isPass, hdescribes.countP_isFailure,
    countP_isCeilingHit_countedBefore]

/-- If the replay of a file ends in a report, its counters follow from the report. Every accepted
header is counted as passed, and so is a header whose work is not done, because work comes after
difficulty. One check is counted as failed if the replay ends in an error of a check, under the
label of this error. The targets above the ceiling are counted once for each check that computes
one. -/
theorem ChainFile.metrics_of_replay {v : Verifier} {checkWork : Bool} {c : ChainFile}
    {report : Report} (backend : Backend)
    (hok : (c.replay v backend checkWork).outcome = .ok report) :
    let metrics := ofEvents (c.replay v backend checkWork).events
    let reason := report.rejection.map Rejection.reason
    metrics.verified = report.verified + (if reason = some .insufficientWork then 1 else 0) ∧
    (∀ error, reason = some (.difficulty error) →
      metrics.rejectedTotal = 1 ∧ (error.label, 1) ∈ metrics.rejected) ∧
    ((∀ error, reason ≠ some (.difficulty error)) → metrics.rejectedTotal = 0) ∧
    ∃ headers, List.Forall₂ Entry.Names c.headers headers ∧
      metrics.ceilingHits =
        {i | i ≤ report.verified ∧ ExceedsAfter v c.startHeight headers i}.ncard := by
  intro metrics reason
  obtain ⟨headers, hnames⟩ := exists_named_of_replay hok
  have hmetrics : metrics = report.metrics
      {i | i ≤ report.verified ∧ ExceedsAfter v c.startHeight headers i}.ncard := by
    show ofEvents (c.replay v backend checkWork).events = _
    rw [outcome_replay_of_named hnames, Except.mapError_eq_ok_iff] at hok
    rw [events_replay_of_named hnames, ofEvents_replay backend hok]
  rw [hmetrics]
  refine ⟨rfl, ?_, ?_, headers, hnames, rfl⟩
  · intro error hreason
    have hlabel : report.failureLabel? = some error.label := by
      rw [Report.failureLabel?, show report.rejection.map Rejection.reason = _ from hreason]
    apply rejectedTotal_of_label error
    simp only [Report.metrics, hlabel]
  · intro hreason
    have hnone : report.failureLabel? = none := by
      rw [Report.failureLabel?]
      split
      · next error h => exact absurd h (hreason error)
      · rfl
    simp only [rejectedTotal, Report.metrics, hnone]
    rfl

/-- On a test network the second header comes before the fork and is accepted as it is. The third
comes late and claims a target above the ceiling, which is counted once, as is the failure of its
check. -/
theorem ChainFile.metrics_of_replay_of_late_claim :
    let v : Verifier := ⟨.preset .testnet, 0xffff * Bytes.weight 27, by decide⟩
    let anchor : Header := ⟨112, .zero, .zero, 1400000000, 0x1e00ffff, 0⟩
    let next : Header := { anchor with previous := anchor.hash, timestamp := 1400000060 }
    let last : Header :=
      { next with previous := next.hash, timestamp := 1400000960, bits := 0x1e0fffff }
    let c : ChainFile := ⟨0, [anchor, next, last].map Entry.ofHeader⟩
    let error : CheckError := .mismatch (0xfffff * Bytes.weight 27) (0xffff * Bytes.weight 27)
    let metrics := ofEvents (c.replay v .portable false).events
    (c.replay v .portable false).outcome = .ok ⟨1, some ⟨2, last.hash, .difficulty error⟩⟩ ∧
      metrics.verified = 1 ∧ metrics.rejectedTotal = 1 ∧
      ("difficulty_mismatch", 1) ∈ metrics.rejected ∧ metrics.ceilingHits = 1 := by
  intro v anchor next last c error metrics
  have hnames := Entry.names_map_ofHeader [anchor, next, last]
  have haccepted : AcceptedAfter v false 0 [anchor, next, last] 0 :=
    ⟨anchor, next, ⟨rfl, rfl⟩, rfl, by decide +kernel, fun h => by cases h⟩
  have hrejects : Rejects v false (Block.ofHeader next 1) (storeUpTo 0 [anchor, next, last] 1) last
      (.difficulty error) := .difficulty rfl (by decide +kernel)
  have hok : (c.replay v .portable false).outcome =
      .ok ⟨1, some ⟨2, last.hash, .difficulty error⟩⟩ := by
    rw [outcome_replay_eq_ok_iff .portable hnames, describes_iff_endsAfter (List.cons_ne_nil _ _)]
    refine ⟨?_, .rejected ⟨rfl, rfl⟩ hrejects⟩
    intro i hlt
    obtain rfl := Nat.lt_one_iff.mp hlt
    exact haccepted
  obtain ⟨hverified, hrejected, -, headers, hnames', hceiling⟩ := metrics_of_replay .portable hok
  obtain ⟨htotal, hlabel⟩ := hrejected error rfl
  refine ⟨hok, hverified, htotal, hlabel, hceiling.trans ?_⟩
  obtain rfl : [anchor, next, last] = headers := Except.ok.inj
    ((Except.mapM_eq_ok_iff.mpr hnames).symm.trans (Except.mapM_eq_ok_iff.mpr hnames'))
  rw [Set.ncard_eq_one]
  refine ⟨1, Set.ext fun i => ⟨?_, ?_⟩⟩
  · rintro ⟨hle, parent, next', hadjacent, -, target, hcomputes, -⟩
    cases Nat.le_one_iff_eq_zero_or_eq_one.mp hle with
    | inl hzero =>
      -- the second header is neither late nor due for a transition
      subst hzero
      obtain ⟨rfl, rfl⟩ := hadjacent.unique ⟨rfl, rfl⟩
      cases hcomputes with
      | late hlate => exact absurd hlate (by decide)
      | wave hnone => exact absurd hnone (by decide)
      | transition hnone => exact absurd hnone (by decide)
    | inr hone => exact hone
  · rintro rfl
    exact ⟨le_rfl, next, last, ⟨rfl, rfl⟩, rfl, 0xfffff * Bytes.weight 27,
      .late (by decide) (by decide), by decide⟩

end DarkGravity
