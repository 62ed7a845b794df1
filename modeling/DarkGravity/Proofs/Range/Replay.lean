import DarkGravity.Proofs.Range.Check
import DarkGravity.Proofs.Replay.History

/-!
# Replays in 64 bits

A replay counts heights and accepted headers, and stores blocks of headers only. So every stored
block is dated, and the heights stay in range if that of the last header of the chain does
(`Progress.InRange`). Then no guard of a replay fires, neither of its own nor of a check that it
makes (`ChainFile.replay_in_range`).
-/

namespace DarkGravity

namespace Ranged

variable {ε ε' α : Type}

/-- The result of an operation does not fit, and the computation ends there. -/
def LeavesRange (x : Ranged ε α) : Prop := ∃ result, x.outcome = .error (.outOfRange result)

/-- A computation that runs as without guards stays in range. -/
theorem not_leavesRange_of_eq {x : Ranged ε α} {plain : Traced Event ε α}
    (h : x = plain.mapError .failed) : ¬ x.LeavesRange := by
  rintro ⟨result, houtcome⟩
  rw [h, Traced.outcome_mapError] at houtcome
  obtain ⟨e, -, he⟩ := Except.mapError_eq_error_iff.mp houtcome
  cases he

/-- `Traced.attempt` keeps a result that does not fit. -/
def attempt (x : Ranged ε α) : Ranged ε' (Except ε α) :=
  match x.outcome with
  | .ok a => ⟨.ok (.ok a), x.events⟩
  | .error (.failed e) => ⟨.ok (.error e), x.events⟩
  | .error (.outOfRange result) => ⟨.error (.outOfRange result), x.events⟩

theorem attempt_mapError (x : Traced Event ε α) :
    (attempt (x.mapError Stop.failed) : Ranged ε' _) = x.attempt.mapError Stop.failed := by
  obtain ⟨outcome, events⟩ := x
  cases outcome <;> rfl

/-- An error of another type. -/
def Stop.map (f : ε → ε') : Stop ε → Stop ε'
  | .outOfRange result => .outOfRange result
  | .failed e => .failed (f e)

theorem mapError_map_failed (f : ε → ε') (x : Traced Event ε α) :
    (x.mapError Stop.failed).mapError (Stop.map f) = (x.mapError f).mapError Stop.failed := by
  obtain ⟨outcome, events⟩ := x
  cases outcome <;> rfl

/-! ## Guarded replays -/

/-- `judge` with a guarded check. -/
def judge (v : Verifier) (checkWork : Bool) (p : Progress) (next : HashedHeader) :
    Ranged Compact.Error (Option Rejection.Reason) := do
  if next.header.previous ≠ p.previous.hash then return some .disconnected
  match ← attempt (check v p.previous next.header p.store.lookup) with
  | .error e => return some (.difficulty e)
  | .ok () =>
    if !checkWork then return none
    let enough ← (Traced.ofExcept (next.hash.meetsTarget next.header.bits)).mapError Stop.failed
    return if enough then none else some .insufficientWork

/-- `replayFrom` counts heights and accepted headers. -/
def replayFrom (v : Verifier) (checkWork : Bool) :
    Progress → List HashedHeader → Ranged Compact.Error Report
  | p, [] => return ⟨p.verified, none⟩
  | p, next :: rest => do
    -- the next height is one of 64 bits where this guard does not fire
    let _ ← Traced.ofExcept (nextHeight p.previous.height)
    match ← judge v checkWork p next with
    | none => do
      let _ ← Traced.ofExcept (unsigned64 (p.verified + 1))
      replayFrom v checkWork (p.accept next) rest
    | some reason => do
      Traced.emit (.headerRejected p.nextHeight next.hash reason)
      return ⟨p.verified, some ⟨p.nextHeight, next.hash, reason⟩⟩

/-- `replay` with a guarded run. -/
def replay (v : Verifier) (backend : Backend) (checkWork : Bool) (startHeight : UInt64)
    (headers : List Header) : Ranged Compact.Error Report :=
  match hashHeaders backend headers with
  | [] => return Report.empty
  | anchor :: rest => do
    Traced.emit (.anchorLoaded startHeight anchor.hash)
    let report ← replayFrom v checkWork (.ofAnchor anchor startHeight) rest
    Traced.emit (.replayFinished report backend)
    return report

/-- `ChainFile.replay` with a guarded replay. -/
def replayFile (v : Verifier) (backend : Backend) (checkWork : Bool) (c : ChainFile) :
    Ranged ChainFile.Fault Report :=
  match c.headers.mapM ChainFile.Entry.header with
  | .error fault => Traced.fail (.failed (.badEntry fault))
  | .ok headers => (replay v backend checkWork c.startHeight headers).mapError (Stop.map .badClaim)

end Ranged

/-! ## Runs in range -/

/-- Where a replay stands with `remaining` headers to go. -/
structure Progress.InRange (remaining : ℕ) (p : Progress) : Prop where
  previous : p.previous.Dated
  store : p.store.lookup.Dated
  height : p.previous.height.toNat + remaining < 2 ^ 64
  verified : p.verified + remaining < 2 ^ 64

section

variable {store : Store} {block : Block} {p : Progress} {next : HashedHeader} {remaining : ℕ}

theorem Store.dated_insert (hstore : store.lookup.Dated) (hblock : block.Dated) :
    (store.insert block).lookup.Dated := by
  intro hash found hfound
  rw [Store.lookup_eq_ok_iff, Store.get?_insert] at hfound
  split_ifs at hfound
  · obtain rfl := Option.some.inj hfound
    exact hblock
  · exact hstore hash found (Store.lookup_eq_ok_iff.mpr hfound)

theorem Progress.inRange_ofAnchor (anchor : HashedHeader) {height : UInt64}
    (h : height.toNat + remaining < 2 ^ 64) :
    (Progress.ofAnchor anchor height).InRange remaining := by
  have hempty : Store.empty.lookup.Dated := by
    intro hash found hfound
    rw [Store.lookup_eq_ok_iff, Store.get?_empty] at hfound
    cases hfound
  have hanchor := Block.dated_ofHashedHeader anchor.header anchor.hash height
  exact ⟨hanchor, Store.dated_insert hempty hanchor, h, by
    show 0 + remaining < 2 ^ 64
    omega⟩

/-- One more header is accepted. -/
theorem Progress.InRange.accept (h : p.InRange (remaining + 1)) :
    (p.accept next).InRange remaining := by
  obtain ⟨-, hstore, hheight, hverified⟩ := h
  have hnext := Block.dated_ofHashedHeader next.header next.hash p.nextHeight
  refine ⟨hnext, Store.dated_insert hstore hnext, ?_, ?_⟩
  · have hsize : UInt64.size = 2 ^ 64 := rfl
    show (p.previous.height + 1).toNat + remaining < 2 ^ 64
    rw [Block.toNat_height_add_one (by omega)]
    omega
  · show p.verified + 1 + remaining < 2 ^ 64
    omega

end

namespace Ranged

section

variable {v : Verifier} {checkWork : Bool} {p : Progress} {remaining : ℕ}

theorem judge_eq (hrange : v.params.KeepsRange) (h : p.InRange (remaining + 1))
    (next : HashedHeader) :
    judge v checkWork p next = (DarkGravity.judge v checkWork p next).mapError .failed := by
  obtain ⟨hprevious, hstore, hheight, -⟩ := h
  unfold judge DarkGravity.judge
  rw [check_eq hrange hstore hprevious (by omega), attempt_mapError]
  by_cases hconnected : next.header.previous ≠ p.previous.hash
  · rw [if_pos hconnected, if_pos hconnected]
    rfl
  · rw [if_neg hconnected, if_neg hconnected, Traced.mapError_bind]
    refine Traced.bind_congr_of_ok fun verdict _ => ?_
    cases verdict with
    | error e => rfl
    | ok _ =>
      cases checkWork with
      | false => rfl
      | true => cases next.hash.meetsTarget next.header.bits <;> rfl

theorem replayFrom_eq (hrange : v.params.KeepsRange) {rest : List HashedHeader}
    (h : p.InRange rest.length) :
    replayFrom v checkWork p rest =
      (DarkGravity.replayFrom v checkWork p rest).mapError .failed := by
  induction rest generalizing p with
  | nil => rfl
  | cons next rest ih =>
    have hheight := h.height
    have hverified := h.verified
    rw [List.length_cons] at hheight hverified
    rw [replayFrom, DarkGravity.replayFrom, nextHeight_eq (by omega),
      Traced.ofExcept_ok_bind, judge_eq hrange h, Traced.mapError_bind]
    refine Traced.bind_congr_of_ok fun reason _ => ?_
    cases reason with
    | some reason => rfl
    | none =>
      dsimp only
      rw [unsigned64_eq (by omega) (by omega), Traced.ofExcept_ok_bind]
      exact ih h.accept

/-- A header on top of a block at the greatest height has no height. -/
theorem replayFrom_of_greatest (h : p.previous.height.toNat + 1 = 2 ^ 64) (next : HashedHeader)
    (rest : List HashedHeader) :
    replayFrom v checkWork p (next :: rest) = Traced.fail (.outOfRange (2 ^ 64)) := by
  rw [replayFrom, nextHeight_of_greatest h]
  rfl

theorem replay_eq (hrange : v.params.KeepsRange) (backend : Backend) (checkWork : Bool)
    {start : UInt64} {headers : List Header} (h : start.toNat + headers.length < 2 ^ 64) :
    replay v backend checkWork start headers =
      (DarkGravity.replay v backend checkWork start headers).mapError .failed := by
  rw [replay, DarkGravity.replay, hashHeaders_eq_map]
  cases headers with
  | nil => rfl
  | cons anchor rest =>
    have hroom :
        (Progress.ofAnchor anchor.hashed start).InRange (rest.map Header.hashed).length := by
      refine Progress.inRange_ofAnchor _ ?_
      rw [List.length_map]
      rw [List.length_cons] at h
      omega
    rw [List.map_cons]
    dsimp only
    rw [replayFrom_eq hrange hroom, Traced.mapError_bind, Traced.mapError_bind]
    rfl

theorem replayFile_eq (hrange : v.params.KeepsRange) (backend : Backend) (checkWork : Bool)
    {c : ChainFile} (h : c.startHeight.toNat + c.headers.length < 2 ^ 64) :
    replayFile v backend checkWork c = (c.replay v backend checkWork).mapError .failed := by
  rw [replayFile, ChainFile.replay]
  cases hheaders : c.headers.mapM ChainFile.Entry.header with
  | error fault => rfl
  | ok headers =>
    have hlength := (Except.mapM_eq_ok_iff.mp hheaders).length_eq
    dsimp only
    rw [replay_eq hrange backend checkWork (hlength ▸ h), mapError_map_failed]

end

end Ranged

/-! ## Sums in range -/

section

variable {start : UInt64} {headers : List Header} {k i : ℕ} {lookup : Lookup} {previous : Block}
  {window : Window}

theorem dated_storeUpTo (start : UInt64) (headers : List Header) (k : ℕ) :
    (storeUpTo start headers k).lookup.Dated := by
  intro hash block hfound
  obtain ⟨i, header, -, -, -, rfl⟩ := of_get?_storeUpTo (Store.lookup_eq_ok_iff.mp hfound)
  exact Block.dated_ofHashedHeader header header.hash _

/-- What visits preserve holds after the first of the blocks of a walk. -/
theorem Visitor.Preserves.fold_take {σ : Type} {visit : Visitor σ} {invariant : ℕ → σ → Prop}
    (h : visit.Preserves invariant) (hmost : 0 < window.most.toNat) (hlookup : lookup.Dated)
    (hprevious : previous.Dated) {state s : σ} (hstate : invariant 0 state)
    (hfold : visit.fold 1 ((lookup.visited window previous).take i) state = .ok s) :
    ∃ seen ≤ window.most.toNat, invariant seen s := by
  have hdated : ∀ b ∈ (lookup.visited window previous).take i, b.Dated := fun b hb =>
    hlookup.visitedFrom _ hprevious b (List.mem_of_mem_take hb)
  have hfinal := h.fold hdated hstate hfold
  rw [Nat.zero_add] at hfinal
  refine ⟨_, ?_, hfinal⟩
  exact (List.length_take_le' _ _).trans (lookup.length_visited_le previous hmost)

theorem abs_elapsed_lt {least : ℕ} {s : RawState} (hmost : 0 < window.most.toNat)
    (hnarrow : window.most.toNat < 2 ^ 31) (hlookup : lookup.Dated) (hprevious : previous.Dated)
    (hfold : (visitRaw least).fold 1 ((lookup.visited window previous).take i) ⟨0, 0, 0⟩ = .ok s) :
    |s.elapsed| < 2 ^ 63 := by
  obtain ⟨seen, hseen, hrange⟩ :=
    (visitRaw_preserves least).fold_take hmost hlookup hprevious RawState.inRange_start hfold
  have helapsed := hrange.elapsed
  omega

theorem times_bounds {least : ℕ} {s : SmoothState} (hmost : 0 < window.most.toNat)
    (hlookup : lookup.Dated) (hprevious : previous.Dated)
    (hfold : (visitSmooth least).fold 1 ((lookup.visited window previous).take i) ⟨0, .empty⟩ =
      .ok s) :
    0 ≤ s.times.shortMean ∧ s.times.shortMean < 2 ^ 32 ∧
      0 ≤ s.times.longSum ∧ s.times.longSum < window.most.toNat * 2 ^ 32 := by
  obtain ⟨seen, hseen, -, -, hshortMean, -, hlongSum⟩ :=
    (visitSmooth_preserves least).fold_take hmost hlookup hprevious SmoothState.inRange_start hfold
  omega

end

/-- The presets are narrow enough. -/
theorem Params.keepsRange_preset (network : Network) : (preset network).KeepsRange := by
  have hwindow : ∀ version, ((preset network).window version).most.toNat ≤ 120 := by
    intro version
    cases network <;> cases version <;> decide
  have hspacing : (preset network).spacing.toNat = 60 := by cases network <;> rfl
  have htimespan : (preset network).timespan.toNat = 86400 := by cases network <;> rfl
  refine ⟨fun version => ?_, fun version => ?_, ?_⟩
  · have hmost := hwindow version
    omega
  · have hmost := hwindow version
    rw [hspacing]
    omega
  · omega

/-- With parameters that leave room for sums and products, and a chain whose last height is one of
64 bits, the replay of a chain file whose operations are guarded is the replay of this chain file,
and no guard fires: not in the replay, not in a check that it makes, and not in a retarget or in the
interval rule. Wherever a walk stands, the sum of version 3 is below 2⁶³ in either direction, the
short mean of version 1 is not negative and below 2³², and its long sum is not negative and below
2³² for every block of the window. Every preset is valid and leaves this room. -/
theorem ChainFile.replay_in_range (v : Verifier) (hrange : v.params.KeepsRange) (backend : Backend)
    (checkWork : Bool) (c : ChainFile)
    (hlength : c.startHeight.toNat + c.headers.length < 2 ^ 64) :
    let guarded := Ranged.replayFile v backend checkWork c
    guarded = (c.replay v backend checkWork).mapError .failed ∧ ¬ guarded.LeavesRange ∧
    (∀ headers, List.Forall₂ Entry.Names c.headers headers →
      ∀ k parent next, Adjacent headers k parent next →
        let previous := Block.ofHeader parent (c.startHeight + UInt64.ofNat k)
        let visited := (storeUpTo c.startHeight headers k).lookup.visited
        (∀ i s, (visitRaw v.params.windowV3.least.toNat).fold 1
            ((visited v.params.windowV3 previous).take i) ⟨0, 0, 0⟩ = .ok s →
          |s.elapsed| < 2 ^ 63) ∧
        ∀ i s, (visitSmooth v.params.windowV1.least.toNat).fold 1
            ((visited v.params.windowV1 previous).take i) ⟨0, .empty⟩ = .ok s →
          0 ≤ s.times.shortMean ∧ s.times.shortMean < 2 ^ 32 ∧
            0 ≤ s.times.longSum ∧ s.times.longSum < v.params.windowV1.most.toNat * 2 ^ 32) ∧
    ∀ network, (∃ ceiling, (Params.preset network).validate = .ok ceiling) ∧
      (Params.preset network).KeepsRange := by
  intro guarded
  have hguarded := Ranged.replayFile_eq hrange backend checkWork hlength
  refine ⟨hguarded, Ranged.not_leavesRange_of_eq hguarded, ?_, fun network => ⟨?_, ?_⟩⟩
  · intro headers _ k parent next _ previous visited
    have hprevious : previous.Dated := Block.dated_ofHashedHeader parent parent.hash _
    have hstore := dated_storeUpTo c.startHeight headers k
    obtain ⟨hleastV1, hmostV1⟩ := v.window_ok .v1
    obtain ⟨hleastV3, hmostV3⟩ := v.window_ok .v3
    exact ⟨fun i s => abs_elapsed_lt (hleastV3.trans_le hmostV3) (hrange.most .v3) hstore hprevious,
      fun i s => times_bounds (hleastV1.trans_le hmostV1) hstore hprevious⟩
  · cases network <;> exact ⟨_, rfl⟩
  · exact Params.keepsRange_preset network

/-- Two headers with the extreme timestamps, the later one first, at the last heights that leave
room. The walk of version 3 for the second header begins at the anchor with a sum of zero. On top of
an anchor at the greatest height the second header has no height, and a guard fires. -/
theorem ChainFile.replay_in_range_of_greatest_heights :
    let v : Verifier := ⟨Params.mainnet, 0xfffff * Bytes.weight 27, by decide⟩
    let anchor : Header := ⟨2, .zero, .zero, 4294967295, 0x1e0fffff, 0⟩
    let next : Header := ⟨2, .zero, .zero, 0, 0x1e0fffff, 0⟩
    let c (start : UInt64) : ChainFile := ⟨start, [anchor, next].map Entry.ofHeader⟩
    let start : UInt64 := 18446744073709551613
    let previous := Block.ofHeader anchor (start + UInt64.ofNat 0)
    let visited := (storeUpTo start [anchor, next] 0).lookup.visited v.params.windowV3 previous
    let s : RawState := ⟨0xfffff * Bytes.weight 27, 4294967295, 0⟩
    v.params.KeepsRange ∧ start.toNat + (c start).headers.length < 2 ^ 64 ∧
    ¬ (Ranged.replayFile v .portable true (c start)).LeavesRange ∧
    (visitRaw v.params.windowV3.least.toNat).fold 1 (visited.take 1) ⟨0, 0, 0⟩ = .ok s ∧
    |s.elapsed| < 2 ^ 63 ∧
    (Ranged.replayFile v .portable true (c 18446744073709551615)).LeavesRange := by
  intro v anchor next c start previous visited s
  have hrange : v.params.KeepsRange := Params.keepsRange_preset .mainnet
  have hlength : start.toNat + (c start).headers.length < 2 ^ 64 := by decide
  have hnames (start : UInt64) : List.Forall₂ Entry.Names (c start).headers [anchor, next] :=
    Entry.names_map_ofHeader [anchor, next]
  obtain ⟨-, hinside, hbounds, -⟩ := replay_in_range v hrange .portable true (c start) hlength
  obtain ⟨helapsed, -⟩ := hbounds _ (hnames start) 0 anchor next ⟨rfl, rfl⟩
  have hfold : (visitRaw v.params.windowV3.least.toNat).fold 1 (visited.take 1) ⟨0, 0, 0⟩ =
      .ok s := by
    obtain ⟨older, hvisited⟩ := (storeUpTo start [anchor, next] 0).lookup.exists_visited_eq_cons
      v.params.windowV3 previous
    have hsample : Compact.decode previous.bits = .ok (0xfffff * Bytes.weight 27) := by decide
    have htime : signed previous.timestamp = 4294967295 := by decide
    have hvisit : visitRaw v.params.windowV3.least.toNat 1 previous ⟨0, 0, 0⟩ = .ok s := by
      rw [visitRaw, averageTarget, if_neg (by decide), hsample, htime]
      rfl
    rw [show visited = previous :: older from hvisited, List.take_succ_cons, List.take_zero]
    exact Visitor.fold_cons_of_ok hvisit
  refine ⟨hrange, hlength, hinside, hfold, helapsed 1 s hfold, 2 ^ 64, ?_⟩
  have hheaders := Except.mapM_eq_ok_iff.mpr (hnames 18446744073709551615)
  rw [Ranged.replayFile, show (c 18446744073709551615).headers.mapM Entry.header = _ from hheaders]
  dsimp only
  rw [Ranged.replay, hashHeaders_eq_map, List.map_cons, List.map_cons]
  dsimp only
  have hgreatest : (18446744073709551615 : UInt64).toNat + 1 = 2 ^ 64 := by decide
  rw [Ranged.replayFrom_of_greatest hgreatest]
  rfl

end DarkGravity
