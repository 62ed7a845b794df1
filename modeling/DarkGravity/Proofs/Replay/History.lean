import DarkGravity.Proofs.Check.Blame
import DarkGravity.Proofs.Replay.Ceiling
import DarkGravity.Proofs.Retarget.Gap
import Mathlib.Data.List.Nodup

/-!
# When a replay runs out of history

The store of a replay holds nothing older than the anchor, so a walk that wants to go on below the
anchor fails there. When the next header is checked, two cases cover everything:

* the parent of the anchor is not stored: then every stored block is above the anchor
  (`RunsTo.above`), and the walk fails exactly if it comes down to the anchor with too few blocks;
* the parent of the anchor is stored, or the anchor is at height one or less: then no walk ever
  misses a parent (`RunsTo.exists_required`).

Together these say exactly when a replay ends because history is missing (`replay_runs_out_iff`).
Only the first case needs distinct hashes: a later block with the hash of an older one would be
found in its place.
-/

namespace DarkGravity

/-! ## The store of a run -/

section Stored

variable {start : UInt64} {headers : List Header} {i k : ℕ} {hash : Hash} {block : Block}
  {header : Header}

theorem getElem?_chainBlocks (start : UInt64) (headers : List Header) (i : ℕ) :
    (chainBlocks start headers)[i]? =
      headers[i]?.map fun header => Block.ofHeader header (start + UInt64.ofNat i) := by
  rw [chainBlocks, List.getElem?_mapIdx]

theorem mem_take_succ_iff {α : Type} {xs : List α} {x : α} :
    x ∈ xs.take (k + 1) ↔ ∃ i ≤ k, xs[i]? = some x := by
  rw [List.mem_iff_getElem?]
  refine exists_congr fun i => ?_
  rw [List.getElem?_take, ← Nat.lt_succ_iff]
  split <;> simp_all

/-- What is stored under a hash is the block of a header of the run with this hash. -/
theorem of_get?_storeUpTo (h : (storeUpTo start headers k).get? hash = some block) :
    ∃ i header, i ≤ k ∧ headers[i]? = some header ∧ header.hash = hash ∧
      block = Block.ofHeader header (start + UInt64.ofNat i) := by
  rw [storeUpTo, Store.get?_insertAll, Store.get?_empty, Option.or_none] at h
  have hhash : block.hash = hash := by simpa using List.find?_some h
  have hmem := List.mem_reverse.mp (List.mem_of_find?_eq_some h)
  obtain ⟨i, hle, hi⟩ := mem_take_succ_iff.mp hmem
  rw [getElem?_chainBlocks, Option.map_eq_some_iff] at hi
  obtain ⟨header, hheader, rfl⟩ := hi
  exact ⟨i, header, hle, hheader, hhash, rfl⟩

/-- Something is stored under the hash of every header of the run. -/
theorem exists_get?_storeUpTo (start : UInt64) (hle : i ≤ k)
    (hheader : headers[i]? = some header) :
    ∃ found, (storeUpTo start headers k).get? header.hash = some found := by
  have hblock : Block.ofHeader header (start + UInt64.ofNat i) ∈
      (chainBlocks start headers).take (k + 1) := by
    refine mem_take_succ_iff.mpr ⟨i, hle, ?_⟩
    rw [getElem?_chainBlocks, hheader, Option.map_some]
  rw [storeUpTo, Store.get?_insertAll, Store.get?_empty, Option.or_none, ← Option.isSome_iff_exists,
    List.find?_isSome]
  exact ⟨_, List.mem_reverse.mpr hblock, decide_eq_true rfl⟩

/-- Nothing is stored under a hash that no header of the run has. -/
theorem get?_storeUpTo_eq_none_iff :
    (storeUpTo start headers k).get? hash = none ↔
      ∀ header ∈ headers.take (k + 1), header.hash ≠ hash := by
  constructor
  · intro hnone header hmem hhash
    obtain ⟨i, hle, hheader⟩ := mem_take_succ_iff.mp hmem
    obtain ⟨found, hfound⟩ := exists_get?_storeUpTo start hle hheader
    rw [hhash, hnone] at hfound
    cases hfound
  · intro hmissing
    cases hfound : (storeUpTo start headers k).get? hash with
    | none => rfl
    | some block =>
      obtain ⟨i, header, hle, hheader, hhash, -⟩ := of_get?_storeUpTo hfound
      exact absurd hhash (hmissing header (mem_take_succ_iff.mpr ⟨i, hle, hheader⟩))

/-- Where no hash comes twice, each block is stored under its own. -/
theorem get?_storeUpTo_of_distinct
    (hdistinct : ((headers.take (k + 1)).map Header.hash).Nodup) (hle : i ≤ k)
    (hheader : headers[i]? = some header) :
    (storeUpTo start headers k).get? header.hash =
      some (Block.ofHeader header (start + UInt64.ofNat i)) := by
  obtain ⟨found, hfound⟩ := exists_get?_storeUpTo start hle hheader
  obtain ⟨j, other, hj, hother, hhash, rfl⟩ := of_get?_storeUpTo hfound
  have hat : ∀ n header, n ≤ k → headers[n]? = some header →
      ((headers.take (k + 1)).map Header.hash)[n]? = some header.hash := by
    intro n header hn hheader
    rw [List.getElem?_map, List.getElem?_take_of_lt (Nat.lt_succ_iff.mpr hn), hheader]
    rfl
  have hlength := (List.getElem?_eq_some_iff.mp (hat j other hj hother)).1
  obtain rfl : j = i := by
    rw [← List.getElem?_inj hlength hdistinct, hat j other hj hother, hat i header hle hheader,
      hhash]
  obtain rfl := Option.some.inj (hother.symm.trans hheader)
  exact hfound

end Stored

/-! ## Runs -/

section Run

variable {v : Verifier} {checkWork : Bool} {start : UInt64} {headers : List Header} {k : ℕ}
  {anchor : Header}

/-- The run has accepted `k` headers after an anchor whose word has a target. -/
structure RunsTo (v : Verifier) (checkWork : Bool) (start : UInt64) (headers : List Header) (k : ℕ)
    (anchor : Header) : Prop where
  first : headers[0]? = some anchor
  decodes : Compact.Decodes anchor.bits
  accepted : ∀ i < k, AcceptedAfter v checkWork start headers i

/-- A header after the anchor names the header before it as its parent. -/
theorem RunsTo.exists_parent {i : ℕ} {next : Header}
    (h : RunsTo v checkWork start headers k anchor) (hlt : i < k)
    (hnext : headers[i + 1]? = some next) :
    ∃ parent, headers[i]? = some parent ∧ next.previous = parent.hash := by
  obtain ⟨parent, next', hadjacent, haccepts⟩ := h.accepted i hlt
  obtain rfl := Option.some.inj (hnext.symm.trans hadjacent.next)
  exact ⟨parent, hadjacent.parent, haccepts.connected⟩

/-- The anchor needs no parent, or one is stored. -/
def Rooted (start : UInt64) (headers : List Header) (k : ℕ) (anchor : Header) : Prop :=
  start < 2 ∨ ∃ parent, (storeUpTo start headers k).get? anchor.previous = some parent

/-- The child of the `k`-th header at height `height` needs more blocks than the `k + 1` that are
stored, and the chain below the anchor, where they should be, is not stored. -/
structure Verifier.RunsOut (v : Verifier) (start : UInt64) (headers : List Header) (k : ℕ)
    (anchor : Header) (height : UInt64) : Prop where
  /-- The anchor is not at the bottom of its chain. -/
  high : 2 ≤ start
  /-- The chain is long enough for a walk. -/
  long : (v.params.window (v.params.versionAfter height)).least ≤ height
  /-- The walk needs more blocks than there are. -/
  short : k + 1 < (v.params.window (v.params.versionAfter height)).least.toNat
  missing : ∀ header ∈ headers.take (k + 1), header.hash ≠ anchor.previous

section Strict

variable (hrule : v.params.rule = .darkGravityWave) (hrelaxed : v.params.relaxed = false)

include hrule hrelaxed

/-- By Dark Gravity Wave all words of a run have targets. -/
theorem RunsTo.decodes_of_getElem? (h : RunsTo v checkWork start headers k anchor)
    {i : ℕ} {header : Header} (hle : i ≤ k) (hheader : headers[i]? = some header) :
    Compact.Decodes header.bits := by
  cases i with
  | zero =>
    obtain rfl := Option.some.inj (h.first.symm.trans hheader)
    exact h.decodes
  | succ i =>
    have hreaches : v.Reaches start i := fun htrue => by simp [hrelaxed] at htrue
    obtain ⟨next, target, hnext, htarget, -⟩ := within_of_acceptedAfter (.inl hrelaxed)
      (fun _ _ => .inl hrule) h.accepted hle hreaches
    obtain rfl := Option.some.inj (hnext.symm.trans hheader)
    exact ⟨target, htarget⟩

/-- If the parent of the anchor is not stored, the `i`-th block is `i` generations above the anchor.
-/
theorem RunsTo.above (h : RunsTo v checkWork start headers k anchor)
    (hdistinct : ((headers.take (k + 1)).map Header.hash).Nodup)
    (hmissing : (storeUpTo start headers k).get? anchor.previous = none) {i : ℕ}
    {header : Header} (hle : i ≤ k) (hheader : headers[i]? = some header) :
    (storeUpTo start headers k).lookup.Above (.ofHeader anchor start) i
      (.ofHeader header (start + UInt64.ofNat i)) := by
  induction i generalizing header with
  | zero =>
    obtain rfl := Option.some.inj (h.first.symm.trans hheader)
    have hstart : start + UInt64.ofNat 0 = start := UInt64.add_zero start
    rw [hstart]
    exact .root (Store.lookup_eq_ok_iff.mpr hmissing) h.decodes
  | succ i ih =>
    obtain ⟨parent, hparent, hprevious⟩ := h.exists_parent hle hheader
    have hfound : (storeUpTo start headers k).get? header.previous =
        some (Block.ofHeader parent (start + UInt64.ofNat i)) :=
      hprevious ▸ get?_storeUpTo_of_distinct hdistinct (by omega) hparent
    refine .child (ih (by omega) hparent) (Store.lookup_eq_ok_iff.mpr hfound) ?_
      (h.decodes_of_getElem? hrule hrelaxed hle hheader)
    show start + UInt64.ofNat (i + 1) = start + UInt64.ofNat i + 1
    rw [UInt64.ofNat_add, UInt64.add_assoc]
    rfl

/-- If the anchor needs no parent or has one, every block of the run has its parent. -/
theorem RunsTo.hasParent (h : RunsTo v checkWork start headers k anchor)
    (hroot : Rooted start headers k anchor) {i : ℕ} {header : Header} (hle : i ≤ k)
    (hheader : headers[i]? = some header) :
    (storeUpTo start headers k).lookup.HasParent
      (.ofHeader header (start + UInt64.ofNat i)) := by
  intro hheight
  have hexists : ∃ parent, (storeUpTo start headers k).get? header.previous = some parent := by
    cases i with
    | zero =>
      obtain rfl := Option.some.inj (h.first.symm.trans hheader)
      refine hroot.resolve_left ?_
      intro hlow
      have hstart : (Block.ofHeader anchor (start + UInt64.ofNat 0)).height = start :=
        UInt64.add_zero start
      rw [hstart] at hheight
      have hless : start.toNat < 2 := UInt64.lt_iff_toNat_lt.mp hlow
      have hmore : 1 < start.toNat := UInt64.lt_iff_toNat_lt.mp hheight
      omega
    | succ i =>
      obtain ⟨parent, hparent, hprevious⟩ := h.exists_parent hle hheader
      rw [hprevious]
      exact exists_get?_storeUpTo start (by omega) hparent
  obtain ⟨parent, hparent⟩ := hexists
  -- whichever header is stored under the hash, its word has a target
  obtain ⟨j, other, hj, hother, -, rfl⟩ := of_get?_storeUpTo hparent
  exact ⟨_, Store.lookup_eq_ok_iff.mpr hparent, h.decodes_of_getElem? hrule hrelaxed hj hother⟩

/-- Then there is a required target after every header. -/
theorem RunsTo.exists_required (h : RunsTo v checkWork start headers k anchor)
    (hroot : Rooted start headers k anchor) (version : Version) {parent : Header}
    (hparent : headers[k]? = some parent) :
    ∃ required, (retarget version v.params (.ofHeader parent (start + UInt64.ofNat k))
      (storeUpTo start headers k).lookup).outcome = .ok required := by
  have hclosed : (storeUpTo start headers k).lookup.Closed := by
    intro hash block hfound
    obtain ⟨i, header, hle, hheader, -, rfl⟩ :=
      of_get?_storeUpTo (Store.lookup_eq_ok_iff.mp hfound)
    exact h.hasParent hrule hrelaxed hroot hle hheader
  obtain ⟨required, hrequired, -⟩ := retarget_of_closed v version hclosed (.refl _)
    (fun _ => h.decodes_of_getElem? hrule hrelaxed le_rfl hparent)
    (h.hasParent hrule hrelaxed hroot le_rfl hparent)
  exact ⟨required, hrequired⟩

variable {parent next : Header} {e : CheckError}

/-- Where the anchor needs no parent or has one, no check blames the chain. -/
theorem RunsTo.check_ne_error (h : RunsTo v checkWork start headers k anchor)
    (hroot : Rooted start headers k anchor) (hparent : headers[k]? = some parent)
    (hblames : e.blamesChain = true) :
    (v.check (.ofHeader parent (start + UInt64.ofNat k)) next
      (storeUpTo start headers k).lookup).outcome ≠ .error e := by
  rw [Verifier.check_eq_checkWave hrule hrelaxed, Ne, checkWave_eq_error_iff hblames]
  obtain ⟨required, hrequired⟩ := h.exists_required hrule hrelaxed hroot
    (v.params.versionAfter (start + UInt64.ofNat k)) hparent
  intro herror
  cases hrequired.symm.trans herror

/-- A check blames the chain exactly where the run is out of history, and the error names the anchor
and its parent. -/
theorem RunsTo.check_eq_error_iff (h : RunsTo v checkWork start headers k anchor)
    (hdistinct : ((headers.take (k + 1)).map Header.hash).Nodup)
    (hparent : headers[k]? = some parent) (hblames : e.blamesChain = true) :
    (v.check (.ofHeader parent (start + UInt64.ofNat k)) next
        (storeUpTo start headers k).lookup).outcome = .error e ↔
      e = .chainIncomplete start anchor.previous none ∧
        v.RunsOut start headers k anchor (start + UInt64.ofNat k) := by
  cases hstored : (storeUpTo start headers k).get? anchor.previous with
  | some grandparent =>
    refine iff_of_false (h.check_ne_error hrule hrelaxed (.inr ⟨_, hstored⟩) hparent hblames) ?_
    rintro ⟨-, hout⟩
    rw [get?_storeUpTo_eq_none_iff.mpr hout.missing] at hstored
    cases hstored
  | none =>
    have habove := h.above hrule hrelaxed hdistinct hstored le_rfl hparent
    rw [Verifier.check_eq_checkWave hrule hrelaxed, checkWave_eq_error_iff hblames,
      retarget_eq_error_iff_of_above v _ habove]
    refine and_congr_right fun _ => ⟨?_, ?_⟩
    · rintro ⟨hhigh, hlong, hshort⟩
      exact ⟨hhigh, hlong, hshort, get?_storeUpTo_eq_none_iff.mp hstored⟩
    · rintro ⟨hhigh, hlong, hshort, -⟩
      exact ⟨hhigh, hlong, hshort⟩

end Strict

end Run

/-- Dark Gravity Wave on a network that relaxes nothing: a run that has accepted `k` headers fails
to find an ancestor for the next exactly where it is out of history. The error names the height of
the anchor and the parent of the anchor, and it is what the replay reports. Above an anchor at
height zero or one no replay reports missing history. -/
theorem ChainFile.replay_runs_out_iff {v : Verifier} {c : ChainFile} {headers : List Header}
    {checkWork : Bool} {k : ℕ} {anchor parent next : Header} (backend : Backend)
    (hrule : v.params.rule = .darkGravityWave) (hrelaxed : v.params.relaxed = false)
    (hnames : List.Forall₂ Entry.Names c.headers headers)
    (hrun : RunsTo v checkWork c.startHeight headers k anchor)
    (hdistinct : ((headers.take (k + 1)).map Header.hash).Nodup)
    (hadjacent : Adjacent headers k parent next) (hconnected : next.previous = parent.hash) :
    let height := c.startHeight + UInt64.ofNat k
    let outcome := (v.check (.ofHeader parent height) next
      (storeUpTo c.startHeight headers k).lookup).outcome
    let error := CheckError.chainIncomplete c.startHeight anchor.previous none
    ((∃ reached missing source, outcome = .error (.chainIncomplete reached missing source)) ↔
      v.RunsOut c.startHeight headers k anchor height) ∧
    (v.RunsOut c.startHeight headers k anchor height →
      outcome = .error error ∧
      (c.replay v backend checkWork).outcome = .ok
        ⟨k, some ⟨c.startHeight + UInt64.ofNat (k + 1), next.hash, .difficulty error⟩⟩ ∧
      error.message = "chain incomplete below height " ++ toString c.startHeight.toNat ++
        ": ancestor " ++ anchor.previous.display ++ " not found") ∧
    (c.startHeight < 2 → ∀ report rejection reached missing source,
      (c.replay v backend checkWork).outcome = .ok report →
      report.rejection = some rejection →
      rejection.reason ≠ .difficulty (.chainIncomplete reached missing source)) := by
  intro height outcome error
  have hcheck : ∀ reached missing source,
      outcome = .error (.chainIncomplete reached missing source) ↔
        .chainIncomplete reached missing source = error ∧
          v.RunsOut c.startHeight headers k anchor height := fun reached missing source =>
    hrun.check_eq_error_iff hrule hrelaxed hdistinct hadjacent.parent rfl
  refine ⟨⟨?_, ?_⟩, ?_, ?_⟩
  · rintro ⟨reached, missing, source, herror⟩
    exact ((hcheck reached missing source).mp herror).2
  · intro hout
    exact ⟨_, _, _, (hcheck _ _ _).mpr ⟨rfl, hout⟩⟩
  · intro hout
    have herror : outcome = .error error := (hcheck _ _ _).mpr ⟨rfl, hout⟩
    refine ⟨herror, (outcome_replay_eq_ok_iff backend hnames).mpr ?_, rfl⟩
    have hne : headers ≠ [] := fun hnil => absurd hadjacent.lt_length (by simp [hnil])
    exact (describes_iff_endsAfter hne).mpr
      ⟨hrun.accepted, .rejected hadjacent (.difficulty hconnected herror)⟩
  · intro hlow report rejection reached missing source hok hrejection hreason
    have hdescribes := (outcome_replay_eq_ok_iff backend hnames).mp hok
    obtain ⟨last, candidate, hlast, -, -, hrejects⟩ := hdescribes.rejected rejection hrejection
    rw [hreason] at hrejects
    cases hrejects with
    | difficulty _ herror =>
      have hrun' : RunsTo v checkWork c.startHeight headers report.verified anchor :=
        ⟨hrun.first, hrun.decodes, hdescribes.accepted⟩
      exact hrun'.check_ne_error hrule hrelaxed (.inl hlow) hlast.parent rfl herror

/-- From an anchor at height 10 the production network accepts two headers at the ceiling. The next
one is the child of a block at height 12, and from there twelve blocks are needed. Three are stored,
so it is refused, unless two hashes are the same. -/
theorem ChainFile.replay_runs_out_iff_of_two_accepted :
    let anchor : Header := ⟨112, .zero, .zero, 1400000000, 0x1e0fffff, 0⟩
    let first : Header := { anchor with previous := anchor.hash, timestamp := 1400000060 }
    let second : Header := { anchor with previous := first.hash, timestamp := 1400000120 }
    let last : Header := { anchor with previous := second.hash, timestamp := 1400000180 }
    let headers := [anchor, first, second, last]
    let c : ChainFile := ⟨10, headers.map .ofHeader⟩
    let error := CheckError.chainIncomplete 10 anchor.previous none
    List.Forall₂ Entry.Names c.headers headers ∧
    RunsTo .mainnet false c.startHeight headers 2 anchor ∧
    ((anchor.previous :: (headers.take 3).map Header.hash).Nodup →
      (c.replay .mainnet .portable false).outcome =
        .ok ⟨2, some ⟨13, last.hash, .difficulty error⟩⟩) := by
  intro anchor first second last headers c error
  have hnames : List.Forall₂ Entry.Names c.headers headers := Entry.names_map_ofHeader headers
  have hfirst : AcceptedAfter .mainnet false c.startHeight headers 0 :=
    ⟨anchor, first, ⟨rfl, rfl⟩, rfl, by decide +kernel, fun h => by cases h⟩
  have hsecond : AcceptedAfter .mainnet false c.startHeight headers 1 :=
    ⟨first, second, ⟨rfl, rfl⟩, rfl, by decide +kernel, fun h => by cases h⟩
  have hrun : RunsTo .mainnet false c.startHeight headers 2 anchor :=
    ⟨rfl, ⟨0xfffff * Bytes.weight 27, by decide⟩, fun i => acceptedAfter_of_lt_two hfirst hsecond⟩
  refine ⟨hnames, hrun, ?_⟩
  intro hdistinct
  obtain ⟨hmissing, hnodup⟩ := List.nodup_cons.mp hdistinct
  have hout : Verifier.mainnet.RunsOut c.startHeight headers 2 anchor 12 := by
    refine ⟨by decide, by decide, by decide, ?_⟩
    intro header hmem hhash
    exact hmissing (hhash ▸ List.mem_map_of_mem hmem)
  obtain ⟨-, hreport, -⟩ := replay_runs_out_iff .portable rfl rfl hnames hrun hnodup ⟨rfl, rfl⟩ rfl
  exact (hreport hout).2.1

end DarkGravity
