import DarkGravity.Proofs.Replay.ChainFile
import DarkGravity.Proofs.Replay.Run
import DarkGravity.Proofs.Retarget.Walk
import DarkGravity.Replay.Builder

/-!
# Honestly built chains

A chain is built honestly if every header is put on the one before and claims the word that Dark
Gravity Wave requires there. From a first block at height zero, or at height one with a target of
its own, such a chain can always be built on, and a replay accepts all of it
(`replay_honest_chain`). What carries both is that every stored block above height one has its
parent stored, with a word that has a target (`Grounded`), so no walk ever fails.
-/

namespace DarkGravity

/-! ## Building -/

/-- What the maker of a block is free to choose. -/
structure Draft where
  version : UInt32
  merkleRoot : Hash
  timestamp : UInt32
  nonce : UInt32

/-- The header of a draft with the parent and the word that are not free. -/
def Draft.header (draft : Draft) (parent : Hash) (bits : UInt32) : Header where
  version := draft.version
  previous := parent
  merkleRoot := draft.merkleRoot
  timestamp := draft.timestamp
  bits := bits
  nonce := draft.nonce

/-- The store from which the word of the child of `tip` is computed: the blocks before the tip, with
the tip itself or without it. -/
def visibleStore (withTip : Bool) (history : Store) (tip : Block) : Store :=
  if withTip then history.insert tip else history

/-- Puts one header after the other on a block, each with the required word. -/
def buildOn (v : Verifier) (withTip : Bool) :
    (history : Store) → (tip : Block) → List Draft → Check (List Header)
  | _, _, [] => return []
  | history, tip, draft :: rest => do
    let bits ← requiredBits v tip (visibleStore withTip history tip).lookup
    let header := draft.header tip.hash bits
    let later ← buildOn v withTip (history.insert tip) (.ofHeader header (tip.height + 1)) rest
    return header :: later

/-! ## The invariant -/

/-- Every block above height one has its parent stored, and all words have targets but that of a
first block. -/
structure Grounded (history : Store) (tip : Block) : Prop where
  closed : history.lookup.Closed
  parent : history.lookup.HasParent tip
  bits : Compact.Decodes tip.bits ∨ tip.height = 0 ∧ history = Store.empty

section

variable {history : Store} {tip block : Block}

/-- A block that has its parent keeps one when the tip is stored, even if the tip replaces it. -/
theorem Grounded.hasParent_insert (h : Grounded history tip)
    (hparent : history.lookup.HasParent block) :
    (history.insert tip).lookup.HasParent block := by
  intro hheight
  obtain ⟨parent, hfound, hdecodes⟩ := hparent hheight
  rw [Store.lookup_eq_ok_iff] at hfound
  by_cases hhash : tip.hash = block.previous
  · refine ⟨tip, ?_, ?_⟩
    · rw [Store.lookup_eq_ok_iff, Store.get?_insert, if_pos hhash]
    · rcases h.bits with hbits | ⟨-, rfl⟩
      · exact hbits
      · rw [Store.get?_empty] at hfound
        cases hfound
  · refine ⟨parent, ?_, hdecodes⟩
    rw [Store.lookup_eq_ok_iff, Store.get?_insert, if_neg hhash, hfound]

/-- All blocks have their parents once the tip is stored. -/
theorem Grounded.closed_insert (h : Grounded history tip) :
    (history.insert tip).lookup.Closed := by
  intro hash block hfound
  rw [Store.lookup_eq_ok_iff, Store.get?_insert] at hfound
  split at hfound
  · obtain rfl := Option.some.inj hfound
    exact h.hasParent_insert h.parent
  · exact h.hasParent_insert (h.closed hash block (Store.lookup_eq_ok_iff.mpr hfound))

/-- One step of building: a header on the tip whose word has a target. -/
theorem Grounded.step (h : Grounded history tip) {header : Header}
    (hprevious : header.previous = tip.hash) (hbits : Compact.Decodes header.bits) :
    Grounded (history.insert tip) (.ofHeader header (tip.height + 1)) := by
  refine ⟨h.closed_insert, ?_, .inl hbits⟩
  intro hheight
  refine ⟨tip, ?_, ?_⟩
  · rw [Store.lookup_eq_ok_iff, Store.get?_insert]
    exact if_pos hprevious.symm
  · -- the child of an undecodable tip would be at height one, where no parent is needed
    refine h.bits.resolve_right ?_
    rintro ⟨hzero, -⟩
    have hone : (Block.ofHeader header (tip.height + 1)).height = 1 := by
      show tip.height + 1 = 1
      rw [hzero]
      rfl
    rw [hone] at hheight
    exact absurd hheight (by decide)

/-- The start of building. -/
theorem Grounded.ofAnchor {start : UInt64} {anchor : Header}
    (h : start = 0 ∨ start = 1 ∧ Compact.Decodes anchor.bits) :
    Grounded Store.empty (.ofHeader anchor start) := by
  refine ⟨?_, ?_, ?_⟩
  · intro hash block hfound
    rw [Store.lookup_eq_ok_iff, Store.get?_empty] at hfound
    cases hfound
  · intro hheight
    have hlow : ¬ 1 < start := by
      rcases h with rfl | ⟨rfl, -⟩ <;> decide
    exact absurd hheight hlow
  · rcases h with rfl | ⟨-, hbits⟩
    · exact .inr ⟨rfl, rfl⟩
    · exact .inl hbits

/-- What is stored before the tip is stored with a tip of a new hash. -/
theorem Store.included_insert (hnew : history.get? tip.hash = none) :
    history.lookup.Included (history.insert tip).lookup :=
  included_insertAll (List.forall_mem_singleton.mpr hnew)

/-- There is a required target for the child of the tip. The store that a replay has at this point
requires the same one, unless the tip has replaced a block that its maker still saw. -/
theorem Grounded.exists_required (v : Verifier) (withTip : Bool) (h : Grounded history tip) :
    ∃ required,
      (retarget (v.params.versionAfter tip.height) v.params tip
        (visibleStore withTip history tip).lookup).outcome = .ok required ∧
      (withTip = true ∨ history.get? tip.hash = none →
        (retarget (v.params.versionAfter tip.height) v.params tip
          (history.insert tip).lookup).outcome = .ok required) := by
  have hbits : tip.height ≠ 0 → Compact.Decodes tip.bits :=
    fun hheight => h.bits.resolve_right fun hfirst => hheight hfirst.1
  cases withTip with
  | true =>
    obtain ⟨required, hrequired, -⟩ := retarget_of_closed v _ h.closed_insert (.refl _) hbits
      (h.hasParent_insert h.parent)
    exact ⟨required, hrequired, fun _ => hrequired⟩
  | false =>
    by_cases hnew : history.get? tip.hash = none
    · obtain ⟨required, hrequired, hreplay⟩ := retarget_of_closed v
        (v.params.versionAfter tip.height) h.closed (Store.included_insert hnew) hbits h.parent
      exact ⟨required, hrequired, fun _ => hreplay⟩
    · obtain ⟨required, hrequired, -⟩ := retarget_of_closed v
        (v.params.versionAfter tip.height) h.closed (.refl _) hbits h.parent
      refine ⟨required, hrequired, ?_⟩
      rintro (hwith | hnone)
      · cases hwith
      · exact absurd hnone hnew

end

/-! ## Replaying what was built -/

theorem outcome_requiredBits {v : Verifier} {previous : Block} {lookup : Lookup}
    {required : Retarget}
    (h : (retarget (v.params.versionAfter previous.height) v.params previous
      lookup).outcome = .ok required) :
    (requiredBits v previous lookup).outcome =
      .ok (Compact.encode (min required.target v.ceiling)) := by
  simp only [requiredBits]
  rw [Traced.outcome_bind_of_ok h, Traced.outcome_bind_of_ok (outcome_clampToCeiling _ _)]
  rfl

/-- A replay accepts a header that is connected and passes its check. -/
theorem outcome_replayFrom_of_accepts {v : Verifier} {checkWork : Bool} {p : Progress}
    {next : Header} (h : Accepts v checkWork p.previous p.store next)
    (rest : List HashedHeader) :
    (replayFrom v checkWork p (next.hashed :: rest)).outcome =
      (replayFrom v checkWork (p.accept next.hashed) rest).outcome := by
  rw [replayFrom, Traced.outcome_bind_of_ok (judge_eq_none_iff.mpr h)]

/-- Nothing is stored yet under the hash of the tip or of a header after it, and these hashes are
distinct. -/
structure AllNew (history : Store) (tip : Block) (later : List Header) : Prop where
  distinct : (tip.hash :: later.map Header.hash).Nodup
  absent : ∀ hash ∈ tip.hash :: later.map Header.hash, history.get? hash = none

/-- New hashes stay new when the tip is stored and the next header becomes the tip. -/
theorem AllNew.step {history : Store} {tip : Block} {next : Header} {later : List Header}
    (h : AllNew history tip (next :: later)) (height : UInt64) :
    AllNew (history.insert tip) (.ofHeader next height) later := by
  have hnodup := List.nodup_cons.mp h.distinct
  refine ⟨hnodup.2, ?_⟩
  intro hash hmem
  have hne : tip.hash ≠ hash := by
    rintro rfl
    exact hnodup.1 hmem
  rw [Store.get?_insert, if_neg hne]
  exact h.absent hash (List.mem_cons_of_mem _ hmem)

/-- From a grounded tip every list of drafts is built on, and a replay accepts all that was
built. -/
theorem exists_buildOn {v : Verifier} (hrule : v.params.rule = .darkGravityWave) (withTip : Bool)
    (drafts : List Draft) (history : Store) (tip : Block) (h : Grounded history tip) :
    ∃ later, (buildOn v withTip history tip drafts).outcome = .ok later ∧
      later.length = drafts.length ∧
      (withTip = true ∨ AllNew history tip later → ∀ verified,
        (replayFrom v false ⟨tip, history.insert tip, verified⟩
          (later.map Header.hashed)).outcome = .ok ⟨verified + drafts.length, none⟩) := by
  induction drafts generalizing history tip with
  | nil => exact ⟨[], rfl, rfl, fun _ _ => rfl⟩
  | cons draft rest ih =>
    obtain ⟨required, hrequired, hreplay⟩ := h.exists_required v withTip
    let bits := Compact.encode (min required.target v.ceiling)
    let header := draft.header tip.hash bits
    have hdecodes : Compact.Decodes header.bits := Compact.decodes_encode (v.min_ceiling_lt _)
    have hstep : Grounded (history.insert tip) (.ofHeader header (tip.height + 1)) :=
      h.step rfl hdecodes
    obtain ⟨later, hbuilt, hlength, haccepted⟩ := ih _ _ hstep
    refine ⟨header :: later, ?_, ?_, ?_⟩
    · rw [buildOn, Traced.outcome_bind_of_ok (outcome_requiredBits hrequired)]
      dsimp only
      rw [Traced.outcome_bind_of_ok hbuilt]
      rfl
    · rw [List.length_cons, List.length_cons, hlength]
    · intro hnew verified
      have hrequired' := hreplay (hnew.imp_right fun h => h.absent _ List.mem_cons_self)
      have haccepts : Accepts v false tip (history.insert tip) header :=
        ⟨rfl, Verifier.check_of_encode hrule hrequired' rfl, fun hchecked => by cases hchecked⟩
      rw [List.map_cons, outcome_replayFrom_of_accepts haccepts]
      have hrest := haccepted (hnew.imp_right fun h => h.step _) (verified + 1)
      rw [List.length_cons, Nat.add_comm rest.length 1, ← Nat.add_assoc]
      exact hrest

/-- On every anchor at height zero, and at height one on every anchor with a target, an honest chain
can be built from any drafts, because there is always a required target. A replay of the file of
this chain accepts every header. Where words are computed without the tip in the store, this takes
distinct hashes: a tip that replaces an older block could change what is required. -/
theorem ChainFile.replay_honest_chain {v : Verifier} {start : UInt64} {anchor : Header}
    (backend : Backend) (withTip : Bool) (drafts : List Draft)
    (hrule : v.params.rule = .darkGravityWave)
    (hstart : start = 0 ∨ start = 1 ∧ Compact.Decodes anchor.bits) :
    ∃ later,
      (buildOn v withTip Store.empty (.ofHeader anchor start) drafts).outcome = .ok later ∧
      later.length = drafts.length ∧
      (withTip = true ∨ ((anchor :: later).map Header.hash).Nodup →
        (ChainFile.replay v backend false
          ⟨start, (anchor :: later).map Entry.ofHeader⟩).outcome = .ok ⟨drafts.length, none⟩) := by
  obtain ⟨later, hbuilt, hlength, haccepted⟩ :=
    exists_buildOn hrule withTip drafts _ _ (Grounded.ofAnchor hstart)
  refine ⟨later, hbuilt, hlength, ?_⟩
  intro hdistinct
  have hnew : withTip = true ∨ AllNew Store.empty (.ofHeader anchor start) later :=
    hdistinct.imp_right fun hnodup => ⟨hnodup, fun hash _ => Store.get?_empty hash⟩
  have hreport := haccepted hnew 0
  rw [outcome_replay_of_named (Entry.names_map_ofHeader (anchor :: later)), outcome_replay_cons]
  rw [Nat.zero_add] at hreport
  exact Except.mapError_eq_ok_iff.mpr hreport

/-- Two blocks a minute apart on an anchor at height one of the production network. -/
theorem ChainFile.replay_honest_chain_of_two_drafts :
    let v : Verifier := ⟨.mainnet, 0xfffff * Bytes.weight 27, by decide⟩
    let anchor : Header := ⟨112, .zero, .zero, 1400000000, 0x1e0fffff, 0⟩
    let drafts : List Draft :=
      [⟨112, .ofCounter 1, 1400000060, 0⟩, ⟨112, .ofCounter 2, 1400000120, 0⟩]
    ∃ later,
      (buildOn v true Store.empty (.ofHeader anchor 1) drafts).outcome = .ok later ∧
      later.length = 2 ∧
      (ChainFile.replay v (.parallel 2) false
        ⟨1, (anchor :: later).map Entry.ofHeader⟩).outcome = .ok ⟨2, none⟩ := by
  intro v anchor drafts
  have hdecodes : Compact.Decodes anchor.bits := ⟨0xfffff * Bytes.weight 27, by decide⟩
  obtain ⟨later, hbuilt, hlength, haccepted⟩ :=
    replay_honest_chain (v := v) (.parallel 2) true drafts rfl (.inr ⟨rfl, hdecodes⟩)
  exact ⟨later, hbuilt, hlength, haccepted (.inl rfl)⟩

end DarkGravity
