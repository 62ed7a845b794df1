import DarkGravity.Proofs.Retarget.ClosedForm
import DarkGravity.Proofs.Retarget.Noninterference

/-!
# Easier ancestors

Both means drop a fraction with every sample, and the mean of version 1 drops it in either direction.
Still neither goes down when its samples go up (`Mean.isMonotone_weighted`, `Mean.isMonotone_toward`).
So two walks along ancestors of the same heights keep their averages in order (`visitFrom_eased`), and
what a version requires is easier if the targets that it averages are, or if version 3 finds that they
took more time (`retarget_mono`).
-/

namespace DarkGravity

/-! ## Means -/

namespace Mean

/-- The mean does not go down when the average before it or the sample goes up. -/
def IsMonotone (mean : ℕ → ℕ → ℕ → ℕ) : Prop :=
  ∀ count average average' sample sample' : ℕ, average ≤ average' → sample ≤ sample' →
    mean average sample count ≤ mean average' sample' count

theorem isMonotone_weighted : IsMonotone weighted := by
  intro count average average' sample sample' haverage hsample
  unfold weighted
  apply Nat.div_le_div_right
  exact Nat.add_le_add (Nat.mul_le_mul_right count haverage) hsample

/-- What a way to a sample is longer, a move on it is not longer by more. -/
theorem add_div_le_div_add (way more count : ℕ) : (way + more) / count ≤ way / count + more := by
  rcases count.eq_zero_or_pos with rfl | hcount
  · rw [Nat.div_zero, Nat.div_zero]
    exact Nat.zero_le _
  · calc (way + more) / count
        ≤ (way + more * count) / count :=
          Nat.div_le_div_right (Nat.add_le_add_left (Nat.le_mul_of_pos_right more hcount) way)
      _ = way / count + more := Nat.add_mul_div_right way more hcount

/-- The moves may go in opposite directions. Then the averages or the samples lie between the results.
Otherwise the move from the higher average is shorter, but by no more than the averages differ. -/
theorem isMonotone_toward : IsMonotone toward := by
  intro count average average' sample sample' haverage hsample
  rcases le_total average sample with hup | hdown
  · rcases le_total average' sample' with hup' | hdown'
    · have hway : sample - average ≤ sample' - average' + (average' - average) := by omega
      have hmove : (sample - average) / count ≤
          (sample' - average') / count + (average' - average) :=
        (Nat.div_le_div_right hway).trans (add_div_le_div_add _ _ _)
      rw [toward_of_le hup, toward_of_le hup']
      omega
    · calc toward average sample count
          ≤ sample := (toward_bounds_of_le hup).2
        _ ≤ sample' := hsample
        _ ≤ toward average' sample' count := (toward_bounds_of_ge hdown').1
  · rcases le_total average' sample' with hup' | hdown'
    · calc toward average sample count
          ≤ average := (toward_bounds_of_ge hdown).2
        _ ≤ average' := haverage
        _ ≤ toward average' sample' count := (toward_bounds_of_le hup').1
    · have hway : average' - sample' ≤ average - sample + (average' - average) := by omega
      have hmove : (average' - sample') / count ≤
          (average - sample) / count + (average' - average) :=
        (Nat.div_le_div_right hway).trans (add_div_le_div_add _ _ _)
      have hself : (average - sample) / count ≤ average - sample := Nat.div_le_self _ _
      rw [toward_of_ge hdown, toward_of_ge hdown']
      omega

end Mean

/-! ## Easier blocks -/

/-- A block at the same height whose target is no harder, if it is averaged. Its timestamp is the
same, if time counts. -/
structure Block.Eased (averaged timed : Prop) (block easier : Block) : Prop where
  height : easier.height = block.height
  timestamp : timed → easier.timestamp = block.timestamp
  target : averaged → ∀ target target', block.HasTarget target → easier.HasTarget target' →
    target ≤ target'

section

variable {averaged timed : Prop} {block easier : Block} {target target' : Target}

theorem Block.Eased.of_hasTarget (hheight : easier.height = block.height)
    (htimestamp : timed → easier.timestamp = block.timestamp) (htarget : block.HasTarget target)
    (htarget' : easier.HasTarget target') (hle : target ≤ target') :
    block.Eased averaged timed easier := by
  refine ⟨hheight, htimestamp, ?_⟩
  intro _ sample sample' hsample hsample'
  obtain rfl := Except.ok.inj (htarget.symm.trans hsample)
  obtain rfl := Except.ok.inj (htarget'.symm.trans hsample')
  exact hle

/-- A block with the same word is no harder, whether or not the word has a target. -/
theorem Block.Eased.of_bits (hheight : easier.height = block.height)
    (htimestamp : timed → easier.timestamp = block.timestamp) (hbits : easier.bits = block.bits) :
    block.Eased averaged timed easier := by
  refine ⟨hheight, htimestamp, ?_⟩
  intro _ sample sample' hsample hsample'
  unfold Block.HasTarget at hsample hsample'
  rw [hbits, hsample] at hsample'
  exact (Except.ok.inj hsample').le

end

namespace Lookup

/-- Two answers of which both have a block or neither has. -/
inductive AnswersEased (averaged timed : Prop) :
    Except Lookup.Failure (Option Block) → Except Lookup.Failure (Option Block) → Prop
  | found {block easier : Block} (eased : block.Eased averaged timed easier) :
      AnswersEased averaged timed (.ok (some block)) (.ok (some easier))
  | lost {answer answer' : Except Lookup.Failure (Option Block)}
      (lost : ∀ block, answer ≠ .ok (some block)) (lost' : ∀ block, answer' ≠ .ok (some block)) :
      AnswersEased averaged timed answer answer'

/-- The ancestors of the second block are no harder than those of the first, where the blocks are
visited as the `count`-th ones. They are compared for at most `remaining` generations and not below
height one, and targets count for the first `least` visited blocks. -/
def EasesFrom (lookup other : Lookup) (timed : Prop) (least remaining count : ℕ) :
    Block → Block → Prop :=
  lookup.RelatedAlong other (fun n => AnswersEased (count + n ≤ least) timed) remaining

/-- The ancestors of the second block are no harder than those of the first as far as a window
reaches. No target counts if the chain is too short for the window. Hashes do not matter, nor do the
links between the blocks as long as they lead to the same heights. -/
def EasesWithin (lookup other : Lookup) (timed : Prop) (window : Window) (block block' : Block) :
    Prop :=
  lookup.EasesFrom other timed (if tooShort window block then 0 else window.least.toNat)
    (window.most.toNat - 1) 1 block block'

section

variable {lookup other : Lookup} {timed : Prop} {least remaining count : ℕ}
  {block block' parent parent' : Block}

theorem EasesFrom.eased (h : lookup.EasesFrom other timed least remaining count block block') :
    block.Eased (count ≤ least) timed block' := by
  cases h.first with
  | found eased => exact eased
  | lost lost => exact absurd rfl (lost block)

theorem EasesFrom.tail
    (h : lookup.EasesFrom other timed least (remaining + 1) count block block')
    (hhigh : 1 < block.height) (hfound : lookup.IsParent block parent)
    (hfound' : other.IsParent block' parent') :
    lookup.EasesFrom other timed least remaining (count + 1) parent parent' := by
  intro n hn hnewer
  rw [Nat.add_assoc, Nat.add_comm 1]
  exact RelatedAlong.tail h hhigh hfound hfound' n hn hnewer

end

end Lookup

/-! ## Visitors -/

/-- The visitor keeps this relation of states where the second block is no harder. -/
def Visitor.Eases {σ : Type} (visit : Visitor σ) (timed : Prop) (least : ℕ) (rel : σ → σ → Prop) :
    Prop :=
  ∀ count block easier state state' next next', block.Eased (count ≤ least) timed easier →
    rel state state' → visit count block state = .ok next →
    visit count easier state' = .ok next' → rel next next'

section

variable {timed : Prop} {least count : ℕ} {block : Block}

theorem visitAverage_eases {mean : ℕ → ℕ → ℕ → ℕ} (hmean : Mean.IsMonotone mean) :
    (visitAverage mean least).Eases timed least (· ≤ ·) := by
  intro count block easier average average' next next' heased hle hnext hnext'
  rcases Nat.lt_or_ge least count with hlt | hfirst
  · rw [visitAverage_of_lt hlt] at hnext hnext'
    obtain rfl := Except.ok.inj hnext
    obtain rfl := Except.ok.inj hnext'
    exact hle
  · obtain ⟨sample, hsample, rfl⟩ := (visitAverage_eq_ok_iff hfirst).mp hnext
    obtain ⟨sample', hsample', rfl⟩ := (visitAverage_eq_ok_iff hfirst).mp hnext'
    have hsamples : sample ≤ sample' := heased.target hfirst sample sample' hsample hsample'
    split
    · exact hsamples
    · exact hmean count _ _ _ _ hle hsamples

/-- The average is no harder, and the block times are the same. -/
structure SmoothState.Eased (s easier : SmoothState) : Prop where
  average : s.average ≤ easier.average
  times : easier.times = s.times

theorem visitSmooth_eases : (visitSmooth least).Eases True least SmoothState.Eased := by
  intro count block easier s s' next next' hblocks hstates hnext hnext'
  obtain ⟨haverage, htimes⟩ := visitSmooth_eq_ok hnext
  obtain ⟨haverage', htimes'⟩ := visitSmooth_eq_ok hnext'
  constructor
  · exact visitAverage_eases Mean.isMonotone_toward _ _ _ _ _ _ _ hblocks hstates.average haverage
      haverage'
  · rw [htimes, htimes', hstates.times, hblocks.timestamp trivial]

/-- The average is no harder, and the elapsed time is the same if time counts. -/
structure RawState.Eased (timed : Prop) (s easier : RawState) : Prop where
  average : s.average ≤ easier.average
  last : timed → easier.last = s.last
  elapsed : timed → easier.elapsed = s.elapsed

theorem visitRaw_eases : (visitRaw least).Eases timed least (RawState.Eased timed) := by
  intro count block easier s s' next next' hblocks hstates hnext hnext'
  obtain ⟨haverage, hlast, helapsed⟩ := visitRaw_eq_ok hnext
  obtain ⟨haverage', hlast', helapsed'⟩ := visitRaw_eq_ok hnext'
  constructor
  · exact visitAverage_eases Mean.isMonotone_weighted _ _ _ _ _ _ _ hblocks hstates.average haverage
      haverage'
  · intro htimed
    rw [hlast, hlast', hblocks.timestamp htimed]
  · intro htimed
    rw [helapsed, helapsed', hstates.last htimed, hstates.elapsed htimed,
      hblocks.timestamp htimed]

end

/-! ## Walks -/

section

variable {σ : Type} {visit : Visitor σ} {lookup other : Lookup} {least remaining count n n' : ℕ}
  {block block' : Block} {state state' final final' : σ} {timed : Prop} {rel : σ → σ → Prop}

/-- A walk that does not fail has taken its first block. -/
theorem exists_state_of_visitFrom {result : ℕ × σ}
    (h : (visitFrom lookup least visit remaining count block state).outcome = .ok result) :
    ∃ next, visit count block state = .ok next := by
  cases hstate : visit count block state with
  | ok next => exact ⟨next, rfl⟩
  | error e =>
    rw [visitFrom_of_error hstate] at h
    cases h

/-- A walk that does not fail ends at a block whose parent is not found. -/
theorem visitFrom_of_lost {result : ℕ × σ} (hstate : visit count block state = .ok state')
    (hhigh : 1 < block.height) (hlost : ∀ parent, lookup block.previous ≠ .ok (some parent))
    (h : (visitFrom lookup least visit (remaining + 1) count block state).outcome = .ok result) :
    result = (count, state') := by
  rw [visitFrom_succ hstate hhigh] at h
  split at h
  · next parent hfound => exact absurd hfound (hlost parent)
  · split at h
    · exact (Except.ok.inj h).symm
    · cases h
  · cases h

/-- Where the ancestors of the second block are no harder, the walks visit as many blocks and keep the
relation of their states. -/
theorem visitFrom_eased (hvisit : visit.Eases timed least rel)
    (heases : lookup.EasesFrom other timed least remaining count block block')
    (hrel : rel state state')
    (h : (visitFrom lookup least visit remaining count block state).outcome = .ok (n, final))
    (h' : (visitFrom other least visit remaining count block' state').outcome = .ok (n', final')) :
    n' = n ∧ rel final final' := by
  induction remaining generalizing count block block' state state' with
  | zero =>
    obtain ⟨next, hnext⟩ := exists_state_of_visitFrom h
    obtain ⟨next', hnext'⟩ := exists_state_of_visitFrom h'
    rw [visitFrom_zero hnext] at h
    rw [visitFrom_zero hnext'] at h'
    obtain ⟨rfl, rfl⟩ := Prod.mk.inj (Except.ok.inj h)
    obtain ⟨rfl, rfl⟩ := Prod.mk.inj (Except.ok.inj h')
    exact ⟨rfl, hvisit _ _ _ _ _ _ _ heases.eased hrel hnext hnext'⟩
  | succ remaining ih =>
    obtain ⟨next, hnext⟩ := exists_state_of_visitFrom h
    obtain ⟨next', hnext'⟩ := exists_state_of_visitFrom h'
    have hblocks := heases.eased
    have hrel' : rel next next' := hvisit _ _ _ _ _ _ _ hblocks hrel hnext hnext'
    by_cases hlow : block.height ≤ 1
    · rw [visitFrom_of_low hnext hlow] at h
      rw [visitFrom_of_low hnext' (hblocks.height ▸ hlow)] at h'
      obtain ⟨rfl, rfl⟩ := Prod.mk.inj (Except.ok.inj h)
      obtain ⟨rfl, rfl⟩ := Prod.mk.inj (Except.ok.inj h')
      exact ⟨rfl, hrel'⟩
    · have hhigh : 1 < block.height := UInt64.not_le.mp hlow
      have hhigh' : 1 < block'.height := hblocks.height ▸ hhigh
      have hanswers := heases.second hhigh
      generalize hanswer : lookup block.previous = answer at hanswers
      generalize hanswer' : other block'.previous = answer' at hanswers
      cases hanswers with
      | found eased =>
        rw [visitFrom_succ hnext hhigh, hanswer] at h
        rw [visitFrom_succ hnext' hhigh', hanswer'] at h'
        exact ih (heases.tail hhigh hanswer hanswer') hrel' h h'
      | lost lost lost' =>
        obtain ⟨rfl, rfl⟩ := Prod.mk.inj (visitFrom_of_lost hnext hhigh (hanswer ▸ lost) h)
        obtain ⟨rfl, rfl⟩ := Prod.mk.inj (visitFrom_of_lost hnext' hhigh' (hanswer' ▸ lost') h')
        exact ⟨rfl, hrel'⟩

end

/-! ## Required targets -/

/-- A required target that is no harder, with the same blocks and timespans. -/
structure Retarget.Eased (required easier : Retarget) : Prop where
  target : required.target ≤ easier.target
  blocks : easier.blocks = required.blocks
  actualTimespan : easier.actualTimespan = required.actualTimespan
  targetTimespan : easier.targetTimespan = required.targetTimespan

section

variable {blocks : ℕ} {spacing : UInt64}

theorem scaleTarget_le_scaleTarget {target target' : Target} {actual actual' expected : ℤ}
    (htarget : target ≤ target') (hactual : actual ≤ actual') :
    scaleTarget target actual expected ≤ scaleTarget target' actual' expected := by
  unfold scaleTarget
  apply Nat.div_le_div_right
  exact Nat.mul_le_mul htarget (Int.toNat_le_toNat hactual)

theorem clampTimespan_le_clampTimespan {actual actual' expected : ℤ} (h : actual ≤ actual') :
    clampTimespan actual expected ≤ clampTimespan actual' expected := by
  unfold clampTimespan
  dsimp only
  split_ifs <;> omega

theorem SmoothState.Eased.retarget {s s' : SmoothState} (h : s.Eased s') :
    (s.retarget blocks spacing).Eased (s'.retarget blocks spacing) := by
  unfold SmoothState.retarget
  rw [h.times]
  split
  · exact ⟨h.average, rfl, rfl, rfl⟩
  · exact ⟨scaleTarget_le_scaleTarget h.average le_rfl, rfl, rfl, rfl⟩

theorem RawState.target_retarget_le {s s' : RawState} (haverage : s.average ≤ s'.average)
    (helapsed : s.elapsed ≤ s'.elapsed) :
    (s.retarget blocks spacing).target ≤ (s'.retarget blocks spacing).target :=
  scaleTarget_le_scaleTarget haverage (clampTimespan_le_clampTimespan helapsed)

theorem RawState.Eased.retarget {s s' : RawState} (h : s.Eased True s') :
    (s.retarget blocks spacing).Eased (s'.retarget blocks spacing) := by
  have helapsed : s'.elapsed = s.elapsed := h.elapsed trivial
  refine ⟨RawState.target_retarget_le h.average helapsed.ge, rfl, ?_, rfl⟩
  unfold RawState.retarget
  rw [helapsed]

end

section

variable {p : Params} {previous previous' : Block} {lookup other : Lookup}
  {version : Version} {required required' : Retarget} {timed : Prop}

theorem Lookup.EasesWithin.height {window : Window}
    (h : lookup.EasesWithin other timed window previous previous') :
    previous'.height = previous.height :=
  (EasesFrom.eased h).height

/-- Two required targets of one version come from walks over as many blocks, whose states are
related. -/
theorem exists_states_of_retarget {σ : Type} {visit : Visitor σ} {state : σ}
    {finish : ℕ × σ → Retarget} {rel : σ → σ → Prop}
    (hwalk : ∀ {previous : Block} {lookup : Lookup},
      (walkRetarget version p previous lookup).outcome =
        (visitAncestors lookup (p.window version) visit previous state).outcome.map finish)
    (hvisit : visit.Eases timed (p.window version).least.toNat rel) (hrel : rel state state)
    (heases : lookup.EasesWithin other timed (p.window version) previous previous')
    (hlong : ¬ tooShort (p.window version) previous = true)
    (h : (retarget version p previous lookup).outcome = .ok required)
    (h' : (retarget version p previous' other).outcome = .ok required') :
    ∃ blocks final final',
      (visitAncestors lookup (p.window version) visit previous state).outcome =
        .ok (blocks, final) ∧
      (visitAncestors other (p.window version) visit previous' state).outcome =
        .ok (blocks, final') ∧
      rel final final' ∧ required = finish (blocks, final) ∧ required' = finish (blocks, final') := by
  have hlong' : ¬ tooShort (p.window version) previous' = true := by
    rwa [tooShort, heases.height]
  rw [outcome_retarget_of_long hlong, hwalk] at h
  rw [outcome_retarget_of_long hlong', hwalk] at h'
  obtain ⟨⟨blocks, final⟩, hvisited, rfl⟩ := Except.map_eq_ok_iff.mp h
  obtain ⟨⟨blocks', final'⟩, hvisited', rfl⟩ := Except.map_eq_ok_iff.mp h'
  rw [Lookup.EasesWithin, if_neg hlong] at heases
  obtain ⟨rfl, hfinal⟩ := visitFrom_eased hvisit heases hrel hvisited hvisited'
  exact ⟨_, final, final', hvisited, hvisited', hfinal, rfl, rfl⟩

/-- A chain that is too short has the ceiling required, with easier ancestors as without. -/
theorem retarget_eased_of_tooShort {v : Verifier}
    (hheight : previous'.height = previous.height)
    (hshort : tooShort (v.params.window version) previous = true)
    (h : (retarget version v.params previous lookup).outcome = .ok required)
    (h' : (retarget version v.params previous' other).outcome = .ok required') :
    required.Eased required' := by
  have hshort' : tooShort (v.params.window version) previous' = true := by
    rwa [tooShort, hheight]
  rw [outcome_retarget_of_tooShort v hshort] at h
  rw [outcome_retarget_of_tooShort v hshort'] at h'
  obtain rfl := Except.ok.inj h
  obtain rfl := Except.ok.inj h'
  exact ⟨le_rfl, rfl, rfl, rfl⟩

end

/-- Retargeting is monotone. Take two chains whose blocks have the same heights and timestamps, where
no target that is averaged is harder in the second chain than in the first. If both have a required
target, that of the second is no harder, and the blocks and timespans are the same. This holds for
both versions. Version 3 reads only the time between the newest and the oldest visited block, so for
it the timestamps need not be the same. If they are positive and in the lower half of the range, and
no less time passed in the second chain, the target of the second is no harder, either. -/
theorem retarget_mono (v : Verifier) {previous previous' : Block} {lookup other : Lookup}
    {required required' : Retarget} :
    (∀ version, lookup.EasesWithin other True (v.params.window version) previous previous' →
      (retarget version v.params previous lookup).outcome = .ok required →
      (retarget version v.params previous' other).outcome = .ok required' →
      required.Eased required') ∧
    (∀ oldest oldest', lookup.EasesWithin other False v.params.windowV3 previous previous' →
      (∀ block ∈ lookup.visited v.params.windowV3 previous,
        1 ≤ block.timestamp.toNat ∧ block.timestamp.toNat < 2 ^ 63) →
      (∀ block ∈ other.visited v.params.windowV3 previous',
        1 ≤ block.timestamp.toNat ∧ block.timestamp.toNat < 2 ^ 63) →
      (lookup.visited v.params.windowV3 previous).getLast? = some oldest →
      (other.visited v.params.windowV3 previous').getLast? = some oldest' →
      (previous.timestamp.toNat : ℤ) - oldest.timestamp.toNat ≤
        previous'.timestamp.toNat - oldest'.timestamp.toNat →
      (retarget .v3 v.params previous lookup).outcome = .ok required →
      (retarget .v3 v.params previous' other).outcome = .ok required' →
      required.target ≤ required'.target) := by
  constructor
  · intro version heases h h'
    by_cases hshort : tooShort (v.params.window version) previous = true
    · exact retarget_eased_of_tooShort heases.height hshort h h'
    · cases version with
      | v1 =>
        obtain ⟨blocks, final, final', -, -, hfinal, rfl, rfl⟩ :=
          exists_states_of_retarget outcome_walkRetarget_v1 visitSmooth_eases ⟨le_rfl, rfl⟩
            heases hshort h h'
        exact hfinal.retarget
      | v3 =>
        obtain ⟨blocks, final, final', -, -, hfinal, rfl, rfl⟩ :=
          exists_states_of_retarget outcome_walkRetarget_v3 visitRaw_eases
            ⟨le_rfl, fun _ => rfl, fun _ => rfl⟩ heases hshort h h'
        exact hfinal.retarget
  · intro oldest oldest' heases htimes htimes' holdest holdest' hle h h'
    by_cases hshort : tooShort (v.params.window .v3) previous = true
    · exact (retarget_eased_of_tooShort heases.height hshort h h').target
    · obtain ⟨blocks, final, final', hvisited, hvisited', hfinal, rfl, rfl⟩ :=
        exists_states_of_retarget outcome_walkRetarget_v3 visitRaw_eases
          ⟨le_rfl, fun _ => rfl, fun _ => rfl⟩ heases hshort h h'
      apply RawState.target_retarget_le hfinal.average
      rwa [elapsed_of_visitAncestors htimes holdest hvisited,
        elapsed_of_visitAncestors htimes' holdest' hvisited']

/-- Three blocks of which the parent has an easier target in the second chain. There version 1 moves
its average up instead of down. And if the first block comes a minute later, version 3 requires no
harder target either. -/
theorem retarget_mono_of_easier_parent :
    let params : Params := { Params.mainnet with windowV1 := ⟨3, 3⟩, windowV3 := ⟨2, 3⟩ }
    let grandparent : Block := ⟨.ofCounter 1, 199998, 0x1c003fff, 1400000000, .ofCounter 0⟩
    let parent : Block := ⟨.ofCounter 2, 199999, 0x1c007fff, 1400000100, .ofCounter 1⟩
    let easier : Block := { parent with bits := 0x1c01ffff }
    let tip : Block := ⟨.ofCounter 3, 200000, 0x1c00ffff, 1400000160, .ofCounter 2⟩
    let late : Block := { tip with timestamp := 1400000220 }
    let lookup : Lookup := fun hash =>
      .ok (some (if hash = parent.hash then parent else grandparent))
    let other : Lookup := fun hash =>
      .ok (some (if hash = easier.hash then easier else grandparent))
    (∀ version, ∃ required required',
      (retarget version params tip lookup).outcome = .ok required ∧
      (retarget version params tip other).outcome = .ok required' ∧ required.Eased required') ∧
    ∃ required required',
      (retarget .v3 params tip lookup).outcome = .ok required ∧
      (retarget .v3 params late lookup).outcome = .ok required' ∧
      required.actualTimespan = 160 ∧ required'.actualTimespan = 220 ∧
      required.target ≤ required'.target := by
  intro params grandparent parent easier tip late lookup other
  let v : Verifier := ⟨params, 0xfffff * Bytes.weight 27, by decide⟩
  have hgenerations : ∀ version n, n ≤ (params.window version).most.toNat - 1 →
      n = 0 ∨ n = 1 ∨ n = 2 := by
    intro version n hn
    have hmost : (params.window version).most.toNat = 3 := by cases version <;> rfl
    omega
  have hparent : parent.HasTarget (0x7fff * Bytes.weight 25) := by
    unfold Block.HasTarget
    decide
  have heasier : easier.HasTarget (0x1ffff * Bytes.weight 25) := by
    unfold Block.HasTarget
    decide
  have heases : ∀ version, lookup.EasesWithin other True (params.window version) tip tip := by
    intro version n hn _
    rcases hgenerations version n hn with rfl | rfl | rfl
    · exact .found (.of_bits rfl (fun _ => rfl) rfl)
    · exact .found (.of_hasTarget rfl (fun _ => rfl) hparent heasier (by decide))
    · exact .found (.of_bits rfl (fun _ => rfl) rfl)
  have hlate : lookup.EasesWithin lookup False params.windowV3 tip late := by
    intro n hn _
    rcases hgenerations .v3 n hn with rfl | rfl | rfl
    · exact .found (.of_bits rfl (fun htimed => htimed.elim) rfl)
    · exact .found (.of_bits rfl (fun _ => rfl) rfl)
    · exact .found (.of_bits rfl (fun _ => rfl) rfl)
  have hsmooth : ∀ (lookup : Lookup) (s : SmoothState),
      (visitAncestors lookup params.windowV1 (visitSmooth 3) tip ⟨0, .empty⟩).outcome =
        .ok (3, s) →
      (retarget .v1 params tip lookup).outcome = .ok (s.retarget 3 60) := by
    intro lookup s hvisited
    rw [outcome_retarget_of_long (by decide), outcome_walkRetarget_v1]
    exact Except.map_eq_ok_iff.mpr ⟨_, hvisited, rfl⟩
  have hraw : (retarget .v3 params tip lookup).outcome =
      .ok ⟨Mean.fold Mean.weighted [0xffff * Bytes.weight 25, 0x7fff * Bytes.weight 25] * 160 / 180,
        3, 160, 180⟩ := by decide +kernel
  have hraw' : (retarget .v3 params tip other).outcome =
      .ok ⟨Mean.fold Mean.weighted [0xffff * Bytes.weight 25, 0x1ffff * Bytes.weight 25] * 160 / 180,
        3, 160, 180⟩ := by decide +kernel
  have hlater : (retarget .v3 params late lookup).outcome =
      .ok ⟨Mean.fold Mean.weighted [0xffff * Bytes.weight 25, 0x7fff * Bytes.weight 25] * 220 / 180,
        3, 220, 180⟩ := by decide +kernel
  constructor
  · intro version
    cases version with
    | v1 =>
      have h := hsmooth lookup ⟨Mean.fold Mean.toward
        [0xffff * Bytes.weight 25, 0x7fff * Bytes.weight 25, 0x3fff * Bytes.weight 25],
        ⟨1400000000, 2, 80, 2, 160⟩⟩ (by decide +kernel)
      have h' := hsmooth other ⟨Mean.fold Mean.toward
        [0xffff * Bytes.weight 25, 0x1ffff * Bytes.weight 25, 0x3fff * Bytes.weight 25],
        ⟨1400000000, 2, 80, 2, 160⟩⟩ (by decide +kernel)
      exact ⟨_, _, h, h', (retarget_mono v).1 .v1 (heases .v1) h h'⟩
    | v3 => exact ⟨_, _, hraw, hraw', (retarget_mono v).1 .v3 (heases .v3) hraw hraw'⟩
  · have hvisited : lookup.visited params.windowV3 tip = [tip, parent, grandparent] := by
      decide +kernel
    have hvisited' : lookup.visited params.windowV3 late = [late, parent, grandparent] := by
      decide +kernel
    refine ⟨_, _, hraw, hlater, rfl, rfl, ?_⟩
    apply (retarget_mono v).2 grandparent grandparent hlate _ _ _ _ _ hraw hlater
    · rw [hvisited]
      decide
    · rw [hvisited']
      decide
    · rw [hvisited]
      rfl
    · rw [hvisited']
      rfl
    · decide

end DarkGravity
