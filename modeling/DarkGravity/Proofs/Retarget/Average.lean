import DarkGravity.Proofs.Retarget.Visited
import Mathlib.Data.List.Forall2
import Mathlib.Tactic.Ring

/-!
# Averaged targets

Both versions average the targets of the first blocks that they visit, each with a mean of its own.
The average is the mean of these targets, taken one after the other (`fold_visitAverage`). What the
mean keeps of its samples holds of the average (`Mean.fold_induction`), so the average of version 3
lies between the least and the greatest sample.
-/

namespace DarkGravity

/-! ## Means of lists -/

namespace Mean

/-- Takes more samples into an average, the first of them as the `count`-th. -/
def foldFrom (mean : ℕ → ℕ → ℕ → ℕ) : (count average : ℕ) → List ℕ → ℕ
  | _, average, [] => average
  | count, average, sample :: rest =>
    foldFrom mean (count + 1) (mean average sample count) rest

/-- The average of a list, which starts as its first sample. -/
def fold (mean : ℕ → ℕ → ℕ → ℕ) : List ℕ → ℕ
  | [] => 0
  | sample :: rest => foldFrom mean 2 sample rest

section

variable {mean : ℕ → ℕ → ℕ → ℕ} {motive : ℕ → Prop} {samples : List ℕ}

theorem foldFrom_induction (count : ℕ) {average : ℕ}
    (step : ∀ average sample count, motive average → motive sample →
      motive (mean average sample count))
    (haverage : motive average) (hsamples : ∀ sample ∈ samples, motive sample) :
    motive (foldFrom mean count average samples) := by
  induction samples generalizing count average with
  | nil => exact haverage
  | cons sample rest ih =>
    obtain ⟨hsample, hrest⟩ := List.forall_mem_cons.mp hsamples
    exact ih (count + 1) (step average sample count haverage hsample) hrest

/-- What holds of all samples and is kept by the mean holds of the average. -/
theorem fold_induction
    (step : ∀ average sample count, motive average → motive sample →
      motive (mean average sample count))
    (hne : samples ≠ []) (hsamples : ∀ sample ∈ samples, motive sample) :
    motive (fold mean samples) := by
  obtain ⟨sample, rest, rfl⟩ := List.exists_cons_of_ne_nil hne
  obtain ⟨hsample, hrest⟩ := List.forall_mem_cons.mp hsamples
  exact foldFrom_induction 2 step hsample hrest

/-- An invariant of the number, the sum and the average of the samples so far. If the mean keeps it
with every sample, it holds at the end. -/
theorem foldFrom_invariant {invariant : ℕ → ℕ → ℕ → Prop}
    (step : ∀ count sum average sample, invariant count sum average →
      invariant (count + 1) (sum + sample) (mean average sample (count + 1)))
    (samples : List ℕ) {count sum average : ℕ} (h : invariant count sum average) :
    invariant (count + samples.length) (sum + samples.sum)
      (foldFrom mean (count + 1) average samples) := by
  induction samples generalizing count sum average with
  | nil => exact h
  | cons sample rest ih =>
    rw [List.length_cons, List.sum_cons, foldFrom, Nat.add_comm rest.length, ← Nat.add_assoc,
      ← Nat.add_assoc]
    exact ih (step count sum average sample h)

theorem foldFrom_append {count average : ℕ} {newer older : List ℕ} :
    foldFrom mean count average (newer ++ older) =
      foldFrom mean (count + newer.length) (foldFrom mean count average newer) older := by
  induction newer generalizing count average with
  | nil => rfl
  | cons sample newer ih =>
    rw [List.cons_append, foldFrom, foldFrom, ih, List.length_cons, Nat.add_assoc, Nat.add_comm 1]

/-- One more sample is taken into the average of those before. -/
theorem fold_append_singleton {newer : List ℕ} (sample : ℕ) (hne : newer ≠ []) :
    fold mean (newer ++ [sample]) = mean (fold mean newer) sample (newer.length + 1) := by
  obtain ⟨first, rest, rfl⟩ := List.exists_cons_of_ne_nil hne
  rw [List.cons_append, fold, fold, foldFrom_append, foldFrom, foldFrom, List.length_cons,
    Nat.add_comm 2, Nat.add_assoc]

end

/-- The mean lies between the average before it and the sample. -/
def Between (mean : ℕ → ℕ → ℕ → ℕ) : Prop :=
  ∀ count average sample,
    min average sample ≤ mean average sample count ∧ mean average sample count ≤ max average sample

/-- An average by such a mean is neither below the least sample nor above the greatest. -/
theorem Between.fold {mean : ℕ → ℕ → ℕ → ℕ} (h : Between mean) {samples : List ℕ}
    (hne : samples ≠ []) :
    ∃ smallest largest, samples.min? = some smallest ∧ samples.max? = some largest ∧
      smallest ≤ Mean.fold mean samples ∧ Mean.fold mean samples ≤ largest := by
  obtain ⟨smallest, hsmallest⟩ := Option.ne_none_iff_exists'.mp (mt List.min?_eq_none_iff.mp hne)
  obtain ⟨largest, hlargest⟩ := Option.ne_none_iff_exists'.mp (mt List.max?_eq_none_iff.mp hne)
  have hbounds : smallest ≤ Mean.fold mean samples ∧ Mean.fold mean samples ≤ largest := by
    refine fold_induction (motive := fun x => smallest ≤ x ∧ x ≤ largest) ?_ hne ?_
    · rintro average sample count ⟨hlow, hhigh⟩ ⟨hlow', hhigh'⟩
      obtain ⟨hmin, hmax⟩ := h count average sample
      exact ⟨(le_min hlow hlow').trans hmin, hmax.trans (max_le hhigh hhigh')⟩
    · intro sample hmem
      exact ⟨(List.min?_eq_some_iff.mp hsmallest).2 sample hmem,
        (List.max?_eq_some_iff.mp hlargest).2 sample hmem⟩
  exact ⟨smallest, largest, hsmallest, hlargest, hbounds⟩

section

variable {average sample bound : ℕ} {samples : List ℕ}

theorem weighted_le (count : ℕ) (haverage : average ≤ bound) (hsample : sample ≤ bound) :
    weighted average sample count ≤ bound := by
  unfold weighted
  apply Nat.div_le_of_le_mul
  calc average * count + sample
      ≤ bound * count + bound := Nat.add_le_add (Nat.mul_le_mul_right count haverage) hsample
    _ = (count + 1) * bound := by ring

theorem le_weighted (count : ℕ) (haverage : bound ≤ average) (hsample : bound ≤ sample) :
    bound ≤ weighted average sample count := by
  unfold weighted
  rw [Nat.le_div_iff_mul_le count.succ_pos]
  calc bound * (count + 1)
      = bound * count + bound := Nat.mul_succ bound count
    _ ≤ average * count + sample := Nat.add_le_add (Nat.mul_le_mul_right count haverage) hsample

/-- The average of version 3 is not above every sample. -/
theorem fold_weighted_le (hne : samples ≠ []) (h : ∀ sample ∈ samples, sample ≤ bound) :
    fold weighted samples ≤ bound :=
  fold_induction (fun _ _ count => weighted_le count) hne h

/-- It is not below every sample, either. -/
theorem le_fold_weighted (hne : samples ≠ []) (h : ∀ sample ∈ samples, bound ≤ sample) :
    bound ≤ fold weighted samples :=
  fold_induction (fun _ _ count => le_weighted count) hne h

theorem between_weighted : Between weighted := fun count _ _ =>
  ⟨le_weighted count (min_le_left _ _) (min_le_right _ _),
    weighted_le count (le_max_left _ _) (le_max_right _ _)⟩

end

section

variable {average sample count : ℕ}

theorem toward_of_le (h : average ≤ sample) :
    toward average sample count = average + (sample - average) / count :=
  if_pos h

theorem toward_of_ge (h : sample ≤ average) :
    toward average sample count = average - (average - sample) / count := by
  rcases h.lt_or_eq with hlt | rfl
  · exact if_neg (Nat.not_le.mpr hlt)
  · rw [toward_of_le le_rfl, Nat.sub_self, Nat.zero_div, Nat.add_zero, Nat.sub_zero]

/-- A move up ends between the average and the sample. -/
theorem toward_bounds_of_le (h : average ≤ sample) :
    average ≤ toward average sample count ∧ toward average sample count ≤ sample := by
  have hmove : (sample - average) / count ≤ sample - average := Nat.div_le_self _ _
  rw [toward_of_le h]
  constructor
  · exact Nat.le_add_right _ _
  · omega

/-- So does a move down. -/
theorem toward_bounds_of_ge (h : sample ≤ average) :
    sample ≤ toward average sample count ∧ toward average sample count ≤ average := by
  have hmove : (average - sample) / count ≤ average - sample := Nat.div_le_self _ _
  rw [toward_of_ge h]
  constructor
  · omega
  · exact Nat.sub_le _ _

theorem between_toward : Between toward := by
  intro count average sample
  rcases le_total average sample with hup | hdown
  · rw [min_eq_left hup, max_eq_right hup]
    exact toward_bounds_of_le hup
  · rw [min_eq_right hdown, max_eq_left hdown]
    exact toward_bounds_of_ge hdown

end

end Mean

/-! ## Averages along a walk -/

/-- The word of the block stands for this target. -/
def Block.HasTarget (block : Block) (target : Target) : Prop :=
  Compact.decode block.bits = .ok target

/-- What both versions do with the target of a block. -/
def visitAverage (mean : ℕ → ℕ → ℕ → ℕ) (least : ℕ) : Visitor Target := fun count block average =>
  averageTarget mean least count block.bits average

section

variable {mean : ℕ → ℕ → ℕ → ℕ} {least count : ℕ} {block : Block} {older : List Block}
  {average average' : Target}

theorem visitAverage_of_lt (h : least < count) :
    visitAverage mean least count block average = .ok average :=
  if_pos h

/-- Within the first blocks a target is decoded and taken into the average. -/
theorem visitAverage_eq_ok_iff (h : count ≤ least) :
    visitAverage mean least count block average = .ok average' ↔
      ∃ sample, block.HasTarget sample ∧
        average' = if count = 1 then sample else mean average sample count := by
  unfold visitAverage averageTarget Block.HasTarget
  rw [if_neg (Nat.not_lt.mpr h)]
  cases Compact.decode block.bits <;> simp [eq_comm]

theorem fold_visitAverage_from {blocks : List Block} (hcount : 1 < count)
    (h : (visitAverage mean least).fold count blocks average = .ok average') :
    ∃ samples, List.Forall₂ Block.HasTarget (blocks.take (least + 1 - count)) samples ∧
      average' = Mean.foldFrom mean count average samples := by
  induction blocks generalizing count average with
  | nil =>
    rw [List.take_nil]
    exact ⟨[], .nil, (Except.ok.inj h).symm⟩
  | cons block older ih =>
    obtain ⟨next, hnext, hrest⟩ := Visitor.fold_cons_eq_ok_iff.mp h
    obtain ⟨samples, hsamples, rfl⟩ := ih (Nat.lt_succ_of_lt hcount) hrest
    by_cases hfirst : count ≤ least
    · obtain ⟨sample, hsample, rfl⟩ := (visitAverage_eq_ok_iff hfirst).mp hnext
      refine ⟨sample :: samples, ?_, ?_⟩
      · rw [Nat.succ_sub hfirst, List.take_succ_cons]
        rw [Nat.add_sub_add_right] at hsamples
        exact .cons hsample hsamples
      · rw [if_neg hcount.ne', Mean.foldFrom]
    · -- the average stays as it is, and no target is read any more
      have hlt : least < count := Nat.not_le.mp hfirst
      rw [Nat.add_sub_add_right, Nat.sub_eq_zero_of_le hlt.le, List.take_zero,
        List.forall₂_nil_left_iff] at hsamples
      obtain rfl := Except.ok.inj ((visitAverage_of_lt hlt).symm.trans hnext)
      rw [Nat.sub_eq_zero_of_le hlt, List.take_zero, hsamples]
      exact ⟨[], .nil, rfl⟩

/-- A walk averages the targets of its first blocks. -/
theorem fold_visitAverage (hleast : 0 < least)
    (h : (visitAverage mean least).fold 1 (block :: older) average = .ok average') :
    ∃ samples, List.Forall₂ Block.HasTarget ((block :: older).take least) samples ∧
      average' = Mean.fold mean samples := by
  obtain ⟨first, hfirst, hrest⟩ := Visitor.fold_cons_eq_ok_iff.mp h
  have htarget : block.HasTarget first := by
    obtain ⟨sample, hsample, rfl⟩ := (visitAverage_eq_ok_iff hleast).mp hfirst
    exact hsample
  obtain ⟨samples, hsamples, rfl⟩ := fold_visitAverage_from (Nat.lt_succ_self 1) hrest
  refine ⟨first :: samples, ?_, rfl⟩
  obtain ⟨least, rfl⟩ := Nat.exists_eq_succ_of_ne_zero hleast.ne'
  exact .cons htarget hsamples

end

/-! ## What else a visitor keeps -/

/-- Whatever else the visitor keeps, it averages targets, and it refuses a block only for its
target. -/
def Visitor.Averages {σ : Type} (visit : Visitor σ) (mean : ℕ → ℕ → ℕ → ℕ) (least : ℕ)
    (average : σ → Target) : Prop :=
  ∀ count block state,
    (visit count block state).map average = visitAverage mean least count block (average state)

theorem visitSmooth_averages (least : ℕ) :
    (visitSmooth least).Averages Mean.toward least SmoothState.average := by
  intro count block state
  unfold visitSmooth visitAverage
  cases averageTarget Mean.toward least count block.bits state.average <;> rfl

/-- The average and the block times of version 1 have nothing to do with each other. -/
theorem visitSmooth_eq_ok {least count : ℕ} {block : Block} {s s' : SmoothState}
    (h : visitSmooth least count block s = .ok s') :
    visitAverage Mean.toward least count block s.average = .ok s'.average ∧
      s'.times = s.times.add least block.timestamp := by
  unfold visitSmooth at h
  obtain ⟨average, haverage, rfl⟩ := Except.map_eq_ok_iff.mp h
  exact ⟨haverage, rfl⟩

theorem visitRaw_averages (least : ℕ) :
    (visitRaw least).Averages Mean.weighted least RawState.average := by
  intro count block state
  unfold visitRaw visitAverage
  cases averageTarget Mean.weighted least count block.bits state.average <;> rfl

section

variable {σ : Type} {visit : Visitor σ} {mean : ℕ → ℕ → ℕ → ℕ} {least n : ℕ}
  {average : σ → Target} {previous : Block} {lookup : Lookup} {window : Window} {state final : σ}
  {samples : List Target}

/-- A fold over blocks averages their targets and fails as the averaging does. -/
theorem Visitor.Averages.fold (h : visit.Averages mean least average) (count : ℕ)
    (blocks : List Block) (state : σ) :
    (visit.fold count blocks state).map average =
      (visitAverage mean least).fold count blocks (average state) := by
  induction blocks generalizing count state with
  | nil => rfl
  | cons block older ih =>
    have hblock := h count block state
    cases hstate : visit count block state with
    | error e =>
      rw [hstate] at hblock
      rw [Visitor.fold_cons_of_error hstate, Visitor.fold_cons_of_error hblock.symm]
      rfl
    | ok next =>
      rw [hstate] at hblock
      rw [Visitor.fold_cons_of_ok hstate, Visitor.fold_cons_of_ok hblock.symm]
      exact ih (count + 1) next

/-- A walk fails as the averaging alone does, or it ends after as many blocks with its average. -/
theorem Visitor.Averages.outcome_visitAncestors (h : visit.Averages mean least average)
    (state : σ) :
    (visitAncestors lookup window visit previous state).outcome.map (Prod.map id average) =
      (visitAncestors lookup window (visitAverage mean least) previous (average state)).outcome := by
  rw [visitAncestors, visitAncestors, outcome_visitFrom, outcome_visitFrom, ← h.fold]
  cases visit.fold 1 (lookup.visitedFrom (window.most.toNat - 1) previous) state with
  | error e => rfl
  | ok final =>
    dsimp only [Except.bind, Except.map]
    cases lookup.breakFrom window.least.toNat (window.most.toNat - 1) 1 previous <;> rfl

/-- A walk that does not fail has averaged the targets of its first blocks. -/
theorem Visitor.Averages.of_visitAncestors (h : visit.Averages mean least average)
    (hleast : 0 < least)
    (hwalk : (visitAncestors lookup window visit previous state).outcome = .ok (n, final)) :
    ∃ samples, List.Forall₂ Block.HasTarget ((lookup.visited window previous).take least) samples ∧
      average final = Mean.fold mean samples := by
  obtain ⟨-, hfold⟩ := visitAncestors_eq_ok hwalk
  obtain ⟨older, hvisited⟩ := lookup.exists_visited_eq_cons window previous
  rw [hvisited] at hfold ⊢
  have haverage := h.fold 1 (previous :: older) state
  rw [hfold] at haverage
  exact fold_visitAverage hleast haverage.symm

/-- A block has at most one target. -/
theorem Block.rightUnique_hasTarget : Relator.RightUnique Block.HasTarget := by
  intro block target target' h h'
  exact Except.ok.inj (h.symm.trans h')

/-- If the targets of these blocks are known, the average is the mean of them. -/
theorem Visitor.Averages.eq_fold (h : visit.Averages mean least average)
    (hsamples : List.Forall₂ Block.HasTarget ((lookup.visited window previous).take least) samples)
    (hne : samples ≠ [])
    (hwalk : (visitAncestors lookup window visit previous state).outcome = .ok (n, final)) :
    average final = Mean.fold mean samples := by
  have hleast : 0 < least := by
    refine Nat.pos_of_ne_zero ?_
    rintro rfl
    rw [List.take_zero, List.forall₂_nil_left_iff] at hsamples
    exact hne hsamples
  obtain ⟨samples', hsamples', heq⟩ := h.of_visitAncestors hleast hwalk
  rw [heq, Block.rightUnique_hasTarget.forall₂ hsamples hsamples']

end

end DarkGravity
