import DarkGravity.Proofs.Retarget.Average
import Mathlib.Algebra.Order.Field.Rat
import Mathlib.Data.Nat.PSub
import Mathlib.Tactic.Linarith
import Mathlib.Tactic.Positivity
import Mathlib.Tactic.Zify

/-!
# How far the averages are from true means

Every step of a mean drops a fraction, and the dropped fractions add up. A step of version 3 loses
less than the weight of its average, always downward, so its average is the mean with the newest
target taken twice, less a bounded error (`rawAverage_error_bounds`). A step of version 1 is a
signed division that truncates toward zero, and it may lose in either direction; its average is the
plain mean up to an error of the same order (`smoothAverage_error_bounds`).
-/

namespace DarkGravity

namespace Mean

/-! ## Version 3 -/

section

variable {average sample count first : ℕ} {samples : List ℕ}

/-- A step of version 3 loses at most the weight of the average before. -/
theorem weighted_error (average sample count : ℕ) :
    (count + 1) * weighted average sample count ≤ average * count + sample ∧
      average * count + sample ≤ (count + 1) * weighted average sample count + count := by
  have hdivision := Nat.div_add_mod (average * count + sample) (count + 1)
  have hremainder : (average * count + sample) % (count + 1) < count + 1 :=
    Nat.mod_lt _ count.succ_pos
  unfold weighted
  omega

/-- What the average of version 3 has lost so far, where the first sample counts twice. -/
structure WeightedError (first count sum average : ℕ) : Prop where
  /-- The average is not above the true mean. -/
  low : (count + 1) * average ≤ first + sum
  /-- It has lost at most `2 + 3 + … + count`. -/
  high : 2 * (first + sum) + 2 ≤ 2 * ((count + 1) * average) + count * (count + 1)

theorem WeightedError.step {sum : ℕ} (h : WeightedError first count sum average) (sample : ℕ) :
    WeightedError first (count + 1) (sum + sample) (weighted average sample (count + 1)) := by
  obtain ⟨hlow, hhigh⟩ := h
  obtain ⟨hlow', hhigh'⟩ := weighted_error average sample (count + 1)
  rw [Nat.mul_comm average] at hlow' hhigh'
  have hbudget : (count + 1) * (count + 1 + 1) = count * (count + 1) + 2 * (count + 1) := by ring
  constructor
  · omega
  · rw [hbudget]
    omega

section

variable {newest rest : ℕ}

/-- The loss in terms of the sum with the newest sample taken twice. -/
theorem WeightedError.bounds (h : WeightedError newest count (newest + rest) average) :
    0 ≤ (2 * newest + rest : ℤ) - (count + 1) * average ∧
      (2 * newest + rest : ℤ) - (count + 1) * average ≤ count * (count + 1) / 2 - 1 := by
  obtain ⟨hlow, hhigh⟩ := h
  zify at hlow hhigh
  have hdouble : 2 * ((2 * newest + rest : ℤ) - (count + 1) * average) + 2 ≤
      count * (count + 1) := by
    linarith
  constructor
  · linarith
  · omega

/-- The average itself has lost less than half the number of samples. -/
theorem WeightedError.quotient_sub_lt (h : WeightedError newest count (newest + rest) average) :
    (2 * newest + rest : ℚ) / (count + 1) - average < count / 2 := by
  have hpositive : (0 : ℚ) < count + 1 := by positivity
  have hhigh : ((2 * (newest + (newest + rest)) + 2 : ℕ) : ℚ) ≤
      (2 * ((count + 1) * average) + count * (count + 1) : ℕ) := Nat.cast_le.mpr h.high
  push_cast at hhigh
  rw [sub_lt_iff_lt_add, div_lt_iff₀ hpositive]
  linarith

end

theorem fold_weighted_error (newest : ℕ) (older : List ℕ) :
    WeightedError newest (older.length + 1) (newest + older.sum)
      (fold weighted (newest :: older)) := by
  have hfirst : WeightedError newest 1 newest newest := ⟨by omega, by omega⟩
  have hrest : WeightedError newest (1 + older.length) (newest + older.sum)
      (foldFrom weighted (1 + 1) newest older) :=
    foldFrom_invariant (fun _ _ _ sample h => h.step sample) older hfirst
  rwa [Nat.add_comm 1] at hrest

end

/-! ## Version 1 -/

/-- A step of version 1 with subtractions that have no result below zero. -/
def toward? (mean sample count : ℕ) : Option ℕ :=
  if mean ≤ sample then do
    let way ← sample.psub mean
    return mean + way / count
  else do
    let way ← mean.psub sample
    mean.psub (way / count)

section

variable {average sample count sum : ℕ}

/-- All subtractions have a result. -/
theorem toward?_eq_some (average sample count : ℕ) :
    toward? average sample count = some (toward average sample count) := by
  unfold toward?
  by_cases hup : average ≤ sample
  · rw [if_pos hup, Nat.psub_eq_sub hup, toward_of_le hup]
    rfl
  · have hdown : sample ≤ average := (Nat.not_le.mp hup).le
    have hmove : (average - sample) / count ≤ average :=
      (Nat.div_le_self _ _).trans (Nat.sub_le _ _)
    rw [if_neg hup, Nat.psub_eq_sub hdown, toward_of_ge hdown]
    exact Nat.psub_eq_sub hmove

/-- The move toward the sample is a signed quotient, truncated toward zero. -/
theorem toward_eq_add_tdiv (average sample count : ℕ) :
    (toward average sample count : ℤ) = average + ((sample : ℤ) - average).tdiv count := by
  rcases le_total average sample with hup | hdown
  · rw [toward_of_le hup, ← Nat.cast_sub hup, ← Int.ofNat_tdiv, Nat.cast_add]
  · have hmove : (average - sample) / count ≤ average :=
      (Nat.div_le_self _ _).trans (Nat.sub_le _ _)
    have hway : (sample : ℤ) - average = -((average - sample : ℕ) : ℤ) := by omega
    rw [toward_of_ge hdown, hway, Int.neg_tdiv, ← Int.ofNat_tdiv, Nat.cast_sub hmove,
      sub_eq_add_neg]

/-- So it is the same step as for signed numbers. -/
theorem towardInt_natCast (average sample count : ℕ) :
    towardInt average sample count = toward average sample count := by
  rw [towardInt, toward_eq_add_tdiv, add_comm]

/-- A step of version 1 loses less than its weight, in either direction. -/
theorem abs_toward_error_le (average sample : ℕ) (count : ℕ) :
    |((count + 1 : ℕ) : ℤ) * toward average sample (count + 1) - (count * average + sample)| ≤
      count := by
  have hdivision := Int.mul_tdiv_add_tmod ((sample : ℤ) - average) (count + 1 : ℕ)
  have hremainder : |((sample : ℤ) - average).tmod (count + 1 : ℕ)| ≤ count := by
    rw [Int.abs_eq_natAbs, Int.natAbs_tmod, Int.natAbs_natCast, Nat.cast_le]
    exact Nat.lt_succ_iff.mp (Nat.mod_lt _ count.succ_pos)
  rw [toward_eq_add_tdiv, mul_add]
  rw [abs_le] at hremainder ⊢
  push_cast at *
  constructor <;> linarith

/-- What the average of version 1 has lost or gained so far, at most `1 + 2 + … + (count - 1)`. -/
def TowardError (count sum average : ℕ) : Prop :=
  2 * |(count : ℤ) * average - sum| ≤ count * (count - 1)

theorem TowardError.step (h : TowardError count sum average) (sample : ℕ) :
    TowardError (count + 1) (sum + sample) (toward average sample (count + 1)) := by
  unfold TowardError at h ⊢
  have hstep := abs_toward_error_le average sample count
  -- the error so far is carried along with the weight of the average, so both errors add up
  have htriangle := abs_add_le
    (((count + 1 : ℕ) : ℤ) * toward average sample (count + 1) - (count * average + sample))
    ((count : ℤ) * average - sum)
  have hsplit : ((count + 1 : ℕ) : ℤ) * toward average sample (count + 1) - (sum + sample : ℕ) =
      ((count + 1 : ℕ) : ℤ) * toward average sample (count + 1) - (count * average + sample) +
        ((count : ℤ) * average - sum) := by
    push_cast
    ring
  have hbudget : ((count + 1 : ℕ) : ℤ) * ((count + 1 : ℕ) - 1) =
      2 * count + count * (count - 1) := by
    push_cast
    ring
  rw [hsplit, hbudget]
  linarith

theorem fold_toward_error {samples : List ℕ} (hne : samples ≠ []) :
    TowardError samples.length samples.sum (fold toward samples) := by
  obtain ⟨newest, older, rfl⟩ := List.exists_cons_of_ne_nil hne
  have hfirst : TowardError 1 newest newest := by simp [TowardError]
  have hrest : TowardError (1 + older.length) (newest + older.sum)
      (foldFrom toward (1 + 1) newest older) :=
    foldFrom_invariant (fun _ _ _ sample h => h.step sample) older hfirst
  rwa [Nat.add_comm 1] at hrest

/-- The average of version 1 in terms of the sum of its samples. -/
theorem abs_fold_toward_sub_sum_le {samples : List ℕ} (hne : samples ≠ []) :
    |(samples.length : ℤ) * fold toward samples - samples.sum| ≤
      samples.length * (samples.length - 1) / 2 := by
  have herror := fold_toward_error hne
  unfold TowardError at herror
  omega

end

end Mean

/-! ## Averages along walks -/

/-- The average of version 3 over any targets. With the newest of them taken twice, `n + 1` times
the average is not above their sum, and falls short of it by at most `2 + 3 + … + n`. So the average
loses less than `n / 2` to all truncations, and it lies between the least and the greatest target. A
walk of version 3 whose first blocks have these targets ends with this average. -/
theorem rawAverage_error_bounds (newest : Target) (older : List Target) :
    let samples := newest :: older
    let n := samples.length
    let average := Mean.fold Mean.weighted samples
    (0 ≤ (2 * newest + older.sum : ℤ) - (n + 1) * average ∧
      (2 * newest + older.sum : ℤ) - (n + 1) * average ≤ n * (n + 1) / 2 - 1) ∧
    (2 * newest + older.sum : ℚ) / (n + 1) - average < n / 2 ∧
    (∃ smallest largest, samples.min? = some smallest ∧ samples.max? = some largest ∧
      smallest ≤ average ∧ average ≤ largest) ∧
    ∀ (lookup : Lookup) (window : Window) (previous : Block) (blocks : ℕ) (s : RawState),
      List.Forall₂ Block.HasTarget
        ((lookup.visited window previous).take window.least.toNat) samples →
      (visitAncestors lookup window (visitRaw window.least.toNat) previous ⟨0, 0, 0⟩).outcome =
        .ok (blocks, s) →
      s.average = average := by
  intro samples n average
  have hne : samples ≠ [] := List.cons_ne_nil newest older
  have herror : Mean.WeightedError newest n (newest + older.sum) average :=
    Mean.fold_weighted_error newest older
  refine ⟨herror.bounds, herror.quotient_sub_lt, Mean.between_weighted.fold hne, ?_⟩
  intro lookup window previous blocks s hsamples hwalk
  exact (visitRaw_averages window.least.toNat).eq_fold hsamples hne hwalk

/-- Three blocks with the targets 5, 1 and 3. Both steps drop a fraction: the average is 3, and four
times it falls short by two of the sum with the newest target twice. -/
theorem rawAverage_error_bounds_of_dropped_fractions :
    let grandparent : Block := ⟨.ofCounter 1, 199998, 0x03000003, 1400000000, .ofCounter 0⟩
    let parent : Block := ⟨.ofCounter 2, 199999, 0x03000001, 1400000060, .ofCounter 1⟩
    let tip : Block := ⟨.ofCounter 3, 200000, 0x03000005, 1400000120, .ofCounter 2⟩
    let lookup : Lookup := fun hash =>
      .ok (some (if hash = parent.hash then parent else grandparent))
    let s : RawState := ⟨3, 1400000000, 120⟩
    (visitAncestors lookup ⟨3, 3⟩ (visitRaw 3) tip ⟨0, 0, 0⟩).outcome = .ok (3, s) ∧
    s.average = Mean.fold Mean.weighted [5, 1, 3] ∧
    (2 * 5 + (1 + 3) : ℤ) - 4 * s.average = 2 ∧ (2 : ℤ) ≤ 3 * 4 / 2 - 1 := by
  intro grandparent parent tip lookup s
  obtain ⟨-, -, -, hwalks⟩ := rawAverage_error_bounds 5 [1, 3]
  have hvisited : lookup.visited ⟨3, 3⟩ tip = [tip, parent, grandparent] := by decide +kernel
  have htargets : List.Forall₂ Block.HasTarget [tip, parent, grandparent] [5, 1, 3] := by
    unfold Block.HasTarget
    decide
  have hwalk : (visitAncestors lookup ⟨3, 3⟩ (visitRaw 3) tip ⟨0, 0, 0⟩).outcome = .ok (3, s) := by
    decide +kernel
  exact ⟨hwalk, hwalks lookup ⟨3, 3⟩ tip 3 s (hvisited ▸ htargets) hwalk, by decide, by decide⟩

/-- The average of version 1 over any targets. Every step moves it toward the next target by a
signed quotient that is truncated toward zero, and the subtractions of unsigned numbers that do this
never go below zero. With `n` targets, `n` times the average differs from their sum by at most `1 +
2 + … + (n - 1)`, in either direction, and the average lies between the least and the greatest
target. A walk of version 1 whose first blocks have these targets ends with this average. -/
theorem smoothAverage_error_bounds (newest : Target) (older : List Target) :
    let samples := newest :: older
    let n := samples.length
    let average := Mean.fold Mean.toward
    (∀ newer sample rest, newer ≠ [] → samples = newer ++ sample :: rest →
      Mean.toward? (average newer) sample (newer.length + 1) = some (average (newer ++ [sample])) ∧
      (average (newer ++ [sample]) : ℤ) =
        average newer + ((sample : ℤ) - average newer).tdiv (newer.length + 1)) ∧
    |(n : ℤ) * average samples - samples.sum| ≤ n * (n - 1) / 2 ∧
    (∃ smallest largest, samples.min? = some smallest ∧ samples.max? = some largest ∧
      smallest ≤ average samples ∧ average samples ≤ largest) ∧
    ∀ (lookup : Lookup) (window : Window) (previous : Block) (blocks : ℕ) (s : SmoothState),
      List.Forall₂ Block.HasTarget
        ((lookup.visited window previous).take window.least.toNat) samples →
      (visitAncestors lookup window (visitSmooth window.least.toNat) previous
        ⟨0, .empty⟩).outcome = .ok (blocks, s) →
      s.average = average samples := by
  intro samples n average
  have hne : samples ≠ [] := List.cons_ne_nil newest older
  refine ⟨?_, Mean.abs_fold_toward_sub_sum_le hne, Mean.between_toward.fold hne, ?_⟩
  · intro newer sample rest hnewer _
    have hnext : average (newer ++ [sample]) =
        Mean.toward (average newer) sample (newer.length + 1) :=
      Mean.fold_append_singleton sample hnewer
    rw [hnext]
    exact ⟨Mean.toward?_eq_some _ _ _, Mean.toward_eq_add_tdiv _ _ _⟩
  · intro lookup window previous blocks s hsamples hwalk
    exact (visitSmooth_averages window.least.toNat).eq_fold hsamples hne hwalk

/-- Three blocks with the targets 5, 2 and 7. The move down from 5 by three halves is truncated to
one, so the average goes to 4 and then to 5, and three times it is one above the sum. -/
theorem smoothAverage_error_bounds_of_truncated_move :
    let grandparent : Block := ⟨.ofCounter 1, 1998, 0x03000007, 1400000000, .ofCounter 0⟩
    let parent : Block := ⟨.ofCounter 2, 1999, 0x03000002, 1400000060, .ofCounter 1⟩
    let tip : Block := ⟨.ofCounter 3, 2000, 0x03000005, 1400000120, .ofCounter 2⟩
    let lookup : Lookup := fun hash =>
      .ok (some (if hash = parent.hash then parent else grandparent))
    let s : SmoothState := ⟨5, ⟨1400000000, 2, 60, 2, 120⟩⟩
    (visitAncestors lookup ⟨3, 3⟩ (visitSmooth 3) tip ⟨0, .empty⟩).outcome = .ok (3, s) ∧
    s.average = Mean.fold Mean.toward [5, 2, 7] ∧
    Mean.toward? 5 2 2 = some 4 ∧ (4 : ℤ) = 5 + ((2 : ℤ) - 5).tdiv 2 ∧
    (3 : ℤ) * s.average - (5 + 2 + 7) = 1 := by
  intro grandparent parent tip lookup s
  obtain ⟨hsteps, -, -, hwalks⟩ := smoothAverage_error_bounds 5 [2, 7]
  have hvisited : lookup.visited ⟨3, 3⟩ tip = [tip, parent, grandparent] := by decide +kernel
  have htargets : List.Forall₂ Block.HasTarget [tip, parent, grandparent] [5, 2, 7] := by
    unfold Block.HasTarget
    decide
  have hwalk : (visitAncestors lookup ⟨3, 3⟩ (visitSmooth 3) tip ⟨0, .empty⟩).outcome =
      .ok (3, s) := by
    decide +kernel
  obtain ⟨hstep, hmove⟩ := hsteps [5] 2 [7] (by simp) rfl
  exact ⟨hwalk, hwalks lookup ⟨3, 3⟩ tip 3 s (hvisited ▸ htargets) hwalk, hstep, hmove, by decide⟩

end DarkGravity
