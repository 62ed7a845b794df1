import DarkGravity.Block
import DarkGravity.Subsidy
import Mathlib.Order.Iterate
import Mathlib.Order.MinMax
import Mathlib.Tactic.SplitIfs

/-!
# The reward as a capped iterate

From height 2 on, the reward is the iterated reduction of the first reward, capped from below by the
floor (`reward_eq_max`). The loop of `afterSteps` stops at the first reduction below the floor; the
floor absorbs every further one because a reduction never raises a reward. So the reward falls with
the height, and it moves exactly after the heights that `isReductionPoint` names, until it has
reached the floor (`reward_schedule`).
-/

namespace DarkGravity.Subsidy

/-! ## Reductions -/

theorem reduce_le (reward : ℕ) : reduce reward ≤ reward := by
  unfold reduce
  omega

/-- A reward that is not zero really falls. -/
theorem reduce_lt {reward : ℕ} (h : 0 < reward) : reduce reward < reward := by
  unfold reduce
  omega

theorem reduce_mono : Monotone reduce := by
  intro reward reward' hle
  exact Nat.div_le_div_right (Nat.mul_le_mul_right 47 hle)

/-- More reductions leave no higher reward. -/
theorem iterate_reduce_antitone (reward : ℕ) : Antitone fun steps => reduce^[steps] reward :=
  reduce_mono.antitone_iterate_of_map_le (reduce_le reward)

theorem iterate_reduce_le (steps reward : ℕ) : reduce^[steps] reward ≤ reward :=
  iterate_reduce_antitone reward (Nat.zero_le steps)

/-- It makes no difference whether a reward is kept above the floor before it is reduced. -/
theorem max_reduce_max (reward : ℕ) :
    max leastReward (reduce (max leastReward reward)) = max leastReward (reduce reward) := by
  rcases le_total leastReward reward with habove | hbelow
  · rw [max_eq_right habove]
  · have hfloor : reduce leastReward ≤ leastReward := reduce_le leastReward
    have hreward : reduce reward ≤ leastReward := (reduce_le reward).trans hbelow
    rw [max_eq_left hbelow, max_eq_left hfloor, max_eq_left hreward]

/-! ## The loop -/

/-- The loop that stops at the floor agrees with all its reductions made and capped at the end. -/
theorem afterSteps_eq_max (steps : ℕ) {reward : ℕ} (h : leastReward ≤ reward) :
    afterSteps steps reward = max leastReward (reduce^[steps] reward) := by
  induction steps generalizing reward with
  | zero => exact (max_eq_right h).symm
  | succ steps ih =>
    rw [afterSteps, Function.iterate_succ_apply]
    split_ifs with hbelow
    · -- what remains of the loop would only go further down
      have hrest : reduce^[steps] (reduce reward) ≤ leastReward :=
        (iterate_reduce_le steps (reduce reward)).trans hbelow.le
      exact (max_eq_left hrest).symm
    · exact ih (not_lt.mp hbelow)

theorem reward_eq_max {height : UInt64} (h : 2 ≤ height) :
    reward height = max leastReward (reduce^[height.toNat / stepBlocks] firstReward) := by
  rw [UInt64.le_iff_toNat_le] at h
  have hzero : height ≠ 0 := by
    rintro rfl
    exact absurd h (by decide)
  have hone : height ≠ 1 := by
    rintro rfl
    exact absurd h (by decide)
  rw [reward, if_neg hzero, if_neg hone, afterSteps_eq_max _ (by decide)]

/-- No reward before a reduction is so high that a 64-bit word could not hold its product. -/
theorem iterate_reduce_mul_lt (steps : ℕ) : reduce^[steps] firstReward * 47 < UInt64.size :=
  calc reduce^[steps] firstReward * 47
      ≤ firstReward * 47 := Nat.mul_le_mul_right 47 (iterate_reduce_le steps firstReward)
    _ < UInt64.size := by decide

/-! ## From one height to the next -/

/-- The next block has one reduction more exactly after a reduction point. -/
theorem succ_div_stepBlocks {height : UInt64} (hnext : height.toNat + 1 < UInt64.size) :
    (height.toNat + 1) / stepBlocks =
      height.toNat / stepBlocks + if isReductionPoint height then 1 else 0 := by
  rw [Nat.succ_div]
  simp only [isReductionPoint, Block.toNat_height_add_one hnext, Nat.dvd_iff_mod_eq_zero,
    decide_eq_true_eq]

/-- After a reduction point the reward is reduced, but not below the floor; after any other height
it stays. -/
theorem reward_succ {height : UInt64} (h : 2 ≤ height) (hnext : height.toNat + 1 < UInt64.size) :
    reward (height + 1) =
      if isReductionPoint height then max leastReward (reduce (reward height))
      else reward height := by
  have hsucc : (height + 1).toNat = height.toNat + 1 := Block.toNat_height_add_one hnext
  have hle : 2 ≤ height + 1 := by
    rw [UInt64.le_iff_toNat_le] at h ⊢
    omega
  rw [reward_eq_max hle, reward_eq_max h, hsucc, succ_div_stepBlocks hnext]
  split_ifs with hpoint
  · rw [Function.iterate_succ_apply', max_reduce_max]
  · rfl

/-- The schedule. From height 2 on the reward falls from the first reward to the floor, by one
reduction for every full step of blocks. It changes only after reduction points, and there it is
reduced but for the floor. No product on the way leaves 64 bits. -/
theorem reward_schedule :
    (∀ a b : UInt64, 2 ≤ a → a ≤ b →
      leastReward ≤ reward b ∧ reward b ≤ reward a ∧ reward a ≤ firstReward ∧
      reward a = max leastReward (reduce^[a.toNat / stepBlocks] firstReward)) ∧
    (∀ height : UInt64, 2 ≤ height → height.toNat + 1 < UInt64.size →
      (reward (height + 1) ≠ reward height → isReductionPoint height = true) ∧
      (isReductionPoint height = true →
        reward (height + 1) = max leastReward (reduce (reward height)) ∧
        (reward height ≠ leastReward → reward (height + 1) < reward height))) ∧
    ∀ steps, reduce^[steps] firstReward * 47 < UInt64.size := by
  refine ⟨?_, ?_, iterate_reduce_mul_lt⟩
  · intro a b ha hab
    have hsteps : a.toNat / stepBlocks ≤ b.toNat / stepBlocks :=
      Nat.div_le_div_right (UInt64.le_iff_toNat_le.mp hab)
    rw [reward_eq_max ha, reward_eq_max (UInt64.le_trans ha hab)]
    refine ⟨le_max_left _ _, ?_, ?_, rfl⟩
    · exact max_le_max le_rfl (iterate_reduce_antitone firstReward hsteps)
    · exact max_le (by decide) (iterate_reduce_le _ firstReward)
  · intro height hheight hnext
    have hsucc := reward_succ hheight hnext
    refine ⟨?_, ?_⟩
    · intro hchange
      by_contra hpoint
      rw [if_neg hpoint] at hsucc
      exact hchange hsucc
    · intro hpoint
      rw [if_pos hpoint] at hsucc
      refine ⟨hsucc, ?_⟩
      intro habove
      have hfloor : leastReward ≤ reward height := by
        rw [reward_eq_max hheight]
        exact le_max_left _ _
      have hlt : leastReward < reward height := lt_of_le_of_ne hfloor (Ne.symm habove)
      rw [hsucc]
      exact max_lt hlt (reduce_lt (lt_of_le_of_lt (Nat.zero_le _) hlt))

/-- The first reduction: the reward stands up to height 10079 and is reduced after it. -/
theorem reward_schedule_of_first_reduction :
    (2 : UInt64) ≤ 10079 ∧ (10079 : UInt64) ≤ 10080 ∧ isReductionPoint 10079 = true ∧
    reward 10080 < reward 10079 ∧ reward 10079 ≤ firstReward ∧
    reward 10080 = 48128000000 := by
  obtain ⟨hpair, hstep, -⟩ := reward_schedule
  have hpoint : isReductionPoint 10079 = true := by decide
  obtain ⟨-, -, hfirst, -⟩ := hpair 10079 10080 (by decide) (by decide)
  obtain ⟨-, hreduced⟩ := hstep 10079 (by decide) (by decide)
  obtain ⟨hvalue, hfalls⟩ := hreduced hpoint
  have hbefore : reward 10079 = firstReward := by decide
  rw [hbefore] at hvalue
  exact ⟨by decide, by decide, hpoint, hfalls (by rw [hbefore]; decide), hfirst,
    hvalue.trans (by decide)⟩

end DarkGravity.Subsidy
