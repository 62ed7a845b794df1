/-!
# The subsidy schedule

The reward of a block falls by six parts in a hundred every 10080 blocks until it reaches a floor.
The first two blocks have rewards of their own.
-/

namespace DarkGravity.Subsidy

/-- The base units of a coin. -/
def coin : Nat := 100000000

/-- The reward of the first blocks of the schedule. -/
def firstReward : Nat := 512 * coin

/-- The reward of block 1. -/
def premine : Nat := 240640 * coin

/-- The floor of the schedule. -/
def leastReward : Nat := 5 * coin

/-- The blocks between two reductions. -/
def stepBlocks : Nat := 10080

/-- One reduction. -/
def reduce (reward : Nat) : Nat := reward * 47 / 50

/-- The reward after more reductions. It ends at the floor, without the reductions that remain. -/
def afterSteps : (steps : Nat) → (reward : Nat) → Nat
  | 0, reward => reward
  | steps + 1, reward =>
    if reduce reward < leastReward then leastReward else afterSteps steps (reduce reward)

/-- The new base units of the block at a height. -/
def reward (height : UInt64) : Nat :=
  if height = 0 then coin
  else if height = 1 then premine
  else afterSteps (height.toNat / stepBlocks) firstReward

/-- Whether the reward is reduced after a block of this height. After the last height of 64 bits
heights begin again at zero. -/
def isReductionPoint (previousHeight : UInt64) : Bool :=
  (previousHeight + 1).toNat % stepBlocks = 0

end DarkGravity.Subsidy
