import DarkGravity.Event

/-!
# Walks along the ancestors

A walk visits a block and its ancestors, newest first, and folds them into a state. It ends after
the most blocks of its window, or at a block of height one or less, or at the oldest stored block
once the least number of blocks was visited. A missing ancestor before that, and every failure of
the lookup, fails the walk. The visitor runs on a block before the parent of that block is looked
up.
-/

namespace DarkGravity

/-- What a visitor does with the `count`-th block, counted from one. -/
abbrev Visitor (σ : Type) := (count : Nat) → Block → σ → Except CheckError σ

/-- Looks up the parent of a block; `none` stands for a parent that is not stored. -/
def parent? (lookup : Lookup) (block : Block) : Check (Option Block) := do
  Traced.emit (.ancestorSought block.previous)
  match lookup block.previous with
  | .ok parent => return parent
  | .error e => Traced.fail (.chainIncomplete block.height block.previous (some e))

/-- The error of a block whose parent is needed and not stored. -/
def parentMissing (block : Block) : CheckError :=
  .chainIncomplete block.height block.previous none

/-- Visits `block` as the `count`-th block and then at most `remaining` ancestors. The result is the
number of the last block visited and the final state. -/
def visitFrom {σ : Type} (lookup : Lookup) (least : Nat) (visit : Visitor σ) :
    (remaining count : Nat) → Block → σ → Check (Nat × σ)
  | 0, count, block, state => do
    let state ← Traced.ofExcept (visit count block state)
    return (count, state)
  | remaining + 1, count, block, state => do
    let state ← Traced.ofExcept (visit count block state)
    -- the first block of the chain is never looked up
    if block.height ≤ 1 then return (count, state)
    else
      match ← parent? lookup block with
      | some parent => visitFrom lookup least visit remaining (count + 1) parent state
      | none =>
        if least ≤ count then do
          Traced.emit (.windowCut block.height count)
          return (count, state)
        else Traced.fail (parentMissing block)

/-- Visits `block` and its ancestors within a window. -/
def visitAncestors {σ : Type} (lookup : Lookup) (window : Window) (visit : Visitor σ)
    (block : Block) (state : σ) : Check (Nat × σ) :=
  visitFrom lookup window.least.toNat visit (window.most.toNat - 1) 1 block state

/-- Whether a chain that ends in this block is too short for a window. -/
def tooShort (window : Window) (block : Block) : Bool :=
  block.height = 0 || block.height < window.least

end DarkGravity
