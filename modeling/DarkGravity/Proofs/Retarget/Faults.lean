import DarkGravity.Proofs.Retarget.Walk
import Mathlib.Logic.Relation

/-!
# Why there is no required target

A required target is computed without the candidate, so when there is none, the fault lies below the
candidate: the chain is broken, or a word of the last block or of one of its ancestors has no target
(`retarget_eq_error`). The errors of the second kind do not blame the chain.
-/

namespace DarkGravity

/-! ## Faults below a candidate -/

namespace Lookup

/-- The parent of the block is found, and it is this one. -/
def IsParent (lookup : Lookup) (block parent : Block) : Prop :=
  lookup block.previous = .ok (some parent)

/-- The block itself, or a block that is found by going from parent to parent. -/
def IsAncestor (lookup : Lookup) : Block → Block → Prop :=
  Relation.ReflTransGen lookup.IsParent

/-- The error of a word without a target, in the block or one of its ancestors. -/
def IsWordFault (lookup : Lookup) (block : Block) (e : CheckError) : Prop :=
  ∃ ancestor source, lookup.IsAncestor block ancestor ∧
    Compact.decode ancestor.bits = .error source ∧ e = .invalidCompact source

/-- An error that lies at the block or below it. -/
def IsFault (lookup : Lookup) (block : Block) (e : CheckError) : Prop :=
  e.blamesChain = true ∨ lookup.IsWordFault block e

variable {lookup : Lookup} {block parent : Block} {e : CheckError} {source : Compact.Error}

theorem IsWordFault.of_decode (h : Compact.decode block.bits = .error source) :
    lookup.IsWordFault block (.invalidCompact source) :=
  ⟨block, source, .refl, h, rfl⟩

/-- A fault of the parent is a fault below its child. -/
theorem IsFault.of_parent (hparent : lookup.IsParent block parent) (h : lookup.IsFault parent e) :
    lookup.IsFault block e := by
  rcases h with hblames | ⟨ancestor, source, hancestor, hdecode, heq⟩
  · exact .inl hblames
  · exact .inr ⟨ancestor, source, .head hparent hancestor, hdecode, heq⟩

end Lookup

/-! ## Walks -/

section

variable {lookup : Lookup} {block previous : Block} {e : CheckError}

/-- A walk fails only for a fault at the block where it starts or below. -/
theorem visitFrom_eq_error {σ : Type} {visit : Visitor σ} (hvisit : visit.FailsOnWords)
    {least remaining count : ℕ} {state : σ}
    (h : (visitFrom lookup least visit remaining count block state).outcome = .error e) :
    lookup.IsFault block e := by
  induction remaining generalizing count block state with
  | zero =>
    cases hstate : visit count block state with
    | ok state' =>
      rw [visitFrom_zero hstate] at h
      cases h
    | error e' =>
      rw [visitFrom_of_error hstate, Except.error.injEq] at h
      obtain ⟨source, hdecode, rfl⟩ := hvisit _ _ _ _ hstate
      exact h ▸ .inr (.of_decode hdecode)
  | succ remaining ih =>
    cases hstate : visit count block state with
    | error e' =>
      rw [visitFrom_of_error hstate, Except.error.injEq] at h
      obtain ⟨source, hdecode, rfl⟩ := hvisit _ _ _ _ hstate
      exact h ▸ .inr (.of_decode hdecode)
    | ok state' =>
      by_cases hlow : block.height ≤ 1
      · rw [visitFrom_of_low hstate hlow] at h
        cases h
      · rw [visitFrom_succ hstate (UInt64.not_le.mp hlow)] at h
        split at h
        · next parent hfound => exact (ih h).of_parent hfound
        · split at h
          · cases h
          · cases h
            exact .inl rfl
        · cases h
          exact .inl rfl

/-- So does the way back to the first block of a period. -/
theorem ancestor_eq_error {n : ℕ} (h : (ancestor lookup n block).outcome = .error e) :
    e.blamesChain = true := by
  induction n generalizing block with
  | zero => cases h
  | succ n ih =>
    rw [ancestor, Traced.outcome_bind_eq_error_iff, outcome_parent?] at h
    rcases h with h | ⟨found, -, h⟩
    · cases hfound : lookup block.previous with
      | ok found => simp [hfound, Except.mapError] at h
      | error failure =>
        simp only [hfound, Except.mapError, Except.error.injEq] at h
        exact h ▸ rfl
    · cases found with
      | some parent => exact ih h
      | none =>
        cases h
        rfl

/-! ## Required targets -/

/-- Where there is no required target, the fault is at the last block or below. -/
theorem retarget_eq_error (v : Verifier) {version : Version}
    (h : (retarget version v.params previous lookup).outcome = .error e) :
    lookup.IsFault previous e := by
  by_cases hshort : tooShort (v.params.window version) previous = true
  · rw [outcome_retarget_of_tooShort v hshort] at h
    cases h
  rw [outcome_retarget_of_long hshort] at h
  obtain ⟨σ, visit, state, finish, hvisit, hwalk⟩ := exists_walkRetarget_eq version
  rw [hwalk, Except.map_eq_error_iff] at h
  exact visitFrom_eq_error (hvisit _) h

end

end DarkGravity
