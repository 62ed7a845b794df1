import DarkGravity.Proofs.Retarget.Walk

/-!
# The blocks that a walk visits

Which blocks a walk visits is a matter of the lookup and of the window, and the visitor has no part
in it. So a walk folds its visitor over these blocks, newest first, and then it fails if it cannot
go on where it has to (`outcome_visitFrom`).
-/

namespace DarkGravity

/-- Runs the visitor over blocks that are numbered from `count`. -/
def Visitor.fold {σ : Type} (visit : Visitor σ) :
    (count : ℕ) → List Block → σ → Except CheckError σ
  | _, [], state => .ok state
  | count, block :: older, state =>
    (visit count block state).bind (Visitor.fold visit (count + 1) older)

namespace Lookup

/-- A block and at most `remaining` of its ancestors, newest first. They end at a block of height
one or less, and where no parent is found. -/
def visitedFrom (lookup : Lookup) : (remaining : ℕ) → Block → List Block
  | 0, block => [block]
  | remaining + 1, block =>
    block ::
      if block.height ≤ 1 then []
      else
        match lookup block.previous with
        | .ok (some parent) => visitedFrom lookup remaining parent
        | _ => []

/-- Why a walk cannot go on after the last of these blocks, if it has to. -/
def breakFrom (lookup : Lookup) (least : ℕ) :
    (remaining count : ℕ) → Block → Option CheckError
  | 0, _, _ => none
  | remaining + 1, count, block =>
    if block.height ≤ 1 then none
    else
      match lookup block.previous with
      | .ok (some parent) => breakFrom lookup least remaining (count + 1) parent
      | .ok none => if least ≤ count then none else some (parentMissing block)
      | .error failure => some (.chainIncomplete block.height block.previous (some failure))

/-- The blocks that a walk through a window visits. -/
def visited (lookup : Lookup) (window : Window) (block : Block) : List Block :=
  lookup.visitedFrom (window.most.toNat - 1) block

/-- The first block is always visited. -/
theorem exists_visitedFrom_eq_cons (lookup : Lookup) (remaining : ℕ) (block : Block) :
    ∃ older, lookup.visitedFrom remaining block = block :: older := by
  cases remaining with
  | zero => exact ⟨[], rfl⟩
  | succ remaining => exact ⟨_, rfl⟩

theorem exists_visited_eq_cons (lookup : Lookup) (window : Window) (block : Block) :
    ∃ older, lookup.visited window block = block :: older :=
  lookup.exists_visitedFrom_eq_cons (window.most.toNat - 1) block

end Lookup

section

variable {σ : Type} {visit : Visitor σ} {lookup : Lookup} {least remaining count : ℕ}
  {block : Block} {older : List Block} {state state' : σ}

theorem Visitor.fold_cons_of_ok (h : visit count block state = .ok state') :
    visit.fold count (block :: older) state = visit.fold (count + 1) older state' := by
  rw [fold, h, Except.bind]

theorem Visitor.fold_cons_of_error {e : CheckError} (h : visit count block state = .error e) :
    visit.fold count (block :: older) state = .error e := by
  rw [fold, h, Except.bind]

/-- The fold over a list that is not empty succeeds if the visit of the first block does and the
fold over the others goes on from there. -/
theorem Visitor.fold_cons_eq_ok_iff {final : σ} :
    visit.fold count (block :: older) state = .ok final ↔
      ∃ state', visit count block state = .ok state' ∧
        visit.fold (count + 1) older state' = .ok final := by
  rw [fold]
  cases visit count block state <;> simp [Except.bind]

/-- A walk folds its visitor over the visited blocks, and then it ends or breaks off. -/
theorem outcome_visitFrom :
    (visitFrom lookup least visit remaining count block state).outcome =
      (visit.fold count (lookup.visitedFrom remaining block) state).bind fun state' =>
        match lookup.breakFrom least remaining count block with
        | none => .ok (count + ((lookup.visitedFrom remaining block).length - 1), state')
        | some e => .error e := by
  induction remaining generalizing count block state with
  | zero =>
    rw [Lookup.visitedFrom]
    cases hstate : visit count block state with
    | error e =>
      rw [visitFrom_of_error hstate, Visitor.fold_cons_of_error hstate, Except.bind]
    | ok state' =>
      rw [visitFrom_zero hstate, Visitor.fold_cons_of_ok hstate]
      rfl
  | succ remaining ih =>
    rw [Lookup.visitedFrom, Lookup.breakFrom]
    cases hstate : visit count block state with
    | error e =>
      rw [visitFrom_of_error hstate, Visitor.fold_cons_of_error hstate, Except.bind]
    | ok state' =>
      rw [Visitor.fold_cons_of_ok hstate]
      by_cases hlow : block.height ≤ 1
      · rw [visitFrom_of_low hstate hlow, if_pos hlow, if_pos hlow]
        rfl
      · rw [visitFrom_succ hstate (UInt64.not_le.mp hlow), if_neg hlow, if_neg hlow]
        cases lookup block.previous with
        | error failure => rfl
        | ok found =>
          cases found with
          | none =>
            by_cases henough : least ≤ count
            · simp only [if_pos henough]
              rfl
            · simp only [if_neg henough]
              rfl
          | some parent =>
            dsimp only
            -- the parent is visited as the next block, so the count is the same from there
            obtain ⟨older, holder⟩ := lookup.exists_visitedFrom_eq_cons remaining parent
            have hcount : count + 1 + ((lookup.visitedFrom remaining parent).length - 1) =
                count + (lookup.visitedFrom remaining parent).length := by
              rw [holder, List.length_cons]
              omega
            rw [ih, hcount, List.length_cons, Nat.add_sub_cancel]

/-- A walk that does not fail has folded its visitor over the visited blocks and counted them. -/
theorem visitAncestors_eq_ok {window : Window} {n : ℕ}
    (h : (visitAncestors lookup window visit block state).outcome = .ok (n, state')) :
    n = (lookup.visited window block).length ∧
      visit.fold 1 (lookup.visited window block) state = .ok state' := by
  rw [visitAncestors, outcome_visitFrom] at h
  obtain ⟨older, holder⟩ := lookup.exists_visitedFrom_eq_cons (window.most.toNat - 1) block
  rw [Lookup.visited]
  cases hfold : visit.fold 1 (lookup.visitedFrom (window.most.toNat - 1) block) state with
  | error e => simp [hfold, Except.bind] at h
  | ok final =>
    rw [hfold, Except.bind] at h
    split at h
    · obtain ⟨hcount, rfl⟩ := Prod.mk.inj (Except.ok.inj h)
      refine ⟨?_, rfl⟩
      rw [← hcount, holder, List.length_cons]
      omega
    · cases h

end

end DarkGravity
