import DarkGravity.Proofs.Retarget.Faults

/-!
# Walks down to a missing block

Below the oldest stored block the chain has a gap. A walk from above fails there exactly when it
gets that far with too few blocks: the oldest block is above height one, and the way to it is
shorter than the least number of blocks (`retarget_eq_error_iff_of_above`). The error names the
oldest stored block and its missing parent.
-/

namespace DarkGravity

variable {lookup : Lookup} {root block : Block} {n : ℕ} {e : CheckError}

/-- The block is found `n` generations above a root whose parent is not stored. All words on the way
have targets. -/
inductive Lookup.Above (lookup : Lookup) (root : Block) : ℕ → Block → Prop
  | root (missing : lookup root.previous = .ok none) (decodes : Compact.Decodes root.bits) :
      Above lookup root 0 root
  | child {n : ℕ} {parent block : Block} (above : Above lookup root n parent)
      (found : lookup.IsParent block parent) (height : block.height = parent.height + 1)
      (decodes : Compact.Decodes block.bits) : Above lookup root (n + 1) block

/-- Heights count the generations. -/
theorem Lookup.Above.height_eq (h : lookup.Above root n block) :
    block.height = root.height + UInt64.ofNat n := by
  induction h with
  | root => exact (UInt64.add_zero _).symm
  | child _ _ height _ ih =>
    rw [height, ih, UInt64.add_assoc, UInt64.ofNat_add]
    rfl

/-- No block from the root to `n` generations above it ends a walk by its height. -/
def GoesDown (root : Block) (n : ℕ) : Prop := ∀ i ≤ n, 1 < root.height + UInt64.ofNat i

theorem goesDown_zero_iff : GoesDown root 0 ↔ 1 < root.height := by
  constructor
  · intro h
    simpa using h 0 le_rfl
  · intro h i hle
    obtain rfl := Nat.le_zero.mp hle
    simpa using h

theorem goesDown_succ_iff :
    GoesDown root (n + 1) ↔ 1 < root.height + UInt64.ofNat (n + 1) ∧ GoesDown root n := by
  constructor
  · intro h
    exact ⟨h (n + 1) le_rfl, fun i hle => h i (hle.trans n.le_succ)⟩
  · rintro ⟨hlast, hrest⟩ i hle
    rcases Nat.le_succ_iff.mp hle with hle' | rfl
    · exact hrest i hle'
    · exact hlast

/-- Where the top is high enough for a window but the way down is shorter than it, heights do not
wrap around on the way. -/
theorem goesDown_iff {least : UInt64} (hlong : least ≤ root.height + UInt64.ofNat n)
    (hshort : n + 1 < least.toNat) : GoesDown root n ↔ 1 < root.height := by
  rw [UInt64.le_iff_toNat_le, UInt64.toNat_add, UInt64.toNat_ofNat'] at hlong
  have hleast := least.toNat_lt
  have hroot := root.height.toNat_lt
  constructor
  · intro h
    simpa using h 0 n.zero_le
  · intro hhigh i hle
    rw [UInt64.lt_iff_toNat_lt, UInt64.toNat_one] at hhigh ⊢
    rw [UInt64.toNat_add, UInt64.toNat_ofNat']
    omega

section

variable {σ : Type} {visit : Visitor σ} {least remaining count : ℕ} {state : σ}

/-- A walk whose window has room for its least number of blocks fails exactly if it goes down to the
root and has too few blocks there. -/
theorem visitFrom_eq_error_iff_of_above (hvisit : visit.Total)
    (habove : lookup.Above root n block) (hroom : least ≤ count + remaining) :
    (visitFrom lookup least visit remaining count block state).outcome = .error e ↔
      e = parentMissing root ∧ GoesDown root n ∧ count + n < least := by
  -- the window shrinks as the count grows, so there is room at every step down
  induction habove generalizing remaining count state with
  | root missing decodes =>
    obtain ⟨state', hstate⟩ := hvisit count root state decodes
    cases remaining with
    | zero =>
      rw [visitFrom_zero hstate]
      exact iff_of_false (by simp) (by omega)
    | succ remaining =>
      by_cases hlow : root.height ≤ 1
      · rw [visitFrom_of_low hstate hlow]
        refine iff_of_false (by simp) ?_
        rintro ⟨-, hdown, -⟩
        exact absurd hlow (UInt64.not_le.mpr (goesDown_zero_iff.mp hdown))
      · have hhigh : 1 < root.height := UInt64.not_le.mp hlow
        rw [visitFrom_succ hstate hhigh, missing]
        dsimp only
        by_cases henough : least ≤ count
        · rw [if_pos henough]
          exact iff_of_false (by simp) (by omega)
        · rw [if_neg henough, Except.error.injEq]
          constructor
          · rintro rfl
            exact ⟨rfl, goesDown_zero_iff.mpr hhigh, by omega⟩
          · rintro ⟨rfl, -, -⟩
            rfl
  | @child n parent block habove hfound hheight hdecodes ih =>
    obtain ⟨state', hstate⟩ := hvisit count block state hdecodes
    have hgenerations := (habove.child hfound hheight hdecodes).height_eq
    rw [goesDown_succ_iff, ← hgenerations]
    cases remaining with
    | zero =>
      rw [visitFrom_zero hstate]
      exact iff_of_false (by simp) (by omega)
    | succ remaining =>
      by_cases hlow : block.height ≤ 1
      · rw [visitFrom_of_low hstate hlow]
        refine iff_of_false (by simp) ?_
        rintro ⟨-, ⟨hhigh, -⟩, -⟩
        exact absurd hlow (UInt64.not_le.mpr hhigh)
      · have hhigh : 1 < block.height := UInt64.not_le.mp hlow
        rw [visitFrom_succ hstate hhigh, hfound]
        dsimp only
        rw [ih (by omega), and_iff_right hhigh, Nat.add_assoc, Nat.add_comm 1 n]

end

/-! ## Required targets -/

/-- The windows of a verifier have room for their least number of blocks, and that is not zero. -/
theorem Verifier.window_ok (v : Verifier) (version : Version) :
    0 < (v.params.window version).least.toNat ∧
      (v.params.window version).least.toNat ≤ (v.params.window version).most.toNat := by
  have hvalid := v.valid
  simp only [Params.validate] at hvalid
  split_ifs at hvalid with _ _ hv1 hv3
  have hok : Params.windowOk (v.params.window version) = true := by
    cases version with
    | v1 => simpa [Params.window] using hv1
    | v3 => simpa [Params.window] using hv3
  simp only [Params.windowOk, Bool.and_eq_true, decide_eq_true_eq] at hok
  exact ⟨UInt64.lt_iff_toNat_lt.mp hok.1, UInt64.le_iff_toNat_le.mp hok.2⟩

/-- So a chain is too short exactly if it has not the height of the least number of blocks. -/
theorem Verifier.tooShort_iff (v : Verifier) (version : Version) (block : Block) :
    tooShort (v.params.window version) block = true ↔
      ¬ (v.params.window version).least ≤ block.height := by
  rw [tooShort, Bool.or_eq_true, decide_eq_true_eq, decide_eq_true_eq, UInt64.not_le]
  refine or_iff_right_of_imp ?_
  intro hzero
  rw [hzero, UInt64.lt_iff_toNat_lt]
  exact (v.window_ok version).1

/-- There is no required target above a gap exactly if the chain is long enough for a walk, but too
few of its blocks are stored and the oldest of them is above height one. -/
theorem retarget_eq_error_iff_of_above (v : Verifier) (version : Version)
    (habove : lookup.Above root n block) :
    (retarget version v.params block lookup).outcome = .error e ↔
      e = parentMissing root ∧ 1 < root.height ∧
        (v.params.window version).least ≤ block.height ∧
        n + 1 < (v.params.window version).least.toNat := by
  by_cases hlong : (v.params.window version).least ≤ block.height
  · have hnotShort : ¬ tooShort (v.params.window version) block = true :=
      fun hshort => (v.tooShort_iff version block).mp hshort hlong
    have hroom : (v.params.window version).least.toNat ≤
        1 + ((v.params.window version).most.toNat - 1) := by
      obtain ⟨hpositive, hmost⟩ := v.window_ok version
      omega
    have hwalk : (walkRetarget version v.params block lookup).outcome = .error e ↔
        e = parentMissing root ∧ GoesDown root n ∧
          1 + n < (v.params.window version).least.toNat := by
      obtain ⟨σ, visit, state, finish, hvisit, heq⟩ := exists_walkRetarget_eq version
      rw [heq, Except.map_eq_error_iff]
      exact visitFrom_eq_error_iff_of_above (hvisit _).total habove hroom
    rw [outcome_retarget_of_long hnotShort, hwalk, and_iff_right hlong, Nat.add_comm 1 n]
    refine and_congr_right fun _ => and_congr_left fun hshort => ?_
    exact goesDown_iff (habove.height_eq ▸ hlong) hshort
  · rw [outcome_retarget_of_tooShort v ((v.tooShort_iff version block).mpr hlong)]
    refine iff_of_false (by simp) ?_
    rintro ⟨-, -, hlong', -⟩
    exact hlong hlong'

end DarkGravity
