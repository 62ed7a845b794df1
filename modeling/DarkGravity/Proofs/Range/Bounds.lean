import DarkGravity.Proofs.Retarget.BlockTimes
import DarkGravity.Proofs.Retarget.WalkEnd

/-!
# Bounds of what a walk keeps

The timestamps of headers have 32 bits, so those of stored blocks do (`Block.Dated`). Along a walk
over such blocks every difference of timestamps stays below 2³² in either direction, and with it the
short mean; the sums grow by less than 2³² with every block (`BlockTimes.InRange`,
`RawState.InRange`). What one visit preserves holds after any number of them
(`Visitor.Preserves.fold`).
-/

namespace DarkGravity

/-! ## Means -/

/-- The signed mean stays in a range that begins at zero. -/
theorem Mean.towardInt_bounds {mean sample bound : ℤ} (hmean : 0 ≤ mean ∧ mean < bound)
    (hsample : 0 ≤ sample ∧ sample < bound) (count : ℕ) :
    0 ≤ Mean.towardInt mean sample count ∧ Mean.towardInt mean sample count < bound := by
  obtain ⟨m, rfl⟩ := Int.eq_ofNat_of_zero_le hmean.1
  obtain ⟨s, rfl⟩ := Int.eq_ofNat_of_zero_le hsample.1
  obtain ⟨hlow, hhigh⟩ := Mean.between_toward count m s
  rw [Mean.towardInt_natCast]
  omega

/-! ## Timestamps -/

/-- The timestamp has 32 bits. -/
def Block.Dated (block : Block) : Prop := block.timestamp.toNat < 2 ^ 32

/-- Such a timestamp is read as it is. -/
theorem Block.Dated.signed_timestamp {block : Block} (h : block.Dated) :
    signed block.timestamp = block.timestamp.toNat := by
  have hsize : UInt64.size = 2 ^ 64 := rfl
  have hsmall : block.timestamp.toNat < 2 ^ 32 := h
  exact signed_of_lt (by omega)

theorem Block.Dated.signed_bounds {block : Block} (h : block.Dated) :
    0 ≤ signed block.timestamp ∧ signed block.timestamp < 2 ^ 32 := by
  have hsmall : block.timestamp.toNat < 2 ^ 32 := h
  rw [h.signed_timestamp]
  omega

theorem Block.dated_ofHashedHeader (header : Header) (hash : Hash) (height : UInt64) :
    (Block.ofHashedHeader header hash height).Dated := by
  show header.timestamp.toUInt64.toNat < 2 ^ 32
  rw [UInt32.toNat_toUInt64]
  exact header.timestamp.toNat_lt

/-- All blocks that are found have such timestamps. -/
def Lookup.Dated (lookup : Lookup) : Prop :=
  ∀ hash block, lookup hash = .ok (some block) → block.Dated

theorem Lookup.Dated.visitedFrom {lookup : Lookup} (h : lookup.Dated) (remaining : ℕ)
    {block : Block} (hblock : block.Dated) : ∀ b ∈ lookup.visitedFrom remaining block, b.Dated := by
  induction remaining generalizing block with
  | zero => simpa [Lookup.visitedFrom] using hblock
  | succ remaining ih =>
    rw [Lookup.visitedFrom]
    refine List.forall_mem_cons.mpr ⟨hblock, ?_⟩
    split_ifs
    · simp
    · cases hfound : lookup block.previous with
      | error failure => simp
      | ok found =>
        cases found with
        | none => simp
        | some parent => exact ih (h _ _ hfound)

theorem Lookup.Dated.parent {lookup : Lookup} (h : lookup.Dated) {block parent : Block}
    (hfound : (parent? lookup block).outcome = .ok (some parent)) : parent.Dated := by
  rw [outcome_parent?] at hfound
  exact h _ _ (Except.mapError_eq_ok_iff.mp hfound)

theorem Lookup.Dated.ancestor {lookup : Lookup} (h : lookup.Dated) {n : ℕ} {block first : Block}
    (hblock : block.Dated) (hfirst : (ancestor lookup n block).outcome = .ok first) :
    first.Dated := by
  induction n generalizing block with
  | zero =>
    obtain rfl := Except.ok.inj hfirst
    exact hblock
  | succ n ih =>
    rw [DarkGravity.ancestor] at hfirst
    obtain ⟨found, hfound, hrest⟩ := Traced.outcome_bind_eq_ok_iff.mp hfirst
    cases found with
    | none => cases hrest
    | some parent => exact ih (h.parent hfound) hrest

/-! ## Invariants of visits -/

/-- What holds after some visits of dated blocks holds after the next one. -/
def Visitor.Preserves {σ : Type} (visit : Visitor σ) (invariant : ℕ → σ → Prop) : Prop :=
  ∀ ⦃seen block state state'⦄, block.Dated → invariant seen state →
    visit (seen + 1) block state = .ok state' → invariant (seen + 1) state'

/-- So it holds after any number of visits. -/
theorem Visitor.Preserves.fold {σ : Type} {visit : Visitor σ} {invariant : ℕ → σ → Prop}
    (h : visit.Preserves invariant) {blocks : List Block} (hblocks : ∀ b ∈ blocks, b.Dated)
    {seen : ℕ} {state final : σ} (hstate : invariant seen state)
    (hfold : visit.fold (seen + 1) blocks state = .ok final) :
    invariant (seen + blocks.length) final := by
  induction blocks generalizing seen state with
  | nil =>
    obtain rfl := Except.ok.inj hfold
    exact hstate
  | cons block older ih =>
    obtain ⟨next, hnext, hrest⟩ := Visitor.fold_cons_eq_ok_iff.mp hfold
    obtain ⟨hblock, holder⟩ := List.forall_mem_cons.mp hblocks
    have hfinal := ih holder (h hblock hstate hnext) hrest
    rwa [List.length_cons, Nat.add_comm older.length, ← Nat.add_assoc]

/-- The block times after `seen` visits: there is at most one delay for each, and each is below
2³². -/
structure BlockTimes.InRange (seen : ℕ) (t : BlockTimes) : Prop where
  last : 0 ≤ t.last ∧ t.last < 2 ^ 32
  shortCount : t.shortCount ≤ seen
  shortMean : 0 ≤ t.shortMean ∧ t.shortMean < 2 ^ 32
  longCount : t.longCount ≤ seen
  longSum : 0 ≤ t.longSum ∧ t.longSum ≤ seen * (2 ^ 32 - 1)

namespace BlockTimes

variable {t : BlockTimes} {seen least : ℕ} {delta : ℤ} {block : Block}

theorem inRange_empty : empty.InRange 0 := ⟨by decide, le_rfl, by decide, le_rfl, by decide⟩

theorem InRange.addDelta (h : t.InRange seen) (hdelta : 0 ≤ delta ∧ delta < 2 ^ 32) :
    (t.addDelta least delta).InRange (seen + 1) := by
  obtain ⟨hlast, hshortCount, hshortMean, hlongCount, hlongSum⟩ := h
  have hsum : 0 ≤ t.longSum + delta ∧ t.longSum + delta ≤ (seen + 1 : ℕ) * (2 ^ 32 - 1) := by
    push_cast
    omega
  rcases Nat.lt_or_ge least t.shortCount with hfull | hroom
  · rw [addDelta_of_full hfull]
    exact ⟨hlast, Nat.le_succ_of_le hshortCount, hshortMean, Nat.succ_le_succ hlongCount, hsum⟩
  · rw [addDelta_of_room hroom]
    refine ⟨hlast, Nat.succ_le_succ hshortCount, ?_, Nat.succ_le_succ hlongCount, hsum⟩
    split_ifs
    · exact hdelta
    · exact Mean.towardInt_bounds hshortMean hdelta _

/-- The delay between two dated blocks. -/
theorem InRange.delta_bounds (h : t.InRange seen) (hblock : block.Dated) :
    0 ≤ max (t.last - signed block.timestamp) 0 ∧
      max (t.last - signed block.timestamp) 0 < 2 ^ 32 := by
  have hlast := h.last
  have htime := hblock.signed_bounds
  omega

theorem InRange.add (h : t.InRange seen) (hblock : block.Dated) :
    (t.add least block.timestamp).InRange (seen + 1) := by
  have hmore : (if 0 < t.last then
      t.addDelta least (max (t.last - signed block.timestamp) 0) else t).InRange (seen + 1) := by
    split_ifs
    · exact h.addDelta (h.delta_bounds hblock)
    · obtain ⟨hlast, hshortCount, hshortMean, hlongCount, hlongSum⟩ := h
      refine ⟨hlast, by omega, hshortMean, by omega, ?_⟩
      push_cast
      omega
  exact ⟨hblock.signed_bounds, hmore.shortCount, hmore.shortMean, hmore.longCount, hmore.longSum⟩

end BlockTimes

/-- What version 1 keeps besides its average. -/
def SmoothState.InRange (seen : ℕ) (s : SmoothState) : Prop := s.times.InRange seen

theorem SmoothState.inRange_start : InRange 0 ⟨0, .empty⟩ := BlockTimes.inRange_empty

theorem visitSmooth_preserves (least : ℕ) :
    (visitSmooth least).Preserves SmoothState.InRange := by
  intro seen block s s' hblock hrange hvisit
  rw [SmoothState.InRange, (visitSmooth_eq_ok hvisit).2]
  exact BlockTimes.InRange.add hrange hblock

/-- The sum of version 3 after `seen` visits: each takes it less than 2³² up or down. -/
structure RawState.InRange (seen : ℕ) (s : RawState) : Prop where
  last : 0 ≤ s.last ∧ s.last < 2 ^ 32
  elapsed : |s.elapsed| ≤ seen * 2 ^ 32

theorem RawState.inRange_start : InRange 0 ⟨0, 0, 0⟩ := ⟨by decide, by simp⟩

theorem visitRaw_preserves (least : ℕ) : (visitRaw least).Preserves RawState.InRange := by
  intro seen block s s' hblock hrange hvisit
  obtain ⟨-, hlast, helapsed⟩ := visitRaw_eq_ok hvisit
  obtain ⟨hlastBounds, helapsedBound⟩ := hrange
  have htime := hblock.signed_bounds
  rw [abs_le] at helapsedBound
  refine ⟨hlast ▸ htime, abs_le.mpr ?_⟩
  rw [helapsed]
  push_cast
  split_ifs <;> omega

end DarkGravity
