import DarkGravity.Proofs.Check.Acceptance
import DarkGravity.Store

/-!
# Walks that never miss a parent

A walk fails where a parent is missing or a word has no target. If every stored block above height
one has its parent stored, with a word that has a target, then neither happens, and what else is
stored does not matter (`retarget_of_closed`).
-/

namespace DarkGravity

/-- The word has a target. -/
def Compact.Decodes (bits : UInt32) : Prop := ∃ target, Compact.decode bits = .ok target

/-- The word of a target that fits 256 bits has a target. -/
theorem Compact.decodes_encode {target : Target} (hlt : target < 2 ^ 256) :
    Compact.Decodes (Compact.encode target) :=
  ⟨_, Compact.decode_encode hlt⟩

namespace Lookup

/-- Above height one the parent of the block is found, and its word has a target. -/
def HasParent (lookup : Lookup) (block : Block) : Prop :=
  1 < block.height →
    ∃ parent, lookup block.previous = .ok (some parent) ∧ Compact.Decodes parent.bits

/-- Every block that can be found has its parent. -/
def Closed (lookup : Lookup) : Prop :=
  ∀ hash block, lookup hash = .ok (some block) → lookup.HasParent block

/-- What is found by the first lookup is found by the second. -/
def Included (lookup wider : Lookup) : Prop :=
  ∀ hash block, lookup hash = .ok (some block) → wider hash = .ok (some block)

theorem Included.refl (lookup : Lookup) : lookup.Included lookup := fun _ _ h => h

end Lookup

/-- What is stored is still found where blocks with new hashes are stored after it. -/
theorem Store.included_insertAll {s : Store} {older : List Block}
    (hnew : ∀ block ∈ older, s.get? block.hash = none) :
    s.lookup.Included (s.insertAll older).lookup := by
  intro hash block hfound
  rw [lookup_eq_ok_iff] at hfound ⊢
  have hother : older.reverse.find? (fun block => block.hash = hash) = none := by
    rw [List.find?_eq_none]
    intro other hmem heq
    rw [decide_eq_true_eq] at heq
    have hnone := hnew other (List.mem_reverse.mp hmem)
    rw [heq, hfound] at hnone
    cases hnone
  rw [get?_insertAll, hother, hfound]
  rfl

/-! ## Visitors -/

theorem Except.map_eq_error_iff {ε α β : Type} {f : α → β} {x : Except ε α} {e : ε} :
    x.map f = .error e ↔ x = .error e := by
  cases x <;> simp [Except.map]

theorem Except.map_eq_ok_iff {ε α β : Type} {f : α → β} {x : Except ε α} {b : β} :
    x.map f = .ok b ↔ ∃ a, x = .ok a ∧ f a = b := by
  cases x <;> simp [Except.map]

theorem Except.mapError_eq_ok_iff {ε ε' α : Type} {f : ε → ε'} {x : Except ε α} {a : α} :
    x.mapError f = .ok a ↔ x = .ok a := by
  cases x <;> simp [Except.mapError]

theorem Except.mapError_eq_error_iff {ε ε' α : Type} {f : ε → ε'} {x : Except ε α} {e' : ε'} :
    x.mapError f = .error e' ↔ ∃ e, x = .error e ∧ f e = e' := by
  cases x <;> simp [Except.mapError]

/-- The visitor takes every block whose word has a target. -/
def Visitor.Total {σ : Type} (visit : Visitor σ) : Prop :=
  ∀ count block state, Compact.Decodes block.bits → ∃ state', visit count block state = .ok state'

/-- The visitor refuses a block only for a word without a target. -/
def Visitor.FailsOnWords {σ : Type} (visit : Visitor σ) : Prop :=
  ∀ count block state e, visit count block state = .error e →
    ∃ source, Compact.decode block.bits = .error source ∧ e = .invalidCompact source

theorem Visitor.FailsOnWords.total {σ : Type} {visit : Visitor σ} (h : visit.FailsOnWords) :
    visit.Total := by
  rintro count block state ⟨target, htarget⟩
  cases hstate : visit count block state with
  | ok state' => exact ⟨state', rfl⟩
  | error e =>
    obtain ⟨source, hsource, -⟩ := h count block state e hstate
    rw [htarget] at hsource
    cases hsource

theorem averageTarget_eq_error {mean : ℕ → ℕ → ℕ → ℕ} {least count : ℕ} {bits : UInt32}
    {average : Target} {e : CheckError}
    (h : averageTarget mean least count bits average = .error e) :
    ∃ source, Compact.decode bits = .error source ∧ e = .invalidCompact source := by
  rw [averageTarget] at h
  split at h
  · cases h
  · cases hdecode : Compact.decode bits with
    | ok sample => simp [hdecode] at h
    | error source =>
      simp only [hdecode, Except.error.injEq] at h
      exact ⟨source, rfl, h.symm⟩

theorem visitSmooth_failsOnWords (least : ℕ) : (visitSmooth least).FailsOnWords := by
  intro count block state e h
  rw [visitSmooth, Except.map_eq_error_iff] at h
  exact averageTarget_eq_error h

theorem visitRaw_failsOnWords (least : ℕ) : (visitRaw least).FailsOnWords := by
  intro count block state e h
  rw [visitRaw, Except.map_eq_error_iff] at h
  exact averageTarget_eq_error h

/-! ## Walks -/

section

variable {lookup wider : Lookup}

/-- A search for the parent is an event, and then it ends as the lookup does. -/
theorem parent?_eq (lookup : Lookup) (block : Block) :
    parent? lookup block = ⟨(lookup block.previous).mapError fun failure =>
      .chainIncomplete block.height block.previous (some failure),
      [.ancestorSought block.previous]⟩ := by
  rw [parent?]
  cases lookup block.previous <;> rfl

theorem outcome_parent? (lookup : Lookup) (block : Block) :
    (parent? lookup block).outcome =
      (lookup block.previous).mapError fun failure =>
        .chainIncomplete block.height block.previous (some failure) := by
  rw [parent?_eq]

variable {σ : Type} {visit : Visitor σ} {least remaining count : ℕ} {block parent : Block}
  {state state' : σ}

/-- A walk fails where its visitor does. -/
theorem visitFrom_eq_fail {e : CheckError} (h : visit count block state = .error e) :
    visitFrom lookup least visit remaining count block state = Traced.fail e := by
  cases remaining <;> rw [visitFrom, h] <;> rfl

/-- The last block of a full window is visited, and its parent is not looked for. -/
theorem visitFrom_zero_eq (h : visit count block state = .ok state') :
    visitFrom lookup least visit 0 count block state = pure (count, state') := by
  rw [visitFrom, h]
  rfl

/-- Nor is the parent of a block at height one or less. -/
theorem visitFrom_eq_of_low (h : visit count block state = .ok state') (hlow : block.height ≤ 1) :
    visitFrom lookup least visit remaining count block state = pure (count, state') := by
  cases remaining with
  | zero => exact visitFrom_zero_eq h
  | succ remaining =>
    rw [visitFrom, h]
    exact if_pos hlow

/-- Above height one a walk goes on with the parent that is found. A missing parent ends it, with
success if enough blocks were visited, and so does a failure of the lookup. -/
theorem visitFrom_succ_eq (h : visit count block state = .ok state') (hhigh : 1 < block.height) :
    visitFrom lookup least visit (remaining + 1) count block state =
      (do
        Traced.emit (.ancestorSought block.previous)
        match lookup block.previous with
        | .ok (some parent) => visitFrom lookup least visit remaining (count + 1) parent state'
        | .ok none =>
          if least ≤ count then do
            Traced.emit (.windowCut block.height count)
            return (count, state')
          else Traced.fail (parentMissing block)
        | .error failure =>
          Traced.fail (.chainIncomplete block.height block.previous (some failure))) := by
  rw [visitFrom, h]
  show (if block.height ≤ 1 then pure (count, state') else parent? lookup block >>= _) = _
  rw [if_neg (UInt64.not_le.mpr hhigh), parent?_eq]
  cases lookup block.previous with
  | error failure => rfl
  | ok found => cases found <;> rfl

theorem visitFrom_of_error {e : CheckError} (h : visit count block state = .error e) :
    (visitFrom lookup least visit remaining count block state).outcome = .error e := by
  rw [visitFrom_eq_fail h, Traced.outcome_fail]

theorem visitFrom_zero (h : visit count block state = .ok state') :
    (visitFrom lookup least visit 0 count block state).outcome = .ok (count, state') := by
  rw [visitFrom_zero_eq h, Traced.outcome_pure]

theorem visitFrom_of_low (h : visit count block state = .ok state') (hlow : block.height ≤ 1) :
    (visitFrom lookup least visit remaining count block state).outcome =
      .ok (count, state') := by
  rw [visitFrom_eq_of_low h hlow, Traced.outcome_pure]

theorem visitFrom_succ (h : visit count block state = .ok state') (hhigh : 1 < block.height) :
    (visitFrom lookup least visit (remaining + 1) count block state).outcome =
      match lookup block.previous with
      | .ok (some parent) =>
        (visitFrom lookup least visit remaining (count + 1) parent state').outcome
      | .ok none => if least ≤ count then .ok (count, state') else .error (parentMissing block)
      | .error failure =>
        .error (.chainIncomplete block.height block.previous (some failure)) := by
  rw [visitFrom_succ_eq h hhigh, Traced.outcome_bind_of_ok (Traced.outcome_emit _)]
  cases lookup block.previous with
  | error failure => rfl
  | ok found =>
    cases found with
    | some parent => rfl
    | none =>
      dsimp only
      split <;> rfl

/-- Two walks from a block can only differ if it is taken and above height one. -/
theorem visitFrom_congr {remaining' : ℕ}
    (h : ∀ state', visit count block state = .ok state' → 1 < block.height →
      (visitFrom lookup least visit remaining count block state).outcome =
        (visitFrom wider least visit remaining' count block state).outcome) :
    (visitFrom lookup least visit remaining count block state).outcome =
      (visitFrom wider least visit remaining' count block state).outcome := by
  cases hstate : visit count block state with
  | error e => rw [visitFrom_of_error hstate, visitFrom_of_error hstate]
  | ok state' =>
    by_cases hlow : block.height ≤ 1
    · rw [visitFrom_of_low hstate hlow, visitFrom_of_low hstate hlow]
    · exact h state' hstate (UInt64.not_le.mp hlow)

/-- A walk from a block that has its parent does not fail, and it is the same walk where more blocks
are stored. -/
theorem visitFrom_of_closed (least : ℕ) (hvisit : visit.Total) (hclosed : lookup.Closed)
    (hincluded : lookup.Included wider) (remaining count : ℕ) {block : Block} (state : σ)
    (hbits : Compact.Decodes block.bits) (hparent : lookup.HasParent block) :
    ∃ result,
      (visitFrom lookup least visit remaining count block state).outcome = .ok result ∧
        (visitFrom wider least visit remaining count block state).outcome = .ok result := by
  induction remaining generalizing count block state with
  | zero =>
    obtain ⟨state', hstate⟩ := hvisit count block state hbits
    exact ⟨(count, state'), visitFrom_zero hstate, visitFrom_zero hstate⟩
  | succ remaining ih =>
    obtain ⟨state', hstate⟩ := hvisit count block state hbits
    by_cases hlow : block.height ≤ 1
    · exact ⟨(count, state'), visitFrom_of_low hstate hlow, visitFrom_of_low hstate hlow⟩
    · have hhigh : 1 < block.height := UInt64.not_le.mp hlow
      obtain ⟨parent, hfound, hdecodes⟩ := hparent hhigh
      rw [visitFrom_succ hstate hhigh, visitFrom_succ hstate hhigh, hfound,
        hincluded _ _ hfound]
      exact ih (count + 1) state' hdecodes (hclosed _ _ hfound)

end

/-! ## Required targets -/

section

variable {p : Params} {previous : Block} {lookup wider : Lookup}

theorem outcome_walkRetarget_v1 :
    (walkRetarget .v1 p previous lookup).outcome =
      (visitAncestors lookup p.windowV1 (visitSmooth p.windowV1.least.toNat) previous
        ⟨0, .empty⟩).outcome.map fun result => result.2.retarget result.1 p.spacing := by
  simp only [walkRetarget, Params.window]
  rw [Traced.outcome_bind]
  rfl

theorem outcome_walkRetarget_v3 :
    (walkRetarget .v3 p previous lookup).outcome =
      (visitAncestors lookup p.windowV3 (visitRaw p.windowV3.least.toNat) previous
        ⟨0, 0, 0⟩).outcome.map fun result => result.2.retarget result.1 p.spacing := by
  simp only [walkRetarget, Params.window]
  rw [Traced.outcome_bind]
  rfl

/-- Both versions walk their window with a visitor that knows its least number of blocks, and finish
with what the walk gives and the spacing. What holds of the visitors of both versions holds of this
one. -/
theorem exists_walkRetarget_eq_bind (holds : ∀ σ : Type, (ℕ → Visitor σ) → Prop)
    (hsmooth : holds SmoothState visitSmooth) (hraw : holds RawState visitRaw)
    (version : Version) :
    ∃ (σ : Type) (visit : ℕ → Visitor σ) (state : σ) (finish : σ → ℕ → UInt64 → Retarget),
      holds σ visit ∧
      ∀ (p : Params) (previous : Block) (lookup : Lookup),
        walkRetarget version p previous lookup =
          visitAncestors lookup (p.window version) (visit (p.window version).least.toNat) previous
            state >>= fun result => pure (finish result.2 result.1 p.spacing) := by
  cases version with
  | v1 =>
    exact ⟨SmoothState, visitSmooth, ⟨0, .empty⟩, SmoothState.retarget, hsmooth, fun _ _ _ => rfl⟩
  | v3 => exact ⟨RawState, visitRaw, ⟨0, 0, 0⟩, RawState.retarget, hraw, fun _ _ _ => rfl⟩

/-- For the outcome only the outcome of the walk matters, and it fails on words alone. -/
theorem exists_walkRetarget_eq (version : Version) :
    ∃ (σ : Type) (visit : ℕ → Visitor σ) (state : σ) (finish : σ → ℕ → UInt64 → Retarget),
      (∀ least, (visit least).FailsOnWords) ∧
      ∀ (p : Params) (previous : Block) (lookup : Lookup),
        (walkRetarget version p previous lookup).outcome =
          (visitAncestors lookup (p.window version) (visit (p.window version).least.toNat) previous
            state).outcome.map fun result => finish result.2 result.1 p.spacing := by
  obtain ⟨σ, visit, state, finish, hvisit, hwalk⟩ :=
    exists_walkRetarget_eq_bind (fun _ visit => ∀ least, (visit least).FailsOnWords)
      visitSmooth_failsOnWords visitRaw_failsOnWords version
  refine ⟨σ, visit, state, finish, hvisit, ?_⟩
  intro p previous lookup
  rw [hwalk, Traced.outcome_bind]
  rfl

/-- Neither version misses anything on stored ancestors that have their parents. -/
theorem walkRetarget_of_closed (version : Version) (p : Params) (hclosed : lookup.Closed)
    (hincluded : lookup.Included wider) (hbits : Compact.Decodes previous.bits)
    (hparent : lookup.HasParent previous) :
    ∃ required, (walkRetarget version p previous lookup).outcome = .ok required ∧
      (walkRetarget version p previous wider).outcome = .ok required := by
  obtain ⟨σ, visit, state, finish, hvisit, hwalk⟩ := exists_walkRetarget_eq version
  obtain ⟨result, hresult, hwider⟩ := visitFrom_of_closed (p.window version).least.toNat
    (hvisit (p.window version).least.toNat).total hclosed hincluded
    ((p.window version).most.toNat - 1) 1 state hbits hparent
  refine ⟨finish result.2 result.1 p.spacing, ?_, ?_⟩
  · rw [hwalk, visitAncestors, hresult]
    rfl
  · rw [hwalk, visitAncestors, hwider]
    rfl

theorem outcome_retarget_of_tooShort (v : Verifier) {version : Version}
    (h : tooShort (v.params.window version) previous = true) :
    (retarget version v.params previous lookup).outcome =
      .ok (Retarget.ofCeiling v.ceiling) := by
  have hceiling := outcome_decodeBits_of_ok v.decode_ceilingBits
  rw [retarget, if_pos h, ← bind_pure_comp, Traced.outcome_bind_of_ok hceiling,
    Traced.outcome_pure]

theorem outcome_retarget_of_long {version : Version}
    (h : ¬ tooShort (p.window version) previous = true) :
    (retarget version p previous lookup).outcome =
      (walkRetarget version p previous lookup).outcome := by
  rw [retarget, if_neg h, Traced.outcome_bind]
  cases (walkRetarget version p previous lookup).outcome <;> rfl

/-- On stored ancestors that have their parents there is a required target, and it is the same where
more blocks are stored. The first block of a chain is not visited, so its word does not matter. -/
theorem retarget_of_closed (v : Verifier) (version : Version) (hclosed : lookup.Closed)
    (hincluded : lookup.Included wider)
    (hbits : previous.height ≠ 0 → Compact.Decodes previous.bits)
    (hparent : lookup.HasParent previous) :
    ∃ required, (retarget version v.params previous lookup).outcome = .ok required ∧
      (retarget version v.params previous wider).outcome = .ok required := by
  by_cases hshort : tooShort (v.params.window version) previous = true
  · exact ⟨_, outcome_retarget_of_tooShort v hshort, outcome_retarget_of_tooShort v hshort⟩
  · have hdecodes : Compact.Decodes previous.bits := by
      refine hbits ?_
      intro hzero
      simp [tooShort, hzero] at hshort
    rw [outcome_retarget_of_long hshort, outcome_retarget_of_long hshort]
    exact walkRetarget_of_closed version v.params hclosed hincluded hdecodes hparent

end

end DarkGravity
