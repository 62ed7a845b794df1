import DarkGravity.Proofs.Retarget.Gap

/-!
# Truncated history

A store may hold only the newest blocks of a chain. A walk that has seen enough blocks ends at the
oldest of them as it would end there for a shorter window (`visitFrom_of_cutBelow`), so a required
target computed on truncated history is that of a shorter window on all of it. A window of a fixed
length cannot end early: it has a required target only if all of its blocks are stored, and no other
block matters (`visitFrom_of_included`).
-/

namespace DarkGravity

/-! ## Paths and windows -/

namespace Lookup

/-- The path goes from a block to its `n`-th ancestor, parent by parent. -/
def Leads (lookup : Lookup) (path : ℕ → Block) (n : ℕ) : Prop :=
  ∀ i < n, lookup.IsParent (path i) (path (i + 1))

/-- History is cut below the `n`-th ancestor: along the path the cut lookup answers like the whole
one, but it does not find the parent of the last block. -/
structure CutBelow (lookup cut : Lookup) (path : ℕ → Block) (n : ℕ) : Prop where
  leads : lookup.Leads path n
  agrees : ∀ i < n, cut (path i).previous = lookup (path i).previous
  missing : cut (path n).previous = .ok none

/-- What is cut below an ancestor of a block is cut below the same ancestor of its parent. -/
theorem CutBelow.tail {lookup cut : Lookup} {path : ℕ → Block} {n : ℕ}
    (h : lookup.CutBelow cut path (n + 1)) : lookup.CutBelow cut (fun i => path (i + 1)) n where
  leads i _ := h.leads (i + 1) (by omega)
  agrees i _ := h.agrees (i + 1) (by omega)
  missing := h.missing

end Lookup

/-- A window with at most so many blocks. -/
def Window.atMost (w : Window) (blocks : ℕ) : Window :=
  { w with most := UInt64.ofNat (min w.most.toNat blocks) }

theorem Window.toNat_most_atMost (w : Window) (blocks : ℕ) :
    (w.atMost blocks).most.toNat = min w.most.toNat blocks := by
  have hmost := w.most.toNat_lt
  show (UInt64.ofNat (min w.most.toNat blocks)).toNat = _
  rw [UInt64.toNat_ofNat']
  omega

/-- The same parameters, but the window of a version has at most so many blocks. -/
def Params.shorten (p : Params) (version : Version) (blocks : ℕ) : Params :=
  match version with
  | .v1 => { p with windowV1 := p.windowV1.atMost blocks }
  | .v3 => { p with windowV3 := p.windowV3.atMost blocks }

/-! ## Walks -/

section

variable {σ : Type} {visit : Visitor σ} {lookup cut wider : Lookup} {path : ℕ → Block}
  {block : Block} {least remaining count n : ℕ} {state : σ}

/-- A walk on truncated history that sees enough blocks is the walk on all history that stops where
the cut is, unless its window is over before. -/
theorem visitFrom_of_cutBelow (hcut : lookup.CutBelow cut path n) (henough : least ≤ count + n) :
    (visitFrom cut least visit remaining count (path 0) state).outcome =
      (visitFrom lookup least visit (min remaining n) count (path 0) state).outcome := by
  -- the path gets shorter as the count grows, so enough blocks are seen at its end
  induction n generalizing path remaining count state with
  | zero =>
    apply visitFrom_congr
    intro state' hstate hhigh
    rw [Nat.min_zero, visitFrom_zero hstate]
    cases remaining with
    | zero => exact visitFrom_zero hstate
    | succ remaining =>
      rw [visitFrom_succ hstate hhigh, hcut.missing]
      exact if_pos henough
  | succ n ih =>
    apply visitFrom_congr
    intro state' hstate hhigh
    cases remaining with
    | zero => rw [Nat.zero_min, visitFrom_zero hstate, visitFrom_zero hstate]
    | succ remaining =>
      have hparent : lookup (path 0).previous = .ok (some (path 1)) := hcut.leads 0 n.succ_pos
      rw [Nat.succ_min_succ, visitFrom_succ hstate hhigh, visitFrom_succ hstate hhigh,
        hcut.agrees 0 n.succ_pos, hparent]
      exact ih hcut.tail (by omega)

/-- A walk through a window of a fixed length ends early for height alone. If it succeeds, all
parents that it needs are stored, so it is the same where more blocks are stored. -/
theorem visitFrom_of_included {result : ℕ × σ} (hincluded : lookup.Included wider)
    (hfixed : count + remaining ≤ least)
    (hok : (visitFrom lookup least visit remaining count block state).outcome = .ok result) :
    (visitFrom wider least visit remaining count block state).outcome = .ok result := by
  rw [← hok]
  induction remaining generalizing count block state with
  | zero =>
    apply visitFrom_congr
    intro state' hstate _
    rw [visitFrom_zero hstate, visitFrom_zero hstate]
  | succ remaining ih =>
    apply visitFrom_congr
    intro state' hstate hhigh
    rw [visitFrom_succ hstate hhigh] at hok
    rw [visitFrom_succ hstate hhigh, visitFrom_succ hstate hhigh]
    cases hfound : lookup block.previous with
    | error failure => simp [hfound] at hok
    | ok found =>
      rw [hfound] at hok
      cases found with
      | some parent =>
        rw [hincluded _ _ hfound]
        exact ih (by omega) hok
      | none =>
        -- the window is not over, so too few blocks were visited for a gap
        have hshort : ¬ least ≤ count := by omega
        simp [hshort] at hok

end

/-! ## Required targets -/

section

variable {p : Params} {version : Version} {lookup cut wider : Lookup} {path : ℕ → Block} {n : ℕ}

theorem visitAncestors_of_cutBelow {σ : Type} {visit : Visitor σ} {window : Window} {state : σ}
    (hcut : lookup.CutBelow cut path n) (henough : window.least.toNat ≤ n + 1) :
    (visitAncestors cut window visit (path 0) state).outcome =
      (visitAncestors lookup (window.atMost (n + 1)) visit (path 0) state).outcome := by
  have hremaining : (window.atMost (n + 1)).most.toNat - 1 = min (window.most.toNat - 1) n := by
    rw [Window.toNat_most_atMost]
    omega
  unfold visitAncestors
  rw [hremaining]
  exact visitFrom_of_cutBelow hcut (by omega)

/-- The required target on truncated history is that of a window which ends where the cut is. -/
theorem retarget_of_cutBelow (hcut : lookup.CutBelow cut path n)
    (henough : (p.window version).least.toNat ≤ n + 1) :
    (retarget version p (path 0) cut).outcome =
      (retarget version (p.shorten version (n + 1)) (path 0) lookup).outcome := by
  -- only the most blocks of a window change, which have no part in whether a chain is too short
  have hleast : ((p.shorten version (n + 1)).window version).least = (p.window version).least := by
    cases version <;> rfl
  have hwindow : (p.shorten version (n + 1)).window version =
      (p.window version).atMost (n + 1) := by
    cases version <;> rfl
  have hspacing : (p.shorten version (n + 1)).spacing = p.spacing := by
    cases version <;> rfl
  have hceiling : (p.shorten version (n + 1)).ceilingBits = p.ceilingBits := by
    cases version <;> rfl
  by_cases hshort : tooShort (p.window version) (path 0) = true
  · have hshort' : tooShort ((p.shorten version (n + 1)).window version) (path 0) = true := by
      rwa [tooShort, hleast]
    rw [retarget, retarget, if_pos hshort, if_pos hshort', hceiling]
  · have hshort' : ¬ tooShort ((p.shorten version (n + 1)).window version) (path 0) = true := by
      rwa [tooShort, hleast]
    obtain ⟨σ, visit, state, finish, -, hwalk⟩ := exists_walkRetarget_eq version
    rw [outcome_retarget_of_long hshort, outcome_retarget_of_long hshort', hwalk, hwalk, hleast,
      hwindow, hspacing, visitAncestors_of_cutBelow hcut henough]

/-- The required target of a window of a fixed length is the same where more blocks are stored. -/
theorem retarget_of_included {v : Verifier} {block : Block} {required : Retarget}
    (hfixed : (v.params.window version).least = (v.params.window version).most)
    (hincluded : lookup.Included wider)
    (hok : (retarget version v.params block lookup).outcome = .ok required) :
    (retarget version v.params block wider).outcome = .ok required := by
  by_cases hshort : tooShort (v.params.window version) block = true
  · rw [outcome_retarget_of_tooShort v hshort] at hok ⊢
    exact hok
  · have hlength : 1 + ((v.params.window version).most.toNat - 1) ≤
        (v.params.window version).least.toNat := by
      have hpositive := (v.window_ok version).1
      rw [hfixed] at hpositive ⊢
      omega
    obtain ⟨σ, visit, state, finish, -, hwalk⟩ := exists_walkRetarget_eq version
    rw [outcome_retarget_of_long hshort, hwalk] at hok ⊢
    obtain ⟨result, hresult, hfinish⟩ := Except.map_eq_ok_iff.mp hok
    have hwider := visitFrom_of_included hincluded hlength hresult
    exact Except.map_eq_ok_iff.mpr ⟨result, hwider, hfinish⟩

end

/-- Cut below an ancestor that is far enough, history requires what a window that ends there
requires of all history, be it a target or an error. A window of a fixed length, as that of version
3 on every network, requires the same target of a store and of the store with older blocks. -/
theorem retarget_of_truncated_history (v : Verifier) (version : Version) (previous : Block)
    (lookup : Lookup) :
    (∀ (cut : Lookup) (path : ℕ → Block) (n : ℕ), path 0 = previous →
      lookup.CutBelow cut path n → (v.params.window version).least.toNat ≤ n + 1 →
      (retarget version v.params previous cut).outcome =
        (retarget version (v.params.shorten version (n + 1)) previous lookup).outcome) ∧
    ((v.params.window version).least = (v.params.window version).most →
      ∀ (wider : Lookup) (required : Retarget), lookup.Included wider →
      (retarget version v.params previous lookup).outcome = .ok required →
      (retarget version v.params previous wider).outcome = .ok required) ∧
    ∀ network, ((Params.preset network).window .v3).least =
      ((Params.preset network).window .v3).most := by
  refine ⟨?_, ?_, ?_⟩
  · rintro cut path n rfl hcut henough
    exact retarget_of_cutBelow hcut henough
  · intro hfixed wider required hincluded hok
    exact retarget_of_included hfixed hincluded hok
  · intro network
    cases network <;> rfl

/-- A window of two or three blocks on a store that holds one ancestor or two. What the pruned store
requires is what a window of two blocks requires of the full one. The window of three blocks
requires something else there, the one of exactly two blocks does not. -/
theorem retarget_of_truncated_history_of_pruned :
    let params : Params := { Params.mainnet with windowV3 := ⟨2, 3⟩ }
    let fixed : Params := { Params.mainnet with windowV3 := ⟨2, 2⟩ }
    let grandparent : Block := ⟨.ofCounter 1, 199998, 0x1c00ffff, 1400000000, .ofCounter 0⟩
    let parent : Block := ⟨.ofCounter 2, 199999, 0x1c00ffff, 1400000100, .ofCounter 1⟩
    let tip : Block := ⟨.ofCounter 3, 200000, 0x1c00ffff, 1400000160, .ofCounter 2⟩
    let pruned : Store := Store.empty.insert parent
    let full : Store := pruned.insertAll [grandparent]
    let required : Retarget := ⟨0xffff * Bytes.weight 25 / 2, 2, 60, 120⟩
    (retarget .v3 params tip pruned.lookup).outcome = .ok required ∧
    (retarget .v3 (params.shorten .v3 2) tip full.lookup).outcome = .ok required ∧
    (retarget .v3 params tip full.lookup).outcome ≠ .ok required ∧
    (retarget .v3 fixed tip full.lookup).outcome = .ok required := by
  intro params fixed grandparent parent tip pruned full required
  let v : Verifier := ⟨params, 0xfffff * Bytes.weight 27, by decide⟩
  let vFixed : Verifier := ⟨fixed, 0xfffff * Bytes.weight 27, by decide⟩
  let path : ℕ → Block := fun i => if i = 0 then tip else parent
  have hpruned : pruned.lookup =
      fun hash => .ok (if parent.hash = hash then some parent else none) := by
    funext hash
    rw [Store.lookup, Store.get?_insert, Store.get?_empty]
  have hfull : full.lookup = fun hash => .ok (if grandparent.hash = hash then some grandparent
      else if parent.hash = hash then some parent else none) := by
    funext hash
    show Except.ok ((pruned.insert grandparent).get? hash) = _
    rw [Store.get?_insert, Store.get?_insert, Store.get?_empty]
  have hcut : full.lookup.CutBelow pruned.lookup path 1 := by
    rw [hpruned, hfull]
    refine ⟨?_, ?_, by decide⟩
    · intro i hlt
      obtain rfl := Nat.lt_one_iff.mp hlt
      show Lookup.IsParent _ tip parent
      unfold Lookup.IsParent
      decide
    · intro i hlt
      obtain rfl := Nat.lt_one_iff.mp hlt
      decide
  have hnew : pruned.get? grandparent.hash = none := by
    rw [Store.get?_insert, if_neg (by decide), Store.get?_empty]
  have hincluded : pruned.lookup.Included full.lookup :=
    Store.included_insertAll (List.forall_mem_singleton.mpr hnew)
  obtain ⟨hshorter, -, -⟩ := retarget_of_truncated_history v .v3 tip full.lookup
  obtain ⟨-, hsame, -⟩ := retarget_of_truncated_history vFixed .v3 tip pruned.lookup
  have hrequired : (retarget .v3 params tip pruned.lookup).outcome = .ok required := by
    rw [hpruned]
    decide +kernel
  have hrequired' : (retarget .v3 fixed tip pruned.lookup).outcome = .ok required := by
    rw [hpruned]
    decide +kernel
  refine ⟨hrequired, ?_, ?_, hsame rfl full.lookup required hincluded hrequired'⟩
  · rw [← hshorter pruned.lookup path 1 rfl hcut (by decide)]
    exact hrequired
  · rw [hfull]
    decide +kernel

end DarkGravity
