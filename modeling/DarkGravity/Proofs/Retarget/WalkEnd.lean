import DarkGravity.Proofs.Retarget.Faults
import DarkGravity.Proofs.Retarget.Visited
import Mathlib.Data.List.Chain

/-!
# Where walks end

Along the parents of a block a walk goes on as long as its window has room, the block is above
height one and the parent is found. At the first block where it cannot go on it ends, with success
or with an error (`Window.EndsAt`). Up to there it looks up one parent for every block
(`visitFrom_of_goesOn`), so the number of its lookups is known as well as its end
(`visitAncestors_ends`).
-/

namespace DarkGravity

/-! ## Going on and ending -/

/-- A walk goes on from a block above height one to its parent. -/
def Lookup.GoesOn (lookup : Lookup) (block parent : Block) : Prop :=
  1 < block.height ∧ lookup.IsParent block parent

/-- A walk through the window ends at this block as its `count`-th one: successfully or with an
error, and after looking for the parent of the block so many times. -/
inductive Window.EndsAt (window : Window) (lookup : Lookup) (count : ℕ) (block : Block) :
    Except CheckError Unit → ℕ → Prop
  /-- The window is full. -/
  | full (most : window.most.toNat ≤ count) : EndsAt window lookup count block (.ok ()) 0
  /-- The first block of the chain comes next. -/
  | low (height : block.height ≤ 1) : EndsAt window lookup count block (.ok ()) 0
  /-- The parent is missing, but enough blocks were visited. -/
  | cut (room : count < window.most.toNat) (height : 1 < block.height)
      (missing : lookup block.previous = .ok none) (enough : window.least.toNat ≤ count) :
      EndsAt window lookup count block (.ok ()) 1
  /-- The parent is missing and needed. -/
  | incomplete (room : count < window.most.toNat) (height : 1 < block.height)
      (missing : lookup block.previous = .ok none) (few : count < window.least.toNat) :
      EndsAt window lookup count block (.error (.chainIncomplete block.height block.previous none)) 1
  /-- The lookup of the parent fails. -/
  | failed {failure : Lookup.Failure} (room : count < window.most.toNat) (height : 1 < block.height)
      (fails : lookup block.previous = .error failure) :
      EndsAt window lookup count block
        (.error (.chainIncomplete block.height block.previous (some failure))) 1

section

variable {lookup : Lookup} {window : Window} {block : Block} {count remaining sought : ℕ}
  {verdict : Except CheckError Unit}

/-- A block where a walk could go on and does not find its parent is an end. -/
theorem Window.exists_endsAt (hroom : count < window.most.toNat)
    (hstuck : ∀ parent, ¬ lookup.GoesOn block parent) :
    ∃ verdict sought, window.EndsAt lookup count block verdict sought := by
  by_cases hlow : block.height ≤ 1
  · exact ⟨_, _, .low hlow⟩
  have hhigh : 1 < block.height := UInt64.not_le.mp hlow
  cases hfound : lookup block.previous with
  | error failure => exact ⟨_, _, .failed hroom hhigh hfound⟩
  | ok found =>
    cases found with
    | some parent => exact absurd ⟨hhigh, hfound⟩ (hstuck parent)
    | none =>
      rcases Nat.lt_or_ge count window.least.toNat with hfew | henough
      · exact ⟨_, _, .incomplete hroom hhigh hfound hfew⟩
      · exact ⟨_, _, .cut hroom hhigh hfound henough⟩

/-- The parent of the last block is looked for only if there was room for it. -/
theorem Window.EndsAt.add_sought_le (h : window.EndsAt lookup count block verdict sought)
    (hcount : count ≤ window.most.toNat) : count + sought ≤ window.most.toNat := by
  cases h with
  | full | low => exact hcount
  | cut room | incomplete room | failed room => exact room

/-! ## The visited blocks -/

namespace Lookup

/-- A walk with room for more blocks goes on with those of the parent, or stays at its block. -/
theorem visitedFrom_succ_cases (lookup : Lookup) (remaining : ℕ) (block : Block) :
    (∃ parent, lookup.GoesOn block parent ∧
      lookup.visitedFrom (remaining + 1) block = block :: lookup.visitedFrom remaining parent) ∨
    ((∀ parent, ¬ lookup.GoesOn block parent) ∧
      lookup.visitedFrom (remaining + 1) block = [block]) := by
  rw [visitedFrom]
  by_cases hlow : block.height ≤ 1
  · rw [if_pos hlow]
    exact .inr ⟨fun parent h => absurd h.1 (UInt64.not_lt.mpr hlow), rfl⟩
  · rw [if_neg hlow]
    split
    · next parent hfound => exact .inl ⟨parent, ⟨UInt64.not_le.mp hlow, hfound⟩, rfl⟩
    · next hstuck => exact .inr ⟨fun parent h => hstuck parent h.2, rfl⟩

theorem length_visitedFrom_le (lookup : Lookup) (remaining : ℕ) (block : Block) :
    (lookup.visitedFrom remaining block).length ≤ remaining + 1 := by
  induction remaining generalizing block with
  | zero => exact le_rfl
  | succ remaining ih =>
    rcases lookup.visitedFrom_succ_cases remaining block with ⟨parent, -, heq⟩ | ⟨-, heq⟩
    · rw [heq]
      exact Nat.succ_le_succ (ih parent)
    · rw [heq]
      exact Nat.succ_le_succ (Nat.zero_le _)

/-- From each visited block a walk goes on to the next one. -/
theorem isChain_visitedFrom (lookup : Lookup) (remaining : ℕ) (block : Block) :
    (lookup.visitedFrom remaining block).IsChain lookup.GoesOn := by
  induction remaining generalizing block with
  | zero => exact .singleton block
  | succ remaining ih =>
    rcases lookup.visitedFrom_succ_cases remaining block with ⟨parent, hgoes, heq⟩ | ⟨-, heq⟩
    · obtain ⟨older, holder⟩ := lookup.exists_visitedFrom_eq_cons remaining parent
      rw [heq, holder]
      exact .cons_cons hgoes (holder ▸ ih parent)
    · rw [heq]
      exact .singleton block

/-- At the last visited block a walk ends. -/
theorem exists_endsAt_visitedFrom (hroom : count + remaining = window.most.toNat) (block : Block) :
    ∃ newer last verdict sought, lookup.visitedFrom remaining block = newer ++ [last] ∧
      window.EndsAt lookup (count + newer.length) last verdict sought := by
  induction remaining generalizing count block with
  | zero => exact ⟨[], block, _, _, rfl, .full hroom.ge⟩
  | succ remaining ih =>
    rcases lookup.visitedFrom_succ_cases remaining block with ⟨parent, -, heq⟩ | ⟨hstuck, heq⟩
    · have hroom' : count + 1 + remaining = window.most.toNat := by omega
      obtain ⟨newer, last, verdict, sought, hvisited, hends⟩ := ih hroom' parent
      refine ⟨block :: newer, last, verdict, sought, ?_, ?_⟩
      · rw [heq, hvisited, List.cons_append]
      · rwa [List.length_cons, Nat.add_comm newer.length, ← Nat.add_assoc]
    · have hroom' : count < window.most.toNat := by omega
      obtain ⟨verdict, sought, hends⟩ := Window.exists_endsAt hroom' hstuck
      exact ⟨[], block, verdict, sought, heq, hends⟩

end Lookup

end

/-! ## Runs -/

section

variable {σ : Type} {visit : Visitor σ} {lookup : Lookup} {window : Window}
  {least remaining count sought : ℕ} {first block : Block} {newer older rest : List Block}
  {state state' : σ} {verdict : Except CheckError Unit}

theorem Visitor.fold_append :
    visit.fold count (newer ++ older) state =
      (visit.fold count newer state).bind (visit.fold (count + newer.length) older) := by
  induction newer generalizing count state with
  | nil => rfl
  | cons block newer ih =>
    cases hstate : visit count block state with
    | error e =>
      rw [List.cons_append, fold_cons_of_error hstate, fold_cons_of_error hstate, Except.bind]
    | ok state' =>
      rw [List.cons_append, fold_cons_of_ok hstate, fold_cons_of_ok hstate, ih, List.length_cons,
        Nat.add_comm newer.length, ← Nat.add_assoc]

/-- A fold that fails has a first block that the visitor refuses. -/
theorem Visitor.exists_refused_of_fold {blocks : List Block} {e : CheckError}
    (h : visit.fold count blocks state = .error e) :
    ∃ newer block older state', blocks = newer ++ block :: older ∧
      visit.fold count newer state = .ok state' ∧
      visit (count + newer.length) block state' = .error e := by
  induction blocks generalizing count state with
  | nil => cases h
  | cons block blocks ih =>
    cases hstate : visit count block state with
    | error e' =>
      rw [fold_cons_of_error hstate] at h
      exact ⟨[], block, blocks, state, rfl, rfl, hstate.trans h⟩
    | ok state' =>
      rw [fold_cons_of_ok hstate] at h
      obtain ⟨newer, refused, older, state'', rfl, hfold, hrefused⟩ := ih h
      refine ⟨block :: newer, refused, older, state'', rfl, ?_, ?_⟩
      · rwa [fold_cons_of_ok hstate]
      · rwa [List.length_cons, Nat.add_comm newer.length, ← Nat.add_assoc]

/-- Going on from a block looks up its parent and leaves the rest to the walk from there. -/
theorem visitFrom_of_goesOn {parent : Block} (hgoes : lookup.GoesOn block parent)
    (h : visit count block state = .ok state') :
    visitFrom lookup least visit (remaining + 1) count block state =
      ⟨(visitFrom lookup least visit remaining (count + 1) parent state').outcome,
        .ancestorSought block.previous ::
          (visitFrom lookup least visit remaining (count + 1) parent state').events⟩ := by
  obtain ⟨hhigh, hfound⟩ := hgoes
  rw [visitFrom_succ_eq h hhigh, hfound]
  rfl

/-- A walk along blocks that it takes is the walk from the next one, after looking up their
parents. -/
theorem visitFrom_append (hchain : (first :: rest).IsChain lookup.GoesOn)
    (hsplit : first :: rest = newer ++ block :: older)
    (hfold : visit.fold count newer state = .ok state') :
    visitFrom lookup least visit (newer.length + remaining) count first state =
      ⟨(visitFrom lookup least visit remaining (count + newer.length) block state').outcome,
        newer.map (fun newer => .ancestorSought newer.previous) ++
          (visitFrom lookup least visit remaining (count + newer.length) block state').events⟩ := by
  induction newer generalizing count first rest state with
  | nil =>
    obtain ⟨rfl, -⟩ := List.cons.inj hsplit
    obtain rfl := Except.ok.inj hfold
    rw [List.length_nil, Nat.zero_add]
    rfl
  | cons newest newer ih =>
    obtain ⟨rfl, hrest⟩ := List.cons.inj hsplit
    obtain ⟨parent, rest', rfl⟩ : ∃ parent rest', rest = parent :: rest' :=
      List.exists_cons_of_ne_nil (by simp [hrest])
    obtain ⟨hgoes, hchain'⟩ := List.isChain_cons_cons.mp hchain
    obtain ⟨state₁, hstate, hfold'⟩ := Visitor.fold_cons_eq_ok_iff.mp hfold
    have hremaining : (first :: newer).length + remaining = newer.length + remaining + 1 := by
      rw [List.length_cons]
      omega
    have hcount : count + (first :: newer).length = count + 1 + newer.length := by
      rw [List.length_cons]
      omega
    rw [hremaining, hcount, visitFrom_of_goesOn hgoes hstate, ih hchain' hrest hfold']
    rfl

/-- So it has the outcome of that walk, and one lookup more for each block before. -/
theorem lookups_visitFrom_append (hchain : (first :: rest).IsChain lookup.GoesOn)
    (hsplit : first :: rest = newer ++ block :: older)
    (hfold : visit.fold count newer state = .ok state') :
    (visitFrom lookup least visit (newer.length + remaining) count first state).outcome =
        (visitFrom lookup least visit remaining (count + newer.length) block state').outcome ∧
      (visitFrom lookup least visit (newer.length + remaining) count first state).lookups =
        newer.length +
          (visitFrom lookup least visit remaining (count + newer.length) block state').lookups := by
  have hsought : (newer.map fun newer => Event.ancestorSought newer.previous).countP
      Event.isLookup = newer.length := by
    rw [List.countP_map]
    exact congrFun List.countP_true newer
  rw [visitFrom_append hchain hsplit hfold]
  refine ⟨rfl, ?_⟩
  rw [Traced.lookups, List.countP_append, hsought]
  rfl

/-- At an end a walk takes the block and has the outcome and the lookups of that end. -/
theorem visitFrom_of_endsAt (hends : window.EndsAt lookup count block verdict sought)
    (hroom : count + remaining = window.most.toNat) (h : visit count block state = .ok state') :
    (visitFrom lookup window.least.toNat visit remaining count block state).outcome =
        verdict.map (fun _ => (count, state')) ∧
      (visitFrom lookup window.least.toNat visit remaining count block state).lookups = sought := by
  cases hends with
  | full hmost =>
    obtain rfl : remaining = 0 := by omega
    rw [visitFrom_zero_eq h]
    exact ⟨rfl, rfl⟩
  | low hlow =>
    rw [visitFrom_eq_of_low h hlow]
    exact ⟨rfl, rfl⟩
  | cut hmost hhigh hmissing henough =>
    obtain ⟨remaining, rfl⟩ : ∃ n, remaining = n + 1 := ⟨remaining - 1, by omega⟩
    rw [visitFrom_succ_eq h hhigh, hmissing]
    simp only [if_pos henough]
    exact ⟨rfl, rfl⟩
  | incomplete hmost hhigh hmissing hfew =>
    obtain ⟨remaining, rfl⟩ : ∃ n, remaining = n + 1 := ⟨remaining - 1, by omega⟩
    rw [visitFrom_succ_eq h hhigh, hmissing]
    simp only [if_neg (Nat.not_le.mpr hfew)]
    exact ⟨rfl, rfl⟩
  | failed hmost hhigh hfails =>
    obtain ⟨remaining, rfl⟩ : ∃ n, remaining = n + 1 := ⟨remaining - 1, by omega⟩
    rw [visitFrom_succ_eq h hhigh, hfails]
    exact ⟨rfl, rfl⟩

end

/-! ## Complete chains -/

/-- Below the block a whole chain is found, down to a first block at height zero, and heights count
the generations. -/
inductive Lookup.Complete (lookup : Lookup) : Block → Prop
  | first {block : Block} (height : block.height = 0) : Complete lookup block
  | child {parent block : Block} (below : Complete lookup parent)
      (found : lookup.IsParent block parent)
      (height : block.height.toNat = parent.height.toNat + 1) : Complete lookup block

section

variable {lookup : Lookup} {block : Block} {least remaining count : ℕ}

/-- A walk on a whole chain visits a block for every height above zero, unless its window is full
before. -/
theorem Lookup.Complete.length_visitedFrom (h : lookup.Complete block)
    (hheight : 1 ≤ block.height.toNat) :
    (lookup.visitedFrom remaining block).length = min (remaining + 1) block.height.toNat := by
  induction h generalizing remaining with
  | first hzero => simp [hzero] at hheight
  | @child parent block below found height ih =>
    cases remaining with
    | zero =>
      rw [visitedFrom, List.length_singleton]
      omega
    | succ remaining =>
      rw [visitedFrom]
      by_cases hlow : block.height ≤ 1
      · rw [if_pos hlow, List.length_singleton]
        rw [UInt64.le_iff_toNat_le, UInt64.toNat_one] at hlow
        omega
      · have hparent : 1 ≤ parent.height.toNat := by
          rw [UInt64.le_iff_toNat_le, UInt64.toNat_one] at hlow
          omega
        rw [if_neg hlow, found, List.length_cons, ih hparent]
        omega

/-- It never breaks off. -/
theorem Lookup.Complete.breakFrom_eq_none (h : lookup.Complete block) :
    lookup.breakFrom least remaining count block = none := by
  induction h generalizing remaining count with
  | first hzero =>
    cases remaining with
    | zero => rfl
    | succ remaining => exact if_pos (by simp [hzero])
  | child below found height ih =>
    cases remaining with
    | zero => rfl
    | succ remaining =>
      rw [breakFrom, found]
      dsimp only
      rw [ih, ite_self]

end

/-! ## Walks through windows -/

section

variable {σ : Type} {visit : Visitor σ} {lookup : Lookup} {window : Window} {sought : ℕ}
  {first block : Block} {newer older : List Block} {state state' : σ}
  {verdict : Except CheckError Unit}

theorem Lookup.length_visited_le (lookup : Lookup) (first : Block)
    (hmost : 0 < window.most.toNat) : (lookup.visited window first).length ≤ window.most.toNat := by
  have hle := lookup.length_visitedFrom_le (window.most.toNat - 1) first
  rwa [Nat.sub_add_cancel hmost] at hle

/-- What a walk through a window comes to at one of its blocks, if the visitor takes those before. -/
theorem visitAncestors_append (hmost : 0 < window.most.toNat)
    (hsplit : lookup.visited window first = newer ++ block :: older)
    (hfold : visit.fold 1 newer state = .ok state') :
    ∃ remaining, newer.length + 1 + remaining = window.most.toNat ∧
      (visitAncestors lookup window visit first state).outcome =
        (visitFrom lookup window.least.toNat visit remaining (newer.length + 1) block
          state').outcome ∧
      (visitAncestors lookup window visit first state).lookups =
        newer.length + (visitFrom lookup window.least.toNat visit remaining (newer.length + 1)
          block state').lookups := by
  have hlength := lookup.length_visited_le first hmost
  rw [hsplit, List.length_append, List.length_cons] at hlength
  obtain ⟨remaining, hremaining⟩ : ∃ remaining, window.most.toNat - 1 = newer.length + remaining :=
    Nat.exists_eq_add_of_le (by omega)
  obtain ⟨rest, hvisited⟩ := lookup.exists_visitedFrom_eq_cons (window.most.toNat - 1) first
  have hchain := lookup.isChain_visitedFrom (window.most.toNat - 1) first
  rw [hvisited] at hchain
  refine ⟨remaining, by omega, ?_⟩
  unfold visitAncestors
  rw [hremaining, Nat.add_comm newer.length 1]
  exact lookups_visitFrom_append hchain (hvisited.symm.trans hsplit) hfold

/-- If the visitor takes all blocks, a walk has the outcome and the lookups of its end. -/
theorem visitAncestors_of_endsAt {final : σ} (hmost : 0 < window.most.toNat)
    (hsplit : lookup.visited window first = newer ++ [block])
    (hends : window.EndsAt lookup (newer.length + 1) block verdict sought)
    (hfold : visit.fold 1 (lookup.visited window first) state = .ok final) :
    (visitAncestors lookup window visit first state).outcome =
        verdict.map (fun _ => (newer.length + 1, final)) ∧
      (visitAncestors lookup window visit first state).lookups = newer.length + sought := by
  rw [hsplit, Visitor.fold_append] at hfold
  cases hnewer : visit.fold 1 newer state with
  | error e => simp [hnewer, Except.bind] at hfold
  | ok state' =>
    rw [hnewer, Except.bind, Nat.add_comm 1] at hfold
    obtain ⟨_, hlast, hnil⟩ := Visitor.fold_cons_eq_ok_iff.mp hfold
    obtain rfl := Except.ok.inj hnil
    obtain ⟨remaining, hroom, houtcome, hlookups⟩ := visitAncestors_append hmost hsplit hnewer
    obtain ⟨houtcome', hlookups'⟩ := visitFrom_of_endsAt hends hroom hlast
    exact ⟨houtcome.trans houtcome', by rw [hlookups, hlookups']⟩

/-- If the visitor refuses a block, a walk fails with its error before it looks for the parent. -/
theorem visitAncestors_of_refused {e : CheckError} (hmost : 0 < window.most.toNat)
    (hsplit : lookup.visited window first = newer ++ block :: older)
    (hfold : visit.fold 1 newer state = .ok state')
    (hrefused : visit (newer.length + 1) block state' = .error e) :
    (visitAncestors lookup window visit first state).outcome = .error e ∧
      (visitAncestors lookup window visit first state).lookups = newer.length := by
  obtain ⟨remaining, -, houtcome, hlookups⟩ := visitAncestors_append hmost hsplit hfold
  rw [visitFrom_eq_fail hrefused] at houtcome hlookups
  exact ⟨houtcome, hlookups⟩

/-- A walk looks up fewer parents than its window has blocks. -/
theorem lookups_visitAncestors_lt (hmost : 0 < window.most.toNat) :
    (visitAncestors lookup window visit first state).lookups < window.most.toNat := by
  have hlength := lookup.length_visited_le first hmost
  cases hfold : visit.fold 1 (lookup.visited window first) state with
  | ok final =>
    obtain ⟨newer, last, verdict, sought, hsplit, hends⟩ :=
      lookup.exists_endsAt_visitedFrom (Nat.add_sub_cancel' hmost) first
    rw [Nat.add_comm 1] at hends
    obtain ⟨-, hlookups⟩ := visitAncestors_of_endsAt hmost hsplit hends hfold
    rw [Lookup.visited, hsplit, List.length_append, List.length_singleton] at hlength
    have hsought := hends.add_sought_le hlength
    omega
  | error e =>
    obtain ⟨newer, block, older, state', hsplit, hnewer, hrefused⟩ :=
      Visitor.exists_refused_of_fold hfold
    rw [Nat.add_comm 1] at hrefused
    obtain ⟨-, hlookups⟩ := visitAncestors_of_refused hmost hsplit hnewer hrefused
    rw [hsplit, List.length_append, List.length_cons] at hlength
    omega

/-- On a whole chain only the visitor can make a walk fail. -/
theorem Lookup.Complete.outcome_visitAncestors (h : lookup.Complete first) :
    (visitAncestors lookup window visit first state).outcome =
      (visit.fold 1 (lookup.visited window first) state).map fun final =>
        ((lookup.visited window first).length, final) := by
  obtain ⟨older, hvisited⟩ := lookup.exists_visitedFrom_eq_cons (window.most.toNat - 1) first
  have hlength : 1 + ((lookup.visited window first).length - 1) =
      (lookup.visited window first).length := by
    rw [Lookup.visited, hvisited, List.length_cons]
    omega
  rw [visitAncestors, outcome_visitFrom, h.breakFrom_eq_none, ← Lookup.visited, hlength]
  rfl

end

/-- A walk visits a block, then its parent and so on, numbered from one. It goes on from each visited
block but the last, and there it ends. If the visitor takes them all, the walk has the outcome of
this end, and it has looked up the parents of all blocks before, and of the last one if the end needs
that. Otherwise it fails at the first block that the visitor refuses, and has looked up the parents
of those before. So there are always fewer lookups than the window has blocks. On a whole chain a
walk visits a block for every height above zero, as long as there is room, and only the visitor can
make it fail. -/
theorem visitAncestors_ends {σ : Type} {window : Window} (hmost : 0 < window.most.toNat)
    (lookup : Lookup) (visit : Visitor σ) (previous : Block) (state : σ) :
    let visited := lookup.visited window previous
    let walk := visitAncestors lookup window visit previous state
    visited.head? = some previous ∧
    (∀ newer block parent older, visited = newer ++ block :: parent :: older →
      newer.length + 1 < window.most.toNat ∧ 1 < block.height ∧ lookup.IsParent block parent) ∧
    (∃ newer last verdict sought, visited = newer ++ [last] ∧
      window.EndsAt lookup (newer.length + 1) last verdict sought ∧
      ∀ final, visit.fold 1 visited state = .ok final →
        walk.outcome = verdict.map (fun _ => (newer.length + 1, final)) ∧
        walk.lookups = newer.length + sought) ∧
    (∀ newer block older state' e, visited = newer ++ block :: older →
      visit.fold 1 newer state = .ok state' → visit (newer.length + 1) block state' = .error e →
      walk.outcome = .error e ∧ walk.lookups = newer.length) ∧
    walk.lookups < window.most.toNat ∧
    (lookup.Complete previous → 1 ≤ previous.height →
      visited.length = min window.most.toNat previous.height.toNat ∧
      walk.outcome = (visit.fold 1 visited state).map fun final => (visited.length, final)) := by
  intro visited walk
  refine ⟨?_, ?_, ?_, ?_, lookups_visitAncestors_lt hmost, ?_⟩
  · obtain ⟨older, holder⟩ := lookup.exists_visitedFrom_eq_cons (window.most.toNat - 1) previous
    exact congrArg List.head? holder
  · intro newer block parent older hsplit
    have hlength : visited.length ≤ window.most.toNat :=
      lookup.length_visited_le previous hmost
    have hchain : visited.IsChain lookup.GoesOn := lookup.isChain_visitedFrom _ previous
    rw [hsplit] at hlength hchain
    rw [List.length_append, List.length_cons, List.length_cons] at hlength
    exact ⟨by omega, (List.isChain_append_cons_cons.mp hchain).2.1⟩
  · obtain ⟨newer, last, verdict, sought, hsplit, hends⟩ :=
      lookup.exists_endsAt_visitedFrom (Nat.add_sub_cancel' hmost) previous
    rw [Nat.add_comm 1] at hends
    exact ⟨newer, last, verdict, sought, hsplit, hends, fun final hfold =>
      visitAncestors_of_endsAt hmost hsplit hends hfold⟩
  · intro newer block older state' e hsplit hfold hrefused
    exact visitAncestors_of_refused hmost hsplit hfold hrefused
  · intro hcomplete hheight
    have hlength : visited.length = min (window.most.toNat - 1 + 1) previous.height.toNat :=
      hcomplete.length_visitedFrom (UInt64.le_iff_toNat_le.mp hheight)
    rw [Nat.sub_add_cancel hmost] at hlength
    exact ⟨hlength, hcomplete.outcome_visitAncestors⟩

/-- A block that is its own parent is visited until the window is full, and its last visit looks
nothing up. A block at height two whose parent is not stored is one block too few. On a whole chain
it is visited with its parent, and the first block of the chain is not. -/
theorem visitAncestors_ends_of_cycle :
    let window : Window := ⟨2, 4⟩
    let record : Visitor (List (ℕ × UInt64)) := fun count block seen =>
      .ok (seen ++ [(count, block.height)])
    let loop : Block := ⟨.zero, 7, 0, 0, .zero⟩
    let first : Block := ⟨.ofCounter 1, 0, 0, 0, .zero⟩
    let second : Block := ⟨.ofCounter 2, 1, 0, 0, .ofCounter 1⟩
    let third : Block := ⟨.ofCounter 3, 2, 0, 0, .ofCounter 2⟩
    let cycle : Lookup := fun _ => .ok (some loop)
    let gap : Lookup := fun hash => .ok (if hash = first.hash then some first else none)
    let whole : Lookup := fun hash => .ok (if hash = second.hash then some second
      else if hash = first.hash then some first else none)
    (visitAncestors cycle window record loop []).outcome =
      .ok (4, [(1, 7), (2, 7), (3, 7), (4, 7)]) ∧
    (visitAncestors cycle window record loop []).lookups = 3 ∧
    (visitAncestors gap window record third []).outcome =
      .error (.chainIncomplete 2 (.ofCounter 2) none) ∧
    (visitAncestors gap window record third []).lookups = 1 ∧
    (visitAncestors whole window record third []).outcome = .ok (2, [(1, 2), (2, 1)]) := by
  intro window record loop first second third cycle gap whole
  have hmost : 0 < window.most.toNat := by decide
  have hcycle : (visitAncestors cycle window record loop []).outcome =
        .ok (4, [(1, 7), (2, 7), (3, 7), (4, 7)]) ∧
      (visitAncestors cycle window record loop []).lookups = 3 := by
    obtain ⟨-, -, ⟨newer, last, verdict, sought, hsplit, hends, hwalk⟩, -⟩ :=
      visitAncestors_ends hmost cycle record loop []
    have hvisited : cycle.visited window loop = [loop, loop, loop] ++ [loop] := by decide
    obtain ⟨rfl, hlast⟩ := List.append_inj' (hvisited.symm.trans hsplit) rfl
    obtain rfl := List.head_eq_of_cons_eq hlast
    cases hends with
    | full => exact hwalk _ (by decide)
    | low height => exact absurd height (by decide)
    | cut room | incomplete room | failed room => exact absurd room (by decide)
  have hgap : (visitAncestors gap window record third []).outcome =
        .error (.chainIncomplete 2 (.ofCounter 2) none) ∧
      (visitAncestors gap window record third []).lookups = 1 := by
    obtain ⟨-, -, ⟨newer, last, verdict, sought, hsplit, hends, hwalk⟩, -⟩ :=
      visitAncestors_ends hmost gap record third []
    have hvisited : gap.visited window third = [] ++ [third] := by decide
    obtain ⟨rfl, hlast⟩ := List.append_inj' (hvisited.symm.trans hsplit) rfl
    obtain rfl := List.head_eq_of_cons_eq hlast
    cases hends with
    | incomplete => exact hwalk [(1, 2)] (by decide)
    | full most => exact absurd most (by decide)
    | low height => exact absurd height (by decide)
    | cut _ _ _ enough => exact absurd enough (by decide)
    | failed _ _ fails => cases fails
  have hsecond : whole.IsParent second first := by
    unfold Lookup.IsParent
    decide
  have hthird : whole.IsParent third second := by
    unfold Lookup.IsParent
    decide
  have hcomplete : whole.Complete third := .child (.child (.first rfl) hsecond rfl) hthird rfl
  obtain ⟨-, -, -, -, -, hwhole⟩ := visitAncestors_ends hmost whole record third []
  obtain ⟨-, houtcome⟩ := hwhole hcomplete (by decide)
  exact ⟨hcycle.1, hcycle.2, hgap.1, hgap.2, houtcome.trans (by decide)⟩

end DarkGravity
