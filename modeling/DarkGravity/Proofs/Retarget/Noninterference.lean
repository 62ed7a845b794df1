import DarkGravity.Proofs.Retarget.WalkEnd

/-!
# What a required target depends on

A required target reads the blocks that its walk visits: their heights, timestamps and parents, and
the words of the first of them, whose targets are averaged. Lookups that agree on these give the same
target or the same error (`retarget_eq_of_agree`). Besides, a computation depends only on the answers
that it asks for, and its trace tells which these are (`retarget_of_sought`).
-/

namespace DarkGravity

/-! ## Agreement along the ancestors -/

/-- What a walk reads of a block. The hash is not part of it, and the word only if the target of the
block is averaged. -/
structure Block.Alike (averaged : Prop) (block other : Block) : Prop where
  height : other.height = block.height
  timestamp : other.timestamp = block.timestamp
  previous : other.previous = block.previous
  bits : averaged → other.bits = block.bits

namespace Lookup

/-- Two answers that a walk cannot tell apart: blocks that are alike, no block, or one failure. -/
inductive AnswersAlike (averaged : Prop) :
    Except Lookup.Failure (Option Block) → Except Lookup.Failure (Option Block) → Prop
  | found {block other : Block} (alike : block.Alike averaged other) :
      AnswersAlike averaged (.ok (some block)) (.ok (some other))
  | missing : AnswersAlike averaged (.ok none) (.ok none)
  | failed (failure : Lookup.Failure) : AnswersAlike averaged (.error failure) (.error failure)

/-- The `n`-th ancestor of a block, or the answer that ends the way to it. -/
def generation (lookup : Lookup) : (n : ℕ) → Block → Except Lookup.Failure (Option Block)
  | 0, block => .ok (some block)
  | n + 1, block =>
    match lookup block.previous with
    | .ok (some parent) => generation lookup n parent
    | answer => answer

/-- The answers on the ways back from two blocks are related generation by generation, for at most
`remaining` generations and not below height one. -/
def RelatedAlong (lookup other : Lookup)
    (related : ℕ → Except Lookup.Failure (Option Block) → Except Lookup.Failure (Option Block) → Prop)
    (remaining : ℕ) (block block' : Block) : Prop :=
  ∀ n ≤ remaining,
    (∀ k < n, ∀ newer, lookup.generation k block = .ok (some newer) → 1 < newer.height) →
    related n (lookup.generation n block) (other.generation n block')

/-- The lookups agree along the ancestors of two blocks that are visited as the `count`-th ones, for
at most `remaining` generations and not below height one. Words count for the first `least` visited
blocks. -/
def AgreeFrom (lookup other : Lookup) (least remaining count : ℕ) (block block' : Block) : Prop :=
  ∀ n ≤ remaining,
    (∀ k < n, ∀ newer, lookup.generation k block = .ok (some newer) → 1 < newer.height) →
    AnswersAlike (count + n ≤ least) (lookup.generation n block) (other.generation n block')

/-- The lookups agree on all blocks of a window, the first of which are given. -/
def AgreeWithin (lookup other : Lookup) (window : Window) : Block → Block → Prop :=
  lookup.AgreeFrom other window.least.toNat (window.most.toNat - 1) 1

section

variable {lookup other : Lookup} {least remaining count n : ℕ} {block block' parent parent' : Block}

theorem generation_one (lookup : Lookup) (block : Block) :
    lookup.generation 1 block = lookup block.previous := by
  rw [generation]
  split
  · next parent hfound => exact hfound.symm
  · rfl

theorem generation_succ (hfound : lookup.IsParent block parent) :
    lookup.generation (n + 1) block = lookup.generation n parent := by
  rw [generation, hfound]

section

variable {related : ℕ → Except Lookup.Failure (Option Block) →
  Except Lookup.Failure (Option Block) → Prop}

/-- The blocks themselves are found at once. -/
theorem RelatedAlong.first (h : lookup.RelatedAlong other related remaining block block') :
    related 0 (.ok (some block)) (.ok (some block')) :=
  h 0 (Nat.zero_le _) (by simp)

/-- Above height one the answers to the searches for their parents are related. -/
theorem RelatedAlong.second (h : lookup.RelatedAlong other related (remaining + 1) block block')
    (hhigh : 1 < block.height) : related 1 (lookup block.previous) (other block'.previous) := by
  rw [← lookup.generation_one block, ← other.generation_one block']
  refine h 1 (Nat.succ_le_succ (Nat.zero_le _)) ?_
  intro k hk newer hnewer
  obtain rfl := Nat.lt_one_iff.mp hk
  obtain rfl := Option.some.inj (Except.ok.inj hnewer)
  exact hhigh

/-- The answers on the ways back from the parents are related as well. -/
theorem RelatedAlong.tail (h : lookup.RelatedAlong other related (remaining + 1) block block')
    (hhigh : 1 < block.height) (hfound : lookup.IsParent block parent)
    (hfound' : other.IsParent block' parent') :
    lookup.RelatedAlong other (fun n => related (n + 1)) remaining parent parent' := by
  intro n hn hnewer
  rw [← generation_succ hfound, ← generation_succ hfound']
  refine h (n + 1) (Nat.succ_le_succ hn) ?_
  intro k hk newer hgeneration
  cases k with
  | zero =>
    obtain rfl := Option.some.inj (Except.ok.inj hgeneration)
    exact hhigh
  | succ k =>
    rw [generation_succ hfound] at hgeneration
    exact hnewer k (Nat.lt_of_succ_lt_succ hk) newer hgeneration

end

theorem AgreeFrom.relatedAlong (h : lookup.AgreeFrom other least remaining count block block') :
    lookup.RelatedAlong other (fun n => AnswersAlike (count + n ≤ least)) remaining block block' :=
  h

theorem AgreeFrom.alike (h : lookup.AgreeFrom other least remaining count block block') :
    block.Alike (count ≤ least) block' := by
  cases h.relatedAlong.first with
  | found alike => exact alike

/-- Above height one the parents are looked up with answers that are alike. -/
theorem AgreeFrom.answersAlike (h : lookup.AgreeFrom other least (remaining + 1) count block block')
    (hhigh : 1 < block.height) :
    AnswersAlike (count + 1 ≤ least) (lookup block.previous) (other block'.previous) :=
  h.relatedAlong.second hhigh

/-- The lookups agree from the parents as well. -/
theorem AgreeFrom.tail (h : lookup.AgreeFrom other least (remaining + 1) count block block')
    (hhigh : 1 < block.height) (hfound : lookup.IsParent block parent)
    (hfound' : other.IsParent block' parent') :
    lookup.AgreeFrom other least remaining (count + 1) parent parent' := by
  intro n hn hnewer
  rw [Nat.add_assoc, Nat.add_comm 1]
  exact h.relatedAlong.tail hhigh hfound hfound' n hn hnewer

end

end Lookup

/-! ## Visitors -/

/-- The visitor takes alike blocks alike. -/
def Visitor.RespectsAlike {σ : Type} (visit : Visitor σ) (least : ℕ) : Prop :=
  ∀ count block other state, block.Alike (count ≤ least) other →
    visit count other state = visit count block state

/-- After the first blocks words are not read. -/
theorem averageTarget_congr {mean : ℕ → ℕ → ℕ → ℕ} {least count : ℕ} {bits bits' : UInt32}
    {average : Target} (h : count ≤ least → bits' = bits) :
    averageTarget mean least count bits' average = averageTarget mean least count bits average := by
  rcases Nat.lt_or_ge least count with hlt | hle
  · rw [averageTarget, averageTarget, if_pos hlt, if_pos hlt]
  · rw [h hle]

theorem visitSmooth_respectsAlike (least : ℕ) : (visitSmooth least).RespectsAlike least := by
  intro count block other state halike
  rw [visitSmooth, visitSmooth, averageTarget_congr halike.bits, halike.timestamp]

theorem visitRaw_respectsAlike (least : ℕ) : (visitRaw least).RespectsAlike least := by
  intro count block other state halike
  rw [visitRaw, visitRaw, averageTarget_congr halike.bits, halike.timestamp]

/-! ## Walks -/

section

variable {σ : Type} {visit : Visitor σ} {lookup other : Lookup} {least remaining count : ℕ}
  {block block' : Block} {state : σ}

/-- Where lookups agree, walks end in the same way. -/
theorem visitFrom_of_agree (hvisit : visit.RespectsAlike least)
    (hagree : lookup.AgreeFrom other least remaining count block block') :
    (visitFrom other least visit remaining count block' state).outcome =
      (visitFrom lookup least visit remaining count block state).outcome := by
  induction remaining generalizing count block block' state with
  | zero =>
    have halike := hvisit count block block' state hagree.alike
    cases hstate : visit count block state with
    | error e => rw [visitFrom_of_error hstate, visitFrom_of_error (halike.trans hstate)]
    | ok state' => rw [visitFrom_zero hstate, visitFrom_zero (halike.trans hstate)]
  | succ remaining ih =>
    have hblocks := hagree.alike
    have halike := hvisit count block block' state hblocks
    cases hstate : visit count block state with
    | error e => rw [visitFrom_of_error hstate, visitFrom_of_error (halike.trans hstate)]
    | ok state' =>
      have hstate' := halike.trans hstate
      by_cases hlow : block.height ≤ 1
      · rw [visitFrom_of_low hstate hlow, visitFrom_of_low hstate' (hblocks.height ▸ hlow)]
      · have hhigh : 1 < block.height := UInt64.not_le.mp hlow
        have hanswers := hagree.answersAlike hhigh
        rw [visitFrom_succ hstate hhigh, visitFrom_succ hstate' (hblocks.height ▸ hhigh)]
        generalize hanswer : lookup block.previous = answer at hanswers ⊢
        generalize hanswer' : other block'.previous = answer' at hanswers ⊢
        cases hanswers with
        | found alike => exact ih (hagree.tail hhigh hanswer hanswer')
        | missing =>
          simp only [parentMissing, hblocks.height, hblocks.previous]
        | failed failure => rw [hblocks.height, hblocks.previous]

/-- A walk is the same with every lookup that gives the answers it asks for. -/
theorem visitFrom_of_sought
    (hsame : ∀ hash, .ancestorSought hash ∈
      (visitFrom lookup least visit remaining count block state).events →
      other hash = lookup hash) :
    visitFrom other least visit remaining count block state =
      visitFrom lookup least visit remaining count block state := by
  induction remaining generalizing count block state with
  | zero =>
    cases hstate : visit count block state with
    | error e => rw [visitFrom_eq_fail hstate, visitFrom_eq_fail hstate]
    | ok state' => rw [visitFrom_zero_eq hstate, visitFrom_zero_eq hstate]
  | succ remaining ih =>
    cases hstate : visit count block state with
    | error e => rw [visitFrom_eq_fail hstate, visitFrom_eq_fail hstate]
    | ok state' =>
      by_cases hlow : block.height ≤ 1
      · rw [visitFrom_eq_of_low hstate hlow, visitFrom_eq_of_low hstate hlow]
      · have hhigh : 1 < block.height := UInt64.not_le.mp hlow
        rw [visitFrom_succ_eq hstate hhigh] at hsame
        have hprevious : other block.previous = lookup block.previous := by
          apply hsame
          exact Traced.mem_events_bind (List.mem_singleton_self _) _
        rw [visitFrom_succ_eq hstate hhigh, visitFrom_succ_eq hstate hhigh, hprevious]
        cases hfound : lookup block.previous with
        | error failure => rfl
        | ok found =>
          cases found with
          | none => rfl
          | some parent =>
            have hrest : visitFrom other least visit remaining (count + 1) parent state' =
                visitFrom lookup least visit remaining (count + 1) parent state' := by
              apply ih
              intro hash hmem
              apply hsame
              rw [hfound]
              exact List.mem_cons_of_mem _ hmem
            simp only [hrest]

end

/-! ## Required targets -/

section

variable {p : Params} {previous previous' : Block} {lookup other : Lookup} {version : Version}

/-- Where lookups agree on a window, its version gives the same target or the same error. -/
theorem retarget_eq_of_agree
    (hagree : lookup.AgreeWithin other (p.window version) previous previous') :
    (retarget version p previous' other).outcome = (retarget version p previous lookup).outcome := by
  have hshort : tooShort (p.window version) previous' = tooShort (p.window version) previous := by
    rw [tooShort, tooShort, hagree.alike.height]
  by_cases htooShort : tooShort (p.window version) previous = true
  · rw [retarget, retarget, if_pos htooShort, if_pos (hshort.trans htooShort)]
  · obtain ⟨σ, visit, state, finish, hvisit, hwalk⟩ :=
      exists_walkRetarget_eq_bind (fun _ visit => ∀ least, (visit least).RespectsAlike least)
        visitSmooth_respectsAlike visitRaw_respectsAlike version
    rw [outcome_retarget_of_long htooShort, outcome_retarget_of_long (hshort ▸ htooShort), hwalk,
      hwalk, Traced.outcome_bind, Traced.outcome_bind, visitAncestors, visitAncestors,
      visitFrom_of_agree (hvisit (p.window version).least.toNat) hagree]

/-- The whole computation is the same with every lookup that gives the answers it asks for. -/
theorem retarget_of_sought
    (hsame : ∀ hash, .ancestorSought hash ∈ (retarget version p previous lookup).events →
      other hash = lookup hash) :
    retarget version p previous other = retarget version p previous lookup := by
  by_cases hshort : tooShort (p.window version) previous = true
  · rw [retarget, retarget, if_pos hshort, if_pos hshort]
  · obtain ⟨σ, visit, state, finish, -, hwalk⟩ :=
      exists_walkRetarget_eq_bind (fun _ _ => True) trivial trivial version
    rw [retarget, if_neg hshort, hwalk] at hsame
    have hvisited : visitAncestors other (p.window version)
        (visit (p.window version).least.toNat) previous state =
        visitAncestors lookup (p.window version)
          (visit (p.window version).least.toNat) previous state := by
      apply visitFrom_of_sought
      intro hash hmem
      exact hsame hash (Traced.mem_events_bind (Traced.mem_events_bind hmem _) _)
    rw [retarget, retarget, if_neg hshort, if_neg hshort, hwalk, hwalk, hvisited]

end

/-- A required target is a matter of the window that its walk visits. Lookups that give blocks of the
same heights, timestamps and parents there, with the same words for as many as are averaged, lead to
the same target or to the same error. So no other word, no hash of a block and no other block has a
part in it. In particular nothing changes when a block is stored whose hash was not looked up. -/
theorem retarget_reads_window (version : Version) (p : Params) (previous : Block) :
    (∀ (lookup other : Lookup) (previous' : Block),
      lookup.AgreeWithin other (p.window version) previous previous' →
      (retarget version p previous' other).outcome =
        (retarget version p previous lookup).outcome) ∧
    ∀ (s : Store) (block : Block),
      .ancestorSought block.hash ∉ (retarget version p previous s.lookup).events →
      retarget version p previous (s.insert block).lookup =
        retarget version p previous s.lookup := by
  constructor
  · intro lookup other previous' hagree
    exact retarget_eq_of_agree hagree
  · intro s block hunsought
    apply retarget_of_sought
    intro hash hsought
    have hother : block.hash ≠ hash := fun heq => hunsought (heq ▸ hsought)
    rw [Store.lookup, Store.lookup, Store.get?_insert, if_neg hother]

/-- A window of one target and two blocks. The word of the second block is not read, so a negative
word there changes nothing, and neither does another hash. Nor does it matter that the parent of the
second block is stored. -/
theorem retarget_reads_window_of_negative_word :
    let params : Params := { Params.mainnet with windowV3 := ⟨1, 2⟩ }
    let grandparent : Block := ⟨.ofCounter 1, 199998, 0x1c00ffff, 1400000000, .ofCounter 0⟩
    let parent : Block := ⟨.ofCounter 2, 199999, 0x1c00ffff, 1400000100, .ofCounter 1⟩
    let twin : Block := { parent with hash := .ofCounter 9, bits := 0x04923456 }
    let tip : Block := ⟨.ofCounter 3, 200000, 0x1c00ffff, 1400000160, .ofCounter 2⟩
    let lookup : Lookup := fun _ => .ok (some parent)
    let other : Lookup := fun _ => .ok (some twin)
    let s : Store := Store.empty.insert parent
    let required : Retarget := ⟨0xffff * Bytes.weight 25 / 2, 2, 60, 120⟩
    Compact.decode twin.bits = .error (.negative 0x04923456) ∧
    (retarget .v3 params tip lookup).outcome = .ok required ∧
    (retarget .v3 params tip other).outcome = .ok required ∧
    (retarget .v3 params tip (s.insert grandparent).lookup).outcome = .ok required := by
  intro params grandparent parent twin tip lookup other s required
  obtain ⟨hagreed, hstored⟩ := retarget_reads_window .v3 params tip
  have hagree : lookup.AgreeWithin other (params.window .v3) tip tip := by
    intro n hn _
    have hcases : n = 0 ∨ n = 1 := Nat.le_one_iff_eq_zero_or_eq_one.mp hn
    rcases hcases with rfl | rfl
    · exact .found ⟨rfl, rfl, rfl, fun _ => rfl⟩
    · exact .found ⟨rfl, rfl, rfl, fun haveraged => absurd haveraged (by decide)⟩
  have hlookup : s.lookup =
      fun hash => .ok (if parent.hash = hash then some parent else none) := by
    funext hash
    rw [Store.lookup, Store.get?_insert, Store.get?_empty]
  have hunsought : .ancestorSought grandparent.hash ∉ (retarget .v3 params tip s.lookup).events := by
    rw [hlookup]
    decide +kernel
  have hrequired : (retarget .v3 params tip lookup).outcome = .ok required := by decide +kernel
  refine ⟨by decide, hrequired, ?_, ?_⟩
  · rw [hagreed lookup other tip hagree]
    exact hrequired
  · rw [hstored s grandparent hunsought, hlookup]
    decide +kernel

end DarkGravity
