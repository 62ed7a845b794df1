import DarkGravity.Proofs.Check.Blame
import DarkGravity.Proofs.Check.Relaxation
import DarkGravity.Proofs.Check.Transition
import DarkGravity.Proofs.Retarget.Noninterference

/-!
# The way back through a period

At a transition the interval rule goes back to the first block of the period, parent by parent. The
number of its steps, the transition and the boundary are three conditions on heights. They fit
together where every parent is one lower than its child: then the way back ends at the boundary, or
it breaks off at a block whose parent is not found (`ancestor_cases`). So the rule never finds such
a chain inconsistent, and of all blocks on the way only the timestamp of the last one matters
(`checkInterval_of_heightsDescend`). All this needs that the position of the next height in its
period is the one that it would have without an end of heights (`Params.KeepsPosition`): at the last
height of 64 bits heights begin again at zero, and if this is not the end of a period, every whole
way back ends off a boundary (`outcome_checkInterval_of_greatest`).
-/

namespace DarkGravity

/-! ## Heights and ends of the way back -/

namespace Lookup

/-- Every parent that is found on the way back from a block is one lower than its child. -/
def HeightsDescend (lookup : Lookup) (block : Block) : Prop :=
  ∀ child parent, lookup.IsAncestor block child → lookup.IsParent child parent →
    child.height.toNat = parent.height.toNat + 1

/-- The way back cannot go on from this block: its parent is missing, or the lookup fails. The error
names the block and the parent. -/
inductive BreaksAt (lookup : Lookup) (block : Block) : CheckError → Prop
  | missing (missing : lookup block.previous = .ok none) :
      BreaksAt lookup block (.chainIncomplete block.height block.previous none)
  | failed {failure : Lookup.Failure} (fails : lookup block.previous = .error failure) :
      BreaksAt lookup block (.chainIncomplete block.height block.previous (some failure))

variable {lookup : Lookup} {block parent older : Block} {n : ℕ}

theorem HeightsDescend.of_parent (h : lookup.HeightsDescend block)
    (hfound : lookup.IsParent block parent) : lookup.HeightsDescend parent := by
  intro child grandparent hchild hparent
  exact h child grandparent (.head hfound hchild) hparent

theorem HeightsDescend.child (h : lookup.HeightsDescend parent)
    (hfound : lookup.IsParent block parent)
    (hheight : block.height.toNat = parent.height.toNat + 1) : lookup.HeightsDescend block := by
  -- a block has at most one parent
  have hunique : ∀ other, lookup.IsParent block other → other = parent := by
    intro other hother
    exact Option.some.inj (Except.ok.inj (hother.symm.trans hfound))
  intro descendant ancestor hdescendant hancestor
  rcases Relation.ReflTransGen.cases_head hdescendant with rfl | ⟨other, hother, hrest⟩
  · rw [hunique _ hancestor, hheight]
  · obtain rfl := hunique _ hother
    exact h _ _ hrest hancestor

/-- The parent of a block is found, or the way back breaks off at the block. -/
theorem isParent_or_breaksAt (lookup : Lookup) (block : Block) :
    (∃ parent, lookup.IsParent block parent) ∨ ∃ e, lookup.BreaksAt block e := by
  cases hfound : lookup block.previous with
  | error failure => exact .inr ⟨_, .failed hfound⟩
  | ok found =>
    cases found with
    | none => exact .inr ⟨_, .missing hfound⟩
    | some parent => exact .inl ⟨parent, hfound⟩

theorem BreaksAt.not_isParent {e : CheckError} (h : lookup.BreaksAt block e) :
    ¬ lookup.IsParent block parent := by
  intro hfound
  rw [IsParent] at hfound
  cases h with
  | missing hmissing => simp [hmissing] at hfound
  | failed hfails => simp [hfails] at hfound

theorem BreaksAt.heightsDescend {e : CheckError} (h : lookup.BreaksAt block e) :
    lookup.HeightsDescend block := by
  intro child parent hchild hparent
  rcases Relation.ReflTransGen.cases_head hchild with rfl | ⟨other, hother, -⟩
  · exact absurd hparent h.not_isParent
  · exact absurd hother h.not_isParent

/-- There is no way back over a block where it breaks off. -/
theorem BreaksAt.generation_succ_ne {e : CheckError} (h : lookup.BreaksAt block e) :
    lookup.generation (n + 1) block ≠ .ok (some older) := by
  rw [generation]
  cases h with
  | missing hmissing => simp [hmissing]
  | failed hfails => simp [hfails]

/-- So nothing is found below the first block where it breaks off. -/
theorem BreaksAt.le_of_generation {child : Block} {e : CheckError} {k : ℕ}
    (h : lookup.BreaksAt child e) (hchild : lookup.generation k block = .ok (some child))
    (hfound : lookup.generation n block = .ok (some older)) : n ≤ k := by
  induction k generalizing block n with
  | zero =>
    obtain rfl := Option.some.inj (Except.ok.inj hchild)
    cases n with
    | zero => exact le_rfl
    | succ n => exact absurd hfound h.generation_succ_ne
  | succ k ih =>
    rcases lookup.isParent_or_breaksAt block with ⟨parent, hparent⟩ | ⟨e, hbreaks⟩
    · cases n with
      | zero => exact Nat.zero_le _
      | succ n =>
        rw [generation_succ hparent] at hchild hfound
        exact Nat.succ_le_succ (ih hchild hfound)
    · exact absurd hchild hbreaks.generation_succ_ne

/-- Where heights descend, they count the generations. -/
theorem HeightsDescend.height_of_generation (h : lookup.HeightsDescend block)
    (hfound : lookup.generation n block = .ok (some older)) :
    block.height.toNat = older.height.toNat + n := by
  induction n generalizing block with
  | zero =>
    obtain rfl := Option.some.inj (Except.ok.inj hfound)
    rfl
  | succ n ih =>
    rcases lookup.isParent_or_breaksAt block with ⟨parent, hparent⟩ | ⟨e, hbreaks⟩
    · rw [generation_succ hparent] at hfound
      rw [h block parent .refl hparent, ih (h.of_parent hparent) hfound, Nat.add_assoc]
    · exact absurd hfound hbreaks.generation_succ_ne

end Lookup

/-! ## Going back -/

section

variable {lookup : Lookup} {block parent : Block} {n : ℕ} {e : CheckError}

/-- A step back is one lookup, and the rest is the way back from the parent. -/
theorem ancestor_of_isParent (hfound : lookup.IsParent block parent) :
    (ancestor lookup (n + 1) block).outcome = (ancestor lookup n parent).outcome ∧
      (ancestor lookup (n + 1) block).lookups = (ancestor lookup n parent).lookups + 1 := by
  have hstep : ancestor lookup (n + 1) block = ⟨(ancestor lookup n parent).outcome,
      .ancestorSought block.previous :: (ancestor lookup n parent).events⟩ := by
    rw [ancestor, parent?_eq, hfound]
    rfl
  rw [hstep]
  exact ⟨rfl, List.countP_cons_of_pos rfl⟩

/-- Where the way back breaks off, it ends after one lookup. -/
theorem ancestor_of_breaksAt (h : lookup.BreaksAt block e) :
    (ancestor lookup (n + 1) block).outcome = .error e ∧
      (ancestor lookup (n + 1) block).lookups = 1 := by
  rw [ancestor, parent?_eq]
  cases h with
  | missing hmissing =>
    rw [hmissing]
    exact ⟨rfl, rfl⟩
  | failed hfails =>
    rw [hfails]
    exact ⟨rfl, rfl⟩

/-- The way back reaches its end with one lookup for each generation, or it breaks off at a block on
the way, after the lookup of the parent of this block. -/
theorem ancestor_cases (lookup : Lookup) (n : ℕ) (block : Block) :
    (∃ first, lookup.generation n block = .ok (some first) ∧
      (ancestor lookup n block).outcome = .ok first ∧ (ancestor lookup n block).lookups = n) ∨
    ∃ k < n, ∃ child e, lookup.generation k block = .ok (some child) ∧ lookup.BreaksAt child e ∧
      (ancestor lookup n block).outcome = .error e ∧
      (ancestor lookup n block).lookups = k + 1 := by
  induction n generalizing block with
  | zero => exact .inl ⟨block, rfl, rfl, rfl⟩
  | succ n ih =>
    rcases lookup.isParent_or_breaksAt block with ⟨parent, hparent⟩ | ⟨e, hbreaks⟩
    · obtain ⟨houtcome, hlookups⟩ := ancestor_of_isParent (n := n) hparent
      rw [houtcome, hlookups]
      rcases ih parent with
        ⟨first, hfirst, hok, hn⟩ | ⟨k, hk, child, e, hchild, hbreaks, herror, hn⟩
      · exact .inl ⟨first, (Lookup.generation_succ hparent).trans hfirst, hok, by rw [hn]⟩
      · exact .inr ⟨k + 1, Nat.succ_lt_succ hk, child, e,
          (Lookup.generation_succ hparent).trans hchild, hbreaks, herror, by rw [hn]⟩
    · obtain ⟨houtcome, hlookups⟩ := ancestor_of_breaksAt (n := n) hbreaks
      exact .inr ⟨0, n.succ_pos, block, e, rfl, hbreaks, houtcome, hlookups⟩

/-- A way back whose end is found succeeds. -/
theorem outcome_ancestor_of_generation {first : Block}
    (hfound : lookup.generation n block = .ok (some first)) :
    (ancestor lookup n block).outcome = .ok first := by
  rcases ancestor_cases lookup n block with
    ⟨last, hlast, hok, -⟩ | ⟨k, hk, child, e, hchild, hbreaks, -⟩
  · obtain rfl := Option.some.inj (Except.ok.inj (hfound.symm.trans hlast))
    exact hok
  · exact absurd (hbreaks.le_of_generation hchild hfound) (Nat.not_le.mpr hk)

end

/-! ## Positions in a period -/

/-- The next height has the position in its period that it would have without an end of heights:
they do not begin again after this one, or they do so at the end of a period. -/
def Params.KeepsPosition (p : Params) (height : UInt64) : Prop :=
  height.toNat + 1 < UInt64.size ∨ p.periodLength ∣ UInt64.size

section

variable {p : Params} {height : UInt64}

theorem Params.keepsPosition_of_dvd (h : p.periodLength ∣ height.toNat + 1) :
    p.KeepsPosition height := by
  have hlt : height.toNat + 1 ≤ UInt64.size := height.toNat_lt_size
  rcases Nat.lt_or_eq_of_le hlt with hroom | hgreatest
  · exact .inl hroom
  · exact .inr (hgreatest ▸ h)

/-- Then a transition is told as from heights without an end. -/
theorem isTransition_eq_decide (h : p.KeepsPosition height) :
    isTransition p.periodLength height =
      decide ((height.toNat + 1) % p.periodLength = 0) := by
  have hlt : height.toNat + 1 ≤ UInt64.size := height.toNat_lt_size
  rcases Nat.lt_or_eq_of_le hlt with hroom | hgreatest
  · rw [isTransition, Block.toNat_height_add_one hroom]
  · have hdvd : p.periodLength ∣ UInt64.size := h.resolve_left (by omega)
    rw [isTransition, Block.toNat_height_add_one_of_greatest hgreatest, hgreatest, Nat.zero_mod,
      Nat.mod_eq_zero_of_dvd hdvd]

/-- The child of a block at the last height always starts a period. -/
theorem isTransition_of_greatest {period : ℕ} (h : height.toNat + 1 = UInt64.size) :
    isTransition period height = true := by
  rw [isTransition, Block.toNat_height_add_one_of_greatest h, Nat.zero_mod]
  rfl

end

/-! ## Periods -/

section

variable {p : Params} {previous first : Block} {claimed : UInt32} {lookup : Lookup}

/-- Comparing with the target of the next period looks nothing up. -/
theorem lookups_checkTransition :
    (checkTransition p first previous claimed).lookups = 0 := by
  apply Traced.lookups_bind_eq_zero (Traced.lookups_ofExcept _)
  intro target
  apply Traced.lookups_bind_eq_zero (Traced.lookups_ofExcept _)
  intro ceiling
  apply Traced.lookups_bind_eq_zero lookups_clampToCeiling
  intro required
  dsimp only
  split <;> rfl

/-- Nor does the comparison with the word of the previous block. -/
theorem lookups_checkInterval_of_inside
    (h : isTransition p.periodLength previous.height = false) :
    (checkInterval p previous claimed lookup).lookups = 0 := by
  simp only [checkInterval, h]
  by_cases hchange : claimed ≠ previous.bits <;> simp [hchange]

/-- So only the way back looks anything up. -/
theorem lookups_checkInterval_of_transition
    (h : isTransition p.periodLength previous.height = true) :
    (checkInterval p previous claimed lookup).lookups =
      (ancestor lookup (p.periodLength - 1) previous).lookups := by
  simp only [checkInterval, h, Bool.not_true, Bool.false_eq_true, if_false]
  cases hfirst : (ancestor lookup (p.periodLength - 1) previous).outcome with
  | error e => exact Traced.lookups_bind_of_error hfirst _
  | ok first =>
    rw [Traced.lookups_bind_of_ok hfirst]
    split
    · rfl
    · exact congrArg _ lookups_checkTransition

/-- Where heights descend, the way back through a whole period ends at its first block. -/
theorem Lookup.HeightsDescend.spansPeriod (h : lookup.HeightsDescend previous)
    (hposition : p.KeepsPosition previous.height) (hpos : 0 < p.periodLength)
    (htransition : isTransition p.periodLength previous.height = true)
    (hfirst : lookup.generation (p.periodLength - 1) previous = .ok (some first)) :
    lookup.SpansPeriod p first previous where
  transition := htransition
  found := outcome_ancestor_of_generation hfirst
  boundary := by
    have hheight := h.height_of_generation hfirst
    have hnext : first.height.toNat + p.periodLength = previous.height.toNat + 1 := by omega
    rw [isTransition_eq_decide hposition, decide_eq_true_eq, ← hnext, Nat.add_mod_right]
      at htransition
    exact htransition

/-- At the last height the way back through a whole period ends off a boundary, unless heights end
with a period. -/
theorem outcome_checkInterval_of_greatest (h : lookup.HeightsDescend previous)
    (hgreatest : previous.height.toNat + 1 = UInt64.size) (hpos : 0 < p.periodLength)
    (hends : ¬ p.periodLength ∣ UInt64.size)
    (hfirst : lookup.generation (p.periodLength - 1) previous = .ok (some first)) :
    (checkInterval p previous claimed lookup).outcome =
      .error (.chainInconsistent previous.height first.height) := by
  have hheight := h.height_of_generation hfirst
  have hnext : first.height.toNat + p.periodLength = UInt64.size := by omega
  refine outcome_checkInterval_of_not_boundary (isTransition_of_greatest hgreatest)
    (outcome_ancestor_of_generation hfirst) ?_
  intro hboundary
  refine hends ?_
  rw [← hnext]
  exact Nat.dvd_add_self_right.mpr (Nat.dvd_of_mod_eq_zero hboundary)

/-- The comparison at a transition reads the word and the timestamp of the last block, and only the
timestamp of the first one. -/
theorem checkTransition_congr {first' previous' : Block} (hbits : previous'.bits = previous.bits)
    (hlast : previous'.timestamp = previous.timestamp)
    (hfirst : first'.timestamp = first.timestamp) :
    checkTransition p first' previous' claimed = checkTransition p first previous claimed := by
  simp only [checkTransition, periodTime, hbits, hlast, hfirst]

/-- At a transition the way back breaks off, or only the comparison at its end counts. -/
theorem checkInterval_transition_cases (hheights : lookup.HeightsDescend previous)
    (hposition : p.KeepsPosition previous.height) (hpos : 0 < p.periodLength)
    (htransition : isTransition p.periodLength previous.height = true) (claimed : UInt32) :
    (∃ n < p.periodLength - 1, ∃ child e, lookup.generation n previous = .ok (some child) ∧
      lookup.BreaksAt child e ∧ (checkInterval p previous claimed lookup).outcome = .error e ∧
      (checkInterval p previous claimed lookup).lookups = n + 1) ∨
    ∃ first, lookup.generation (p.periodLength - 1) previous = .ok (some first) ∧
      (checkInterval p previous claimed lookup).outcome =
        (checkTransition p first previous claimed).outcome ∧
      (checkInterval p previous claimed lookup).lookups = p.periodLength - 1 := by
  rw [lookups_checkInterval_of_transition htransition]
  rcases ancestor_cases lookup (p.periodLength - 1) previous with
    ⟨first, hfirst, -, hlookups⟩ | ⟨n, hn, child, e, hchild, hbreaks, herror, hlookups⟩
  · have hperiod := hheights.spansPeriod hposition hpos htransition hfirst
    exact .inr ⟨first, hfirst, outcome_checkInterval_of_spansPeriod hperiod, hlookups⟩
  · exact .inl ⟨n, hn, child, e, hchild, hbreaks,
      outcome_checkInterval_of_error htransition herror, hlookups⟩

/-- The interval rule never finds a chain inconsistent whose heights descend. -/
theorem checkInterval_ne_chainInconsistent (hheights : lookup.HeightsDescend previous)
    (hposition : p.KeepsPosition previous.height) (hpos : 0 < p.periodLength)
    (start stop : UInt64) :
    (checkInterval p previous claimed lookup).outcome ≠
      .error (.chainInconsistent start stop) := by
  intro hinconsistent
  cases htransition : isTransition p.periodLength previous.height with
  | false =>
    rw [checkInterval_of_inside htransition] at hinconsistent
    split at hinconsistent <;> cases hinconsistent
  | true =>
    rcases checkInterval_transition_cases hheights hposition hpos htransition claimed with
      ⟨n, -, child, e, -, hbreaks, herror, -⟩ | ⟨first, -, houtcome, -⟩
    · rw [herror, Except.error.injEq] at hinconsistent
      subst hinconsistent
      cases hbreaks
    · have hblames := blamesChain_of_checkTransition (houtcome.symm.trans hinconsistent)
      cases hblames

end

/-- The interval rule on a chain whose heights descend. It never finds the chain inconsistent. Inside
a period it looks nothing up and passes exactly the word of the previous block. At a transition the
way back may break off at the last block that is found on it, and then the error is that of this
block, after one lookup for each block down to it. Or the first block of the period is found, with
one lookup for each block but the last. Then no error blames the chain, and the verdict is a matter
of the claimed word, of the word and the timestamp of the last block, and of the timestamp of the
first one: it is the same at the end of every period with these, on every such chain. Left out is
the last height of 64 bits, unless a period ends with it. -/
theorem checkInterval_of_heightsDescend (v : Verifier) {lookup : Lookup} {previous : Block}
    (hheights : lookup.HeightsDescend previous)
    (hposition : v.params.KeepsPosition previous.height) (claimed : UInt32) :
    let period := v.params.periodLength
    let check := checkInterval v.params previous claimed lookup
    (∀ start stop, check.outcome ≠ .error (.chainInconsistent start stop)) ∧
    ((previous.height.toNat + 1) % period ≠ 0 →
      check.lookups = 0 ∧ (check.outcome = .ok () ↔ claimed = previous.bits)) ∧
    ((previous.height.toNat + 1) % period = 0 →
      (∃ n < period - 1, ∃ child e, lookup.generation n previous = .ok (some child) ∧
        lookup.BreaksAt child e ∧
        (∀ k older, lookup.generation k previous = .ok (some older) → k ≤ n) ∧
        check.outcome = .error e ∧ check.lookups = n + 1) ∨
      ∃ first, lookup.generation (period - 1) previous = .ok (some first) ∧
        first.height.toNat + period = previous.height.toNat + 1 ∧ check.lookups = period - 1 ∧
        (∀ e, check.outcome = .error e → e.blamesChain = false) ∧
        ∀ (other : Lookup) (previous' first' : Block), other.HeightsDescend previous' →
          (previous'.height.toNat + 1) % period = 0 →
          other.generation (period - 1) previous' = .ok (some first') →
          previous'.bits = previous.bits → previous'.timestamp = previous.timestamp →
          first'.timestamp = first.timestamp →
          (checkInterval v.params previous' claimed other).outcome = check.outcome) := by
  intro period check
  have hpos : 0 < period := v.periodLength_pos
  refine ⟨checkInterval_ne_chainInconsistent hheights hposition hpos, ?_, ?_⟩
  · intro hmod
    have hinside : isTransition period previous.height = false :=
      (isTransition_eq_decide hposition).trans (decide_eq_false hmod)
    exact ⟨lookups_checkInterval_of_inside hinside, checkInterval_eq_ok_iff_of_inside hinside⟩
  · intro hmod
    have htransition : isTransition period previous.height = true :=
      (isTransition_eq_decide hposition).trans (decide_eq_true hmod)
    rcases checkInterval_transition_cases hheights hposition hpos htransition claimed with
      ⟨n, hn, child, e, hchild, hbreaks, herror, hlookups⟩ | ⟨first, hfirst, houtcome, hlookups⟩
    · exact .inl ⟨n, hn, child, e, hchild, hbreaks,
        fun k older => hbreaks.le_of_generation hchild, herror, hlookups⟩
    refine .inr ⟨first, hfirst, ?_, hlookups, ?_, ?_⟩
    · have hheight := hheights.height_of_generation hfirst
      omega
    · intro e herror
      exact blamesChain_of_checkTransition (houtcome.symm.trans herror)
    · intro other previous' first' hheights' hmod' hfirst' hbits hlast hstart
      have hposition' : v.params.KeepsPosition previous'.height :=
        Params.keepsPosition_of_dvd (Nat.dvd_of_mod_eq_zero hmod')
      have htransition' : isTransition period previous'.height = true :=
        (isTransition_eq_decide hposition').trans (decide_eq_true hmod')
      have hperiod' := hheights'.spansPeriod hposition' hpos htransition' hfirst'
      rw [outcome_checkInterval_of_spansPeriod hperiod', houtcome,
        checkTransition_congr hbits hlast hstart]

/-- Two chains of a period of three blocks. They differ in the block in the middle, and no word can
be accepted on one of them and refused on the other. Without the first block the way back breaks off
at the middle one, which is inside the period itself. -/
theorem checkInterval_of_heightsDescend_of_twins :
    let params : Params := { Params.mainnet with rule := .interval, timespan := 180 }
    let first : Block := ⟨.ofCounter 1, 3, 0x1c7fffff, 1400000000, .zero⟩
    let middle : Block := ⟨.ofCounter 2, 4, 0x1c7fffff, 1400000060, .ofCounter 1⟩
    let twin : Block := { middle with bits := 0x04923456, timestamp := 1500000000 }
    let last : Block := ⟨.ofCounter 3, 5, 0x1c7fffff, 1400000120, .ofCounter 2⟩
    let chain : Block → Lookup := fun second hash =>
      .ok (if hash = second.hash then some second
        else if hash = first.hash then some first else none)
    let pruned : Lookup := fun hash => .ok (if hash = middle.hash then some middle else none)
    (∀ claimed, (checkInterval params last claimed (chain twin)).outcome =
      (checkInterval params last claimed (chain middle)).outcome) ∧
    (checkInterval params last 0x1c555554 (chain middle)).outcome = .ok () ∧
    (checkInterval params last 0x1c555554 (chain middle)).lookups = 2 ∧
    (checkInterval params last 0x1c555554 pruned).outcome =
      .error (.chainIncomplete 4 (.ofCounter 1) none) ∧
    (checkInterval params last 0x1c555554 pruned).lookups = 2 ∧
    (checkInterval params middle 0x1c7fffff pruned).lookups = 0 := by
  intro params first middle twin last chain pruned
  let v : Verifier := ⟨params, 0xfffff * Bytes.weight 27, by decide⟩
  have hheights : ∀ second, chain second last.previous = .ok (some second) →
      chain second second.previous = .ok (some first) → chain second first.previous = .ok none →
      second.height = 4 → (chain second).HeightsDescend last := by
    intro second hlast hsecond hfirst hheight
    have hbottom : (chain second).BreaksAt first _ := .missing hfirst
    have hbelow : (chain second).HeightsDescend second :=
      hbottom.heightsDescend.child hsecond (by rw [hheight]; rfl)
    exact hbelow.child hlast (by rw [hheight]; rfl)
  have hmiddle : (chain middle).HeightsDescend last :=
    hheights middle (by decide) (by decide) (by decide) rfl
  have htwin : (chain twin).HeightsDescend last :=
    hheights twin (by decide) (by decide) (by decide) rfl
  have hperiod : v.params.periodLength = 3 := by decide
  have hroom : v.params.KeepsPosition last.height := .inl (by decide)
  have hwhole : ∀ claimed, (checkInterval params last claimed (chain middle)).lookups = 2 ∧
      (checkInterval params last claimed (chain twin)).outcome =
        (checkInterval params last claimed (chain middle)).outcome := by
    intro claimed
    obtain ⟨-, -, htransition⟩ := checkInterval_of_heightsDescend v hmiddle hroom claimed
    rw [hperiod] at htransition
    have htwo : (chain middle).generation 2 last = .ok (some first) := by decide
    rcases htransition (by decide) with
      ⟨n, hn, child, e, -, -, hlast, -⟩ | ⟨start, hstart, -, hlookups, -, hsame⟩
    · exact absurd (hlast 2 first htwo) (Nat.not_le.mpr hn)
    · obtain rfl := Option.some.inj (Except.ok.inj (htwo.symm.trans hstart))
      exact ⟨hlookups, hsame (chain twin) last first htwin (by decide) (by decide) rfl rfl rfl⟩
  have hgap : pruned.BreaksAt middle (.chainIncomplete 4 (.ofCounter 1) none) :=
    .missing (by decide)
  have hparent : pruned.IsParent last middle := by
    unfold Lookup.IsParent
    decide
  have hpruned : (checkInterval params last 0x1c555554 pruned).outcome =
        .error (.chainIncomplete 4 (.ofCounter 1) none) ∧
      (checkInterval params last 0x1c555554 pruned).lookups = 2 := by
    obtain ⟨-, -, htransition⟩ := checkInterval_of_heightsDescend v
      (hgap.heightsDescend.child hparent rfl) hroom 0x1c555554
    rw [hperiod] at htransition
    rcases htransition (by decide) with
      ⟨n, hn, child, e, hchild, hbreaks, hlast, herror, hlookups⟩ | ⟨start, hstart, -⟩
    · have hone : pruned.generation 1 last = .ok (some middle) := by decide
      obtain rfl : n = 1 := Nat.le_antisymm (Nat.le_of_lt_succ hn) (hlast 1 middle hone)
      obtain rfl := Option.some.inj (Except.ok.inj (hone.symm.trans hchild))
      cases hbreaks with
      | missing => exact ⟨herror, hlookups⟩
      | failed hfails => cases hfails
    · rw [Lookup.generation_succ hparent] at hstart
      exact absurd hstart hgap.generation_succ_ne
  obtain ⟨-, hinside, -⟩ :=
    checkInterval_of_heightsDescend v hgap.heightsDescend (.inl (by decide)) 0x1c7fffff
  exact ⟨fun claimed => (hwhole claimed).2, by decide +kernel, (hwhole _).1, hpruned.1, hpruned.2,
    (hinside (by decide)).1⟩

/-- Without a position that is kept this fails. Three blocks, the last one at the last height, are
no whole period, and on heights without an end the word of the last block would pass without a
lookup. As heights begin again, the rule goes back two blocks and finds the chain inconsistent. -/
theorem not_every_descending_chain_is_consistent :
    let params : Params := { Params.mainnet with rule := .interval, timespan := 180 }
    let first : Block := ⟨.ofCounter 1, 18446744073709551613, 0x1c7fffff, 1400000000, .zero⟩
    let middle : Block :=
      ⟨.ofCounter 2, 18446744073709551614, 0x1c7fffff, 1400000060, .ofCounter 1⟩
    let last : Block := ⟨.ofCounter 3, 18446744073709551615, 0x1c7fffff, 1400000120, .ofCounter 2⟩
    let lookup : Lookup := fun hash =>
      .ok (if hash = middle.hash then some middle
        else if hash = first.hash then some first else none)
    params.validate = .ok (0xfffff * Bytes.weight 27) ∧ lookup.HeightsDescend last ∧
    (last.height.toNat + 1) % params.periodLength ≠ 0 ∧
    (checkInterval params last last.bits lookup).outcome =
      .error (.chainInconsistent last.height first.height) ∧
    (checkInterval params last last.bits lookup).lookups = 2 := by
  intro params first middle last lookup
  have hperiod : params.periodLength = 3 := by decide
  have hgreatest : last.height.toNat + 1 = UInt64.size := by decide
  have hlast : lookup.IsParent last middle := by
    unfold Lookup.IsParent
    decide
  have hmiddle : lookup.IsParent middle first := by
    unfold Lookup.IsParent
    decide
  have hbottom : lookup.BreaksAt first _ := .missing (by decide)
  have hbelow : lookup.HeightsDescend middle := hbottom.heightsDescend.child hmiddle (by decide)
  have hheights : lookup.HeightsDescend last := hbelow.child hlast (by decide)
  have hfirst : lookup.generation (params.periodLength - 1) last = .ok (some first) := by
    rw [hperiod]
    decide
  refine ⟨by decide, hheights, by decide, ?_, ?_⟩
  · exact outcome_checkInterval_of_greatest hheights hgreatest (by decide) (by decide) hfirst
  · rw [lookups_checkInterval_of_transition (isTransition_of_greatest hgreatest), hperiod]
    decide

end DarkGravity
