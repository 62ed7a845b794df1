import DarkGravity.Proofs.Check.Period
import DarkGravity.Proofs.Retarget.BlockTimes

/-!
# Chains at another time

A chain whose timestamps are all moved by the same number of seconds has the same blocks on the way
back, in the same places (`Lookup.ShiftsTo.visitedFrom`, `Lookup.ShiftsTo.outcome_ancestor`), and
the words that are read there are the same. So it has the same errors, whatever the timestamps are.
The versions of Dark Gravity Wave mark a missing timestamp by a number that is not positive. As long
as no timestamp is read as such a number, only the seconds between blocks count, and these are the
same as well (`outcome_shift`).
-/

namespace DarkGravity

/-! ## Blocks at another time -/

/-- The same block at another time. -/
def Block.shift (seconds : ℤ) (block : Block) : Block :=
  { block with timestamp := .ofInt (block.timestamp.toNat + seconds) }

@[simp] theorem Block.height_shift (seconds : ℤ) (block : Block) :
    (block.shift seconds).height = block.height := rfl

@[simp] theorem Block.bits_shift (seconds : ℤ) (block : Block) :
    (block.shift seconds).bits = block.bits := rfl

/-- The timestamp is positive and in the lower half of the range, before it is moved and after. -/
structure Block.ShiftsWithin (seconds : ℤ) (block : Block) : Prop where
  before : 1 ≤ block.timestamp.toNat ∧ block.timestamp.toNat < 2 ^ 63
  after : 1 ≤ block.timestamp.toNat + seconds ∧ block.timestamp.toNat + seconds < 2 ^ 63

instance (seconds : ℤ) (block : Block) : Decidable (block.ShiftsWithin seconds) :=
  decidable_of_iff
    ((1 ≤ block.timestamp.toNat ∧ block.timestamp.toNat < 2 ^ 63) ∧
      1 ≤ block.timestamp.toNat + seconds ∧ block.timestamp.toNat + seconds < 2 ^ 63)
    ⟨fun h => ⟨h.1, h.2⟩, fun h => ⟨h.before, h.after⟩⟩

section

variable {seconds : ℤ} {block : Block} {blocks : List Block}

theorem Block.ShiftsWithin.toNat_timestamp (h : block.ShiftsWithin seconds) :
    ((block.shift seconds).timestamp.toNat : ℤ) = block.timestamp.toNat + seconds := by
  obtain ⟨-, hlow, hhigh⟩ := h
  show ((UInt64.ofInt (block.timestamp.toNat + seconds)).toNat : ℤ) = _
  rw [UInt64.ofInt, UInt64.toNat_ofNat']
  omega

theorem Block.ShiftsWithin.shifted (h : block.ShiftsWithin seconds) :
    1 ≤ (block.shift seconds).timestamp.toNat ∧
      (block.shift seconds).timestamp.toNat < 2 ^ 63 := by
  have htimestamp := h.toNat_timestamp
  obtain ⟨-, hlow, hhigh⟩ := h
  omega

theorem Block.ShiftsWithin.signed_timestamp (h : block.ShiftsWithin seconds) :
    signed (block.shift seconds).timestamp = signed block.timestamp + seconds := by
  rw [(Block.signed_timestamp h.shifted).1, (Block.signed_timestamp h.before).1,
    h.toNat_timestamp]

theorem delays_shift (h : ∀ block ∈ blocks, block.ShiftsWithin seconds) :
    delays (blocks.map (Block.shift seconds)) = delays blocks := by
  induction blocks with
  | nil => rfl
  | cons newer rest ih =>
    cases rest with
    | nil => rfl
    | cons older rest =>
      obtain ⟨hnewer, hrest⟩ := List.forall_mem_cons.mp h
      have htimestamp := hnewer.toNat_timestamp
      have htimestamp' := (List.forall_mem_cons.mp hrest).1.toNat_timestamp
      have hdelay : (newer.shift seconds).timestamp.toNat - (older.shift seconds).timestamp.toNat =
          newer.timestamp.toNat - older.timestamp.toNat := by omega
      have hdelays := ih hrest
      rw [List.map_cons] at hdelays
      rw [List.map_cons, List.map_cons, delays_cons_cons, hdelay, hdelays, delays_cons_cons]

end

/-! ## Ways back -/

namespace Lookup

/-- Where the parent of an ancestor is looked for, the other lookup gives the same block at another
time, or no block, or the same failure. -/
def ShiftsTo (lookup other : Lookup) (seconds : ℤ) (block : Block) : Prop :=
  ∀ ancestor, lookup.IsAncestor block ancestor →
    other ancestor.previous = (lookup ancestor.previous).map (Option.map (Block.shift seconds))

/-- All blocks at another time. -/
def shift (lookup : Lookup) (seconds : ℤ) : Lookup := fun hash =>
  (lookup hash).map (Option.map (Block.shift seconds))

variable {lookup other : Lookup} {seconds : ℤ} {least remaining count n : ℕ} {block parent : Block}

theorem shiftsTo_shift (lookup : Lookup) (seconds : ℤ) (block : Block) :
    lookup.ShiftsTo (lookup.shift seconds) seconds block := fun _ _ => rfl

/-- The search for the parent of the block itself. -/
theorem ShiftsTo.first (h : lookup.ShiftsTo other seconds block) :
    other (block.shift seconds).previous =
      (lookup block.previous).map (Option.map (Block.shift seconds)) :=
  h block .refl

theorem ShiftsTo.of_parent (h : lookup.ShiftsTo other seconds block)
    (hfound : lookup.IsParent block parent) : lookup.ShiftsTo other seconds parent :=
  fun ancestor hancestor => h ancestor (.head hfound hancestor)

theorem ShiftsTo.isParent (h : lookup.ShiftsTo other seconds block)
    (hfound : lookup.IsParent block parent) :
    other.IsParent (block.shift seconds) (parent.shift seconds) := by
  rw [IsParent, h.first, hfound]
  rfl

/-- A way back breaks off at the same block with the same error, which does not name the time. -/
theorem ShiftsTo.breaksAt {e : CheckError} (h : lookup.ShiftsTo other seconds block)
    (hbreaks : lookup.BreaksAt block e) : other.BreaksAt (block.shift seconds) e := by
  have hfirst := h.first
  cases hbreaks with
  | missing hmissing =>
    rw [hmissing] at hfirst
    exact .missing hfirst
  | failed hfails =>
    rw [hfails] at hfirst
    exact .failed hfirst

theorem ShiftsTo.visitedFrom (h : lookup.ShiftsTo other seconds block) :
    other.visitedFrom remaining (block.shift seconds) =
      (lookup.visitedFrom remaining block).map (Block.shift seconds) := by
  induction remaining generalizing block with
  | zero => rfl
  | succ remaining ih =>
    -- heights are not moved, so both ways end at the same block
    simp only [visitedFrom, List.map_cons, List.cons.injEq, true_and, h.first, Block.height_shift]
    by_cases hlow : block.height ≤ 1
    · rw [if_pos hlow, if_pos hlow]
      rfl
    · rw [if_neg hlow, if_neg hlow]
      cases hfound : lookup block.previous with
      | error failure => rfl
      | ok found =>
        cases found with
        | none => rfl
        | some parent => exact ih (h.of_parent hfound)

theorem ShiftsTo.breakFrom (h : lookup.ShiftsTo other seconds block) :
    other.breakFrom least remaining count (block.shift seconds) =
      lookup.breakFrom least remaining count block := by
  induction remaining generalizing count block with
  | zero => rfl
  | succ remaining ih =>
    simp only [breakFrom, h.first, Block.height_shift]
    by_cases hlow : block.height ≤ 1
    · rw [if_pos hlow, if_pos hlow]
    · rw [if_neg hlow, if_neg hlow]
      cases hfound : lookup block.previous with
      | error failure => rfl
      | ok found =>
        cases found with
        | none => rfl
        | some parent => exact ih (h.of_parent hfound)

/-- The way back to the first block of a period leads over the same blocks. -/
theorem ShiftsTo.outcome_ancestor (h : lookup.ShiftsTo other seconds block) :
    (ancestor other n (block.shift seconds)).outcome =
      (ancestor lookup n block).outcome.map (Block.shift seconds) := by
  induction n generalizing block with
  | zero => rfl
  | succ n ih =>
    rcases lookup.isParent_or_breaksAt block with ⟨parent, hfound⟩ | ⟨e, hbreaks⟩
    · rw [(ancestor_of_isParent (h.isParent hfound)).1, (ancestor_of_isParent hfound).1,
        ih (h.of_parent hfound)]
    · rw [(ancestor_of_breaksAt (h.breaksAt hbreaks)).1, (ancestor_of_breaksAt hbreaks).1]
      rfl

end Lookup

/-! ## Walks -/

section

variable {σ : Type} {visit : Visitor σ} {mean : ℕ → ℕ → ℕ → ℕ} {least count : ℕ}
  {average : σ → Target} {lookup other : Lookup} {seconds : ℤ} {window : Window} {previous : Block}

/-- Averaging reads words alone. -/
theorem fold_visitAverage_shift (blocks : List Block) (start : Target) :
    (visitAverage mean least).fold count (blocks.map (Block.shift seconds)) start =
      (visitAverage mean least).fold count blocks start := by
  induction blocks generalizing count start with
  | nil => rfl
  | cons block older ih =>
    have hblock : visitAverage mean least count (block.shift seconds) start =
        visitAverage mean least count block start := rfl
    rw [List.map_cons, Visitor.fold, Visitor.fold, hblock]
    exact congrArg _ (funext fun next => ih next)

/-- The walks visit as many blocks and end with the same average, or they fail alike. -/
theorem outcome_visitAncestors_shift (hvisit : visit.Averages mean least average)
    (h : lookup.ShiftsTo other seconds previous) (window : Window) (state : σ) :
    (visitAncestors other window visit (previous.shift seconds) state).outcome.map
        (Prod.map id average) =
      (visitAncestors lookup window visit previous state).outcome.map (Prod.map id average) := by
  rw [hvisit.outcome_visitAncestors, hvisit.outcome_visitAncestors, visitAncestors, visitAncestors,
    outcome_visitFrom, outcome_visitFrom, h.visitedFrom, h.breakFrom, fold_visitAverage_shift,
    List.length_map]

/-- In particular they fail with the same errors. -/
theorem visitAncestors_shift_eq_error_iff {e : CheckError}
    (hvisit : visit.Averages mean least average) (h : lookup.ShiftsTo other seconds previous)
    (state : σ) :
    (visitAncestors other window visit (previous.shift seconds) state).outcome = .error e ↔
      (visitAncestors lookup window visit previous state).outcome = .error e := by
  rw [← Except.map_eq_error_iff, outcome_visitAncestors_shift hvisit h, Except.map_eq_error_iff]

/-- What is made of the final states is the same if it is the same of all states with one average.
-/
theorem map_visitAncestors_shift {finish : ℕ × σ → Retarget}
    (hvisit : visit.Averages mean least average) (h : lookup.ShiftsTo other seconds previous)
    {state : σ}
    (hfinish : ∀ n s s',
      (visitAncestors lookup window visit previous state).outcome = .ok (n, s) →
      (visitAncestors other window visit (previous.shift seconds) state).outcome = .ok (n, s') →
      average s' = average s → finish (n, s') = finish (n, s)) :
    (visitAncestors other window visit (previous.shift seconds) state).outcome.map finish =
      (visitAncestors lookup window visit previous state).outcome.map finish := by
  have hsame := outcome_visitAncestors_shift hvisit h window state
  cases hwalk : (visitAncestors lookup window visit previous state).outcome with
  | error e =>
    rw [hwalk] at hsame
    rw [Except.map_eq_error_iff.mp hsame]
  | ok result =>
    rw [hwalk] at hsame
    obtain ⟨⟨n, s'⟩, hwalk', heq⟩ := Except.map_eq_ok_iff.mp hsame
    -- as many blocks and one average, so only the other parts of the states may differ
    obtain ⟨rfl, haverage⟩ := Prod.mk.inj heq
    rw [hwalk']
    exact congrArg Except.ok (hfinish result.1 result.2 s' hwalk hwalk' haverage)

end

/-! ## Required targets -/

theorem RawState.retarget_congr {s s' : RawState} {blocks : ℕ} {spacing : UInt64}
    (haverage : s'.average = s.average) (helapsed : s'.elapsed = s.elapsed) :
    s'.retarget blocks spacing = s.retarget blocks spacing := by
  rw [RawState.retarget, RawState.retarget, haverage, helapsed]

section

variable {p : Params} {lookup other : Lookup} {seconds : ℤ} {window : Window} {previous : Block}
  {version : Version}

theorem Lookup.ShiftsTo.visited (h : lookup.ShiftsTo other seconds previous) :
    other.visited window (previous.shift seconds) =
      (lookup.visited window previous).map (Block.shift seconds) :=
  h.visitedFrom

theorem Lookup.ShiftsTo.times_visited (h : lookup.ShiftsTo other seconds previous)
    (htimes : ∀ block ∈ lookup.visited window previous, block.ShiftsWithin seconds) :
    ∀ block ∈ other.visited window (previous.shift seconds),
      1 ≤ block.timestamp.toNat ∧ block.timestamp.toNat < 2 ^ 63 := by
  rw [h.visited]
  exact List.forall_mem_map.mpr fun block hmem => (htimes block hmem).shifted

/-- Version 1 sums up the same delays. -/
theorem outcome_walkRetarget_v1_shift (h : lookup.ShiftsTo other seconds previous)
    (htimes : ∀ block ∈ lookup.visited p.windowV1 previous, block.ShiftsWithin seconds) :
    (walkRetarget .v1 p (previous.shift seconds) other).outcome =
      (walkRetarget .v1 p previous lookup).outcome := by
  rw [outcome_walkRetarget_v1, outcome_walkRetarget_v1]
  apply map_visitAncestors_shift (visitSmooth_averages _) h
  intro n s s' hwalk hwalk' haverage
  have hsummary := summarizes_of_visitAncestors (fun block hmem => (htimes block hmem).before) hwalk
  have hsummary' := summarizes_of_visitAncestors (h.times_visited htimes) hwalk'
  rw [h.visited, delays_shift htimes] at hsummary'
  exact SmoothState.retarget_congr haverage hsummary hsummary'

/-- Version 3 finds the same time between the newest and the oldest block. -/
theorem elapsed_shift {least n n' : ℕ} {s s' : RawState}
    (h : lookup.ShiftsTo other seconds previous)
    (htimes : ∀ block ∈ lookup.visited window previous, block.ShiftsWithin seconds)
    (hwalk : (visitAncestors lookup window (visitRaw least) previous ⟨0, 0, 0⟩).outcome =
      .ok (n, s))
    (hwalk' : (visitAncestors other window (visitRaw least) (previous.shift seconds)
      ⟨0, 0, 0⟩).outcome = .ok (n', s')) :
    s'.elapsed = s.elapsed := by
  obtain ⟨older, hvisited⟩ := lookup.exists_visited_eq_cons window previous
  obtain ⟨oldest, holdest⟩ : ∃ oldest, (lookup.visited window previous).getLast? = some oldest :=
    ⟨older.getLast?.getD previous, hvisited ▸ List.getLast?_cons⟩
  have holdest' : (other.visited window (previous.shift seconds)).getLast? =
      some (oldest.shift seconds) := by
    rw [h.visited, List.getLast?_map, holdest]
    rfl
  have hnewest : previous.ShiftsWithin seconds := htimes previous (hvisited ▸ List.mem_cons_self)
  have hfirst : oldest.ShiftsWithin seconds := htimes oldest (List.mem_of_getLast? holdest)
  rw [elapsed_of_visitAncestors (fun block hmem => (htimes block hmem).before) holdest hwalk,
    elapsed_of_visitAncestors (h.times_visited htimes) holdest' hwalk', hnewest.toNat_timestamp,
    hfirst.toNat_timestamp, add_sub_add_right_eq_sub]

theorem outcome_walkRetarget_v3_shift (h : lookup.ShiftsTo other seconds previous)
    (htimes : ∀ block ∈ lookup.visited p.windowV3 previous, block.ShiftsWithin seconds) :
    (walkRetarget .v3 p (previous.shift seconds) other).outcome =
      (walkRetarget .v3 p previous lookup).outcome := by
  rw [outcome_walkRetarget_v3, outcome_walkRetarget_v3]
  apply map_visitAncestors_shift (visitRaw_averages _) h
  intro n s s' hwalk hwalk' haverage
  exact RawState.retarget_congr haverage (elapsed_shift h htimes hwalk hwalk')

/-- Nothing is looked up for a chain that is too short. -/
theorem retarget_shift_of_tooShort (hshort : tooShort (p.window version) previous = true) :
    retarget version p (previous.shift seconds) other = retarget version p previous lookup := by
  have hshort' : tooShort (p.window version) (previous.shift seconds) = true := hshort
  rw [retarget, retarget, if_pos hshort, if_pos hshort']

theorem outcome_retarget_shift_of_long (h : lookup.ShiftsTo other seconds previous)
    (hlong : ¬ tooShort (p.window version) previous = true)
    (htimes : ∀ block ∈ lookup.visited (p.window version) previous, block.ShiftsWithin seconds) :
    (retarget version p (previous.shift seconds) other).outcome =
      (retarget version p previous lookup).outcome := by
  have hlong' : ¬ tooShort (p.window version) (previous.shift seconds) = true := hlong
  rw [outcome_retarget_of_long hlong, outcome_retarget_of_long hlong']
  cases version with
  | v1 => exact outcome_walkRetarget_v1_shift h htimes
  | v3 => exact outcome_walkRetarget_v3_shift h htimes

/-- Whatever the timestamps are, retargeting fails with the same errors. -/
theorem retarget_shift_eq_error_iff {e : CheckError} (h : lookup.ShiftsTo other seconds previous) :
    (retarget version p (previous.shift seconds) other).outcome = .error e ↔
      (retarget version p previous lookup).outcome = .error e := by
  by_cases hshort : tooShort (p.window version) previous = true
  · rw [retarget_shift_of_tooShort hshort]
  have hlong' : ¬ tooShort (p.window version) (previous.shift seconds) = true := hshort
  rw [outcome_retarget_of_long hshort, outcome_retarget_of_long hlong']
  cases version with
  | v1 =>
    rw [outcome_walkRetarget_v1, outcome_walkRetarget_v1, Except.map_eq_error_iff,
      Except.map_eq_error_iff]
    exact visitAncestors_shift_eq_error_iff (visitSmooth_averages _) h _
  | v3 =>
    rw [outcome_walkRetarget_v3, outcome_walkRetarget_v3, Except.map_eq_error_iff,
      Except.map_eq_error_iff]
    exact visitAncestors_shift_eq_error_iff (visitRaw_averages _) h _

end

/-! ## Periods -/

section

variable {p : Params} {lookup other : Lookup} {seconds : ℤ} {first previous : Block}
  {claimed : UInt32}

/-- The comparison at a transition takes the time between two blocks. -/
theorem checkTransition_shift (hfirst : first.ShiftsWithin seconds)
    (hlast : previous.ShiftsWithin seconds) :
    checkTransition p (first.shift seconds) (previous.shift seconds) claimed =
      checkTransition p first previous claimed := by
  have htime : periodTime p (first.shift seconds) (previous.shift seconds) =
      periodTime p first previous := by
    rw [periodTime, periodTime, hfirst.signed_timestamp, hlast.signed_timestamp,
      add_sub_add_right_eq_sub]
  rw [checkTransition, checkTransition, htime]
  rfl

/-- The way back ends at the same block, and only where it ends at the boundary of a period are
timestamps read. -/
theorem outcome_checkInterval_shift (h : lookup.ShiftsTo other seconds previous)
    (htimes : ∀ first, lookup.SpansPeriod p first previous →
      first.ShiftsWithin seconds ∧ previous.ShiftsWithin seconds) :
    (checkInterval p (previous.shift seconds) claimed other).outcome =
      (checkInterval p previous claimed lookup).outcome := by
  have hheight := Block.height_shift seconds previous
  cases htransition : isTransition p.periodLength previous.height with
  | false =>
    rw [checkInterval_of_inside htransition, checkInterval_of_inside (by rwa [hheight]), hheight,
      Block.bits_shift]
  | true =>
    have htransition' :
        isTransition p.periodLength (previous.shift seconds).height = true := by
      rwa [hheight]
    have hancestor := h.outcome_ancestor (n := p.periodLength - 1)
    cases hfound : (ancestor lookup (p.periodLength - 1) previous).outcome with
    | error e =>
      rw [hfound] at hancestor
      rw [outcome_checkInterval_of_error htransition hfound,
        outcome_checkInterval_of_error htransition' hancestor]
    | ok first =>
      rw [hfound] at hancestor
      -- timestamps are read only if this block starts a period
      by_cases hboundary : first.height.toNat % p.periodLength = 0
      · have hperiod : lookup.SpansPeriod p first previous := ⟨htransition, hfound, hboundary⟩
        have hperiod' : other.SpansPeriod p (first.shift seconds) (previous.shift seconds) :=
          ⟨htransition', hancestor, hboundary⟩
        obtain ⟨hfirst, hlast⟩ := htimes first hperiod
        rw [outcome_checkInterval_of_spansPeriod hperiod,
          outcome_checkInterval_of_spansPeriod hperiod', checkTransition_shift hfirst hlast]
      · rw [outcome_checkInterval_of_not_boundary htransition hfound hboundary,
          outcome_checkInterval_of_not_boundary htransition' hancestor hboundary, hheight,
          Block.height_shift]

end

/-- Only the time between blocks matters. Take a chain and the same chain with all its timestamps
moved by some seconds. Retargeting fails on both with the same errors, whatever the timestamps are.
If the timestamps on the walked path are positive and in the lower half of the range before and
after the move, either version gives the same target, blocks and timespans, and the interval rule
has the same verdict on every claim. Retargeting needs this of all blocks that it visits, so of none
where the chain is too short. The interval rule needs it of the first and the last block of a
period, and only where the two are compared. -/
theorem outcome_shift {p : Params} {previous : Block} {lookup other : Lookup} {seconds : ℤ}
    (h : lookup.ShiftsTo other seconds previous) :
    (∀ version e, (retarget version p (previous.shift seconds) other).outcome = .error e ↔
      (retarget version p previous lookup).outcome = .error e) ∧
    (∀ version,
      (¬ tooShort (p.window version) previous = true →
        ∀ block ∈ lookup.visited (p.window version) previous, block.ShiftsWithin seconds) →
      (retarget version p (previous.shift seconds) other).outcome =
        (retarget version p previous lookup).outcome) ∧
    ∀ claimed,
      (∀ first, lookup.SpansPeriod p first previous →
        first.ShiftsWithin seconds ∧ previous.ShiftsWithin seconds) →
      (checkInterval p (previous.shift seconds) claimed other).outcome =
        (checkInterval p previous claimed lookup).outcome := by
  refine ⟨fun version e => retarget_shift_eq_error_iff h, ?_, ?_⟩
  · intro version htimes
    by_cases hshort : tooShort (p.window version) previous = true
    · rw [retarget_shift_of_tooShort hshort]
    · exact outcome_retarget_shift_of_long h hshort (htimes hshort)
  · intro claimed htimes
    exact outcome_checkInterval_shift h htimes

/-- The oldest of three blocks is moved to the first second that there is. The time between the
others and it is as before, and so is the time of the period that the last two blocks make up. -/
theorem outcome_shift_to_first_second :
    let params : Params :=
      { Params.mainnet with windowV1 := ⟨2, 3⟩, windowV3 := ⟨2, 3⟩, timespan := 120 }
    let grandparent : Block := ⟨.ofCounter 1, 199999, 0x1c00ffff, 1400000000, .ofCounter 0⟩
    let parent : Block := ⟨.ofCounter 2, 200000, 0x1c00ffff, 1400000010, .ofCounter 1⟩
    let tip : Block := ⟨.ofCounter 3, 200001, 0x1c00ffff, 1400000170, .ofCounter 2⟩
    let lookup : Lookup := fun hash =>
      .ok (if hash = parent.hash then some parent
        else if hash = grandparent.hash then some grandparent else none)
    let seconds : ℤ := -1399999999
    (grandparent.shift seconds).timestamp = 1 ∧
    (retarget .v1 params (tip.shift seconds) (lookup.shift seconds)).outcome =
      (retarget .v1 params tip lookup).outcome ∧
    (retarget .v3 params (tip.shift seconds) (lookup.shift seconds)).outcome =
      .ok ⟨0xffff * Bytes.weight 25 * 170 / 180, 3, 170, 180⟩ ∧
    (checkInterval params (tip.shift seconds) 0x1c015554 (lookup.shift seconds)).outcome =
      .ok () := by
  intro params grandparent parent tip lookup seconds
  have hvisited : lookup.visited params.windowV1 tip = [tip, parent, grandparent] := by
    decide +kernel
  have hblocks : ∀ block ∈ [tip, parent, grandparent], block.ShiftsWithin seconds := by
    decide +kernel
  have hfound : (ancestor lookup (params.periodLength - 1) tip).outcome = .ok parent := by
    decide +kernel
  obtain ⟨-, hretarget, hinterval⟩ :=
    outcome_shift (p := params) (lookup.shiftsTo_shift seconds tip)
  refine ⟨by decide +kernel, hretarget .v1 ?_, (hretarget .v3 ?_).trans (by decide +kernel),
    (hinterval 0x1c015554 ?_).trans (by decide +kernel)⟩
  · rintro - block hmem
    exact hblocks block (hvisited ▸ hmem)
  · rintro - block hmem
    exact hblocks block (hvisited ▸ hmem)
  · intro first hperiod
    obtain rfl := Except.ok.inj (hfound.symm.trans hperiod.found)
    exact ⟨hblocks _ (by decide), hblocks _ (by decide)⟩

-- A timestamp that is moved to zero is taken for a missing one, so the time between the last two
-- blocks is left out.
example :
    let params : Params := { Params.mainnet with windowV3 := ⟨2, 3⟩ }
    let grandparent : Block := ⟨.ofCounter 1, 199998, 0x1c00ffff, 1400000030, .ofCounter 0⟩
    let parent : Block := ⟨.ofCounter 2, 199999, 0x1c00ffff, 1400000000, .ofCounter 1⟩
    let tip : Block := ⟨.ofCounter 3, 200000, 0x1c00ffff, 1400000160, .ofCounter 2⟩
    let lookup : Lookup := fun hash =>
      .ok (some (if hash = parent.hash then parent else grandparent))
    (retarget .v3 params (tip.shift (-1400000000)) (lookup.shift (-1400000000))).outcome ≠
      (retarget .v3 params tip lookup).outcome := by
  decide +kernel

end DarkGravity
