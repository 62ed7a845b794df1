import DarkGravity.Proofs.Retarget.Average
import DarkGravity.Proofs.Retarget.Gap

/-!
# Version 3 in closed form

Version 3 adds up the differences of neighbouring timestamps. They cancel along a walk, so only the
newest and the oldest block count for the time that it took (`elapsed_of_fold`). What version 3
requires is the average of the first targets times this time over the expected one, where the time
is kept between a third and three times the expected one (`retarget_v3_eq_scaled_average`).
-/

namespace DarkGravity

/-! ## The states of a walk -/

/-- A timestamp that is positive and in the lower half of the range is read as it is. -/
theorem Block.signed_timestamp {block : Block}
    (h : 1 ≤ block.timestamp.toNat ∧ block.timestamp.toNat < 2 ^ 63) :
    signed block.timestamp = block.timestamp.toNat ∧ 0 < signed block.timestamp := by
  have hsize : UInt64.size = 2 ^ 64 := rfl
  have hsigned : signed block.timestamp = block.timestamp.toNat := signed_of_lt (by omega)
  exact ⟨hsigned, hsigned ▸ Int.natCast_pos.mpr h.1⟩

section

variable {least count : ℕ} {block newest : Block} {blocks older : List Block} {s s' : RawState}

/-- The average and the times of version 3 have nothing to do with each other. -/
theorem visitRaw_eq_ok (h : visitRaw least count block s = .ok s') :
    visitAverage Mean.weighted least count block s.average = .ok s'.average ∧
      s'.last = signed block.timestamp ∧
      s'.elapsed =
        if 0 < s.last then s.elapsed + (s.last - signed block.timestamp) else s.elapsed := by
  unfold visitRaw at h
  obtain ⟨average, haverage, rfl⟩ := Except.map_eq_ok_iff.mp h
  exact ⟨haverage, rfl, rfl⟩

theorem average_of_fold (h : (visitRaw least).fold count blocks s = .ok s') :
    (visitAverage Mean.weighted least).fold count blocks s.average = .ok s'.average := by
  have haverage := (visitRaw_averages least).fold count blocks s
  rw [h] at haverage
  exact haverage.symm

/-- After a first block the elapsed time and the last timestamp have a constant sum. No timestamp is
taken for the mark of a missing one. -/
theorem elapsed_add_last_of_fold (hlast : 0 < s.last)
    (htimes : ∀ block ∈ blocks, 0 < signed block.timestamp)
    (h : (visitRaw least).fold count blocks s = .ok s') :
    s'.elapsed + s'.last = s.elapsed + s.last ∧
      s'.last = (blocks.getLast?.map fun block => signed block.timestamp).getD s.last := by
  induction blocks generalizing count s with
  | nil =>
    obtain rfl := Except.ok.inj h
    exact ⟨rfl, rfl⟩
  | cons block older ih =>
    obtain ⟨next, hnext, hrest⟩ := Visitor.fold_cons_eq_ok_iff.mp h
    obtain ⟨-, hnextLast, hnextElapsed⟩ := visitRaw_eq_ok hnext
    obtain ⟨htime, htimes'⟩ := List.forall_mem_cons.mp htimes
    obtain ⟨hsum, hlast'⟩ := ih (hnextLast ▸ htime) htimes' hrest
    rw [if_pos hlast] at hnextElapsed
    constructor
    · rw [hsum, hnextElapsed, hnextLast]
      ring
    · rw [hlast', hnextLast, List.getLast?_cons]
      cases older.getLast? <;> rfl

/-- The time of a walk is the time between its newest and its oldest block. -/
theorem elapsed_of_fold
    (htimes : ∀ block ∈ newest :: older,
      1 ≤ block.timestamp.toNat ∧ block.timestamp.toNat < 2 ^ 63)
    (h : (visitRaw least).fold count (newest :: older) ⟨0, 0, 0⟩ = .ok s) :
    ∃ oldest, (newest :: older).getLast? = some oldest ∧
      s.elapsed = (newest.timestamp.toNat : ℤ) - oldest.timestamp.toNat := by
  have hsigned : ∀ block ∈ newest :: older, signed block.timestamp = block.timestamp.toNat :=
    fun block hmem => (Block.signed_timestamp (htimes block hmem)).1
  have hpositive : ∀ block ∈ newest :: older, 0 < signed block.timestamp :=
    fun block hmem => (Block.signed_timestamp (htimes block hmem)).2
  obtain ⟨first, hfirst, hrest⟩ := Visitor.fold_cons_eq_ok_iff.mp h
  obtain ⟨-, hfirstLast, hfirstElapsed⟩ := visitRaw_eq_ok hfirst
  obtain ⟨hnewest, holder⟩ := List.forall_mem_cons.mp hpositive
  obtain ⟨hsum, hlast⟩ := elapsed_add_last_of_fold (hfirstLast ▸ hnewest) holder hrest
  have holdest : (newest :: older).getLast? = some (older.getLast?.getD newest) :=
    List.getLast?_cons
  refine ⟨older.getLast?.getD newest, holdest, ?_⟩
  have hlast' : s.last = signed (older.getLast?.getD newest).timestamp := by
    rw [hlast, hfirstLast]
    cases older.getLast? <;> rfl
  have hzero : first.elapsed = 0 := hfirstElapsed.trans (if_neg (lt_irrefl 0))
  rw [← hsigned newest List.mem_cons_self, ← hsigned _ (List.mem_of_getLast? holdest), ← hlast',
    ← hfirstLast]
  omega

/-- The time of a walk in terms of the blocks at its ends. -/
theorem elapsed_of_visitAncestors {lookup : Lookup} {window : Window} {oldest : Block} {n : ℕ}
    (htimes : ∀ block ∈ lookup.visited window newest,
      1 ≤ block.timestamp.toNat ∧ block.timestamp.toNat < 2 ^ 63)
    (holdest : (lookup.visited window newest).getLast? = some oldest)
    (h : (visitAncestors lookup window (visitRaw least) newest ⟨0, 0, 0⟩).outcome = .ok (n, s)) :
    s.elapsed = (newest.timestamp.toNat : ℤ) - oldest.timestamp.toNat := by
  obtain ⟨-, hfold⟩ := visitAncestors_eq_ok h
  obtain ⟨older, hvisited⟩ := lookup.exists_visited_eq_cons window newest
  rw [hvisited] at htimes holdest hfold
  obtain ⟨last, hlast, helapsed⟩ := elapsed_of_fold htimes hfold
  obtain rfl := Option.some.inj (holdest.symm.trans hlast)
  exact helapsed

end

/-! ## Timespans -/

/-- A timespan between a third and three times the expected one. Time that runs backward is below
every bound, so it may as well be zero. -/
def boundedTimespan (elapsed : ℤ) (expected : ℕ) : ℕ :=
  max (expected / 3) (min elapsed.toNat (3 * expected))

section

variable {elapsed : ℤ} {target bound actual expected : ℕ}

theorem clampTimespan_eq : clampTimespan elapsed expected = boundedTimespan elapsed expected := by
  have hthird : (expected : ℤ).tdiv 3 = (expected / 3 : ℕ) := (Int.ofNat_tdiv expected 3).symm
  unfold boundedTimespan
  simp only [clampTimespan, hthird]
  split_ifs <;> omega

theorem natCast_boundedTimespan :
    (boundedTimespan elapsed expected : ℤ) =
      max ((expected / 3 : ℕ) : ℤ) (min elapsed (3 * expected)) := by
  unfold boundedTimespan
  omega

theorem third_le_boundedTimespan : expected / 3 ≤ boundedTimespan elapsed expected :=
  le_max_left _ _

theorem boundedTimespan_le : boundedTimespan elapsed expected ≤ 3 * expected := by
  unfold boundedTimespan
  omega

theorem scaleTarget_natCast (hexpected : 0 < expected) :
    scaleTarget target actual expected = target * actual / expected := by
  have hmax : max (expected : ℤ) 1 = expected := max_eq_left (Int.natCast_pos.mpr hexpected)
  rw [scaleTarget, hmax, Int.toNat_natCast, Int.toNat_natCast]

/-- A target is scaled to at most three times what it is. -/
theorem scaled_le (htarget : target ≤ bound) :
    target * boundedTimespan elapsed expected / expected ≤ 3 * bound := by
  apply Nat.div_le_of_le_mul
  calc target * boundedTimespan elapsed expected
      ≤ bound * (3 * expected) := Nat.mul_le_mul htarget boundedTimespan_le
    _ = expected * (3 * bound) := by ring

/-- It is scaled to at least a third, up to rounding. -/
theorem le_scaled (htarget : bound ≤ target) :
    bound * (expected / 3) / expected ≤
      target * boundedTimespan elapsed expected / expected :=
  Nat.div_le_div_right (Nat.mul_le_mul htarget third_le_boundedTimespan)

/-- Where the expected time fits a signed number, a finished walk is scaled as numbers are. -/
theorem RawState.retarget_eq (s : RawState) {blocks : ℕ} {spacing : UInt64}
    (hblocks : 0 < blocks) (hspacing : 0 < spacing.toNat)
    (hroom : blocks * spacing.toNat < 2 ^ 63) :
    s.retarget blocks spacing =
      ⟨s.average * boundedTimespan s.elapsed (blocks * spacing.toNat) / (blocks * spacing.toNat),
        blocks, boundedTimespan s.elapsed (blocks * spacing.toNat),
        (blocks * spacing.toNat : ℕ)⟩ := by
  have hle : spacing.toNat ≤ blocks * spacing.toNat := Nat.le_mul_of_pos_left _ hblocks
  have hsize : UInt64.size = 2 ^ 64 := rfl
  have hexpected : (blocks : ℤ) * signed spacing = (blocks * spacing.toNat : ℕ) := by
    rw [signed_of_lt (by omega), Nat.cast_mul]
  simp only [RawState.retarget, hexpected, clampTimespan_eq,
    scaleTarget_natCast (Nat.mul_pos hblocks hspacing)]

end

/-! ## Required targets -/

/-- A chain that is long enough is walked, and the walk gives the retarget. -/
theorem retarget_v3_eq_ok {p : Params} {previous : Block} {lookup : Lookup} {required : Retarget}
    (hlong : ¬ tooShort (p.window .v3) previous = true)
    (hok : (retarget .v3 p previous lookup).outcome = .ok required) :
    ∃ s, (visitRaw p.windowV3.least.toNat).fold 1 (lookup.visited p.windowV3 previous)
        ⟨0, 0, 0⟩ = .ok s ∧
      required = s.retarget (lookup.visited p.windowV3 previous).length p.spacing := by
  rw [outcome_retarget_of_long hlong, outcome_walkRetarget_v3] at hok
  obtain ⟨⟨blocks, s⟩, hwalk, rfl⟩ := Except.map_eq_ok_iff.mp hok
  obtain ⟨rfl, hfold⟩ := visitAncestors_eq_ok hwalk
  exact ⟨s, hfold, rfl⟩

/-- What version 3 requires after a walk. All visited blocks are counted, and the expected time is
that of as many blocks. The actual time is that from the oldest to the newest block, between a third
and three times the expected one; no timestamp between them counts, in whatever order they are. The
target is the average of the first targets times the actual time over the expected one. So it is at
most three times the greatest of these targets, and about a third of the least or more. -/
theorem retarget_v3_eq_scaled_average {v : Verifier} {previous : Block} {lookup : Lookup}
    {required : Retarget} (hlong : v.params.windowV3.least ≤ previous.height)
    (hok : (retarget .v3 v.params previous lookup).outcome = .ok required)
    (htimes : ∀ block ∈ lookup.visited v.params.windowV3 previous,
      1 ≤ block.timestamp.toNat ∧ block.timestamp.toNat < 2 ^ 63)
    (hroom : 3 * ((lookup.visited v.params.windowV3 previous).length *
      v.params.spacing.toNat) < 2 ^ 63) :
    let visited := lookup.visited v.params.windowV3 previous
    let expected := visited.length * v.params.spacing.toNat
    ∃ samples oldest,
      List.Forall₂ Block.HasTarget (visited.take v.params.windowV3.least.toNat) samples ∧
      visited.getLast? = some oldest ∧
      required.blocks = visited.length ∧
      required.targetTimespan = expected ∧
      required.actualTimespan = max ((expected / 3 : ℕ) : ℤ)
        (min ((previous.timestamp.toNat : ℤ) - oldest.timestamp.toNat) (3 * expected)) ∧
      (required.target : ℤ) =
        Mean.fold Mean.weighted samples * required.actualTimespan / required.targetTimespan ∧
      (∃ largest, samples.max? = some largest ∧ required.target ≤ 3 * largest) ∧
      (∃ smallest, samples.min? = some smallest ∧
        smallest * (expected / 3) / expected ≤ required.target) := by
  obtain ⟨s, hfold, rfl⟩ := retarget_v3_eq_ok
    (fun hshort => (v.tooShort_iff .v3 previous).mp hshort hlong) hok
  obtain ⟨older, hvisited⟩ : ∃ older,
      lookup.visited v.params.windowV3 previous = previous :: older :=
    lookup.exists_visitedFrom_eq_cons (v.params.windowV3.most.toNat - 1) previous
  rw [hvisited] at hfold htimes hroom ⊢
  intro visited expected
  have hblocks : 0 < (previous :: older).length := Nat.succ_pos _
  have hfits : (previous :: older).length * v.params.spacing.toNat < 2 ^ 63 :=
    lt_of_le_of_lt (Nat.le_mul_of_pos_left _ (Nat.succ_pos 2)) hroom
  obtain ⟨samples, hsamples, haverage⟩ :=
    fold_visitAverage (v.window_ok .v3).1 (average_of_fold hfold)
  obtain ⟨oldest, holdest, helapsed⟩ := elapsed_of_fold htimes hfold
  have hne : samples ≠ [] := by
    have hleast := (v.window_ok .v3).1
    have hlength := hsamples.length_eq
    rw [List.length_take] at hlength
    exact List.ne_nil_of_length_pos (by omega)
  rw [s.retarget_eq hblocks v.spacing_pos hfits, haverage, helapsed]
  refine ⟨samples, oldest, hsamples, holdest, rfl, rfl, natCast_boundedTimespan, ?_, ?_, ?_⟩
  · rw [Int.natCast_ediv, Nat.cast_mul]
  · obtain ⟨largest, hlargest⟩ := Option.ne_none_iff_exists'.mp (mt List.max?_eq_none_iff.mp hne)
    have hle := (List.max?_eq_some_iff.mp hlargest).2
    exact ⟨largest, hlargest, scaled_le (Mean.fold_weighted_le hne hle)⟩
  · obtain ⟨smallest, hsmallest⟩ := Option.ne_none_iff_exists'.mp (mt List.min?_eq_none_iff.mp hne)
    have hle := (List.min?_eq_some_iff.mp hsmallest).2
    exact ⟨smallest, hsmallest, le_scaled (Mean.le_fold_weighted hne hle)⟩

/-- A window of two targets and three blocks. The block in the middle is later than the other two,
and the actual time is still that from the oldest to the newest. -/
theorem retarget_v3_eq_scaled_average_of_late_parent :
    let params : Params := { Params.mainnet with windowV3 := ⟨2, 3⟩ }
    let grandparent : Block := ⟨.ofCounter 1, 199998, 0x1c001fff, 1400000000, .ofCounter 0⟩
    let parent : Block := ⟨.ofCounter 2, 199999, 0x1c007fff, 1500000000, .ofCounter 1⟩
    let tip : Block := ⟨.ofCounter 3, 200000, 0x1c00ffff, 1400000160, .ofCounter 2⟩
    let lookup : Lookup := fun hash =>
      .ok (if hash = parent.hash then some parent
        else if hash = grandparent.hash then some grandparent else none)
    let samples : List Target := [0xffff * Bytes.weight 25, 0x7fff * Bytes.weight 25]
    ∃ required, (retarget .v3 params tip lookup).outcome = .ok required ∧
      required.blocks = 3 ∧ required.actualTimespan = 160 ∧ required.targetTimespan = 180 ∧
      (required.target : ℤ) = Mean.fold Mean.weighted samples * 160 / 180 ∧
      required.target ≤ 3 * (0xffff * Bytes.weight 25) ∧
      0x7fff * Bytes.weight 25 * 60 / 180 ≤ required.target := by
  intro params grandparent parent tip lookup samples
  let v : Verifier := ⟨params, 0xfffff * Bytes.weight 27, by decide⟩
  have hvisited : lookup.visited v.params.windowV3 tip = [tip, parent, grandparent] := by
    decide +kernel
  obtain ⟨required, hok⟩ : ∃ required,
      (retarget .v3 v.params tip lookup).outcome = .ok required :=
    ⟨⟨Mean.fold Mean.weighted samples * 160 / 180, 3, 160, 180⟩, by decide +kernel⟩
  obtain ⟨samples', oldest, hsamples, holdest, hblocks, hexpected, hactual, htarget,
    ⟨largest, hlargest, hle⟩, ⟨smallest, hsmallest, hge⟩⟩ :=
    retarget_v3_eq_scaled_average (by decide) hok (by rw [hvisited]; decide)
      (by rw [hvisited]; decide)
  have hspan : [tip, parent, grandparent].length * v.params.spacing.toNat = 180 := by decide
  rw [hvisited] at hsamples holdest hblocks hexpected hactual hge
  rw [hspan] at hexpected hactual hge
  obtain rfl : grandparent = oldest := Option.some.inj holdest
  obtain rfl : samples = samples' := by
    rcases hsamples with _ | ⟨hfirst, _ | ⟨hsecond, _ | _⟩⟩
    have hfirst' : tip.HasTarget (0xffff * Bytes.weight 25) := by
      unfold Block.HasTarget
      decide
    have hsecond' : parent.HasTarget (0x7fff * Bytes.weight 25) := by
      unfold Block.HasTarget
      decide
    rw [← Except.ok.inj (hfirst'.symm.trans hfirst), ← Except.ok.inj (hsecond'.symm.trans hsecond)]
  have hmax : samples.max? = some (0xffff * Bytes.weight 25) := by decide +kernel
  have hmin : samples.min? = some (0x7fff * Bytes.weight 25) := by decide +kernel
  obtain rfl := Option.some.inj (hmax.symm.trans hlargest)
  obtain rfl := Option.some.inj (hmin.symm.trans hsmallest)
  have hactual' : required.actualTimespan = 160 := hactual.trans (by decide)
  rw [hactual', hexpected] at htarget
  exact ⟨required, hok, hblocks, hactual', hexpected, htarget, hle, hge⟩

end DarkGravity
