import DarkGravity.Proofs.Retarget.ClosedForm
import DarkGravity.Proofs.Retarget.MeanError

/-!
# Block times along a walk

Version 1 keeps a short mean and a sum of the delays between the blocks that it visits. The short
mean takes one delay more than there are averaged targets, and from then on it stays as it is. What
is kept after a walk is a matter of the delays alone (`summarizes_of_fold`): the short mean is the
same kind of mean as the average of the targets, so it is the true mean of the first delays up to a
bounded error (`blockTimes_of_walk`).
-/

namespace DarkGravity

/-! ## Delays -/

/-- The seconds from each block to the one before it in the list, that is to the next newer one.
Time that runs backward counts as none. -/
def delays (blocks : List Block) : List ℕ :=
  blocks.zipWith (fun newer older => newer.timestamp.toNat - older.timestamp.toNat) blocks.tail

theorem delays_singleton (block : Block) : delays [block] = [] := rfl

theorem delays_cons_cons (newer older : Block) (rest : List Block) :
    delays (newer :: older :: rest) =
      (newer.timestamp.toNat - older.timestamp.toNat) :: delays (older :: rest) := rfl

theorem length_delays (blocks : List Block) : (delays blocks).length = blocks.length - 1 := by
  rw [delays, List.length_zipWith, List.length_tail]
  exact min_eq_right (Nat.sub_le _ _)

/-! ## What is kept of them -/

namespace BlockTimes

section

variable {t : BlockTimes} {least : ℕ} {delta : ℤ} {timestamp : UInt64}

/-- As long as the short mean has room, a difference is taken into both. -/
theorem addDelta_of_room (h : t.shortCount ≤ least) :
    t.addDelta least delta =
      { t with
        shortCount := t.shortCount + 1
        shortMean :=
          if t.shortCount = 0 then delta
          else Mean.towardInt t.shortMean delta (t.shortCount + 1)
        longCount := t.longCount + 1
        longSum := t.longSum + delta } := by
  simp [addDelta, h]

/-- After that only the sum takes it. -/
theorem addDelta_of_full (h : least < t.shortCount) :
    t.addDelta least delta =
      { t with longCount := t.longCount + 1, longSum := t.longSum + delta } := by
  simp [addDelta, Nat.not_le.mpr h]

/-- After a positive timestamp there is a difference, and it is not negative. -/
theorem add_of_pos (h : 0 < t.last) :
    t.add least timestamp =
      { t.addDelta least (max (t.last - signed timestamp) 0) with last := signed timestamp } := by
  simp only [add, if_pos h]

theorem last_add (t : BlockTimes) (least : ℕ) (timestamp : UInt64) :
    (t.add least timestamp).last = signed timestamp := rfl

end

/-- The block times after these delays, newest first. -/
structure Summarizes (t : BlockTimes) (least : ℕ) (delays : List ℕ) : Prop where
  /-- The short mean has taken at most `least + 1` delays. -/
  shortCount : t.shortCount = min (least + 1) delays.length
  /-- Later delays have no part in it. -/
  shortMean : t.shortMean = Mean.fold Mean.toward (delays.take (least + 1))
  longCount : t.longCount = delays.length
  longSum : t.longSum = delays.sum

section

variable {t : BlockTimes} {least : ℕ} {delays : List ℕ}

theorem summarizes_empty (time : ℤ) : Summarizes { empty with last := time } least [] :=
  ⟨rfl, rfl, rfl, rfl⟩

/-- The short mean of delays that all had room moves toward the next delay. -/
theorem shortMean_append_singleton (delays : List ℕ) (delay : ℕ) :
    (if delays.length = 0 then (delay : ℤ)
      else Mean.towardInt (Mean.fold Mean.toward delays) delay (delays.length + 1)) =
      Mean.fold Mean.toward (delays ++ [delay]) := by
  by_cases hnil : delays = []
  · rw [hnil]
    rfl
  · rw [if_neg (mt List.length_eq_zero_iff.mp hnil), Mean.towardInt_natCast,
      Mean.fold_append_singleton delay hnil]

/-- One more delay is taken into the sum, and into the short mean as long as that has room. -/
theorem Summarizes.addDelta (h : t.Summarizes least delays) (delay : ℕ) :
    (t.addDelta least delay).Summarizes least (delays ++ [delay]) := by
  have hlength : (delays ++ [delay]).length = delays.length + 1 := List.length_append
  have hlongCount : t.longCount + 1 = (delays ++ [delay]).length := by rw [hlength, h.longCount]
  have hlongSum : t.longSum + delay = (delays ++ [delay]).sum := by
    rw [h.longSum, List.sum_append, List.sum_singleton, Nat.cast_add]
  have hcount := h.shortCount
  have hmean := h.shortMean
  rcases Nat.lt_or_ge delays.length (least + 1) with hroom | hfull
  · rw [min_eq_right hroom.le] at hcount
    rw [List.take_of_length_le hroom.le] at hmean
    rw [addDelta_of_room (by omega), hcount, hmean, shortMean_append_singleton]
    refine ⟨?_, ?_, hlongCount, hlongSum⟩
    · rw [hlength, min_eq_right hroom]
    · rw [List.take_of_length_le (hlength.trans_le hroom)]
  · -- the short mean stays, and the list of its delays is not cut later than before
    rw [min_eq_left hfull] at hcount
    rw [addDelta_of_full (by omega)]
    refine ⟨?_, ?_, hlongCount, hlongSum⟩
    · rw [hlength, min_eq_left (hfull.trans (Nat.le_succ _)), hcount]
    · rw [List.take_append_of_le_length hfull, hmean]

/-- The next older block adds the delay between it and the block before. Neither of their timestamps
is taken for the mark of a missing one. -/
theorem Summarizes.add {newer older : Block} (h : t.Summarizes least delays)
    (hlast : t.last = signed newer.timestamp)
    (hnewer : 1 ≤ newer.timestamp.toNat ∧ newer.timestamp.toNat < 2 ^ 63)
    (holder : 1 ≤ older.timestamp.toNat ∧ older.timestamp.toNat < 2 ^ 63) :
    (t.add least older.timestamp).Summarizes least
      (delays ++ [newer.timestamp.toNat - older.timestamp.toNat]) := by
  obtain ⟨hsigned, hpositive⟩ := Block.signed_timestamp hnewer
  have hdelay : max (t.last - signed older.timestamp) 0 =
      (newer.timestamp.toNat - older.timestamp.toNat : ℕ) := by
    rw [hlast, hsigned, (Block.signed_timestamp holder).1]
    omega
  obtain ⟨hshortCount, hshortMean, hlongCount, hlongSum⟩ :=
    h.addDelta (newer.timestamp.toNat - older.timestamp.toNat)
  rw [add_of_pos (hlast ▸ hpositive), hdelay]
  exact ⟨hshortCount, hshortMean, hlongCount, hlongSum⟩

/-- Block times that sum up the same delays differ at most in the last timestamp. -/
theorem Summarizes.eq_of_summarizes {t' : BlockTimes} (h : t.Summarizes least delays)
    (h' : t'.Summarizes least delays) : t' = { t with last := t'.last } := by
  obtain ⟨last, shortCount, shortMean, longCount, longSum⟩ := t'
  obtain ⟨rfl, rfl, rfl, rfl⟩ := h'
  rw [h.shortCount, h.shortMean, h.longCount, h.longSum]

end

end BlockTimes

section

variable {least count n : ℕ} {newest previous : Block} {older : List Block} {seen : List ℕ}
  {s s' : SmoothState} {lookup : Lookup} {window : Window} {average : Target}

/-- Along a fold the delays between its blocks follow those that were seen before. -/
theorem SmoothState.summarizes_of_fold (h : s.times.Summarizes least seen)
    (hlast : s.times.last = signed newest.timestamp)
    (htimes : ∀ block ∈ newest :: older,
      1 ≤ block.timestamp.toNat ∧ block.timestamp.toNat < 2 ^ 63)
    (hfold : (visitSmooth least).fold count older s = .ok s') :
    s'.times.Summarizes least (seen ++ delays (newest :: older)) := by
  induction older generalizing newest count s seen with
  | nil =>
    obtain rfl := Except.ok.inj hfold
    rwa [delays_singleton, List.append_nil]
  | cons block older ih =>
    obtain ⟨next, hnext, hrest⟩ := Visitor.fold_cons_eq_ok_iff.mp hfold
    obtain ⟨-, hnextTimes⟩ := visitSmooth_eq_ok hnext
    obtain ⟨hnewest, htimes'⟩ := List.forall_mem_cons.mp htimes
    have hblock := (List.forall_mem_cons.mp htimes').1
    have hadded := h.add hlast hnewest hblock
    rw [← hnextTimes] at hadded
    have hnextLast : next.times.last = signed block.timestamp := by
      rw [hnextTimes, BlockTimes.last_add]
    have hfinal := ih hadded hnextLast htimes' hrest
    rwa [List.append_assoc, List.singleton_append, ← delays_cons_cons] at hfinal

/-- The first block of a walk has no delay, the others have one each. -/
theorem summarizes_of_fold (average : Target)
    (htimes : ∀ block ∈ newest :: older,
      1 ≤ block.timestamp.toNat ∧ block.timestamp.toNat < 2 ^ 63)
    (hfold : (visitSmooth least).fold count (newest :: older) ⟨average, .empty⟩ = .ok s) :
    s.times.Summarizes least (delays (newest :: older)) := by
  obtain ⟨first, hfirst, hrest⟩ := Visitor.fold_cons_eq_ok_iff.mp hfold
  obtain ⟨-, hfirstTimes⟩ := visitSmooth_eq_ok hfirst
  have hstart : first.times.Summarizes least [] := by
    rw [hfirstTimes]
    exact BlockTimes.summarizes_empty (signed newest.timestamp)
  have hlast : first.times.last = signed newest.timestamp := by
    rw [hfirstTimes, BlockTimes.last_add]
  exact SmoothState.summarizes_of_fold hstart hlast htimes hrest

/-- So all visited blocks but the first have one each. -/
theorem summarizes_of_visitAncestors
    (htimes : ∀ block ∈ lookup.visited window previous,
      1 ≤ block.timestamp.toNat ∧ block.timestamp.toNat < 2 ^ 63)
    (hwalk : (visitAncestors lookup window (visitSmooth least) previous
      ⟨average, .empty⟩).outcome = .ok (n, s)) :
    s.times.Summarizes least (delays (lookup.visited window previous)) := by
  obtain ⟨-, hfold⟩ := visitAncestors_eq_ok hwalk
  obtain ⟨older, hvisited⟩ := lookup.exists_visited_eq_cons window previous
  rw [hvisited] at htimes hfold ⊢
  exact summarizes_of_fold average htimes hfold

end

/-! ## Walks of version 1 -/

/-- This timestamp has no part in the result. -/
theorem SmoothState.retarget_congr {s s' : SmoothState} {least blocks : ℕ} {spacing : UInt64}
    {delays : List ℕ} (haverage : s'.average = s.average) (h : s.times.Summarizes least delays)
    (h' : s'.times.Summarizes least delays) :
    s'.retarget blocks spacing = s.retarget blocks spacing := by
  have htimes := h.eq_of_summarizes h'
  rw [SmoothState.retarget, SmoothState.retarget, haverage, htimes]
  rfl

/-- A walk of one block has no delay, and the average is not scaled. -/
theorem SmoothState.retarget_of_no_delay {s : SmoothState} {least blocks : ℕ} {spacing : UInt64}
    (h : s.times.Summarizes least []) : s.retarget blocks spacing = ⟨s.average, blocks, 0, 0⟩ := by
  have hcount : s.times.shortCount = 0 := h.shortCount
  rw [SmoothState.retarget, hcount]
  rfl

/-- Its average is the target of this block. -/
theorem hasTarget_of_single_visit {lookup : Lookup} {window : Window} {previous : Block}
    {least n : ℕ} {s₀ s : SmoothState} (hleast : 0 < least)
    (hone : (lookup.visited window previous).length = 1)
    (hwalk : (visitAncestors lookup window (visitSmooth least) previous s₀).outcome = .ok (n, s)) :
    previous.HasTarget s.average := by
  obtain ⟨older, hvisited⟩ := lookup.exists_visited_eq_cons window previous
  obtain rfl : older = [] := by
    rw [hvisited, List.length_cons] at hone
    exact List.eq_nil_of_length_eq_zero (Nat.succ.inj hone)
  obtain ⟨samples, hsamples, haverage⟩ :=
    (visitSmooth_averages least).of_visitAncestors hleast hwalk
  rw [hvisited, List.take_of_length_le hleast] at hsamples
  obtain ⟨target, rest, htarget, hrest, rfl⟩ := List.forall₂_cons_left_iff.mp hsamples
  obtain rfl := List.forall₂_nil_left_iff.mp hrest
  rw [haverage]
  exact htarget

/-- What version 1 keeps of the times of the blocks it visited, if these are positive and in the
lower half of the range. There is a delay between every two of them, all delays are in the sum, and
the first `k` in the short mean, which is one more than there are averaged targets unless the walk
ends before. The short mean lies between the least and the greatest of these delays, and `k` times
it differs from their sum by at most `1 + 2 + … + (k - 1)`. Later delays have no part in it, so any
other walk with the same first delays has the same short mean. A walk of one block requires the
target of this block as it is, with no timespans. -/
theorem blockTimes_of_walk {p : Params} {previous : Block} {lookup : Lookup} {n : ℕ}
    {s : SmoothState}
    (hwalk : (visitAncestors lookup p.windowV1 (visitSmooth p.windowV1.least.toNat) previous
      ⟨0, .empty⟩).outcome = .ok (n, s))
    (htimes : ∀ block ∈ lookup.visited p.windowV1 previous,
      1 ≤ block.timestamp.toNat ∧ block.timestamp.toNat < 2 ^ 63) :
    let all := delays (lookup.visited p.windowV1 previous)
    let k := min (p.windowV1.least.toNat + 1) (n - 1)
    let first := all.take k
    (lookup.visited p.windowV1 previous).length = n ∧
    s.times.shortCount = k ∧ s.times.longCount = n - 1 ∧ s.times.longSum = all.sum ∧
    (1 ≤ k →
      (∃ smallest largest : ℕ, first.min? = some smallest ∧ first.max? = some largest ∧
        smallest ≤ s.times.shortMean ∧ s.times.shortMean ≤ largest) ∧
      |(k : ℤ) * s.times.shortMean - first.sum| ≤ k * (k - 1) / 2) ∧
    (∀ (lookup' : Lookup) (previous' : Block) (n' : ℕ) (s' : SmoothState),
      (visitAncestors lookup' p.windowV1 (visitSmooth p.windowV1.least.toNat) previous'
        ⟨0, .empty⟩).outcome = .ok (n', s') →
      (∀ block ∈ lookup'.visited p.windowV1 previous',
        1 ≤ block.timestamp.toNat ∧ block.timestamp.toNat < 2 ^ 63) →
      (delays (lookup'.visited p.windowV1 previous')).take (p.windowV1.least.toNat + 1) =
        all.take (p.windowV1.least.toNat + 1) →
      s'.times.shortMean = s.times.shortMean) ∧
    (n = 1 → ¬ tooShort (p.window .v1) previous = true →
      (retarget .v1 p previous lookup).outcome = .ok ⟨s.average, 1, 0, 0⟩ ∧
      (0 < p.windowV1.least.toNat → previous.HasTarget s.average)) := by
  intro all k first
  have hsummary : s.times.Summarizes p.windowV1.least.toNat all :=
    summarizes_of_visitAncestors htimes hwalk
  obtain ⟨hn, -⟩ := visitAncestors_eq_ok hwalk
  have hlength : all.length = n - 1 := by rw [hn, ← length_delays]
  have hfirst : all.take (p.windowV1.least.toNat + 1) = first := by
    rw [List.take_eq_take_min, hlength]
  have hmean : s.times.shortMean = Mean.fold Mean.toward first := hfirst ▸ hsummary.shortMean
  refine ⟨hn.symm, ?_, ?_, hsummary.longSum, ?_, ?_, ?_⟩
  · rw [hsummary.shortCount, hlength]
  · rw [hsummary.longCount, hlength]
  · intro hk
    have hcount : first.length = k := by
      rw [List.length_take, hlength]
      exact min_eq_left (min_le_right _ _)
    have hne : first ≠ [] := List.ne_nil_of_length_pos (hcount ▸ hk)
    obtain ⟨smallest, largest, hsmallest, hlargest, hlow, hhigh⟩ := Mean.between_toward.fold hne
    rw [hmean, ← hcount]
    exact ⟨⟨smallest, largest, hsmallest, hlargest, Nat.cast_le.mpr hlow, Nat.cast_le.mpr hhigh⟩,
      Mean.abs_fold_toward_sub_sum_le hne⟩
  · intro lookup' previous' n' s' hwalk' htimes' hsame
    rw [hmean, (summarizes_of_visitAncestors htimes' hwalk').shortMean, hsame, hfirst]
  · intro hone hlong
    have hnil : all = [] := List.eq_nil_of_length_eq_zero (by omega)
    rw [hnil] at hsummary
    constructor
    · rw [outcome_retarget_of_long hlong, outcome_walkRetarget_v1, hwalk, hone]
      exact congrArg Except.ok (SmoothState.retarget_of_no_delay hsummary)
    · intro hleast
      exact hasTarget_of_single_visit hleast (hn.symm.trans hone) hwalk

/-- One averaged target and four blocks, so two delays of three are in the short mean. The second
block is earlier than the third, and their delay is none. The move of the short mean from 31 to half
of it is truncated. In the second chain the oldest block is much older, and the short mean is the
same. The block at height one is visited alone. -/
theorem blockTimes_of_walk_of_late_grandparent :
    let params : Params := { Params.mainnet with windowV1 := ⟨1, 4⟩ }
    let oldest : Block := ⟨.ofCounter 1, 2000, 0x1c00ffff, 1400000000, .ofCounter 0⟩
    let older : Block := { oldest with timestamp := 1300000000 }
    let grandparent : Block := ⟨.ofCounter 2, 2001, 0x1c00ffff, 1400000105, .ofCounter 1⟩
    let parent : Block := ⟨.ofCounter 3, 2002, 0x1c00ffff, 1400000100, .ofCounter 2⟩
    let tip : Block := ⟨.ofCounter 4, 2003, 0x1c00ffff, 1400000131, .ofCounter 3⟩
    let single : Block := { tip with height := 1 }
    let chain (last : Block) : Lookup := fun hash =>
      .ok (some (if hash = parent.hash then parent
        else if hash = grandparent.hash then grandparent else last))
    let target : Target := 0xffff * Bytes.weight 25
    let s : SmoothState := ⟨target, ⟨1400000000, 2, 16, 3, 136⟩⟩
    let s' : SmoothState := ⟨target, ⟨1300000000, 2, 16, 3, 100000136⟩⟩
    (visitAncestors (chain oldest) params.windowV1 (visitSmooth 1) tip ⟨0, .empty⟩).outcome =
      .ok (4, s) ∧
    (visitAncestors (chain older) params.windowV1 (visitSmooth 1) tip ⟨0, .empty⟩).outcome =
      .ok (4, s') ∧
    delays ((chain oldest).visited params.windowV1 tip) = [31, 0, 105] ∧
    s.times.shortCount = 2 ∧ s.times.longCount = 3 ∧ s.times.longSum = (31 + 0 + 105 : ℕ) ∧
    |2 * s.times.shortMean - (31 + 0 : ℕ)| ≤ 1 ∧ s'.times.shortMean = s.times.shortMean ∧
    (retarget .v1 params single (chain oldest)).outcome = .ok ⟨target, 1, 0, 0⟩ := by
  intro params oldest older grandparent parent tip single chain target s s'
  have hvisited : (chain oldest).visited params.windowV1 tip =
      [tip, parent, grandparent, oldest] := by decide +kernel
  have hvisited' : (chain older).visited params.windowV1 tip =
      [tip, parent, grandparent, older] := by decide +kernel
  have hsingle : (chain oldest).visited params.windowV1 single = [single] := by decide +kernel
  have hwalk : (visitAncestors (chain oldest) params.windowV1 (visitSmooth 1) tip
      ⟨0, .empty⟩).outcome = .ok (4, s) := by decide +kernel
  have hwalk' : (visitAncestors (chain older) params.windowV1 (visitSmooth 1) tip
      ⟨0, .empty⟩).outcome = .ok (4, s') := by decide +kernel
  have hwalk₁ : (visitAncestors (chain oldest) params.windowV1 (visitSmooth 1) single
      ⟨0, .empty⟩).outcome = .ok (1, ⟨target, { BlockTimes.empty with last := 1400000131 }⟩) := by
    decide +kernel
  obtain ⟨-, hshortCount, hlongCount, hlongSum, hshortMean, hindependent, -⟩ :=
    blockTimes_of_walk hwalk (by rw [hvisited]; decide)
  obtain ⟨-, -, -, -, -, -, hone⟩ := blockTimes_of_walk hwalk₁ (by rw [hsingle]; decide)
  obtain ⟨hretarget, -⟩ := hone rfl (by decide)
  obtain ⟨-, herror⟩ := hshortMean (by decide)
  have hsame : s'.times.shortMean = s.times.shortMean := by
    apply hindependent _ _ _ _ hwalk'
    · rw [hvisited']
      decide
    · rw [hvisited, hvisited']
      decide
  have hdelays : delays ((chain oldest).visited params.windowV1 tip) = [31, 0, 105] := by
    rw [hvisited]
    decide
  have hcount : min (params.windowV1.least.toNat + 1) (4 - 1) = 2 := by decide
  rw [hdelays, hcount] at herror
  rw [hdelays] at hlongSum
  exact ⟨hwalk, hwalk', hdelays, hshortCount, hlongCount, hlongSum, herror, hsame, hretarget⟩

end DarkGravity
