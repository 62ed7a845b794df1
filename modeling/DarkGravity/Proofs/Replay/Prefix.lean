import DarkGravity.Proofs.Check.RequiredTarget
import DarkGravity.Proofs.Replay.Specification

/-!
# Replaying the beginning of a chain

A header is tested on the headers before it and on nothing else, so what a report says of a header
does not depend on the headers after it. The report of a chain, restricted to the first headers, is
therefore the report of these headers (`Report.Describes.upTo`), and appending headers to a file
never changes the verdict on earlier ones (`ChainFile.replay_of_append`).
-/

namespace DarkGravity

section

variable {v : Verifier} {checkWork : Bool} {start : UInt64} {headers : List Header} {i count : ℕ}
  {report : Report}

/-- The store at a header does not depend on the headers after it. -/
theorem storeUpTo_take (h : i < count) :
    storeUpTo start (headers.take count) i = storeUpTo start headers i := by
  have hblocks : chainBlocks start (headers.take count) =
      (chainBlocks start headers).take count := by
    apply List.ext_getElem?
    intro j
    simp only [chainBlocks, List.getElem?_mapIdx, List.getElem?_take]
    split <;> rfl
  rw [storeUpTo, storeUpTo, hblocks, List.take_take, min_eq_left (Nat.succ_le_of_lt h)]

theorem adjacent_take_iff {parent next : Header} (h : i + 1 < count) :
    Adjacent (headers.take count) i parent next ↔ Adjacent headers i parent next := by
  have hparent : (headers.take count)[i]? = headers[i]? :=
    List.getElem?_take_of_lt (Nat.lt_of_succ_lt h)
  have hnext : (headers.take count)[i + 1]? = headers[i + 1]? := List.getElem?_take_of_lt h
  constructor
  · rintro ⟨hp, hn⟩
    exact ⟨hparent ▸ hp, hnext ▸ hn⟩
  · rintro ⟨hp, hn⟩
    exact ⟨hparent.symm ▸ hp, hnext.symm ▸ hn⟩

/-- Nor do the tests of a header depend on the headers after it. -/
theorem acceptedAfter_take_iff (h : i + 1 < count) :
    AcceptedAfter v checkWork start (headers.take count) i ↔
      AcceptedAfter v checkWork start headers i := by
  unfold AcceptedAfter
  simp only [adjacent_take_iff h, storeUpTo_take (Nat.lt_of_succ_lt h)]

/-- What a report says of the first `count` headers of its chain. -/
def Report.upTo (report : Report) (count : ℕ) : Report where
  verified := min report.verified (count - 1)
  rejection := if report.verified + 1 < count then report.rejection else none

/-- A report, restricted to the first headers of its chain, describes them. -/
theorem Report.Describes.upTo (h : report.Describes v checkWork start headers) (hpos : 0 < count)
    (hle : count ≤ headers.length) :
    (report.upTo count).Describes v checkWork start (headers.take count) := by
  have hlength : (headers.take count).length = count := List.length_take_of_le hle
  refine ⟨?_, ?_, ?_⟩
  · intro i hlt
    obtain ⟨hverified, hcount⟩ := lt_min_iff.mp hlt
    exact (acceptedAfter_take_iff (by omega)).mpr (h.accepted i hverified)
  · rw [hlength]
    by_cases hinside : report.verified + 1 < count
    · -- the run ended among the first headers, so not at the end of the chain
      have hrejection : report.rejection ≠ none := by
        rw [ne_eq, h.complete]
        omega
      simp only [Report.upTo, if_pos hinside]
      exact iff_of_false hrejection (by omega)
    · simp only [Report.upTo, if_neg hinside]
      exact iff_of_true trivial (by omega)
  · intro rejection hsome
    by_cases hinside : report.verified + 1 < count
    · have hverified : min report.verified (count - 1) = report.verified := by omega
      simp only [Report.upTo, if_pos hinside] at hsome
      obtain ⟨parent, next, hadjacent, hheight, hhash, hrejects⟩ := h.rejected rejection hsome
      simp only [Report.upTo, hverified]
      rw [storeUpTo_take (Nat.lt_of_succ_lt hinside)]
      exact ⟨parent, next, (adjacent_take_iff hinside).mpr hadjacent, hheight, hhash, hrejects⟩
    · simp only [Report.upTo, if_neg hinside] at hsome
      cases hsome

end

/-- If the replay of a file gives a report, the replay of the file without its last headers gives
what this report says of the others: as many of them are accepted, and a rejection among them is the
same. -/
theorem ChainFile.replay_of_append {v : Verifier} {start : UInt64} {entries more : List Entry}
    {report : Report} (backend : Backend) (checkWork : Bool) (hne : entries ≠ [])
    (hok : (ChainFile.replay v backend checkWork ⟨start, entries ++ more⟩).outcome = .ok report) :
    (ChainFile.replay v backend checkWork ⟨start, entries⟩).outcome =
      .ok (report.upTo entries.length) := by
  obtain ⟨headers, hnames⟩ := exists_named_of_replay hok
  have hdescribes : report.Describes v checkWork start headers :=
    (outcome_replay_eq_ok_iff backend hnames).mp hok
  have hfirst : List.Forall₂ Entry.Names entries (headers.take entries.length) := by
    have htake := List.forall₂_take entries.length hnames
    rwa [List.take_left] at htake
  have hle : entries.length ≤ headers.length := by
    rw [← hnames.length_eq, List.length_append]
    exact Nat.le_add_right _ _
  rw [outcome_replay_eq_ok_iff backend hfirst]
  exact hdescribes.upTo (List.length_pos_of_ne_nil hne) hle

/-- The third header of a chain does not claim the ceiling and is rejected. Without it the same
chain is accepted in full. -/
theorem ChainFile.replay_of_append_of_rejected :
    let v : Verifier := .mainnet
    let anchor : Header := ⟨112, .zero, .zero, 1400000000, 0x1e0fffff, 0⟩
    let next : Header := { anchor with previous := anchor.hash, timestamp := 1400000060 }
    let last : Header := { next with previous := next.hash, bits := 0x1e0ffffe }
    let error : CheckError :=
      .mismatch (0xffffe * Bytes.weight 27) (0xfffff * Bytes.weight 27)
    let entries : List Entry := [.ofHeader anchor, .ofHeader next]
    (ChainFile.replay v .portable false ⟨0, entries ++ [.ofHeader last]⟩).outcome =
      .ok ⟨1, some ⟨2, last.hash, .difficulty error⟩⟩ ∧
    (ChainFile.replay v .portable false ⟨0, entries⟩).outcome = .ok ⟨1, none⟩ := by
  intro v anchor next last error entries
  have hnames : List.Forall₂ Entry.Names (entries ++ [.ofHeader last]) [anchor, next, last] :=
    Entry.names_map_ofHeader [anchor, next, last]
  have haccepted : AcceptedAfter v false 0 [anchor, next, last] 0 :=
    ⟨anchor, next, ⟨rfl, rfl⟩, rfl, by decide +kernel, fun h => by cases h⟩
  have hrejects : Rejects v false (Block.ofHeader next 1) (storeUpTo 0 [anchor, next, last] 1) last
      (.difficulty error) := .difficulty rfl (by decide +kernel)
  have hok : (ChainFile.replay v .portable false ⟨0, entries ++ [.ofHeader last]⟩).outcome =
      .ok ⟨1, some ⟨2, last.hash, .difficulty error⟩⟩ := by
    rw [outcome_replay_eq_ok_iff .portable hnames, describes_iff_endsAfter (List.cons_ne_nil _ _)]
    refine ⟨?_, .rejected ⟨rfl, rfl⟩ hrejects⟩
    intro i hlt
    obtain rfl := Nat.lt_one_iff.mp hlt
    exact haccepted
  exact ⟨hok, replay_of_append .portable false (List.cons_ne_nil _ _) hok⟩

end DarkGravity
