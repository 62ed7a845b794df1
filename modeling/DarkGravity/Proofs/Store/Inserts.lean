import DarkGravity.Proofs.Store.Tip
import Mathlib.Data.Finset.Card
import Mathlib.Data.List.MinMax

/-!
# A store as the list of its inserts

What a store answers can be read off the list of the blocks that were inserted: under a hash the
last block with it is found, and as many blocks are stored as there are hashes. As long as a hash
always comes with the same height, the tip is found under the hash of the first of the highest
blocks (`tip?_insertAll`). Two orders of the same inserts can therefore differ in the tip only among
blocks of one height (`insertAll_refines`).
-/

namespace DarkGravity.Store

variable {blocks reordered : List Block}

/-! ## What is stored -/

theorem insertAll_concat (s : Store) (blocks : List Block) (block : Block) :
    s.insertAll (blocks ++ [block]) = (s.insertAll blocks).insert block :=
  insertAll_append s blocks [block]

/-- Under a hash the last block with it is found. -/
theorem get?_insertAll_empty (blocks : List Block) (hash : Hash) :
    (empty.insertAll blocks).get? hash =
      blocks.reverse.find? fun block => block.hash = hash := by
  rw [get?_insertAll, get?_empty, Option.or_none]

/-- What is found was inserted, and under its hash. -/
theorem mem_of_get?_insertAll {hash : Hash} {block : Block}
    (h : (empty.insertAll blocks).get? hash = some block) : block ∈ blocks ∧ block.hash = hash := by
  rw [get?_insertAll_empty] at h
  exact ⟨List.mem_reverse.mp (List.mem_of_find?_eq_some h), by simpa using List.find?_some h⟩

/-- Something is found under the hash of every inserted block. -/
theorem exists_get?_insertAll {block : Block} (h : block ∈ blocks) :
    ∃ stored, (empty.insertAll blocks).get? block.hash = some stored := by
  rw [get?_insertAll_empty, ← Option.isSome_iff_exists, List.find?_isSome]
  exact ⟨block, List.mem_reverse.mpr h, by simp⟩

theorem isSome_get?_insertAll_iff {hash : Hash} :
    ((empty.insertAll blocks).get? hash).isSome ↔ hash ∈ blocks.map Block.hash := by
  rw [Option.isSome_iff_exists, List.mem_map]
  constructor
  · rintro ⟨block, hfound⟩
    exact ⟨block, mem_of_get?_insertAll hfound⟩
  · rintro ⟨block, hmem, rfl⟩
    exact exists_get?_insertAll hmem

/-- As many blocks are stored as there are different hashes. -/
theorem size_insertAll (blocks : List Block) :
    (empty.insertAll blocks).size = (blocks.map Block.hash).toFinset.card := by
  induction blocks using List.reverseRecOn with
  | nil => simp [insertAll, size, empty]
  | append_singleton blocks block ih =>
    have hhashes : ((blocks ++ [block]).map Block.hash).toFinset =
        Insert.insert block.hash (blocks.map Block.hash).toFinset := by
      ext hash
      simp
    rw [insertAll_concat, size_insert, ih, hhashes, Finset.card_insert_eq_ite]
    simp only [isSome_get?_insertAll_iff, List.mem_toFinset]

/-! ## The tip -/

/-- Blocks with one hash have one height. -/
def HeightsFixed (blocks : List Block) : Prop :=
  ∀ block ∈ blocks, ∀ other ∈ blocks, block.hash = other.hash → block.height = other.height

instance (blocks : List Block) : Decidable (HeightsFixed blocks) :=
  inferInstanceAs (Decidable (∀ block ∈ blocks, ∀ other ∈ blocks,
    block.hash = other.hash → block.height = other.height))

/-- The block is in the list, and none of the list is higher. -/
def IsHighest (blocks : List Block) (block : Block) : Prop :=
  block ∈ blocks ∧ ∀ other ∈ blocks, other.height ≤ block.height

/-- The highest block of a list; of several, the first. -/
def highest? (blocks : List Block) : Option Block :=
  blocks.argmax fun block => block.height.toNat

theorem highest?_append_singleton (blocks : List Block) (block : Block) :
    highest? (blocks ++ [block]) =
      match highest? blocks with
      | none => some block
      | some highest =>
        if highest.height < block.height then some block else some highest := by
  simp only [highest?, List.argmax_concat, UInt64.lt_iff_toNat_lt]
  cases blocks.argmax fun block => block.height.toNat <;> rfl

theorem isHighest_of_highest? {highest : Block} (h : highest? blocks = some highest) :
    IsHighest blocks highest := by
  unfold highest? at h
  refine ⟨List.argmax_mem h, ?_⟩
  intro other hmem
  rw [UInt64.le_iff_toNat_le]
  exact List.le_of_mem_argmax (f := fun block : Block => block.height.toNat) hmem h

theorem HeightsFixed.of_append {older newer : List Block} (h : HeightsFixed (older ++ newer)) :
    HeightsFixed older :=
  fun block hblock other hother =>
    h block (List.mem_append_left newer hblock) other (List.mem_append_left newer hother)

theorem HeightsFixed.of_perm (h : HeightsFixed blocks) (hperm : blocks.Perm reordered) :
    HeightsFixed reordered :=
  fun block hblock other hother =>
    h block (hperm.mem_iff.mpr hblock) other (hperm.mem_iff.mpr hother)

/-- What is stored for an inserted block has its height. -/
theorem HeightsFixed.height_of_get? {block stored : Block} (h : HeightsFixed blocks)
    (hmem : block ∈ blocks) (hfound : (empty.insertAll blocks).get? block.hash = some stored) :
    stored.height = block.height :=
  have hstored := mem_of_get?_insertAll hfound
  h stored hstored.1 block hmem hstored.2

/-- The tip is what is stored under the hash of the first of the highest blocks. -/
theorem tip?_insertAll (h : HeightsFixed blocks) :
    (empty.insertAll blocks).tip? =
      (highest? blocks).bind fun highest => (empty.insertAll blocks).get? highest.hash := by
  induction blocks using List.reverseRecOn with
  | nil => rfl
  | append_singleton blocks block ih =>
    have hbefore : HeightsFixed blocks := h.of_append
    rw [insertAll_concat, (coherent_empty.insertAll blocks).tip?_insert,
      highest?_append_singleton, ih hbefore]
    cases hhighest : highest? blocks with
    | none => simp [get?_insert]
    | some highest =>
      have hmem : highest ∈ blocks := (isHighest_of_highest? hhighest).1
      obtain ⟨tip, htip⟩ := exists_get?_insertAll hmem
      have hhash : tip.hash = highest.hash := (mem_of_get?_insertAll htip).2
      have hheight : tip.height = highest.height := hbefore.height_of_get? hmem htip
      simp only [Option.bind_some, htip, hhash, hheight]
      by_cases hhigher : highest.height < block.height
      · simp [hhigher, get?_insert]
      · -- the new block takes the place of the tip, or leaves it alone
        by_cases hplace : highest.hash = block.hash
        · simp [hhigher, hplace, get?_insert]
        · simp [hhigher, hplace, Ne.symm hplace, get?_insert, htip]

/-- A tip is one of the highest of the inserted blocks. -/
theorem isHighest_of_tip? {tip : Block} (h : HeightsFixed blocks)
    (htip : (empty.insertAll blocks).tip? = some tip) : IsHighest blocks tip := by
  rw [tip?_insertAll h] at htip
  obtain ⟨highest, hhighest, hfound⟩ := Option.bind_eq_some_iff.mp htip
  obtain ⟨hmem, hbound⟩ := isHighest_of_highest? hhighest
  have hheight : tip.height = highest.height := h.height_of_get? hmem hfound
  exact ⟨(mem_of_get?_insertAll hfound).1, fun other hother => hheight ▸ hbound other hother⟩

/-! ## Two orders -/

theorem IsHighest.of_perm {block : Block} (h : IsHighest blocks block)
    (hperm : blocks.Perm reordered) : IsHighest reordered block :=
  ⟨hperm.mem_iff.mp h.1, fun other hother => h.2 other (hperm.mem_iff.mpr hother)⟩

theorem IsHighest.height_eq {block other : Block} (h : IsHighest blocks block)
    (h' : IsHighest blocks other) : block.height = other.height :=
  UInt64.le_antisymm (h'.2 block h.1) (h.2 other h'.1)

theorem isEmpty_iff_size_eq_zero (s : Store) : s.isEmpty = true ↔ s.size = 0 := by
  unfold isEmpty size
  rw [Std.HashMap.isEmpty_eq_size_eq_zero, beq_iff_eq]

/-- There is a tip unless nothing was inserted. -/
theorem tip?_insertAll_eq_none_iff : (empty.insertAll blocks).tip? = none ↔ blocks = [] := by
  rw [(coherent_empty.insertAll blocks).tip?_eq_none_iff, isEmpty_iff_size_eq_zero,
    size_insertAll, Finset.card_eq_zero, List.toFinset_eq_empty_iff, List.map_eq_nil_iff]

/-- The tips of two orders of the same inserts are both missing or both among the highest blocks. -/
theorem tip?_cases_of_perm (h : HeightsFixed blocks) (hperm : blocks.Perm reordered) :
    ((empty.insertAll blocks).tip? = none ∧ (empty.insertAll reordered).tip? = none) ∨
    ∃ tip tip', (empty.insertAll blocks).tip? = some tip ∧
      (empty.insertAll reordered).tip? = some tip' ∧
      IsHighest blocks tip ∧ IsHighest blocks tip' := by
  cases htip : (empty.insertAll blocks).tip? with
  | none =>
    obtain rfl := tip?_insertAll_eq_none_iff.mp htip
    exact .inl ⟨rfl, tip?_insertAll_eq_none_iff.mpr hperm.nil_eq.symm⟩
  | some tip =>
    cases htip' : (empty.insertAll reordered).tip? with
    | none =>
      obtain rfl := tip?_insertAll_eq_none_iff.mp htip'
      obtain rfl := hperm.eq_nil
      cases htip.symm.trans htip'
    | some tip' =>
      have hhighest' := isHighest_of_tip? (h.of_perm hperm) htip'
      exact .inr ⟨tip, tip', rfl, rfl, isHighest_of_tip? h htip, hhighest'.of_perm hperm.symm⟩

/-- A store refines the list of its inserts. It finds the last block with a hash, filed under that
hash, and counts the hashes; it has a tip unless it is empty, and the tip is a stored block.
If a hash always comes with the same height, the tip is the stored block with the hash of the first
of the highest blocks. Then another order of the inserts gives a tip of the same height, and of the
same hash unless blocks with different hashes are the highest. -/
theorem insertAll_refines (blocks : List Block) :
    let s := empty.insertAll blocks
    (∀ hash, s.get? hash = blocks.reverse.find? fun block => block.hash = hash) ∧
    (∀ hash block, s.get? hash = some block → block.hash = hash) ∧
    s.size = (blocks.map Block.hash).toFinset.card ∧
    (s.isEmpty = true ↔ s.size = 0) ∧ (s.size = 0 ↔ s.tip? = none) ∧
    (∀ hash, s.tipHash = some hash → ∃ tip, s.get? hash = some tip) ∧
    (∀ tip, s.tip? = some tip → s.get? tip.hash = some tip) ∧
    (HeightsFixed blocks →
      s.tip? = ((highest? blocks).bind fun highest => s.get? highest.hash) ∧
      ∀ reordered, blocks.Perm reordered →
        let s' := empty.insertAll reordered
        s.tip?.map Block.height = s'.tip?.map Block.height ∧
        ((∀ block other, IsHighest blocks block → IsHighest blocks other →
            block.hash = other.hash) →
          s.tip?.map Block.hash = s'.tip?.map Block.hash)) := by
  intro s
  have hcoherent : s.Coherent := coherent_empty.insertAll blocks
  refine ⟨get?_insertAll_empty blocks, hcoherent.filed, size_insertAll blocks,
    isEmpty_iff_size_eq_zero s, ?_, hcoherent.stored,
    fun tip htip => hcoherent.get?_of_tip? htip, ?_⟩
  · rw [hcoherent.tip?_eq_none_iff, isEmpty_iff_size_eq_zero]
  · intro hfixed
    refine ⟨tip?_insertAll hfixed, ?_⟩
    intro reordered hperm s'
    rcases tip?_cases_of_perm hfixed hperm with ⟨hnone, hnone'⟩ |
      ⟨tip, tip', htip, htip', hhighest, hhighest'⟩
    · simp only [s, s', hnone, hnone', Option.map_none, implies_true, and_self]
    · simp only [s, s', htip, htip', Option.map_some, Option.some.injEq]
      exact ⟨hhighest.height_eq hhighest', fun hunique => hunique tip tip' hhighest hhighest'⟩

/-- Two of three blocks are the highest, and the first of them is inserted again with another word.
It stays the tip, with its new word; the other order has the other block as its tip, at the same
height. -/
theorem insertAll_refines_of_twins :
    let low : Block := ⟨.ofCounter 1, 5, 0, 0, .zero⟩
    let high : Block := ⟨.ofCounter 2, 7, 0, 0, .zero⟩
    let twin : Block := ⟨.ofCounter 3, 7, 0, 0, .zero⟩
    let again : Block := { high with bits := 1 }
    let blocks := [low, high, twin, again]
    HeightsFixed blocks ∧ blocks.Perm [twin, low, high, again] ∧
    (empty.insertAll blocks).size = 3 ∧
    (empty.insertAll blocks).tip? = some again ∧
    (empty.insertAll [twin, low, high, again]).tip?.map Block.height = some 7 := by
  intro low high twin again blocks
  have hfixed : HeightsFixed blocks := by decide
  have hperm : blocks.Perm [twin, low, high, again] := by decide
  obtain ⟨hget, -, hsize, -, -, -, -, htips⟩ := insertAll_refines blocks
  obtain ⟨htip, horders⟩ := htips hfixed
  have hhighest : highest? blocks = some high := by decide
  have hfound : (empty.insertAll blocks).get? high.hash = some again := by
    rw [hget]
    decide
  rw [hhighest, Option.bind_some, hfound] at htip
  obtain ⟨hheight, -⟩ := horders _ hperm
  rw [htip] at hheight
  exact ⟨hfixed, hperm, hsize.trans (by decide), htip, hheight.symm⟩

end DarkGravity.Store
