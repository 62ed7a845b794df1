import DarkGravity.Store
import Mathlib.Tactic.SplitIfs
import Mathlib.Tactic.ByContra

/-!
# The tip of a store

The tip is a hash kept beside the blocks. It always names a stored block (`Coherent`), and it moves
to every block that is higher. But a block that is inserted again under the hash of the tip replaces
the tip before heights are compared, so a lower one stays the tip below other blocks. Such an insert
demotes the tip; it is the only way to get a tip that is not the highest block (`tip_of_run`).
-/

namespace DarkGravity.Store

variable {s : Store} {block : Block}

/-! ## Runs -/

/-- A way to change a store. -/
inductive Operation where
  | insert (block : Block)
  | insertAll (blocks : List Block)

/-- The blocks that an operation inserts, in order. -/
def Operation.blocks : Operation → List Block
  | .insert block => [block]
  | .insertAll blocks => blocks

/-- The store after an operation. -/
def perform (s : Store) : Operation → Store
  | .insert block => s.insert block
  | .insertAll blocks => s.insertAll blocks

/-- The store after operations in order. -/
def run (s : Store) (operations : List Operation) : Store := operations.foldl perform s

/-- Operations do nothing but insert their blocks one after another. -/
theorem run_eq_insertAll (s : Store) (operations : List Operation) :
    s.run operations = s.insertAll (operations.flatMap Operation.blocks) := by
  induction operations generalizing s with
  | nil => rfl
  | cons operation rest ih =>
    have hperform : s.perform operation = s.insertAll operation.blocks := by
      cases operation <;> rfl
    show (s.perform operation).run rest = _
    rw [ih, hperform, List.flatMap_cons, insertAll_append]

/-! ## What every store keeps -/

/-- The blocks and the tip fit together. -/
structure Coherent (s : Store) : Prop where
  /-- Each block is stored under its own hash. -/
  filed : ∀ hash block, s.get? hash = some block → block.hash = hash
  /-- The tip names a stored block. -/
  stored : ∀ hash, s.tipHash = some hash → ∃ tip, s.get? hash = some tip
  /-- Without a tip nothing is stored. -/
  bare : s.tipHash = none → ∀ hash, s.get? hash = none

theorem coherent_empty : empty.Coherent where
  filed hash block h := by
    rw [get?_empty] at h
    cases h
  stored hash h := by cases h
  bare _ hash := get?_empty hash

/-- After an insert there is a tip, and it is named by the new block or as before. -/
theorem exists_tipHash_insert (s : Store) (block : Block) :
    ∃ hash, (s.insert block).tipHash = some hash ∧
      (hash = block.hash ∨ s.tipHash = some hash) := by
  cases htip : s.tipHash with
  | none =>
    refine ⟨block.hash, ?_, .inl rfl⟩
    simp [insert, htip]
  | some hash =>
    simp only [insert, htip]
    split_ifs
    · exact ⟨block.hash, rfl, .inl rfl⟩
    · exact ⟨hash, rfl, .inr rfl⟩

/-- A step keeps the blocks and the tip together. -/
theorem Coherent.insert (h : s.Coherent) (block : Block) : (s.insert block).Coherent where
  filed hash found hfound := by
    rw [get?_insert] at hfound
    split_ifs at hfound with hhash
    · rw [← Option.some.inj hfound, hhash]
    · exact h.filed hash found hfound
  stored hash htip := by
    obtain ⟨named, hnamed, hor⟩ := exists_tipHash_insert s block
    obtain rfl := Option.some.inj (htip.symm.trans hnamed)
    rw [get?_insert]
    split_ifs with hhash
    · exact ⟨block, rfl⟩
    · exact h.stored hash (hor.resolve_left fun heq => hhash heq.symm)
  bare hnone := by
    obtain ⟨hash, hsome, -⟩ := exists_tipHash_insert s block
    rw [hnone] at hsome
    cases hsome

/-- So does every run. -/
theorem Coherent.insertAll (h : s.Coherent) (blocks : List Block) :
    (s.insertAll blocks).Coherent := by
  induction blocks generalizing s with
  | nil => exact h
  | cons block blocks ih => exact ih (h.insert block)

/-- The tip is stored under its own hash. -/
theorem Coherent.get?_of_tip? {tip : Block} (h : s.Coherent) (htip : s.tip? = some tip) :
    s.get? tip.hash = some tip := by
  unfold tip? at htip
  obtain ⟨hash, -, hfound⟩ := Option.bind_eq_some_iff.mp htip
  rwa [h.filed hash tip hfound]

/-- Nothing is stored where there is no tip. -/
theorem Coherent.get?_eq_none (h : s.Coherent) (hnone : s.tip? = none) (hash : Hash) :
    s.get? hash = none := by
  cases htip : s.tipHash with
  | none => exact h.bare htip hash
  | some named =>
    obtain ⟨tip, hfound⟩ := h.stored named htip
    rw [tip?, htip] at hnone
    cases hfound.symm.trans hnone

theorem Coherent.tip?_eq_none_iff (h : s.Coherent) : s.tip? = none ↔ s.isEmpty = true := by
  have hempty : s.isEmpty = true ↔ ∀ hash, s.get? hash = none := by
    unfold isEmpty get?
    rw [Std.HashMap.isEmpty_iff_forall_not_mem]
    simp
  rw [hempty]
  constructor
  · exact h.get?_eq_none
  · intro hbare
    unfold tip?
    exact Option.bind_eq_none_iff.mpr fun hash _ => hbare hash

/-- An insert moves the tip to the new block if it takes the place of the tip or is higher. -/
theorem Coherent.tip?_insert (h : s.Coherent) (block : Block) :
    (s.insert block).tip? =
      match s.tip? with
      | none => some block
      | some tip =>
        if tip.hash = block.hash ∨ tip.height < block.height then some block else some tip := by
  cases htip : s.tipHash with
  | none =>
    have hnamed : (s.insert block).tipHash = some block.hash := by simp [Store.insert, htip]
    simp [tip?, htip, hnamed, get?_insert]
  | some hash =>
    obtain ⟨tip, hfound⟩ := h.stored hash htip
    obtain rfl := h.filed hash tip hfound
    have hold : s.tip? = some tip := by rw [tip?, htip]; exact hfound
    have hfound' : s.blocks[tip.hash]? = some tip := hfound
    rw [hold]
    by_cases hhash : tip.hash = block.hash
    · -- heights are compared after the block has replaced the tip, so the name stays
      have hnamed : (s.insert block).tipHash = some block.hash := by
        simp [Store.insert, htip, hhash]
      simp [tip?, hnamed, get?_insert, hhash]
    · have hnamed : (s.insert block).tipHash =
          if tip.height < block.height then some block.hash else some tip.hash := by
        simp [Store.insert, htip, Std.HashMap.getElem?_insert, Ne.symm hhash, hfound']
      by_cases hhigher : tip.height < block.height
      · simp [tip?, hnamed, get?_insert, hhigher]
      · simp [tip?, hnamed, get?_insert, hhash, Ne.symm hhash, hhigher, hfound]

/-! ## The highest block -/

/-- No stored block is higher than the tip. -/
def TipIsHighest (s : Store) : Prop :=
  ∀ tip, s.tip? = some tip → ∀ hash block, s.get? hash = some block → block.height ≤ tip.height

/-- Inserting the block demotes the tip: it takes the place of the tip, and another stored block is
higher than it. -/
def Demotes (s : Store) (block : Block) : Prop :=
  (∃ tip, s.tip? = some tip ∧ tip.hash = block.hash) ∧
    ∃ hash other, s.get? hash = some other ∧ hash ≠ block.hash ∧ block.height < other.height

/-- No insert demotes the tip when the blocks are inserted one after another. -/
def NeverDemotes (s : Store) : List Block → Prop
  | [] => True
  | block :: blocks => ¬ s.Demotes block ∧ (s.insert block).NeverDemotes blocks

/-- The demoted tip is not the highest block. -/
theorem Coherent.not_tipIsHighest_of_demotes (h : s.Coherent) (hdemotes : s.Demotes block) :
    ¬ (s.insert block).TipIsHighest := by
  obtain ⟨⟨tip, htip, hhash⟩, hash, other, hother, hne, hlower⟩ := hdemotes
  intro hhighest
  have htip' : (s.insert block).tip? = some block := by
    rw [h.tip?_insert, htip]
    exact if_pos (.inl hhash)
  have hother' : (s.insert block).get? hash = some other := by
    rw [get?_insert, if_neg (Ne.symm hne), hother]
  exact absurd hlower (UInt64.not_lt.mpr (hhighest block htip' hash other hother'))

/-- A block with another hash than the tip does not demote it. -/
theorem not_demotes_of_tip? {tip : Block} (htip : s.tip? = some tip) (hne : tip.hash ≠ block.hash) :
    ¬ s.Demotes block := by
  rintro ⟨⟨tip', htip', hhash⟩, -⟩
  obtain rfl := Option.some.inj (htip.symm.trans htip')
  exact hne hhash

/-- Every insert that does not demote the tip keeps it the highest block. -/
theorem TipIsHighest.insert (h : s.TipIsHighest) (hcoherent : s.Coherent)
    (hkeeps : ¬ s.Demotes block) : (s.insert block).TipIsHighest := by
  intro tip htip hash found hfound
  rw [hcoherent.tip?_insert] at htip
  rw [get?_insert] at hfound
  cases hold : s.tip? with
  | none =>
    rw [hold] at htip
    obtain rfl := Option.some.inj htip
    rw [hcoherent.get?_eq_none hold] at hfound
    split_ifs at hfound
    exact Option.some.inj hfound ▸ UInt64.le_refl _
  | some old =>
    simp only [hold] at htip
    split_ifs at htip hfound with hmoves hhash hhash
    · exact Option.some.inj htip ▸ Option.some.inj hfound ▸ UInt64.le_refl _
    · obtain rfl := Option.some.inj htip
      by_contra hlower
      rw [UInt64.not_le] at hlower
      rcases hmoves with hplace | hhigher
      · exact hkeeps ⟨⟨old, hold, hplace⟩, hash, found, hfound, Ne.symm hhash, hlower⟩
      · have hbelow : found.height ≤ old.height := h old hold hash found hfound
        exact absurd (UInt64.lt_trans hlower (UInt64.lt_of_le_of_lt hbelow hhigher))
          (UInt64.lt_irrefl _)
    · rw [← Option.some.inj htip, ← Option.some.inj hfound]
      exact UInt64.not_lt.mp fun hhigher => hmoves (.inr hhigher)
    · exact Option.some.inj htip ▸ h old hold hash found hfound

/-- The tip of a whole run is the highest block if no insert of the run demotes it. -/
theorem TipIsHighest.insertAll {blocks : List Block} (h : s.TipIsHighest)
    (hcoherent : s.Coherent) (hnever : s.NeverDemotes blocks) :
    (s.insertAll blocks).TipIsHighest := by
  induction blocks generalizing s with
  | nil => exact h
  | cons block blocks ih =>
    obtain ⟨hkeeps, hrest⟩ := hnever
    exact ih (h.insert hcoherent hkeeps) (hcoherent.insert block) hrest

/-- After any run the tip is a stored block, unless nothing is stored. It is the highest stored
block if no insert of the run has demoted it, and it is not if the last insert has. -/
theorem tip_of_run (operations : List Operation) :
    let s := empty.run operations
    (∀ tip, s.tip? = some tip → s.get? tip.hash = some tip) ∧
    (s.tip? = none ↔ s.isEmpty = true) ∧
    (empty.NeverDemotes (operations.flatMap Operation.blocks) → s.TipIsHighest) ∧
    ∀ block, s.Demotes block → ¬ (empty.run (operations ++ [.insert block])).TipIsHighest := by
  intro s
  have hrun : s = empty.insertAll (operations.flatMap Operation.blocks) :=
    run_eq_insertAll empty operations
  have hcoherent : s.Coherent := hrun ▸ coherent_empty.insertAll _
  have hempty : empty.TipIsHighest := fun tip htip => by cases htip
  refine ⟨fun tip htip => hcoherent.get?_of_tip? htip, hcoherent.tip?_eq_none_iff, ?_, ?_⟩
  · intro hnever
    rw [hrun]
    exact hempty.insertAll coherent_empty hnever
  · intro block hdemotes
    have hlast : empty.run (operations ++ [.insert block]) = s.insert block := List.foldl_append
    rw [hlast]
    exact hcoherent.not_tipIsHighest_of_demotes hdemotes

/-- A block below the tip may be replaced by a lower one, and the tip stays the highest block. If
then the tip is replaced by a block that is lower still, the tip is not the highest block. -/
theorem tip_of_run_of_replaced :
    let low : Block := ⟨.ofCounter 1, 5, 0, 0, .zero⟩
    let high : Block := ⟨.ofCounter 2, 7, 0, 0, .zero⟩
    let operations : List Operation := [.insertAll [low, high], .insert { low with height := 3 }]
    (empty.run operations).TipIsHighest ∧
    ¬ (empty.run (operations ++ [.insert { high with height := 1 }])).TipIsHighest := by
  intro low high operations
  let lower : Block := { low with height := 3 }
  let s₁ : Store := empty.insert low
  let s₂ : Store := s₁.insert high
  have hcoherent₁ : s₁.Coherent := coherent_empty.insert low
  have hcoherent₂ : s₂.Coherent := hcoherent₁.insert high
  have hlow : s₁.tip? = some low := by
    rw [coherent_empty.tip?_insert]
    rfl
  have hhigh : s₂.tip? = some high := by
    rw [hcoherent₁.tip?_insert, hlow]
    rfl
  have htip : (s₂.insert lower).tip? = some high := by
    rw [hcoherent₂.tip?_insert, hhigh]
    rfl
  have hlower : (s₂.insert lower).get? lower.hash = some lower := by
    rw [get?_insert, if_pos rfl]
  have hnever : empty.NeverDemotes [low, high, lower] := by
    refine ⟨?_, not_demotes_of_tip? hlow (by decide), not_demotes_of_tip? hhigh (by decide), trivial⟩
    rintro ⟨⟨tip, htip, -⟩, -⟩
    cases htip
  obtain ⟨-, -, hhighest, hdemoted⟩ := tip_of_run operations
  exact ⟨hhighest hnever,
    hdemoted _ ⟨⟨high, htip, rfl⟩, lower.hash, lower, hlower, by decide, by decide⟩⟩

/-- Not every tip is the highest block: the highest block comes first and is replaced at last by a
block that is lower than the one between. -/
theorem not_every_tip_is_highest : ¬ ∀ operations, (empty.run operations).TipIsHighest := by
  intro hevery
  let high : Block := ⟨.ofCounter 1, 10, 0, 0, .zero⟩
  let middle : Block := ⟨.ofCounter 2, 5, 0, 0, .zero⟩
  let low : Block := { high with height := 3 }
  let s : Store := (empty.insert high).insert middle
  have hcoherent : s.Coherent := (coherent_empty.insert high).insert middle
  have htip : s.tip? = some high := by
    rw [(coherent_empty.insert high).tip?_insert, coherent_empty.tip?_insert]
    rfl
  have hmiddle : s.get? middle.hash = some middle := by rw [get?_insert, if_pos rfl]
  have hdemotes : s.Demotes low :=
    ⟨⟨high, htip, rfl⟩, middle.hash, middle, hmiddle, by decide, by decide⟩
  exact hcoherent.not_tipIsHighest_of_demotes hdemotes
    (hevery [.insert high, .insert middle, .insert low])

end DarkGravity.Store
