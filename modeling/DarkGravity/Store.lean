import DarkGravity.Block
import Std.Data.HashMap

/-!
# The block store

Blocks by hash, with the highest of them as the tip. A block replaces one with the same hash. The
tip moves to a new block only if it is higher than the block that the tip names after the
replacement.
-/

namespace DarkGravity

/-- Blocks in memory. -/
structure Store where
  blocks : Std.HashMap Hash Block
  tipHash : Option Hash

namespace Store

/-- No blocks. -/
def empty : Store := ⟨∅, none⟩

/-- The stored block with a hash. -/
def get? (s : Store) (hash : Hash) : Option Block := s.blocks[hash]?

@[simp] theorem get?_empty (hash : Hash) : empty.get? hash = none := by
  simp [empty, get?]

/-- The highest block; of equals, the one that was stored first. -/
def tip? (s : Store) : Option Block := s.tipHash.bind s.get?

/-- Stores a block. -/
def insert (s : Store) (block : Block) : Store :=
  let blocks := s.blocks.insert block.hash block
  let isHigher : Bool :=
    match s.tipHash.bind fun hash => blocks[hash]? with
    | some tip => tip.height < block.height
    | none => true
  ⟨blocks, if isHigher then some block.hash else s.tipHash⟩

/-- An inserted block is found under its hash; every other hash is looked up as before. -/
theorem get?_insert (s : Store) (block : Block) (hash : Hash) :
    (s.insert block).get? hash = if block.hash = hash then some block else s.get? hash := by
  simp [insert, get?, Std.HashMap.getElem?_insert]

/-- Stores blocks in order. -/
def insertAll (s : Store) (blocks : List Block) : Store := blocks.foldl insert s

theorem insertAll_append (s : Store) (older newer : List Block) :
    s.insertAll (older ++ newer) = (s.insertAll older).insertAll newer :=
  List.foldl_append

/-- The last inserted block with a hash is found under it. -/
theorem get?_insertAll (s : Store) (blocks : List Block) (hash : Hash) :
    (s.insertAll blocks).get? hash =
      (blocks.reverse.find? fun block => block.hash = hash).or (s.get? hash) := by
  induction blocks generalizing s with
  | nil => rfl
  | cons block blocks ih =>
    have hinsert : s.insertAll (block :: blocks) = (s.insert block).insertAll blocks := rfl
    rw [hinsert, ih, get?_insert, List.reverse_cons, List.find?_append, Option.or_assoc]
    by_cases hhash : block.hash = hash <;> simp [hhash]

/-- How many blocks are stored. -/
def size (s : Store) : Nat := s.blocks.size

theorem size_insert (s : Store) (block : Block) :
    (s.insert block).size = if (s.get? block.hash).isSome then s.size else s.size + 1 := by
  simp [insert, size, get?, Std.HashMap.size_insert]

/-- Whether no block is stored. -/
def isEmpty (s : Store) : Bool := s.blocks.isEmpty

/-- The store as a lookup, which never fails. -/
def lookup (s : Store) : Lookup := fun hash => .ok (s.get? hash)

theorem lookup_eq_ok_iff {s : Store} {hash : Hash} {found : Option Block} :
    s.lookup hash = .ok found ↔ s.get? hash = found := by
  rw [lookup, Except.ok.injEq]

end Store

end DarkGravity
