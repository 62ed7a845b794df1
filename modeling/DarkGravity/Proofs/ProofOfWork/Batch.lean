import DarkGravity.Replay.Basic

/-!
# Batches of proof-of-work hashes

A hasher that takes a message byte by byte folds in the same blocks as the digest of the whole
message, and closing it leaves a fresh hasher. So the hashers that a backend uses again for message
after message do not mix them up, and every backend gives each message of a batch its own hash,
however the batch is cut (`hashChunks_eq_hashAll`).
-/

namespace DarkGravity

namespace Groestl

/-- A whole block in front is folded in first. -/
theorem absorbBlocks_append (chain : State) {block : List UInt8} (rest : List UInt8)
    (h : block.length = blockSize) :
    absorbBlocks chain (block ++ rest) = absorbBlocks (compress chain block) rest := by
  have hlong : ¬ (block ++ rest).length < blockSize := by
    rw [List.length_append]
    omega
  rw [absorbBlocks, if_neg hlong, List.take_left' h, List.drop_left' h]

namespace Hasher

@[simp] theorem update_nil (h : Hasher) : h.update [] = h := rfl

theorem update_cons (h : Hasher) (b : UInt8) (rest : List UInt8) :
    h.update (b :: rest) = (h.push b).update rest := rfl

theorem update_append (h : Hasher) (first second : List UInt8) :
    h.update (first ++ second) = (h.update first).update second :=
  List.foldl_append

theorem taken_push (h : Hasher) (b : UInt8) : (h.push b).taken = h.taken + 1 := by
  rw [push]
  split <;> rfl

theorem taken_update (h : Hasher) (piece : List UInt8) :
    (h.update piece).taken = h.taken + piece.length := by
  induction piece generalizing h with
  | nil => rfl
  | cons b rest ih =>
    rw [update_cons, ih, taken_push, List.length_cons]
    omega

/-- Byte by byte the same blocks are folded in as from the pending bytes and the message in one
piece. -/
theorem chain_update (h : Hasher) (piece : List UInt8) (hpending : h.pending.size < blockSize) :
    (h.update piece).chain = absorbBlocks h.chain (h.pending.toList ++ piece) := by
  induction piece generalizing h with
  | nil =>
    have hshort : (h.pending.toList ++ []).length < blockSize := by simpa using hpending
    rw [update_nil, absorbBlocks, if_pos hshort]
  | cons b rest ih =>
    have hshift : h.pending.toList ++ b :: rest = (h.pending.push b).toList ++ rest := by simp
    rw [update_cons, hshift]
    by_cases hfull : h.pending.size + 1 = blockSize
    · have hpush : h.push b = ⟨compress h.chain (h.pending.push b).toList, #[], h.taken + 1⟩ := by
        rw [push, if_pos hfull]
      have hlength : (h.pending.push b).toList.length = blockSize := by simpa using hfull
      rw [hpush, ih _ (by simp [blockSize]), absorbBlocks_append _ _ hlength]
      simp
    · have hpush : h.push b = ⟨h.chain, h.pending.push b, h.taken + 1⟩ := by
        rw [push, if_neg hfull]
      have hroom : (h.pending.push b).size < blockSize := by
        rw [Array.size_push]
        omega
      rw [hpush, ih _ hroom]

/-- Taking a message with a fresh hasher and closing it gives the digest of the message. -/
theorem close_update_fresh (message : List UInt8) :
    (fresh.update message).close = (digest message, fresh) := by
  have htaken : (fresh.update message).taken = message.length := by
    rw [taken_update]
    exact Nat.zero_add _
  rw [close, htaken, ← update_append, chain_update fresh _ (by decide)]
  rfl

/-- A message may be taken in pieces. -/
theorem foldl_update (h : Hasher) (pieces : List (List UInt8)) :
    pieces.foldl update h = h.update pieces.flatten := by
  induction pieces generalizing h with
  | nil => rfl
  | cons piece rest ih => rw [List.foldl_cons, ih, List.flatten_cons, update_append]

/-- Two passes on a fresh hasher leave it fresh. -/
theorem workHash_fresh (message : List UInt8) :
    fresh.workHash message = (DarkGravity.workHash message, fresh) := by
  simp only [workHash, close_update_fresh, DarkGravity.workHash]

end Hasher

end Groestl

theorem hashChunk_fresh (messages : List (List UInt8)) :
    hashChunk Groestl.Hasher.fresh messages = messages.map workHash := by
  induction messages with
  | nil => rfl
  | cons message rest ih =>
    simp only [hashChunk, Groestl.Hasher.workHash_fresh, List.map_cons]
    rw [ih]

/-- However a batch is cut into chunks, each message gets its own hash. -/
theorem hashChunks_eq_map (chunks : List (List (List UInt8))) :
    hashChunks chunks = chunks.flatten.map workHash := by
  induction chunks with
  | nil => rfl
  | cons chunk rest ih =>
    rw [List.flatten_cons, List.map_append, ← ih, ← hashChunk_fresh]
    rfl

/-- Every backend hashes the messages of a batch one by one. -/
theorem Backend.hashAll_eq_map (backend : Backend) (messages : List (List UInt8)) :
    backend.hashAll messages = messages.map workHash := by
  cases backend with
  | portable => rfl
  | parallel workers => rw [hashAll, hashChunks_eq_map, flatten_cutEvery]

/-- Every backend gives a single message its hash. -/
theorem Backend.hash_eq (backend : Backend) (message : List UInt8) :
    backend.hash message = workHash message := by
  cases backend with
  | portable => rfl
  | parallel workers => rw [hash, Groestl.Hasher.workHash_fresh]

/-- However a batch is cut into chunks, hashing each chunk with one hasher that is used for message
after message gives every message its own hash, as do all backends for the whole batch and for
single messages. This is because two passes leave a fresh hasher fresh: closing a hasher gives the
digest of the pieces taken since it was fresh and makes it fresh again. -/
theorem hashChunks_eq_hashAll (chunks : List (List (List UInt8))) :
    hashChunks chunks = chunks.flatten.map workHash ∧
    (∀ backend : Backend, hashChunks chunks = backend.hashAll chunks.flatten ∧
      hashChunks chunks = chunks.flatten.map backend.hash) ∧
    (∀ message, Groestl.Hasher.fresh.workHash message = (workHash message, .fresh)) ∧
    ∀ pieces : List (List UInt8),
      (pieces.foldl Groestl.Hasher.update .fresh).close =
        (Groestl.digest pieces.flatten, .fresh) := by
  have hchunks := hashChunks_eq_map chunks
  refine ⟨hchunks, ?_, Groestl.Hasher.workHash_fresh, ?_⟩
  · intro backend
    have hsingle : backend.hash = workHash := funext backend.hash_eq
    refine ⟨?_, ?_⟩
    · rw [hchunks, backend.hashAll_eq_map]
    · rw [hchunks, hsingle]
  · intro pieces
    rw [Groestl.Hasher.foldl_update, Groestl.Hasher.close_update_fresh]

/-- A header with its hash. -/
def Header.hashed (h : Header) : HashedHeader := ⟨h, h.hash⟩

/-- Every backend pairs each header with its own hash. -/
theorem hashHeaders_eq_map (backend : Backend) (headers : List Header) :
    hashHeaders backend headers = headers.map Header.hashed := by
  rw [hashHeaders, backend.hashAll_eq_map]
  induction headers with
  | nil => rfl
  | cons header rest ih =>
    rw [List.map_cons, List.map_cons, List.zipWith_cons_cons, ih, List.map_cons]
    rfl

end DarkGravity
