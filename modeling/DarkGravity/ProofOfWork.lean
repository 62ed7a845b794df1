import DarkGravity.Hash
import DarkGravity.Groestl.Digest

/-!
# The proof-of-work hash

The proof-of-work hash of a message is the first half of the Grøstl-512 digest of its Grøstl-512
digest. A batch of messages can be hashed one by one or in chunks, each chunk with one hasher that
is used again for every pass; both ways give the same hashes.
-/

namespace DarkGravity

/-- The first 32 bytes of a 64-byte digest. -/
def Hash.ofDigest (digest : List UInt8) (length_digest : digest.length = 64) : Hash :=
  ⟨digest.take 32, by simp [length_digest]⟩

/-- Two passes over the message; half of the second digest is kept. -/
def workHash (message : List UInt8) : Hash :=
  let first := Groestl.digest message
  Hash.ofDigest (Groestl.digest first) (Groestl.length_digest first)

/-- Two passes on a given hasher, which is handed back. -/
def Groestl.Hasher.workHash (h : Hasher) (message : List UInt8) : Hash × Hasher :=
  let first := (h.update message).close
  let last := (first.2.update first.1).close
  (Hash.ofDigest last.1 (length_close _), last.2)

/-- Hashes a chunk of messages in order, every one with the hasher that the one before left. -/
def hashChunk (h : Groestl.Hasher) : List (List UInt8) → List Hash
  | [] => []
  | message :: rest =>
    let (hash, next) := h.workHash message
    hash :: hashChunk next rest

@[simp] theorem length_hashChunk (h : Groestl.Hasher) (messages : List (List UInt8)) :
    (hashChunk h messages).length = messages.length := by
  induction messages generalizing h with
  | nil => rfl
  | cons message rest ih => simp [hashChunk, ih]

/-- Hashes chunks of messages, each chunk with a hasher of its own. -/
def hashChunks (chunks : List (List (List UInt8))) : List Hash :=
  chunks.flatMap (hashChunk Groestl.Hasher.fresh)

/-- Cuts a list into pieces of `size` elements, at least one, and a last one that may be shorter. -/
def cutEvery (size : Nat) : List α → List (List α)
  | [] => []
  | item :: rest =>
    (item :: rest.take (size - 1)) :: cutEvery size (rest.drop (size - 1))
termination_by items => items.length
decreasing_by simp only [List.length_drop, List.length_cons]; omega

/-- Nothing is lost or moved by cutting. -/
theorem flatten_cutEvery {α : Type} (size : Nat) (items : List α) :
    (cutEvery size items).flatten = items := by
  fun_induction cutEvery size items with
  | case1 => rfl
  | case2 item rest ih => simp [ih]

/-- How batches are hashed. -/
inductive Backend where
  /-- One message after the other. -/
  | portable
  /-- In as many chunks as there are workers. -/
  | parallel (workers : Nat)
  deriving DecidableEq, Repr

namespace Backend

/-- The name shown for a backend. -/
def name : Backend → String
  | .portable => "Portable"
  | .parallel _ => "Parallel (Rayon)"

/-- How many workers share a batch; there is always one. -/
def workers : Backend → Nat
  | .portable => 1
  | .parallel n => max n 1

/-- The hash of a single message. -/
def hash : Backend → List UInt8 → Hash
  | .portable, message => workHash message
  | .parallel _, message => (Groestl.Hasher.fresh.workHash message).1

/-- The hashes of a batch, in the order of the batch. -/
def hashAll (backend : Backend) (messages : List (List UInt8)) : List Hash :=
  match backend with
  | .portable => messages.map workHash
  | .parallel _ =>
    hashChunks (cutEvery ((messages.length + backend.workers - 1) / backend.workers) messages)

end Backend

end DarkGravity
