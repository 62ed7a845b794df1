import DarkGravity.Store
import DarkGravity.Verifier

/-!
# Replaying a chain of headers

The first header of a chain is an anchor that is taken on trust at a given height. Every later
header has to name the header before it as its parent, claim the required target, and, if that is
asked for, have a hash below its claim. A replay stores the headers it accepts, so that they are
the ancestors of the next, and ends at the first that it rejects.
-/

namespace DarkGravity

/-- A header with its hash. -/
structure HashedHeader where
  header : Header
  hash : Hash
  deriving DecidableEq

/-- Pairs headers with their hashes, which a backend computes in one batch. -/
def hashHeaders (backend : Backend) (headers : List Header) : List HashedHeader :=
  List.zipWith HashedHeader.mk headers (backend.hashAll (headers.map Header.bytes))

/-- Where a replay stands between two headers. -/
structure Progress where
  /-- The last accepted block. -/
  previous : Block
  /-- The accepted blocks. -/
  store : Store
  /-- How many were accepted after the anchor. -/
  verified : Nat

namespace Progress

/-- The start of a replay. -/
def ofAnchor (anchor : HashedHeader) (height : UInt64) : Progress :=
  let block := Block.ofHashedHeader anchor.header anchor.hash height
  ⟨block, Store.empty.insert block, 0⟩

/-- The height of the next header. -/
def nextHeight (p : Progress) : UInt64 := p.previous.height + 1

/-- Accepts the next header. -/
def accept (p : Progress) (next : HashedHeader) : Progress :=
  let block := Block.ofHashedHeader next.header next.hash p.nextHeight
  ⟨block, p.store.insert block, p.verified + 1⟩

end Progress

/-- A replay or a part of one. It fails only where a hash is to be compared with a claim that has no
target. -/
abbrev Replay := Traced Event Compact.Error

/-- The reason to reject the next header, if there is one: the connection is tested first, the claim
second and the work last. -/
def judge (v : Verifier) (checkWork : Bool) (p : Progress) (next : HashedHeader) :
    Replay (Option Rejection.Reason) := do
  if next.header.previous ≠ p.previous.hash then return some .disconnected
  match ← (v.check p.previous next.header p.store.lookup).attempt with
  | .error e => return some (.difficulty e)
  | .ok () =>
    if !checkWork then return none
    -- an accepted claim may still have no target where claims are not enforced
    let enough ← Traced.ofExcept (next.hash.meetsTarget next.header.bits)
    return if enough then none else some .insufficientWork

/-- Replays the headers after the anchor. -/
def replayFrom (v : Verifier) (checkWork : Bool) :
    Progress → List HashedHeader → Replay Report
  | p, [] => return ⟨p.verified, none⟩
  | p, next :: rest => do
    match ← judge v checkWork p next with
    | none => replayFrom v checkWork (p.accept next) rest
    | some reason =>
      Traced.emit (.headerRejected p.nextHeight next.hash reason)
      return ⟨p.verified, some ⟨p.nextHeight, next.hash, reason⟩⟩

/-- Replays a chain whose first header is at `startHeight`. -/
def replay (v : Verifier) (backend : Backend) (checkWork : Bool) (startHeight : UInt64)
    (headers : List Header) : Replay Report :=
  match hashHeaders backend headers with
  | [] => return Report.empty
  | anchor :: rest => do
    Traced.emit (.anchorLoaded startHeight anchor.hash)
    let report ← replayFrom v checkWork (.ofAnchor anchor startHeight) rest
    Traced.emit (.replayFinished report backend)
    return report

end DarkGravity
