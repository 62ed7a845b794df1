import DarkGravity.Header.Json
import DarkGravity.Json.Reader
import DarkGravity.Replay.Basic

/-!
# Chain files

A chain file holds the headers of a chain, oldest first, and the height of the first. Hashes are
texts in display order, and they are looked at only when a header is made of its entry.
-/

namespace DarkGravity

/-- A header as it is written in a chain file. -/
structure ChainFile.Entry where
  version : UInt32
  previous : String
  merkleRoot : String
  timestamp : UInt32
  bits : UInt32
  nonce : UInt32
  deriving DecidableEq, Repr

/-- A text of an entry that is no hash. -/
structure ChainFile.Entry.Fault where
  field : String
  text : String
  error : Hex.Error
  deriving DecidableEq, Repr

/-- The wording of a fault; its cause is worded on its own. -/
def ChainFile.Entry.Fault.message (f : Fault) : String := s!"bad {f.field} {f.text}"

namespace ChainFile.Entry

/-- The hash that the text of a field names. -/
def hashOf (field text : String) : Except Fault Hash :=
  (Hash.ofDisplay text).mapError fun error => ⟨field, text, error⟩

/-- The header of an entry. The parent is looked at before the Merkle root. -/
def header (e : Entry) : Except Fault Header := do
  let previous ← hashOf "prev_block_hash" e.previous
  let merkleRoot ← hashOf "merkle_root" e.merkleRoot
  return {
    version := e.version, previous := previous, merkleRoot := merkleRoot,
    timestamp := e.timestamp, bits := e.bits, nonce := e.nonce }

/-- The entry of a header. -/
def ofHeader (h : Header) : Entry where
  version := h.version
  previous := h.previous.display
  merkleRoot := h.merkleRoot.display
  timestamp := h.timestamp
  bits := h.bits
  nonce := h.nonce

/-- An entry as a value. -/
def toJson (e : Entry) : Json :=
  .ofFields [("version", .ofUInt32 e.version), ("prev_block_hash", .ofString e.previous),
    ("merkle_root", .ofString e.merkleRoot), ("timestamp", .ofUInt32 e.timestamp),
    ("bits", .ofUInt32 e.bits), ("nonce", .ofUInt32 e.nonce)]

/-- The entry that a value stands for. -/
def ofJson? (j : Json) : Option Entry := do
  match ← j.record? Header.fieldNames with
  | [version, previous, merkleRoot, timestamp, bits, nonce] =>
    return {
      version := ← Json.required Json.uint32? version
      previous := ← Json.required Json.string? previous
      merkleRoot := ← Json.required Json.string? merkleRoot
      timestamp := ← Json.required Json.uint32? timestamp
      bits := ← Json.required Json.uint32? bits
      nonce := ← Json.required Json.uint32? nonce }
  | _ => none

end ChainFile.Entry

/-- The contents of a chain file. -/
structure ChainFile where
  startHeight : UInt64
  headers : List ChainFile.Entry
  deriving DecidableEq, Repr

namespace ChainFile

/-- A chain file as a value. -/
def toJson (c : ChainFile) : Json :=
  .ofFields [("start_height", .ofUInt64 c.startHeight),
    ("headers", .array (c.headers.map Entry.toJson))]

/-- The chain file that a value stands for. Without a start height it begins at zero. -/
def ofJson? (j : Json) : Option ChainFile := do
  match ← j.record? ["start_height", "headers"] with
  | [startHeight, headers] =>
    let startHeight ← Json.withDefault 0 Json.uint64? startHeight
    let items ← Json.required Json.items? headers
    return ⟨startHeight, ← items.mapM Entry.ofJson?⟩
  | _ => none

/-- Why a chain file gives no report. -/
inductive Fault where
  | badEntry (fault : Entry.Fault)
  | badClaim (error : Compact.Error)
  deriving DecidableEq, Repr

/-- The wordings of a fault, outermost first. -/
def Fault.messages : Fault → List String
  | .badEntry fault => [fault.message, fault.error.message]
  | .badClaim error => [error.message]

/-- Replays a chain file. All its entries are made headers before any header is checked. -/
def replay (v : Verifier) (backend : Backend) (checkWork : Bool) (c : ChainFile) :
    Traced Event Fault Report :=
  match c.headers.mapM Entry.header with
  | .error fault => .fail (.badEntry fault)
  | .ok headers =>
    (DarkGravity.replay v backend checkWork c.startHeight headers).mapError .badClaim

end ChainFile

end DarkGravity
