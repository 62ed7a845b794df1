import DarkGravity.Block
import DarkGravity.Json.Record

/-!
# Headers and blocks in JSON

Hashes are strings of stored-order digits behind a mark. When they are read the mark may be left out
and blanks may stand in the place of digits.
-/

namespace DarkGravity

/-- A hash as a value. -/
def Hash.toJson (h : Hash) : Json := .ofString ("0x" ++ h.storedHex)

/-- The digits of a hash, without the mark if there is one. -/
def Hash.unmarked (text : String) : String :=
  match text.toList with
  | '0' :: 'x' :: digits => String.ofList digits
  | _ => text

/-- The hash that a value stands for. -/
def Hash.ofJson? (j : Json) : Option Hash :=
  j.string?.bind fun text => ofSpacedHex? (unmarked text)

/-- A 32-bit number as a value. -/
def Json.ofUInt32 (n : UInt32) : Json := .ofNat n.toNat

/-- A 64-bit number as a value. -/
def Json.ofUInt64 (n : UInt64) : Json := .ofNat n.toNat

namespace Header

/-- The names of the fields, in order. -/
def fieldNames : List String :=
  ["version", "prev_block_hash", "merkle_root", "timestamp", "bits", "nonce"]

/-- A header as a value. -/
def toJson (h : Header) : Json :=
  .ofFields [("version", .ofUInt32 h.version), ("prev_block_hash", h.previous.toJson),
    ("merkle_root", h.merkleRoot.toJson), ("timestamp", .ofUInt32 h.timestamp),
    ("bits", .ofUInt32 h.bits), ("nonce", .ofUInt32 h.nonce)]

/-- The header that a value stands for. -/
def ofJson? (j : Json) : Option Header := do
  match ← j.record? fieldNames with
  | [version, previous, merkleRoot, timestamp, bits, nonce] =>
    return {
      version := ← Json.required Json.uint32? version
      previous := ← Json.required Hash.ofJson? previous
      merkleRoot := ← Json.required Hash.ofJson? merkleRoot
      timestamp := ← Json.required Json.uint32? timestamp
      bits := ← Json.required Json.uint32? bits
      nonce := ← Json.required Json.uint32? nonce }
  | _ => none

end Header

namespace Block

/-- A block as a value. -/
def toJson (b : Block) : Json :=
  .ofFields [("hash", b.hash.toJson), ("height", .ofUInt64 b.height), ("bits", .ofUInt32 b.bits),
    ("timestamp", .ofUInt64 b.timestamp), ("prev_block_hash", b.previous.toJson)]

/-- The block that a value stands for. -/
def ofJson? (j : Json) : Option Block := do
  match ← j.record? ["hash", "height", "bits", "timestamp", "prev_block_hash"] with
  | [hash, height, bits, timestamp, previous] =>
    return {
      hash := ← Json.required Hash.ofJson? hash
      height := ← Json.required Json.uint64? height
      bits := ← Json.required Json.uint32? bits
      timestamp := ← Json.required Json.uint64? timestamp
      previous := ← Json.required Hash.ofJson? previous }
  | _ => none

end Block

end DarkGravity
