import DarkGravity.Params.Source
import DarkGravity.Proofs.Json.Records
import DarkGravity.Proofs.Text.Hex
import DarkGravity.Replay.ChainFile

/-!
# Files are read back

Headers, blocks, chain files and parameters that are written as text are read back from it. In a
chain file that begins at zero the start height may be left out, and among parameters every field
that is as in the preset of the production network (`written_files_read_back`).
-/

namespace DarkGravity

/-! ## Hashes -/

namespace Hex

theorem isGap_digit : ∀ n < 16, isGap (UInt8.ofNat (digit n).toNat) = false := by
  decide

/-- The values of the digits of bytes, two for each. -/
def halves (bytes : List UInt8) : List ℕ :=
  bytes.flatMap fun b => [b.toNat / 16, b.toNat % 16]

/-- There is no blank among the digits of bytes, and each digit has its value. -/
theorem mapM_value?_ofBytes (bytes : List UInt8) :
    ((Text.bytes (ofBytes bytes)).filter fun b => !isGap b).mapM (fun b => value? b.toNat) =
      some (halves bytes) := by
  induction bytes with
  | nil => rfl
  | cons b rest ih =>
    have hhigh : b.toNat / 16 < 16 := Nat.div_lt_of_lt_mul b.toNat_lt
    have hlow : b.toNat % 16 < 16 := Nat.mod_lt _ (by omega)
    rw [bytes_ofBytes_cons, List.filter_cons_of_pos (by rw [isGap_digit _ hhigh]; rfl),
      List.filter_cons_of_pos (by rw [isGap_digit _ hlow]; rfl), List.mapM_cons, List.mapM_cons,
      value?_utf8_digit _ hhigh, value?_utf8_digit _ hlow, ih]
    rfl

theorem pairUp_halves (bytes : List UInt8) : pairUp (halves bytes) = bytes := by
  induction bytes with
  | nil => rfl
  | cons b rest ih =>
    rw [halves, List.flatMap_cons, List.cons_append, List.singleton_append, pairUp, ← halves, ih,
      Nat.div_add_mod, UInt8.ofNat_toNat]

end Hex

/-- A hash is read back from its stored-order digits. -/
theorem Hash.ofSpacedHex?_storedHex (h : Hash) : Hash.ofSpacedHex? h.storedHex = some h := by
  have hlength : (Text.bytes (Hex.ofBytes h.bytes)).length = 2 * 32 := by
    rw [Hex.length_of_decodePairs (Hex.decodePairs_ofBytes 0 h.bytes), h.length_bytes]
  have hdecode : Hex.decodeSpaced? 32 h.storedHex = some ⟨h.bytes, h.length_bytes⟩ := by
    simp only [Hex.decodeSpaced?, storedHex, if_pos hlength, Hex.mapM_value?_ofBytes,
      Option.map_some, Hex.pairUp_halves, List.take_left' h.length_bytes]
  rw [ofSpacedHex?, hdecode, Option.map_some]

theorem Hash.ofJson?_toJson (h : Hash) : Hash.ofJson? h.toJson = some h := by
  have hmark : Hash.unmarked ("0x" ++ h.storedHex) = h.storedHex := by
    have hchars : ("0x" ++ h.storedHex).toList = '0' :: 'x' :: h.storedHex.toList :=
      String.toList_append
    simp only [Hash.unmarked, hchars, String.ofList_toList]
  rw [Hash.ofJson?, Hash.toJson, Json.ofString, Json.string?, Option.bind_some, hmark,
    h.ofSpacedHex?_storedHex]

/-! ## Headers and blocks -/

theorem Hash.natural_toJson (h : Hash) : h.toJson.Natural := .string _

theorem Header.natural_toJson (h : Header) : h.toJson.Natural := by
  refine Json.natural_ofFields ?_
  simp [Json.ofUInt32, Json.Natural.ofNat, Hash.natural_toJson]

theorem Header.ofJson?_toJson (h : Header) : Header.ofJson? h.toJson = some h := by
  have hnodup : fieldNames.Nodup := by decide
  have hrecord : h.toJson.record? fieldNames =
      some [some (.ofUInt32 h.version), some h.previous.toJson, some h.merkleRoot.toJson,
        some (.ofUInt32 h.timestamp), some (.ofUInt32 h.bits), some (.ofUInt32 h.nonce)] :=
    Json.record?_written hnodup
  simp [ofJson?, hrecord, Json.required, Json.ofUInt32, Json.uint32?_ofNat_toNat,
    Hash.ofJson?_toJson]

theorem Block.natural_toJson (b : Block) : b.toJson.Natural := by
  refine Json.natural_ofFields ?_
  simp [Json.ofUInt32, Json.ofUInt64, Json.Natural.ofNat, Hash.natural_toJson]

theorem Block.ofJson?_toJson (b : Block) : Block.ofJson? b.toJson = some b := by
  have hnodup : ["hash", "height", "bits", "timestamp", "prev_block_hash"].Nodup := by decide
  have hrecord : b.toJson.record? ["hash", "height", "bits", "timestamp", "prev_block_hash"] =
      some [some b.hash.toJson, some (.ofUInt64 b.height), some (.ofUInt32 b.bits),
        some (.ofUInt64 b.timestamp), some b.previous.toJson] :=
    Json.record?_written hnodup
  simp [ofJson?, hrecord, Json.required, Json.ofUInt32, Json.ofUInt64, Json.uint32?_ofNat_toNat,
    Json.uint64?_ofNat_toNat, Hash.ofJson?_toJson]

/-! ## Chain files -/

namespace ChainFile

theorem Entry.natural_toJson (e : Entry) : e.toJson.Natural := by
  refine Json.natural_ofFields ?_
  simp [Json.ofUInt32, Json.ofString, Json.Natural.ofNat, Json.Natural.string]

theorem Entry.ofJson?_toJson (e : Entry) : Entry.ofJson? e.toJson = some e := by
  have hnodup : Header.fieldNames.Nodup := by decide
  have hrecord : e.toJson.record? Header.fieldNames =
      some [some (.ofUInt32 e.version), some (.ofString e.previous), some (.ofString e.merkleRoot),
        some (.ofUInt32 e.timestamp), some (.ofUInt32 e.bits), some (.ofUInt32 e.nonce)] :=
    Json.record?_written hnodup
  simp [ofJson?, hrecord, Json.required, Json.ofUInt32, Json.ofString, Json.string?,
    Json.uint32?_ofNat_toNat]

theorem mapM_ofJson?_toJson (entries : List Entry) :
    (entries.map Entry.toJson).mapM Entry.ofJson? = some entries := by
  induction entries with
  | nil => rfl
  | cons e entries ih => simp [Entry.ofJson?_toJson, ih]

theorem natural_toJson (c : ChainFile) : c.toJson.Natural := by
  have hentries : ∀ item ∈ c.headers.map Entry.toJson, item.Natural := by
    simp [Entry.natural_toJson]
  refine Json.natural_ofFields ?_
  simp [Json.ofUInt64, Json.Natural.ofNat, Json.Natural.array hentries]

/-- Where the start height is zero it may be left out. -/
theorem ofJson?_without (c : ChainFile) {omitted : List String} (hheaders : "headers" ∉ omitted)
    (hstart : "start_height" ∈ omitted → c.startHeight = 0) :
    ofJson? (c.toJson.without omitted) = some c := by
  have hnodup : ["start_height", "headers"].Nodup := by decide
  have hrecord : (c.toJson.without omitted).record? ["start_height", "headers"] =
      some [if "start_height" ∈ omitted then none else some (.ofNat c.startHeight.toNat),
        if "headers" ∈ omitted then none else some (.array (c.headers.map Entry.toJson))] :=
    Json.record?_without hnodup
  have hheight := Json.withDefault_omitted Json.uint64?_ofNat_toNat
    fun h => congrArg (fun n : UInt64 => some (Json.ofNat n.toNat)) (hstart h)
  simp [ofJson?, hrecord, hheight, hheaders, Json.required, Json.items?, mapM_ofJson?_toJson,
    -List.mapM_map]

end ChainFile

/-! ## Parameters -/

theorem Network.ofJson?_name (network : Network) :
    Network.ofJson? (.ofString network.name) = some network := network.ofName?_name

theorem Rule.ofJson?_name (rule : Rule) : Rule.ofJson? (.ofString rule.name) = some rule :=
  rule.ofName?_name

theorem Window.ofJson?_toJson (w : Window) : Window.ofJson? w.toJson = some w := by
  have hnodup : ["past_blocks_min", "past_blocks_max"].Nodup := by decide
  have hrecord : w.toJson.record? ["past_blocks_min", "past_blocks_max"] =
      some [some (.ofNat w.least.toNat), some (.ofNat w.most.toNat)] :=
    Json.record?_written hnodup
  simp [ofJson?, hrecord, Json.required, Json.uint64?_ofNat_toNat]

theorem Window.natural_toJson (w : Window) : w.toJson.Natural := by
  refine Json.natural_ofFields ?_
  simp [Json.Natural.ofNat]

namespace Params

theorem natural_toJson (p : Params) : p.toJson.Natural := by
  refine Json.natural_ofFields ?_
  simp [Json.ofString, Json.Natural.ofNat, Json.Natural.string, Json.Natural.bool,
    Window.natural_toJson]

/-- Fields that are as in the default parameters may be left out. -/
theorem ofJsonWith?_without {p default : Params} {omitted : List String}
    (h : ∀ name ∈ omitted, p.toJson.field? name = default.toJson.field? name) :
    ofJsonWith? default (p.toJson.without omitted) = some p := by
  have hnodup : fieldNames.Nodup := by decide
  have hrecord : (p.toJson.without omitted).record? fieldNames = _ := Json.record?_without hnodup
  have hnetwork := Json.withDefault_omitted Network.ofJson?_name (h "network")
  have hspacing := Json.withDefault_omitted Json.uint64?_ofNat_toNat (h "target_spacing")
  have htimespan := Json.withDefault_omitted Json.uint64?_ofNat_toNat (h "target_timespan")
  have hceiling := Json.withDefault_omitted Json.uint32?_ofNat_toNat (h "max_target_bits")
  have hfork := Json.withDefault_omitted Json.uint64?_ofNat_toNat (h "threshold_height")
  have hwindowV1 := Json.withDefault_omitted Window.ofJson?_toJson (h (windowField .v1))
  have hwindowV3 := Json.withDefault_omitted Window.ofJson?_toJson (h (windowField .v3))
  have hrule := Json.withDefault_omitted Rule.ofJson?_name (h "retarget")
  have hrelaxed := Json.withDefault_omitted Json.bool?_bool (h "allow_min_difficulty_blocks")
  simp only [ofJsonWith?, hrecord, List.map_cons, List.map_nil, Option.bind_eq_bind,
    Option.bind_some, hnetwork, hspacing, htimespan, hceiling, hfork, hwindowV1, hwindowV3, hrule,
    hrelaxed]
  rfl

/-- The texts of parameters: all fields are written, or some are left out that are as in the preset
of the production network. -/
inductive WrittenAs (p : Params) : String → Prop
  | full : WrittenAs p p.toJson.render
  | without (omitted : List String)
    (h : ∀ name ∈ omitted, p.toJson.field? name = mainnet.toJson.field? name) :
    WrittenAs p (p.toJson.without omitted).render

theorem WrittenAs.parseAs {p : Params} {text : String} (h : p.WrittenAs text) :
    Json.parseAs ofJson? text = .ok p := by
  have hleft {omitted : List String}
      (h : ∀ name ∈ omitted, p.toJson.field? name = mainnet.toJson.field? name) :
      Json.parseAs ofJson? (p.toJson.without omitted).render = .ok p :=
    Json.parseAs_render (p.natural_toJson.without omitted) (ofJsonWith?_without h)
  cases h with
  | full =>
    rw [← Json.without_nil p.toJson]
    exact hleft (by simp)
  | without omitted h => exact hleft h

/-- The parameters that are the text of a file are validated. -/
theorem ofFile_of_parseAs {w : World} {path text : String} {p : Params}
    (hfile : w.file path = .ok text.toUTF8) (htext : Json.parseAs ofJson? text = .ok p) :
    ofFile w path = p.validated := by
  have hdecoded : String.fromUTF8? text.toUTF8 = some text := dif_pos text.isValidUTF8
  have hread : w.readText path = .ok text := by
    simp only [World.readText, hfile, hdecoded, bind, Except.bind]
  simp only [ofFile, hread, ofText, htext]

theorem validated_eq_ok_iff {p : Params} :
    p.validated = .ok p ↔ ∃ ceiling, p.validate = .ok ceiling := by
  unfold validated
  split <;> simp_all

end Params

/-! ## Files -/

/-- Headers, blocks, chain files and parameters are read back from their texts. In a chain file that
begins at zero the start height may be left out; among parameters those fields may be left out that
are as in the preset of the production network, and the file is accepted exactly if the parameters
are valid. -/
theorem written_files_read_back :
    (∀ h : Header, Json.parseAs Header.ofJson? h.toJson.render = .ok h) ∧
    (∀ b : Block, Json.parseAs Block.ofJson? b.toJson.render = .ok b) ∧
    (∀ c : ChainFile, Json.parseAs ChainFile.ofJson? c.toJson.render = .ok c ∧
      (c.startHeight = 0 →
        Json.parseAs ChainFile.ofJson? (c.toJson.without ["start_height"]).render = .ok c)) ∧
    ∀ (p : Params) (text : String), p.WrittenAs text →
      Json.parseAs Params.ofJson? text = .ok p ∧
      ∀ (w : World) (path : String), w.file path = .ok text.toUTF8 →
        (Params.ofFile w path = .ok p ↔ ∃ ceiling, p.validate = .ok ceiling) := by
  refine ⟨fun h => Json.parseAs_render h.natural_toJson h.ofJson?_toJson,
    fun b => Json.parseAs_render b.natural_toJson b.ofJson?_toJson,
    fun c => ⟨?_, fun hstart => ?_⟩, fun p text htext => ⟨htext.parseAs, fun w path hfile => ?_⟩⟩
  · have hread : ChainFile.ofJson? (c.toJson.without []) = some c :=
      c.ofJson?_without (by simp) (by simp)
    rw [Json.without_nil] at hread
    exact Json.parseAs_render c.natural_toJson hread
  · exact Json.parseAs_render (c.natural_toJson.without _)
      (c.ofJson?_without (by decide) fun _ => hstart)
  · rw [Params.ofFile_of_parseAs hfile htext.parseAs, Params.validated_eq_ok_iff]

/-- Testnet parameters are written by the three fields in which they are not as in production. -/
theorem written_files_read_back_of_testnet :
    let c : ChainFile := ⟨0, [.ofHeader ⟨2, .zero, .zero, 1400000000, 0x1e0fffff, 7⟩]⟩
    let p := Params.preset .testnet
    let j := p.toJson.without ["target_spacing", "target_timespan", "threshold_height", "dgw_v1",
      "dgw_v3", "retarget"]
    let w : World := ⟨fun _ => .ok j.render.toUTF8, fun _ => none⟩
    j.render = "\x7b\"network\":\"testnet\",\"max_target_bits\":503382015," ++
      "\"allow_min_difficulty_blocks\":true\x7d" ∧
    c.startHeight = 0 ∧
    Json.parseAs ChainFile.ofJson? (c.toJson.without ["start_height"]).render = .ok c ∧
    p.WrittenAs j.render ∧ w.file "params.json" = .ok j.render.toUTF8 ∧
    (Params.ofFile w "params.json" = .ok p ↔ ∃ ceiling, p.validate = .ok ceiling) := by
  obtain ⟨-, -, hchain, hparams⟩ := written_files_read_back
  have hwritten : (Params.preset .testnet).WrittenAs
      ((Params.preset .testnet).toJson.without ["target_spacing", "target_timespan",
        "threshold_height", "dgw_v1", "dgw_v3", "retarget"]).render :=
    .without _ (by simp only [List.forall_mem_cons]; exact ⟨rfl, rfl, rfl, rfl, rfl, rfl, by simp⟩)
  exact ⟨by decide +kernel, rfl, (hchain _).2 rfl, hwritten, rfl, (hparams _ _ hwritten).2 _ _ rfl⟩

end DarkGravity
