import DarkGravity.Proofs.Replay.ChainFile
import DarkGravity.Proofs.Text.Digits

/-!
# The forms of a header

A header is written in two forms. As 80 bytes it is laid out at fixed offsets, and every string of
80 bytes is the layout of exactly one header (`Header.bytes_ofBytes`, `Header.bytes_injective`). As
an entry of a chain file its hashes are texts; an entry is read exactly when both spell 32 bytes, and
the header that is read is written as the same entry but for the case of the digits
(`header_forms`).
-/

namespace DarkGravity

/-! ## Words -/

/-- The word that four bytes lay out, least significant first. -/
def Bytes.word (part : List UInt8) : UInt32 := UInt32.ofNat (Bytes.toNat part)

theorem Bytes.littleEndian_word {part : List UInt8} (h : part.length = 4) :
    Bytes.littleEndian 4 (Bytes.word part).toNat = part := by
  have hlt : Bytes.toNat part < Bytes.weight 4 := h ▸ Bytes.toNat_lt part
  have hword : (Bytes.word part).toNat = Bytes.toNat part := by
    rw [Bytes.word, UInt32.toNat_ofNat']
    exact Nat.mod_eq_of_lt hlt
  rw [hword, ← h, Bytes.littleEndian_toNat]

theorem Bytes.word_littleEndian (word : UInt32) :
    Bytes.word (Bytes.littleEndian 4 word.toNat) = word := by
  have hlt : word.toNat < Bytes.weight 4 := word.toNat_lt
  rw [Bytes.word, Bytes.toNat_littleEndian, Nat.mod_eq_of_lt hlt, UInt32.ofNat_toNat]

theorem Bytes.eq_of_littleEndian_eq {word word' : UInt32}
    (h : Bytes.littleEndian 4 word.toNat = Bytes.littleEndian 4 word'.toNat) : word = word' := by
  rw [← Bytes.word_littleEndian word, h, Bytes.word_littleEndian]

/-! ## 80 bytes -/

namespace Header

/-- The header that 80 bytes lay out. -/
def ofBytes (bytes : List UInt8) (h : bytes.length = 80) : Header where
  version := Bytes.word (bytes.take 4)
  previous := ⟨(bytes.drop 4).take 32, by simp [h]⟩
  merkleRoot := ⟨(bytes.drop 36).take 32, by simp [h]⟩
  timestamp := Bytes.word ((bytes.drop 68).take 4)
  bits := Bytes.word ((bytes.drop 72).take 4)
  nonce := Bytes.word ((bytes.drop 76).take 4)

/-- The fields of a layout follow one another without a gap. -/
theorem bytes_ofBytes {bytes : List UInt8} (h : bytes.length = 80) :
    (ofBytes bytes h).bytes = bytes := by
  have hversion : (bytes.take 4).length = 4 := by simp [h]
  have htimestamp : ((bytes.drop 68).take 4).length = 4 := by simp [h]
  have hbits : ((bytes.drop 72).take 4).length = 4 := by simp [h]
  have hnonce : ((bytes.drop 76).take 4).length = 4 := by simp [h]
  simp only [Header.bytes, ofBytes, Bytes.littleEndian_word hversion,
    Bytes.littleEndian_word htimestamp, Bytes.littleEndian_word hbits,
    Bytes.littleEndian_word hnonce, ← List.take_add]
  exact List.take_of_length_le (Nat.le_of_eq h)

/-- Headers with the same layout are equal: as every field has its width, the layouts agree field by
field. -/
theorem bytes_injective {h h' : Header} (heq : h.bytes = h'.bytes) : h = h' := by
  obtain ⟨version, previous, merkleRoot, timestamp, bits, nonce⟩ := h
  obtain ⟨version', previous', merkleRoot', timestamp', bits', nonce'⟩ := h'
  simp only [Header.bytes] at heq
  obtain ⟨heq, hnonce⟩ := List.append_inj' heq (by simp)
  obtain ⟨heq, hbits⟩ := List.append_inj' heq (by simp)
  obtain ⟨heq, htimestamp⟩ := List.append_inj' heq (by simp)
  obtain ⟨heq, hroot⟩ := List.append_inj' heq (by simp [Hash.length_bytes])
  obtain ⟨hversion, hprevious⟩ := List.append_inj' heq (by simp [Hash.length_bytes])
  obtain rfl := Hash.ext hprevious
  obtain rfl := Hash.ext hroot
  obtain rfl := Bytes.eq_of_littleEndian_eq hversion
  obtain rfl := Bytes.eq_of_littleEndian_eq htimestamp
  obtain rfl := Bytes.eq_of_littleEndian_eq hbits
  obtain rfl := Bytes.eq_of_littleEndian_eq hnonce
  rfl

end Header

/-! ## Entries -/

namespace ChainFile.Entry

/-- The text of a field is a hash exactly when it spells 32 bytes. -/
theorem hashOf_eq_ok_iff {field text : String} {hash : Hash} :
    hashOf field text = .ok hash ↔ Hex.Spells 32 text ∧ hash.display = text.toLower := by
  rw [hashOf, Except.mapError_eq_ok_iff, Hash.ofDisplay_eq_ok_iff]

/-- Any other text is a fault of its field. -/
theorem hashOf_of_not_spells (field : String) {text : String} (h : ¬ Hex.Spells 32 text) :
    ∃ error, hashOf field text = .error ⟨field, text, error⟩ := by
  cases hread : Hash.ofDisplay text with
  | ok hash => exact absurd (Hash.ofDisplay_eq_ok_iff.mp hread).1 h
  | error error => exact ⟨error, by rw [hashOf, hread]; rfl⟩

theorem exists_hashOf (field : String) {text : String} (h : Hex.Spells 32 text) :
    ∃ hash, hashOf field text = .ok hash := by
  obtain ⟨hash, hhash⟩ := Hash.exists_ofDisplay h
  exact ⟨hash, by rw [hashOf, hhash]; rfl⟩

theorem header_of_previous_fault {e : Entry} {fault : Fault}
    (h : hashOf "prev_block_hash" e.previous = .error fault) : e.header = .error fault := by
  rw [header, h]
  rfl

theorem header_of_root_fault {e : Entry} {previous : Hash} {fault : Fault}
    (hprevious : hashOf "prev_block_hash" e.previous = .ok previous)
    (hroot : hashOf "merkle_root" e.merkleRoot = .error fault) : e.header = .error fault := by
  rw [header, hprevious, hroot]
  rfl

theorem header_of_hashes {e : Entry} {previous root : Hash}
    (hprevious : hashOf "prev_block_hash" e.previous = .ok previous)
    (hroot : hashOf "merkle_root" e.merkleRoot = .ok root) :
    e.header = .ok ⟨e.version, previous, root, e.timestamp, e.bits, e.nonce⟩ := by
  rw [header, hprevious, hroot]
  rfl

/-- The entry with its digits in lower case. -/
def toLower (e : Entry) : Entry :=
  { e with previous := e.previous.toLower, merkleRoot := e.merkleRoot.toLower }

/-- An entry is read exactly when both texts spell 32 bytes, and as the header whose entry is the
same in lower case. -/
theorem header_eq_ok_iff {e : Entry} {h : Header} :
    e.header = .ok h ↔
      Hex.Spells 32 e.previous ∧ Hex.Spells 32 e.merkleRoot ∧ ofHeader h = e.toLower := by
  constructor
  · intro hread
    cases hprevious : hashOf "prev_block_hash" e.previous with
    | error fault =>
      rw [header_of_previous_fault hprevious] at hread
      cases hread
    | ok previous =>
      cases hroot : hashOf "merkle_root" e.merkleRoot with
      | error fault =>
        rw [header_of_root_fault hprevious hroot] at hread
        cases hread
      | ok root =>
        rw [header_of_hashes hprevious hroot] at hread
        obtain rfl := Except.ok.inj hread
        obtain ⟨hspells, hdisplay⟩ := hashOf_eq_ok_iff.mp hprevious
        obtain ⟨hspells', hdisplay'⟩ := hashOf_eq_ok_iff.mp hroot
        refine ⟨hspells, hspells', ?_⟩
        simp only [ofHeader, toLower, hdisplay, hdisplay']
  · rintro ⟨hspells, hspells', hentry⟩
    simp only [ofHeader, toLower, Entry.mk.injEq] at hentry
    obtain ⟨hversion, hprevious, hroot, htimestamp, hbits, hnonce⟩ := hentry
    rw [header_of_hashes (hashOf_eq_ok_iff.mpr ⟨hspells, hprevious⟩)
      (hashOf_eq_ok_iff.mpr ⟨hspells', hroot⟩), ← hversion, ← htimestamp, ← hbits, ← hnonce]

theorem exists_header_iff {e : Entry} :
    (∃ h, e.header = .ok h) ↔ Hex.Spells 32 e.previous ∧ Hex.Spells 32 e.merkleRoot := by
  constructor
  · rintro ⟨h, hread⟩
    obtain ⟨hprevious, hroot, -⟩ := header_eq_ok_iff.mp hread
    exact ⟨hprevious, hroot⟩
  · rintro ⟨hspells, hspells'⟩
    obtain ⟨previous, hprevious⟩ := exists_hashOf "prev_block_hash" hspells
    obtain ⟨root, hroot⟩ := exists_hashOf "merkle_root" hspells'
    exact ⟨_, header_of_hashes hprevious hroot⟩

end ChainFile.Entry

open ChainFile (Entry)

/-- Both forms lose nothing. The entry of a header is read as this header. An entry is read exactly
when both its texts spell 32 bytes; written again it has its digits in lower case, and of two bad
texts that of the parent is reported. Headers with the same 80 bytes are equal, and any 80 bytes are
those of one header. -/
theorem header_forms :
    (∀ h : Header, (Entry.ofHeader h).header = .ok h) ∧
    (∀ e : Entry,
      ((∃ h, e.header = .ok h) ↔ Hex.Spells 32 e.previous ∧ Hex.Spells 32 e.merkleRoot) ∧
      (∀ h, e.header = .ok h → Entry.ofHeader h = e.toLower) ∧
      (¬ Hex.Spells 32 e.previous →
        ∃ error, e.header = .error ⟨"prev_block_hash", e.previous, error⟩) ∧
      (Hex.Spells 32 e.previous → ¬ Hex.Spells 32 e.merkleRoot →
        ∃ error, e.header = .error ⟨"merkle_root", e.merkleRoot, error⟩)) ∧
    (∀ h h' : Header, h.bytes = h'.bytes → h = h') ∧
    ∀ bytes : List UInt8, bytes.length = 80 → ∃! h : Header, h.bytes = bytes := by
  refine ⟨Entry.names_ofHeader, ?_, fun h h' => Header.bytes_injective, ?_⟩
  · intro e
    refine ⟨Entry.exists_header_iff, fun h hread => (Entry.header_eq_ok_iff.mp hread).2.2, ?_, ?_⟩
    · intro hprevious
      obtain ⟨error, herror⟩ := Entry.hashOf_of_not_spells "prev_block_hash" hprevious
      exact ⟨error, Entry.header_of_previous_fault herror⟩
    · intro hspells hroot
      obtain ⟨previous, hprevious⟩ := Entry.exists_hashOf "prev_block_hash" hspells
      obtain ⟨error, herror⟩ := Entry.hashOf_of_not_spells "merkle_root" hroot
      exact ⟨error, Entry.header_of_root_fault hprevious herror⟩
  · intro bytes hlength
    refine ⟨Header.ofBytes bytes hlength, Header.bytes_ofBytes hlength, ?_⟩
    intro h hbytes
    exact Header.bytes_injective (hbytes.trans (Header.bytes_ofBytes hlength).symm)

/-- An entry with a parent in upper case is read and written again in lower case. With a Merkle root
that is no hash it is refused for the root, and with two such texts for the parent. -/
theorem header_forms_of_upper_case :
    let all (digit : Char) : String := String.ofList (List.replicate 64 digit)
    let e : Entry := ⟨112, all 'A', all '0', 1395342829, 0x1e0fffff, 220035⟩
    (∃ h, e.header = .ok h ∧ Entry.ofHeader h = { e with previous := all 'a' }) ∧
    (∃ error, ({ e with merkleRoot := "0" } : Entry).header =
      .error ⟨"merkle_root", "0", error⟩) ∧
    (∃ error, ({ e with previous := "", merkleRoot := "0" } : Entry).header =
      .error ⟨"prev_block_hash", "", error⟩) ∧
    ∃! h : Header, h.bytes = List.replicate 80 1 := by
  intro all e
  obtain ⟨-, hentries, -, hlayout⟩ := header_forms
  have hspells : ∀ digit, Hex.IsDigit digit → Hex.Spells 32 (all digit) := by
    intro digit hdigit
    simp [all, Hex.Spells, hdigit]
  have hlower : ∀ digit, (all digit).toLower = all digit.toLower := by
    intro digit
    rw [← String.toList_inj, Text.toList_toLower]
    simp [all]
  have hupper : Hex.Spells 32 (all 'A') := hspells 'A' (by decide)
  obtain ⟨h, hread⟩ := (hentries e).1.mpr ⟨hupper, hspells '0' (by decide)⟩
  have hwritten : e.toLower = { e with previous := all 'a' } := by
    rw [Entry.toLower, hlower, hlower]
    rfl
  refine ⟨⟨h, hread, ((hentries e).2.1 h hread).trans hwritten⟩, ?_, ?_, hlayout _ (by simp)⟩
  · exact (hentries { e with merkleRoot := "0" }).2.2.2 hupper (by decide)
  · exact (hentries { e with previous := "", merkleRoot := "0" }).2.2.1 (by decide)

end DarkGravity
