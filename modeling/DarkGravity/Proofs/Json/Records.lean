import DarkGravity.Json.Record
import DarkGravity.Proofs.Json.RoundTrip
import Mathlib.Data.List.Nodup

/-!
# Reading written records

A record that was written has each field once, so its fields are found under their names, also when
some of them were left out of the text (`record?_without`). A field that may be left out is read as
its value if it is only left out where this is the default (`withDefault_omitted`).
-/

namespace DarkGravity.Json

/-! ## Numbers and truth values -/

theorem nat?_ofNat (n : ℕ) : (Json.ofNat n).nat? = some n := by
  have hdigits : (toString n).toList = Nat.toDigits 10 n := by
    rw [Nat.toString_eq_ofList_toDigits, String.toList_ofList]
  have hall : (Nat.toDigits 10 n).all Char.isDigit = true :=
    List.all_eq_true.mpr fun c hc => Nat.isDigit_of_mem_toDigits (by omega) (by omega) hc
  rw [Json.ofNat, nat?, hdigits, if_pos hall, Nat.ofDigitChars_ten_toDigits]

theorem uint32?_ofNat_toNat (n : UInt32) : (Json.ofNat n.toNat).uint32? = some n := by
  rw [uint32?, nat?_ofNat, Option.bind_some, if_pos n.toNat_lt_size, UInt32.ofNat_toNat]

theorem uint64?_ofNat_toNat (n : UInt64) : (Json.ofNat n.toNat).uint64? = some n := by
  rw [uint64?, nat?_ofNat, Option.bind_some, if_pos n.toNat_lt_size, UInt64.ofNat_toNat]

theorem bool?_bool (value : Bool) : (Json.bool value).bool? = some value := rfl

/-! ## Fields -/

/-- A value without the fields that have these names. -/
def without (omitted : List String) : Json → Json
  | .object fields => .object (fields.filter fun field => field.1.all (· ∉ omitted))
  | j => j

theorem without_nil (j : Json) : j.without [] = j := by
  cases j with
  | object fields => simp [without]
  | _ => rfl

theorem Natural.without {j : Json} (h : j.Natural) (omitted : List String) :
    (j.without omitted).Natural := by
  cases h with
  | object h => exact .object fun field hfield => h field (List.mem_of_mem_filter hfield)
  | null => exact .null
  | bool value => exact .bool value
  | ofNat n => exact .ofNat n
  | string text => exact .string text
  | array h => exact .array h

section

variable {fields : List (String × Json)} {omitted : List String}

theorem natural_ofFields (h : ∀ field ∈ fields, field.2.Natural) : (ofFields fields).Natural := by
  refine .object fun field hfield => ?_
  obtain ⟨named, hnamed, rfl⟩ := List.mem_map.mp hfield
  exact h named hnamed

theorem without_ofFields : (ofFields fields).without omitted =
    ofFields (fields.filter fun field => field.1 ∉ omitted) := by
  rw [ofFields, ofFields, without, List.filter_map]
  rfl

theorem field?_ofFields (name : String) :
    (ofFields fields).field? name = (fields.find? fun field => field.1 == name).map (·.2) := by
  rw [ofFields, field?, List.find?_map, Option.map_map]
  simp [Function.comp_def]

/-- Where names do not repeat, a field is the first one with its name. -/
theorem field?_of_mem (hnodup : (fields.map Prod.fst).Nodup) {field : String × Json}
    (hfield : field ∈ fields) : (ofFields fields).field? field.1 = some field.2 := by
  rw [field?_ofFields]
  induction fields with
  | nil => cases hfield
  | cons first fields ih =>
    obtain ⟨hfirst, hnodup⟩ := List.nodup_cons.mp hnodup
    rcases List.mem_cons.mp hfield with rfl | hfield
    · rw [List.find?_cons_of_pos (by simp)]
      rfl
    · have hother : first.1 ≠ field.1 := fun h => hfirst (h ▸ List.mem_map_of_mem hfield)
      rw [List.find?_cons_of_neg (by simpa using hother)]
      exact ih hnodup hfield

theorem field?_of_notMem {name : String} (h : name ∉ fields.map Prod.fst) :
    (ofFields fields).field? name = none := by
  rw [field?_ofFields, List.find?_eq_none.mpr]
  · rfl
  · rintro field hfield hname
    exact h (List.mem_map.mpr ⟨field, hfield, beq_iff_eq.mp hname⟩)

/-- Where names do not repeat, the fields are a record. -/
theorem record?_ofFields (hnodup : (fields.map Prod.fst).Nodup) (names : List String) :
    (ofFields fields).record? names = some (names.map (ofFields fields).field?) := by
  have hcount (name : String) :
      (fields.map fun field => (some field.1, field.2)).countP (·.1 == some name) ≤ 1 := by
    rw [List.countP_map]
    have hle := List.nodup_iff_count_le_one.mp hnodup name
    rw [List.count, List.countP_map] at hle
    simpa [Function.comp_def] using hle
  rw [ofFields, record?, if_pos]
  simp only [Bool.and_eq_true, List.all_eq_true, decide_eq_true_eq]
  refine ⟨?_, fun name _ => hcount name⟩
  intro field hfield
  obtain ⟨field, -, rfl⟩ := List.mem_map.mp hfield
  rfl

/-- The fields of a written record are found under their names. -/
theorem record?_written (hnodup : (fields.map Prod.fst).Nodup) :
    (ofFields fields).record? (fields.map Prod.fst) = some (fields.map (some ·.2)) := by
  rw [record?_ofFields hnodup, List.map_map]
  exact congrArg some (List.map_congr_left fun _ => field?_of_mem hnodup)

/-- So are the fields that are left when some are left out. -/
theorem record?_without (hnodup : (fields.map Prod.fst).Nodup) :
    ((ofFields fields).without omitted).record? (fields.map Prod.fst) =
      some (fields.map fun field => if field.1 ∈ omitted then none else some field.2) := by
  have hkept : ((fields.filter fun field => field.1 ∉ omitted).map Prod.fst).Nodup :=
    hnodup.sublist (List.filter_sublist.map _)
  rw [without_ofFields, record?_ofFields hkept, List.map_map]
  refine congrArg some (List.map_congr_left fun field hfield => ?_)
  rw [Function.comp_apply]
  split_ifs with homitted
  · refine field?_of_notMem fun h => ?_
    obtain ⟨kept, hmem, hname⟩ := List.mem_map.mp h
    have hnot : kept.1 ∉ omitted := by simpa using (List.mem_filter.mp hmem).2
    exact hnot (hname ▸ homitted)
  · exact field?_of_mem hkept (List.mem_filter.mpr ⟨hfield, by simpa using homitted⟩)

end

/-- A field that is left out only where its value is the default one. -/
theorem withDefault_omitted {α : Type} {decode : Json → Option α} {encode : α → Json}
    (hdecode : ∀ a, decode (encode a) = some a) {a default : α} {omitted : Prop}
    [Decidable omitted] (h : omitted → some (encode a) = some (encode default)) :
    withDefault default decode (if omitted then none else some (encode a)) = some a := by
  split_ifs with homitted
  · have hsame : encode a = encode default := Option.some.inj (h homitted)
    calc withDefault default decode none
      _ = some default := rfl
      _ = decode (encode default) := (hdecode default).symm
      _ = some a := by rw [← hsame, hdecode a]
  · exact hdecode a

end DarkGravity.Json
