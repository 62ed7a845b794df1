import DarkGravity.Json.Basic

/-!
# Records in JSON

A record is written as an object with named fields or as an array of its fields in order. In an
object, fields with other names are ignored, while a field that comes twice is an error; an array
must not be longer than the record.
-/

namespace DarkGravity.Json

/-- The values of the fields with these names, in the order of the names; `none` stands for a field
that is not there. -/
def record? (names : List String) : Json → Option (List (Option Json))
  | .object fields =>
    let count (name : String) := fields.countP fun f => f.1 == some name
    if fields.all (·.1.isSome) && names.all (count · ≤ 1) then
      some (names.map fun name => (Json.object fields).field? name)
    else none
  | .array items =>
    if items.length ≤ names.length then
      some (items.map some ++ List.replicate (names.length - items.length) none)
    else none
  | _ => none

/-- A field that has to be there. -/
def required {α : Type} (decode : Json → Option α) (field : Option Json) : Option α :=
  field.bind decode

/-- A field that has a value when it is not there. -/
def withDefault {α : Type} (default : α) (decode : Json → Option α) : Option Json → Option α
  | none => some default
  | some value => decode value

end DarkGravity.Json
