/-!
# JSON values

Values keep what the text says: the digits of numbers, the order of fields, and fields that
repeat. A string of escapes may stand for half of a surrogate pair, which no text contains; such a
string is `none`.
-/

namespace DarkGravity

/-- A JSON value. -/
inductive Json where
  | null
  | bool (value : Bool)
  /-- A number as it was written. -/
  | number (text : String)
  /-- A string, or `none` if it stands for no text. -/
  | string (text : Option String)
  | array (items : List Json)
  /-- Fields in the order in which they were written. -/
  | object (fields : List (Option String × Json))

namespace Json

/-- A text as a value. -/
def ofString (text : String) : Json := .string (some text)

/-- A natural number as a value. -/
def ofNat (n : Nat) : Json := .number (toString n)

/-- An integer as a value. -/
def ofInt (n : Int) : Json := .number (toString n)

/-- Named fields as a value. -/
def ofFields (fields : List (String × Json)) : Json :=
  .object (fields.map fun (name, value) => (some name, value))

/-- The first field with a name. -/
def field? (name : String) : Json → Option Json
  | .object fields => (fields.find? fun f => f.1 == some name).map (·.2)
  | _ => none

/-- The value of a number without sign, fraction and exponent. -/
def nat? : Json → Option Nat
  | .number text =>
    if text.toList.all Char.isDigit then some (Nat.ofDigitChars 10 text.toList 0) else none
  | _ => none

/-- The value of an integer with or without sign. -/
def int? : Json → Option Int
  | .number text =>
    match text.toList with
    | '-' :: digits =>
      if digits.all Char.isDigit then some (-(Nat.ofDigitChars 10 digits 0 : Int)) else none
    | digits =>
      if digits.all Char.isDigit then some (Nat.ofDigitChars 10 digits 0 : Int) else none
  | _ => none

/-- A number below 2³². -/
def uint32? (j : Json) : Option UInt32 :=
  j.nat?.bind fun n => if n < UInt32.size then some (UInt32.ofNat n) else none

/-- A number below 2⁶⁴. -/
def uint64? (j : Json) : Option UInt64 :=
  j.nat?.bind fun n => if n < UInt64.size then some (UInt64.ofNat n) else none

/-- The value of a boolean. -/
def bool? : Json → Option Bool
  | .bool value => some value
  | _ => none

/-- The text of a string. -/
def string? : Json → Option String
  | .string text => text
  | _ => none

/-- The items of an array. -/
def items? : Json → Option (List Json)
  | .array items => some items
  | _ => none

/-- The name of a choice without content: a string, or an object whose one field has that name and
the value null. -/
def choice? : Json → Option String
  | .string text => text
  | .object [(name, .null)] => name
  | _ => none

end Json

end DarkGravity
