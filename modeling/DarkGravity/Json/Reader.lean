import DarkGravity.Json.Scanner

/-!
# Reading JSON

The reader assembles tokens into a value with a stack of the arrays and objects that are still open,
so values nest to any depth. Blanks are allowed around the one value of a text, and nothing else.
-/

namespace DarkGravity.Json

/-- An array or object that is still open; its parts are kept newest first. -/
inductive Frame where
  | array (items : List Json)
  | object (fields : List (Option String × Json))
  /-- An object whose last name waits for its value. -/
  | member (fields : List (Option String × Json)) (name : Option String)

/-- What may come next. -/
inductive Expect where
  | value
  /-- A first item or the end of the array. -/
  | firstItem
  /-- A first name or the end of the object. -/
  | firstName
  | name
  | colon
  /-- A comma or the end of what is open. -/
  | separator
  /-- Nothing: the value is complete. -/
  | nothing (result : Json)

/-- The open arrays and objects, innermost first, and what may come next. -/
structure Assembly where
  frames : List Frame
  expect : Expect

namespace Assembly

/-- Nothing read yet. -/
def start : Assembly := ⟨[], .value⟩

/-- Puts a complete value where it belongs. -/
def put (value : Json) : List Frame → Option Assembly
  | [] => some ⟨[], .nothing value⟩
  | .array items :: rest => some ⟨.array (value :: items) :: rest, .separator⟩
  | .member fields name :: rest => some ⟨.object ((name, value) :: fields) :: rest, .separator⟩
  | .object _ :: _ => none

/-- Takes a token where a value may begin. -/
def beginValue (frames : List Frame) : Token → Option Assembly
  | .null => put .null frames
  | .bool b => put (.bool b) frames
  | .number text => put (.number text) frames
  | .string text => put (.string text) frames
  | .openArray => some ⟨.array [] :: frames, .firstItem⟩
  | .openObject => some ⟨.object [] :: frames, .firstName⟩
  | _ => none

/-- Takes the name of a field. -/
def beginField : List Frame → Token → Option Assembly
  | .object fields :: rest, .string name => some ⟨.member fields name :: rest, .colon⟩
  | _, _ => none

/-- Closes the innermost array or object. -/
def close : List Frame → Token → Option Assembly
  | .array items :: rest, .closeArray => put (.array items.reverse) rest
  | .object fields :: rest, .closeObject => put (.object fields.reverse) rest
  | _, _ => none

/-- Takes a token after a part of an array or object. -/
def separate : List Frame → Token → Option Assembly
  | .array items :: rest, .comma => some ⟨.array items :: rest, .value⟩
  | .object fields :: rest, .comma => some ⟨.object fields :: rest, .name⟩
  | frames, token => close frames token

/-- Takes the next token. -/
def step (a : Assembly) (token : Token) : Option Assembly :=
  match a.expect with
  | .value => beginValue a.frames token
  | .firstItem =>
    if token = .closeArray then close a.frames token else beginValue a.frames token
  | .firstName =>
    if token = .closeObject then close a.frames token else beginField a.frames token
  | .name => beginField a.frames token
  | .colon => if token = .colon then some ⟨a.frames, .value⟩ else none
  | .separator => separate a.frames token
  | .nothing _ => none

end Assembly

/-- A reader between two characters. -/
structure Reader where
  scan : Scan
  assembly : Assembly

namespace Reader

/-- The reader before the first character. -/
def start : Reader := ⟨.between, .start⟩

/-- Takes the next character. -/
def step (r : Reader) (c : Char) : Option Reader := do
  let (scan, tokens) ← r.scan.step c
  let assembly ← tokens.foldlM Assembly.step r.assembly
  return ⟨scan, assembly⟩

/-- The value of the text that ended. -/
def finish (r : Reader) : Option Json := do
  let tokens ← r.scan.complete
  let assembly ← tokens.foldlM Assembly.step r.assembly
  match assembly.expect with
  | .nothing value => some value
  | _ => none

end Reader

/-- A place in a text, counted from one. -/
structure Position where
  line : Nat
  column : Nat
  deriving DecidableEq, Repr

namespace Position

/-- The place of the first character. -/
def start : Position := ⟨1, 1⟩

/-- The place after a character. -/
def next (p : Position) (c : Char) : Position :=
  if c = '\n' then ⟨p.line + 1, 1⟩ else ⟨p.line, p.column + 1⟩

end Position

/-- Why a text gives no value of the kind that is wanted. -/
inductive Error where
  /-- The text is no JSON from here on. -/
  | malformed (place : Position)
  /-- The text, which ends here, describes a value of another kind. -/
  | unfit (place : Position)
  deriving DecidableEq, Repr

/-- The wording of a fault. -/
def Error.message : Error → String
  | .malformed p => s!"malformed JSON at line {p.line} column {p.column}"
  | .unfit p => s!"unexpected kind of value at line {p.line} column {p.column}"

/-- Reads the rest of a text. -/
def readFrom (r : Reader) (place : Position) : List Char → Except Error (Json × Position)
  | [] =>
    match r.finish with
    | some value => .ok (value, place)
    | none => .error (.malformed place)
  | c :: rest =>
    -- the place of a fault is that of the character which cannot be read
    match r.step c with
    | some r => readFrom r (place.next c) rest
    | none => .error (.malformed place)

/-- The value of a text. -/
def parse (text : String) : Except Error Json :=
  (readFrom .start .start text.toList).map (·.1)

/-- The value of a text, taken as something of a kind. -/
def parseAs {α : Type} (decode : Json → Option α) (text : String) : Except Error α :=
  match readFrom .start .start text.toList with
  | .error e => .error e
  | .ok (value, place) =>
    match decode value with
    | some a => .ok a
    | none => .error (.unfit place)

end DarkGravity.Json
