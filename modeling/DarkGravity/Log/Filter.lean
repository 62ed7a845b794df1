import DarkGravity.Log.Pattern.Checker
import DarkGravity.Log.Record
import DarkGravity.Log.Settings
import DarkGravity.Text.Numeral
import DarkGravity.Text.Offset

/-!
# Choosing the records to log

A filter is a list of directives between commas. A directive is a level, or a target, or a target
and a level; between them may stand a span in brackets with the fields that it must have. The most
specific directive that concerns a record decides: the longest target, then the most fields. A
directive that names a span, or a value of a field, concerns no record, because nothing here runs
inside a span; the value still has to be one that could be looked for.
-/

namespace DarkGravity.Log

/-- A field that a directive asks for. -/
structure FieldMatch where
  name : List Char
  value : Option (List Char)
  deriving DecidableEq, Repr

/-- One rule of a filter. -/
structure Directive where
  /-- The highest rank that is logged. -/
  rank : Nat
  /-- What the target has to begin with. -/
  target : Option (List Char)
  span : Option (List Char)
  fields : List FieldMatch
  deriving DecidableEq, Repr

/-- Why a text is no filter. -/
inductive FilterError where
  | badLevel
  | malformed
  /-- The value of a field is neither a number nor a pattern. -/
  | badPattern (error : Pattern.Error)
  /-- A part begins or ends inside of a character. -/
  | splitCharacter
  deriving DecidableEq, Repr

/-- The wording of a fault. -/
def FilterError.message : FilterError → String
  | .badLevel =>
    "error parsing level filter: expected one of \"off\", \"error\", \"warn\", \"info\", "
      ++ "\"debug\", \"trace\", or a number 0-5"
  | .malformed => "invalid filter directive"
  | .badPattern error => "invalid field filter: " ++ error.message
  | .splitCharacter => "a part of a filter directive is cut inside of a character"

/-- The rank that a text of digits names. A plus sign may stand before it. -/
def rankOfDigits? (text : List Char) : Option Nat :=
  let digits := match text with
    | '+' :: digits => digits
    | digits => digits
  if !digits.isEmpty && digits.all Char.isDigit then
    let n := Nat.ofDigitChars 10 digits 0
    if n ≤ Level.trace.rank then some n else none
  else none

/-- The names of ranks, in lower case. -/
def rankNames : List (String × Nat) :=
  [("error", 1), ("warn", 2), ("info", 3), ("debug", 4), ("trace", 5), ("off", 0)]

/-- The rank that a text names. Case does not matter, and an empty text stands for errors. -/
def rankOf? (text : List Char) : Option Nat :=
  match rankOfDigits? text with
  | some n => some n
  | none =>
    if text.isEmpty then some 1
    else rankNames.lookup (String.ofList (text.map Char.toLower))

namespace Directive

/-- The rank of a directive without a level. -/
def everything : Nat := Level.trace.rank

/-- A directive that concerns everything. -/
def all : Directive := ⟨everything, none, none, []⟩

/-- What is being read, with the offset of its first character. -/
inductive Part where
  | start
  | levelOrTarget (first : Nat)
  | span (first : Nat)
  | field (first : Nat)
  | afterFields
  | afterSpan
  | level (first : Nat)
  deriving DecidableEq, Repr

/-- The part of a text between two offsets. -/
def slice (text : List Char) (first last : Nat) : Except FilterError (List Char) :=
  match Text.slice? text first last with
  | some part => .ok part
  | none => .error .splitCharacter

/-- The part of a text from an offset on. -/
def behind (text : List Char) (first : Nat) : Except FilterError (List Char) :=
  slice text first (Text.bytes (String.ofList text)).length

/-- Checks the value of a field. -/
def checkValue (value : List Char) : Except FilterError Unit :=
  if Text.isNumeral value then .ok () else (Pattern.check value).mapError .badPattern

/-- The field that a text asks for. What follows a second equals sign is dropped. -/
def fieldMatch (text : List Char) : Except FilterError FieldMatch := do
  match text.splitOn '=' with
  | name :: value :: _ =>
    checkValue value
    return ⟨name, some value⟩
  | _ => return ⟨text, none⟩

/-- Whether a directive may begin with a character, other than a bracket. -/
def mayBegin (c : Char) : Bool :=
  Text.isAlphanumeric c || c == '-' || c == ':' || c == '_'

/-- Reads the character `c` at offset `i`. The parts are cut out of `text`. -/
def read (text : List Char) (s : Part × Directive) (c : Char) (i : Nat) :
    Except FilterError (Part × Directive) :=
  let (part, d) := s
  match part with
  | .start =>
    if c = '[' then .ok (.span (i + 1), d)
    else if mayBegin c then .ok (.levelOrTarget i, d)
    else .error .malformed
  | .levelOrTarget first =>
    if c = '=' || c = '[' then do
      let target ← slice text first i
      let next := if c = '=' then Part.level (i + 1) else Part.span (i + 1)
      return (next, { d with target := some target })
    else .ok (part, d)
  | .span first =>
    if c = ']' then do return (.afterSpan, { d with span := some (← slice text first i) })
    else if c = '{' then do
      let name ← slice text first i
      return (.field (i + 1), { d with span := if name.isEmpty then none else some name })
    else .ok (part, d)
  | .field first =>
    if c = '}' then do
      let field ← slice text first i
      if field.isEmpty then .error .malformed
      else return (.afterFields, { d with fields := d.fields ++ [← fieldMatch field] })
    else .ok (part, d)
  | .afterFields => if c = ']' then .ok (.afterSpan, d) else .error .malformed
  | .afterSpan => if c = '=' then .ok (.level (i + 1), d) else .error .malformed
  | .level _ => .ok (part, d)

/-- The directive at the end of its text. -/
def finish (text : List Char) (s : Part × Directive) : Except FilterError Directive := do
  let (part, d) := s
  match part with
  | .levelOrTarget first =>
    let rest ← behind text first
    -- a lone word is a level if it names one and a target otherwise
    match rankOf? rest with
    | some rank => return { d with rank := rank, target := none }
    | none => return { d with rank := everything, target := some rest }
  | .level first =>
    let rest ← behind text first
    if rest.isEmpty then return { d with rank := everything }
    else
      match rankOf? rest with
      | some rank => return { d with rank := rank }
      | none => .error .badLevel
  | .afterSpan => return d
  | _ => .error .malformed

/-- The directive in a text. Blanks around it are not read, but the offsets that were found without
them are used to cut the parts out of the text as it stands. -/
def parse (text : List Char) : Except FilterError Directive := do
  let places := Text.withOffsets 0 (Text.trim text)
  finish text (← places.foldlM (fun s (c, i) => read text s c i) (Part.start, all))

/-- Whether a directive can concern records outside of spans. -/
def isStatic (d : Directive) : Bool := d.span.isNone && d.fields.all fun f => f.value.isNone

/-- Whether a directive concerns a record. The message counts as a field. -/
def concerns (d : Directive) (r : Record) : Bool :=
  let targetOk := match d.target with
    | some target => target.isPrefixOf r.target.toList
    | none => true
  let names := "message".toList :: r.fields.map fun f => f.1.toList
  targetOk && d.fields.all fun f => names.contains f.name

/-- How specific a directive is: the length of its target, then the number of its fields, then their
names. -/
def specificity (d : Directive) : Nat × Nat × List (List Char) :=
  (match d.target with
    | some target => (Text.bytes (String.ofList target)).length + 1
    | none => 0,
    d.fields.length, d.fields.map FieldMatch.name)

/-- Whether one text goes before another in the order of their characters. -/
def textBefore (text other : List Char) : Bool :=
  text.lex other fun c d => c.toNat < d.toNat

/-- Whether one directive goes before another. Equals go before, so that the later of two holds. -/
def goesBefore (d e : Directive) : Bool :=
  let (t, n, names) := d.specificity
  let (t', n', names') := e.specificity
  t' < t || (t' = t && (n' < n || (n' = n && !names.lex names' textBefore)))

end Directive

/-- The directives that can concern records, those without fields first. -/
structure Filter where
  directives : List Directive
  deriving DecidableEq, Repr

namespace Filter

/-- The filter in a text. Nothing between two commas is no directive. -/
def parse (text : String) : Except FilterError Filter := do
  let parts := (text.toList.splitOn ',').filter fun part => !part.isEmpty
  let directives ← parts.mapM Directive.parse
  -- directives that are equally specific are tried in this order
  let (plain, other) := directives.partition fun d => d.span.isNone && d.fields.isEmpty
  return ⟨(plain ++ other).filter Directive.isStatic⟩

/-- The directive that decides about a record. -/
def deciding? (f : Filter) (r : Record) : Option Directive :=
  (f.directives.filter fun d => d.concerns r).foldl
    (fun best d =>
      match best with
      | some b => if d.goesBefore b then some d else best
      | none => some d)
    none

/-- Whether a record is logged. -/
def passes (f : Filter) (r : Record) : Bool :=
  match f.deciding? r with
  | some d => r.level.rank ≤ d.rank
  | none => false

end Filter

/-- The filter of a run: the directives that the environment gives for all programs, or those of the
settings if there are none or they are faulty. A cut inside of a character leaves no filter. -/
def Settings.filter (s : Settings) (w : World) : Except FilterError Filter :=
  match (w.env Settings.directivesVariable).map Filter.parse with
  | some (.ok f) => .ok f
  | some (.error .splitCharacter) => .error .splitCharacter
  | _ => Filter.parse s.level

end DarkGravity.Log
