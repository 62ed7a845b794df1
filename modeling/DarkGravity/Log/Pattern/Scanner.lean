import DarkGravity.Log.Pattern.Basic
import DarkGravity.Text.Alphanumeric
import DarkGravity.Text.Blank
import DarkGravity.Text.Hex

/-!
# Pieces of patterns

The pieces that are read at one go: gaps, escapes, the names and switches of groups, and the members
of brackets. A reader takes the text that begins with its piece and gives the piece and the rest.
-/

namespace DarkGravity.Log.Pattern

/-- The text behind blanks and comments. A comment begins with a hash and ends with its line. -/
def skipGap (inComment : Bool) : List Char → List Char
  | [] => []
  | c :: rest =>
    if inComment then skipGap (c ≠ '\n') rest
    else if Text.isBlank c then skipGap false rest
    else if c = '#' then skipGap true rest
    else c :: rest

/-- The text behind a gap, if gaps are passed over. -/
def Modes.skip (m : Modes) (text : List Char) : List Char :=
  if m.spaced then skipGap false text else text

/-- The character behind a gap. A comment counts as a blank and what stands in it as text. -/
def Modes.peek? (m : Modes) (text : List Char) : Option Char :=
  if m.spaced then
    let behind := match text.dropWhile Text.isBlank with
      | '#' :: rest => rest.dropWhile Text.isBlank
      | rest => rest
    behind.head?.or text.head?
  else text.head?

/-- Whether a backslash before a character makes it stand for itself. These are the characters of
ASCII apart from letters, digits and the two brackets that ask for the ends of words. -/
def isEscapable (c : Char) : Bool :=
  c.toNat < 0x80 && !c.isAlphanum && c ≠ '<' && c ≠ '>'

/-- The code in a number of digits, between which there may be gaps. -/
def readCode? (m : Modes) (code : Nat) : Nat → List Char → Option (Nat × List Char)
  | 0, text => some (code, text)
  | digits + 1, text =>
    match m.skip text with
    | [] => none
    | c :: rest => do readCode? m (16 * code + (← Hex.value? c.toNat)) digits rest

/-- The character of a code. Half of a surrogate pair is none. -/
def charOf? (code : Nat) : Option Char :=
  if h : code.isValidChar then some (Char.ofNatAux code h) else none

/-- The atom behind a backslash. Properties of characters are not known, and a group cannot be
referred to. -/
def readEscape? (m : Modes) : List Char → Option (Atom × List Char)
  | [] => none
  | c :: rest =>
    let coded (digits : Nat) := do
      let (code, rest) ← readCode? m 0 digits rest
      return (.literal (← charOf? code) (digits = 2), rest)
    if isEscapable c then some (.literal c false, rest)
    else
      match c with
      | 'x' => coded 2
      | 'u' => coded 4
      | 'U' => coded 8
      | 'a' => some (.literal '\x07' false, rest)
      | 'f' => some (.literal '\x0c' false, rest)
      | 't' => some (.literal '\t' false, rest)
      | 'n' => some (.literal '\n' false, rest)
      | 'r' => some (.literal '\r' false, rest)
      | 'v' => some (.literal '\x0b' false, rest)
      | 'd' | 's' | 'w' => some (.shorthand false, rest)
      | 'D' | 'S' | 'W' => some (.shorthand true, rest)
      | 'A' | 'z' => some (.edge, rest)
      | 'b' | 'B' | '<' | '>' => some (.wordBoundary, rest)
      | _ => none

/-! ## Groups -/

/-- Whether a character may stand in the name of a group; the first of them has to be a letter or a
low line. -/
def mayName (isFirst : Bool) (c : Char) : Bool :=
  c = '_' || if isFirst then Text.isAlphabetic c
    else c = '.' || c = '[' || c = ']' || Text.isAlphanumeric c

/-- The name of a group before its closing bracket. -/
def readName? (text : List Char) : Option (List Char × List Char) :=
  let name := text.takeWhile (· ≠ '>')
  match name, text.dropWhile (· ≠ '>') with
  | first :: others, _ :: rest =>
    if mayName true first && others.all (mayName false) then some (name, rest) else none
  | _, _ => none

/-- Whether characters are switches: each comes once, and a hyphen has one behind it. -/
def areSwitches (text : List Char) : Bool :=
  text.all ("imsUuxR-".toList.contains ·) && text.getLast? ≠ some '-' && decide text.Nodup

/-- The switches after some have been turned on, and behind a hyphen off. -/
def Modes.turn (m : Modes) (switches : List Char) : Modes :=
  let on := switches.takeWhile (· ≠ '-')
  let setting (c : Char) (before : Bool) := if switches.contains c then on.contains c else before
  ⟨setting 'u' m.characters, setting 'i' m.foldsCase, setting 'x' m.spaced⟩

/-- How a parenthesis begins. -/
inductive Opening where
  /-- A group with its switches, and a name if it has one. -/
  | group (modes : Modes) (name : Option (List Char))
  /-- Switches for the rest of the group around it. -/
  | switches (modes : Modes)

/-- The beginning of a parenthesis, behind its mark. It cannot look ahead or behind. -/
def readOpening? (m : Modes) (text : List Char) : Option (Opening × List Char) :=
  match m.skip text with
  | '?' :: 'P' :: '<' :: rest => do
    let (name, rest) ← readName? rest
    return (.group m (some name), rest)
  | '?' :: '<' :: rest => do
    -- the marks of looking behind are no names
    let (name, rest) ← readName? rest
    return (.group m (some name), rest)
  | '?' :: rest =>
    let switches := rest.takeWhile fun c => c ≠ ':' && c ≠ ')'
    if areSwitches switches then
      match rest.drop switches.length with
      | ':' :: rest => some (.group (m.turn switches) none, rest)
      | ')' :: rest => if switches.isEmpty then none else some (.switches (m.turn switches), rest)
      | _ => none
    else none
  | rest => some (.group m none, rest)

/-! ## Brackets -/

/-- The names of the classes of ASCII. -/
def classNames : List String :=
  ["alnum", "alpha", "ascii", "blank", "cntrl", "digit", "graph", "lower", "print", "punct",
    "space", "upper", "word", "xdigit"]

/-- A class that is named between colons, behind its bracket. -/
def readNamed? (text : List Char) : Option (Member × List Char) :=
  match text with
  | ':' :: text =>
    let (negated, text) := match text with
      | '^' :: text => (true, text)
      | text => (false, text)
    let name := text.takeWhile (· ≠ ':')
    match text.drop name.length with
    | ':' :: ']' :: rest =>
      if classNames.contains (String.ofList name) then some (.named negated, rest) else none
    | _ => none
  | _ => none

/-- An atom in brackets, which is a character or stands behind a backslash. -/
def readAtom? (m : Modes) : List Char → Option (Atom × List Char)
  | [] => none
  | '\\' :: rest => readEscape? m rest
  | c :: rest => some (.literal c false, rest)

/-- The member that an atom is by itself. -/
def Atom.member? : Atom → Option Member
  | .literal c _ => some (.literal c)
  | .shorthand negated => some (.shorthand negated)
  | _ => none

/-- The member that two atoms with a hyphen between them are. -/
def Atom.range? : Atom → Atom → Option Member
  | .literal low _, .literal high _ => some (.range low high)
  | _, _ => none

/-- A member. A hyphen makes a range, unless the brackets end behind it or it is doubled. -/
def readMember? (m : Modes) (text : List Char) : Option (Member × List Char) := do
  let (atom, rest) ← readAtom? m text
  let rest := m.skip rest
  match rest with
  | '-' :: behind =>
    let next := m.peek? behind
    if next = some ']' || next = some '-' then return (← atom.member?, rest)
    else
      let (other, rest) ← readAtom? m (m.skip behind)
      return (← atom.range? other, rest)
  | _ => return (← atom.member?, rest)

end DarkGravity.Log.Pattern
