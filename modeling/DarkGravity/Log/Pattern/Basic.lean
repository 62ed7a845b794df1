/-!
# Patterns

A pattern is a regular expression that the value of a field has to match. Values are only looked at
inside of spans and nothing here runs inside of one, so a pattern is checked and never matched.
What a pattern may hold depends on the switches in force: a pattern speaks of characters unless it
switches to bytes, and then none of the sets in it may reach a byte that is no character by itself,
even where another set would take that byte away again. There are no tables of the properties of
characters, so letters of either case, digits and blanks are known only among bytes.
-/

namespace DarkGravity.Log.Pattern

/-- Why a text is no pattern that can be run. -/
inductive Error where
  /-- It breaks the grammar or asks for what there is not. -/
  | malformed
  /-- It asks where words of any script begin or end. -/
  | wordBoundary
  deriving DecidableEq, Repr

/-- The wording of a fault. -/
def Error.message : Error → String
  | .malformed => "error building NFA"
  | .wordBoundary =>
    "unsupported regex feature for DFAs: cannot build DFAs for regexes with Unicode word "
      ++ "boundaries; switch to ASCII word boundaries, or heuristically enable Unicode word "
      ++ "boundaries or use a different regex engine"

/-- The switches that decide what a pattern means. -/
structure Modes where
  /-- Whether it speaks of characters; else it speaks of bytes. -/
  characters : Bool
  /-- Whether letters stand for both cases. -/
  foldsCase : Bool
  /-- Whether blanks and comments are passed over. -/
  spaced : Bool
  deriving DecidableEq, Repr

/-- The switches at the beginning. -/
def Modes.start : Modes := ⟨true, false, false⟩

/-- What stands for one character or one place. -/
inductive Atom where
  /-- A character; `isByte` tells that it was written as the two digits of a byte. -/
  | literal (c : Char) (isByte : Bool)
  /-- Any character but the end of a line. -/
  | any
  /-- The digits, the blanks or the characters of words, or all others. -/
  | shorthand (negated : Bool)
  /-- The beginning or the end of a line or of the text. -/
  | edge
  /-- The beginning or the end of a word, or any other place. -/
  | wordBoundary
  deriving DecidableEq, Repr

/-- What stands in brackets. -/
inductive Member where
  | literal (c : Char)
  | range (low high : Char)
  | shorthand (negated : Bool)
  /-- A class of ASCII that has a name. -/
  | named (negated : Bool)
  deriving DecidableEq, Repr

namespace Modes

/-- Whether an atom may stand outside of brackets. -/
def allow (m : Modes) : Atom → Bool
  | .literal c isByte => if m.characters then !m.foldsCase else !isByte || c.toNat < 0x80
  | .any => m.characters
  | .shorthand negated => !m.characters && !negated
  | .edge => true
  | .wordBoundary => true

/-- Whether a member may stand in brackets. -/
def allowMember (m : Modes) : Member → Bool
  | .literal c => if m.characters then !m.foldsCase else c.toNat < 0x80
  | .range low high =>
    low.toNat ≤ high.toNat && if m.characters then !m.foldsCase else high.toNat < 0x80
  | .shorthand negated => !m.characters && !negated
  | .named negated => if m.characters then !m.foldsCase else !negated

/-- Whether brackets may be closed. Among bytes a negated set reaches the bytes outside ASCII. Where
letters stand for both cases no member is allowed that would bring only one of them, so a set that
is negated there has both or none of them. -/
def allowBrackets (m : Modes) (negated : Bool) : Bool := !negated || m.characters

end Modes

end DarkGravity.Log.Pattern
