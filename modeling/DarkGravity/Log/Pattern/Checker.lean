import DarkGravity.Log.Pattern.Scanner

/-!
# Checking patterns

A pattern is read once, piece by piece, with a stack of the groups and brackets that are open. Of
what was read only the depth of its nesting is kept, because a pattern may nest no deeper than a
limit.
-/

namespace DarkGravity.Log.Pattern

/-! ## Brackets -/

/-- Brackets that are open. -/
structure Brackets where
  negated : Bool
  /-- Whether nothing but hyphens was read; they are members, and so is a closing bracket at the
  very beginning. -/
  atStart : Bool
  /-- The depth of what stands before the last mark of combination. -/
  left : Option Nat
  /-- The number of members behind it. -/
  count : Nat
  /-- The depth of the deepest of them. -/
  depth : Nat
  deriving DecidableEq, Repr

namespace Brackets

/-- Brackets behind their mark. -/
def opened (negated : Bool) : Brackets := ⟨negated, true, none, 0, 0⟩

/-- Adds a member. -/
def add (b : Brackets) (depth : Nat) : Brackets :=
  { b with count := b.count + 1, depth := max b.depth depth }

/-- The depth of what was read. -/
def total (b : Brackets) : Nat :=
  let right := if b.count < 2 then b.depth else b.depth + 1
  match b.left with
  | some left => max left right + 1
  | none => right

/-- Combines the set that was read with what follows, be it by intersection or by difference. -/
def combine (b : Brackets) : Brackets := ⟨b.negated, false, some b.total, 0, 0⟩

end Brackets

/-! ## Groups -/

/-- The elements of a branch, one behind the other. -/
structure Branch where
  count : Nat
  depth : Nat
  /-- The depth of the last element, if that can be repeated. -/
  last : Option Nat
  deriving DecidableEq, Repr

namespace Branch

/-- A branch without elements. -/
def empty : Branch := ⟨0, 0, none⟩

/-- Adds an element. -/
def add (b : Branch) (depth : Nat) : Branch := ⟨b.count + 1, max b.depth depth, some depth⟩

/-- Adds an element that cannot be repeated. -/
def addBare (b : Branch) : Branch := { b with count := b.count + 1, last := none }

/-- Repeats the last element. -/
def repeat? (b : Branch) : Option Branch :=
  b.last.map fun depth => { b with depth := max b.depth (depth + 1), last := some (depth + 1) }

/-- The depth of the whole branch. -/
def total (b : Branch) : Nat := if b.count < 2 then b.depth else b.depth + 1

end Branch

/-- A group that is open, or the whole pattern. -/
structure Group where
  /-- The switches around it. -/
  outside : Modes
  /-- The number of branches before the last. -/
  count : Nat
  /-- The depth of the deepest of them. -/
  depth : Nat
  branch : Branch
  deriving DecidableEq, Repr

namespace Group

/-- A group behind its mark. -/
def opened (outside : Modes) : Group := ⟨outside, 0, 0, Branch.empty⟩

/-- Begins another branch. -/
def alternate (g : Group) : Group :=
  ⟨g.outside, g.count + 1, max g.depth g.branch.total, Branch.empty⟩

/-- The depth of what stands in the group. -/
def total (g : Group) : Nat :=
  if g.count = 0 then g.branch.total else max g.depth g.branch.total + 1

end Group

/-! ## Steps -/

/-- Where the reading of a pattern stands. -/
structure State where
  modes : Modes
  /-- The innermost group. -/
  group : Group
  /-- The groups around it, from the inside. -/
  around : List Group
  /-- The brackets that are open, from the inside. -/
  brackets : List Brackets
  names : List (List Char)
  /-- Whether it was asked where words of any script begin or end. -/
  hasWordBoundary : Bool
  deriving DecidableEq, Repr

namespace State

/-- The state before a pattern. -/
def start : State := ⟨Modes.start, Group.opened Modes.start, [], [], [], false⟩

/-- Changes the last branch of the innermost group. -/
def mapBranch (s : State) (f : Branch → Branch) : State :=
  { s with group := { s.group with branch := f s.group.branch } }

/-- Adds an element. -/
def add (s : State) (depth : Nat) : State := s.mapBranch fun b => b.add depth

/-- Adds an atom. -/
def addAtom? (s : State) (atom : Atom) : Option State :=
  if s.modes.allow atom then
    let asks := s.modes.characters && atom = .wordBoundary
    some { s.add 0 with hasWordBoundary := s.hasWordBoundary || asks }
  else none

/-- Repeats the last element. -/
def repeat? (s : State) : Option State :=
  s.group.branch.repeat?.map fun branch => s.mapBranch fun _ => branch

/-- Opens a group, or turns switches. No two groups have one name. -/
def open? (s : State) : Opening → Option State
  | .switches modes => some { s.mapBranch Branch.addBare with modes := modes }
  | .group modes name =>
    if name.any s.names.contains then none
    else
      some { s with
        modes := modes
        group := Group.opened s.modes
        around := s.group :: s.around
        names := name.toList ++ s.names }

/-- Closes the innermost group. -/
def close? (s : State) : Option State :=
  match s.around with
  | [] => none
  | group :: around =>
    let closed := { s with modes := s.group.outside, group := group, around := around }
    some (closed.add (s.group.total + 1))

/-- Adds a member to the innermost brackets. -/
def addMember? (s : State) (member : Member) : Option State :=
  match s.brackets with
  | b :: around =>
    if s.modes.allowMember member then
      some { s with brackets := b.add 0 :: around }
    else none
  | [] => none

/-- Opens brackets and gives the rest behind their mark. -/
def openBrackets (s : State) (text : List Char) : State × List Char :=
  match s.modes.skip text with
  | '^' :: rest => ({ s with brackets := .opened true :: s.brackets }, rest)
  | rest => ({ s with brackets := .opened false :: s.brackets }, rest)

/-- Closes the innermost brackets. -/
def closeBrackets? (s : State) : Option State :=
  match s.brackets with
  | [] => none
  | b :: around =>
    if s.modes.allowBrackets b.negated then
      match around with
      | [] => some { s.add (b.total + 1) with brackets := [] }
      | outer :: around => some { s with brackets := outer.add (b.total + 1) :: around }
    else none

/-- Marks that the innermost brackets are behind their start. -/
def leaveStart (s : State) : State :=
  match s.brackets with
  | b :: around => { s with brackets := { b with atStart := false } :: around }
  | [] => s

/-- Combines what the innermost brackets hold with what follows. -/
def combine (s : State) : State :=
  match s.brackets with
  | b :: around => { s with brackets := b.combine :: around }
  | [] => s

/-- Reads the next piece in brackets, which are `b` and what is around them. -/
def stepInside (s : State) (b : Brackets) (text : List Char) : Option (State × List Char) :=
  let inside := s.leaveStart
  match text with
  | [] => none
  | '-' :: rest =>
    if b.atStart then (s.addMember? (.literal '-')).map (·, rest)
    else
      match rest with
      | '-' :: rest => some (inside.combine, rest)
      | _ => do
        let (member, rest) ← readMember? s.modes text
        return (← inside.addMember? member, rest)
  | ']' :: rest =>
    if b.atStart && b.count = 0 then (inside.addMember? (.literal ']')).map (·, rest)
    else s.closeBrackets?.map (·, rest)
  | '[' :: rest =>
    match readNamed? rest with
    | some (member, rest) => (inside.addMember? member).map (·, rest)
    | none => some (inside.openBrackets rest)
  | '&' :: '&' :: rest => some (inside.combine, rest)
  | '~' :: '~' :: rest => some (inside.combine, rest)
  | _ => do
    let (member, rest) ← readMember? s.modes text
    return (← inside.addMember? member, rest)

/-- Reads the next piece outside of brackets. What repeats may be followed by a mark that makes it
stop early. A number of repetitions is never complete, because the brace that ends it ends the field
as well. -/
def stepOutside (s : State) (text : List Char) : Option (State × List Char) :=
  match text with
  | [] => none
  | c :: rest =>
    match c with
    | '(' => do
      let (opening, rest) ← readOpening? s.modes rest
      return (← s.open? opening, rest)
    | ')' => s.close?.map (·, rest)
    | '|' => some ({ s with group := s.group.alternate }, rest)
    | '[' => some (s.openBrackets rest)
    | '?' | '*' | '+' => s.repeat?.map (·, if rest.head? = some '?' then rest.tail else rest)
    | '{' => none
    | '\\' => do
      let (atom, rest) ← readEscape? s.modes rest
      return (← s.addAtom? atom, rest)
    | '.' => (s.addAtom? .any).map (·, rest)
    | '^' | '$' => (s.addAtom? .edge).map (·, rest)
    | c => (s.addAtom? (.literal c false)).map (·, rest)

/-- Reads the next piece. -/
def step (s : State) (text : List Char) : Option (State × List Char) :=
  match s.brackets with
  | b :: _ => s.stepInside b text
  | [] => s.stepOutside text

/-- Reads the pieces of a text, of which there are at most `fuel`. -/
def run : (fuel : Nat) → State → List Char → Option State
  | fuel, s, text =>
    match s.modes.skip text, fuel with
    | [], _ => some s
    | _, 0 => none
    | text, fuel + 1 => do
      let (s, rest) ← s.step text
      run fuel s rest

/-- Whether nothing is left open. -/
def isComplete (s : State) : Bool := s.around.isEmpty && s.brackets.isEmpty

end State

/-- The deepest nesting that a pattern may have. -/
def deepestNesting : Nat := 250

/-- Tells whether a text is a pattern that can be run. -/
def check (text : List Char) : Except Error Unit :=
  match State.start.run text.length text with
  | none => .error .malformed
  | some s =>
    if !s.isComplete || deepestNesting < s.group.total then .error .malformed
    else if s.hasWordBoundary then .error .wordBoundary
    else .ok ()

end DarkGravity.Log.Pattern
