/-!
# Offsets in a text

Places in a text are counted in the bytes of its encoding. A place inside of a character is no place
to cut at.
-/

namespace DarkGravity.Text

/-- The characters of a text with their offsets; the first stands at `offset`. -/
def withOffsets (offset : Nat) : List Char → List (Char × Nat)
  | [] => []
  | c :: rest => (c, offset) :: withOffsets (offset + c.utf8Size) rest

/-- A text cut in two after a number of bytes. -/
def cutAt? : Nat → List Char → Option (List Char × List Char)
  | 0, text => some ([], text)
  | _ + 1, [] => none
  | bytes + 1, c :: rest =>
    if c.utf8Size ≤ bytes + 1 then
      (cutAt? (bytes + 1 - c.utf8Size) rest).map fun (front, back) => (c :: front, back)
    else none

/-- Nothing is lost by cutting. -/
theorem append_of_cutAt? {bytes : Nat} {text front back : List Char}
    (h : cutAt? bytes text = some (front, back)) : front ++ back = text := by
  fun_induction cutAt? bytes text generalizing front back with
  | case1 text => cases h; rfl
  | case2 => cases h
  | case3 bytes c rest hc ih =>
    obtain ⟨⟨front', back'⟩, hcut, heq⟩ := Option.map_eq_some_iff.1 h
    cases heq
    simp [ih hcut]
  | case4 => cases h

/-- The part of a text between two offsets. -/
def slice? (text : List Char) (first last : Nat) : Option (List Char) := do
  let (_, back) ← cutAt? first text
  let (front, _) ← cutAt? (last - first) back
  return front

end DarkGravity.Text
