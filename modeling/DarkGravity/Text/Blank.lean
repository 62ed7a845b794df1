import DarkGravity.Text.Ranges

/-!
# Blank characters

The characters with the Unicode property White_Space, and the removal of blanks around a text.
-/

namespace DarkGravity.Text

/-- The code points that are white space: the ASCII controls and the blank, the next-line control
and the spaces of the other scripts. -/
def blankRanges : List (Nat × Nat) :=
  [(0x09, 0x0d), (0x20, 0x20), (0x85, 0x85), (0xa0, 0xa0), (0x1680, 0x1680), (0x2000, 0x200a),
    (0x2028, 0x2029), (0x202f, 0x202f), (0x205f, 0x205f), (0x3000, 0x3000)]

/-- Whether a character is white space. -/
def isBlank (c : Char) : Bool := inRanges blankRanges c

/-- The text without the blanks at its two ends. -/
def trim (text : List Char) : List Char :=
  ((text.dropWhile isBlank).reverse.dropWhile isBlank).reverse

end DarkGravity.Text
