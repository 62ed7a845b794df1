/-!
# Ranges of characters

Classes of characters are given as tables of ranges of code points.
-/

namespace DarkGravity.Text

/-- Whether a character is in one of the ranges, whose ends belong to them. -/
def inRanges (ranges : List (Nat × Nat)) (c : Char) : Bool :=
  ranges.any fun (low, high) => low ≤ c.toNat && c.toNat ≤ high

end DarkGravity.Text
