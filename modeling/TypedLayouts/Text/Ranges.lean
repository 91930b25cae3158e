/-!
# Ranges of characters
-/

namespace TypedLayouts.Text

/-- The character is in one of the ranges, which are given by their first and last code points. -/
def inRanges (ranges : List (Nat × Nat)) (c : Char) : Bool :=
  ranges.any fun (low, high) => low ≤ c.toNat && c.toNat ≤ high

end TypedLayouts.Text
