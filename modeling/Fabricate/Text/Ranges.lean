/-!
# Ranges of characters

A property of characters is kept as the closed ranges of the code points that have it.
-/

namespace Fabricate.Text

/-- Whether the character lies in one of the ranges. -/
def inRanges (ranges : List (Nat × Nat)) (c : Char) : Bool :=
  ranges.any fun (lo, hi) => lo ≤ c.toNat && c.toNat ≤ hi

end Fabricate.Text
