/-!
# Ranges of characters

A property of characters is given by a list of ranges of their numbers.
-/

namespace OData.Text

/-- Whether `n` lies in one of the ranges, both ends of which count. -/
def inRanges (n : Nat) (ranges : List (Nat × Nat)) : Bool :=
  ranges.any fun r => r.1 ≤ n && n ≤ r.2

end OData.Text
