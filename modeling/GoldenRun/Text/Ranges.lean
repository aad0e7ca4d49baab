/-!
# Ranges of code points

A property of characters is kept as a table of ranges in rising order.
-/

namespace GoldenRun.Text

/-- A number lies in one of the ranges. -/
def inRanges (ranges : List (Nat × Nat)) (n : Nat) : Bool :=
  ranges.any fun r => r.1 ≤ n && n ≤ r.2

end GoldenRun.Text
