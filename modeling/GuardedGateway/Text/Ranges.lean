/-!
# Sets of characters as ranges

The standard gives a property of characters as a table of ranges of code points.
-/

namespace GuardedGateway.Text

/-- Whether a code point lies in one of the ranges. -/
def inRanges (ranges : List (Nat × Nat)) (n : Nat) : Bool :=
  ranges.any fun range => range.1 ≤ n && n ≤ range.2

end GuardedGateway.Text
