/-!
# Ranges of characters

A character property is given by the ranges of the code points that have it.
-/

namespace RelGraph.Text

/-- The character lies in one of the ranges, bounds included. -/
def inRanges (ranges : List (Nat × Nat)) (c : Char) : Bool :=
  ranges.any fun r => r.1 ≤ c.toNat && c.toNat ≤ r.2

end RelGraph.Text
