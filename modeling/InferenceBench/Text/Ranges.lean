/-! # Tables of code points

A property of characters is kept as the increasing list of the ranges that have it. -/

namespace InferenceBench.Text

/-- Whether one of the ranges, both ends included, holds `n`. -/
def inRanges (ranges : List (Nat × Nat)) (n : Nat) : Bool :=
  ranges.any fun (first, last) => first ≤ n && n ≤ last

end InferenceBench.Text
