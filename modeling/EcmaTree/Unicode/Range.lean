/-!
# Tables of code point ranges

A property of code points is kept as the list of its ranges, each given by its first and its
last member, in increasing order.
-/

namespace EcmaTree

/-- Whether one of the ranges contains `n`. -/
def inRanges (ranges : List (Nat × Nat)) (n : Nat) : Bool :=
  ranges.any fun range => range.1 ≤ n && n ≤ range.2

end EcmaTree
