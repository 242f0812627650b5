/-!
Sets of characters given by ranges of code points.
-/

namespace FormEngine

/-- Ranges of code points, both ends included, in increasing order. -/
abbrev CodeRanges := List (Nat × Nat)

namespace CodeRanges

def contains (ranges : CodeRanges) (code : Nat) : Bool :=
  ranges.any fun r => decide (r.1 ≤ code) && decide (code ≤ r.2)

def has (ranges : CodeRanges) (c : Char) : Bool := ranges.contains c.toNat

end CodeRanges

end FormEngine
