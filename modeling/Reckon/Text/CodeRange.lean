/-!
# Sets of code points

A property of characters is stored as a list of ranges of code points, both ends included.
-/

namespace Reckon.Text

abbrev CodeRange := Nat × Nat

/-- Whether the code point of `c` lies in one of the ranges. -/
def CodeRange.covers (ranges : List CodeRange) (c : Char) : Bool :=
  ranges.any fun r => r.1 ≤ c.toNat && c.toNat ≤ r.2

end Reckon.Text
