set_option autoImplicit false

/-! # Sets of code points

A class of characters is listed as ranges of code points, ends included. -/

namespace Lindenmayer.Text

/-- Whether a character lies in one of the ranges, ends included. -/
def inRanges (ranges : List (Nat × Nat)) (c : Char) : Bool :=
  ranges.any fun r => decide (r.1 ≤ c.toNat) && decide (c.toNat ≤ r.2)

end Lindenmayer.Text
