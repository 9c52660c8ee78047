/-!
# Sets of code points

A set of code points is a list of closed ranges in ascending order.
-/

namespace TunnelRelay.Text

/-- Whether a code point lies in one of the ranges. The ranges ascend, so the search stops at the
first one that ends beyond the code point. -/
def inRanges (n : Nat) : List (Nat × Nat) → Bool
  | [] => false
  | (least, greatest) :: rest => if n ≤ greatest then decide (least ≤ n) else inRanges n rest

end TunnelRelay.Text
