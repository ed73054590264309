/-!
# Sets of code points

A set of code points as ranges in ascending order, both ends included.
-/

namespace Drawbridge.Text

/-- Ranges of code points, which ascend. -/
abbrev Ranges := List (Nat × Nat)

/-- Whether a number lies in one of the ranges; they ascend, so the search stops early. -/
def Ranges.has (n : Nat) : Ranges → Bool
  | [] => false
  | (low, high) :: rest => if n < low then false else n ≤ high || has n rest

end Drawbridge.Text
