/-!
# Sets of code points

A set of code points is given by its boundaries in ascending order: the first one enters the set,
the next one leaves it, and so on.
-/

namespace SerialLink.Text

/-- A set of code points as the ascending list of the points where membership changes. -/
structure CodePoints where
  bounds : List Nat

/-- `n` has passed an odd number of boundaries. -/
def CodePoints.has (set : CodePoints) (n : Nat) : Bool :=
  (set.bounds.takeWhile (· ≤ n)).length % 2 == 1

end SerialLink.Text
