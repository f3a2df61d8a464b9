/-!
# Tables of code points

A property of characters is kept as the ranges of code points that have it, in rising order.
-/

namespace QueryPipe.Text

/-- Ranges of code points, both ends included, in rising order. -/
abbrev RangeTable := List (Nat × Nat)

namespace RangeTable

/-- Whether a code point lies in one of the ranges. -/
def holds : RangeTable → Nat → Bool
  | [], _ => false
  | (low, high) :: rest, n => if n < low then false else n ≤ high || holds rest n

end RangeTable

end QueryPipe.Text
