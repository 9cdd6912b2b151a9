/-!
Sets of code points written down as inclusive ranges in increasing order, the form in which the
character properties of the neighbouring modules are given.
-/
namespace EventScript

/-- Disjoint inclusive ranges of numbers, in increasing order. -/
abbrev RangeTable := List (Nat × Nat)

namespace RangeTable

/-- Whether a number lies in one of the ranges. -/
def contains : RangeTable → Nat → Bool
  | [], _ => false
  | (low, high) :: rest, n => if n ≤ high then low ≤ n else contains rest n

end RangeTable

end EventScript
