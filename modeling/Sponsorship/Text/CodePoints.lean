/-!
# Sets of code points

A set of code points is a list of inclusive ranges in ascending order.

* `CodePoints.has`: membership; the scan stops at the first range that starts too high.
-/

namespace Sponsorship.Text

/-- Inclusive ranges of code points, ascending and disjoint. -/
abbrev CodePoints := List (Nat × Nat)

/-- Whether code point `n` lies in one of the ranges. -/
def CodePoints.hasNat (n : Nat) : CodePoints → Bool
  | [] => false
  | (first, last) :: rest => if n < first then false else n ≤ last || CodePoints.hasNat n rest

/-- Whether the character lies in one of the ranges. -/
def CodePoints.has (s : CodePoints) (c : Char) : Bool := s.hasNat c.toNat

end Sponsorship.Text
