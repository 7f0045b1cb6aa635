/-! # Sets of code points

Properties of characters are given as ranges of code points, in ascending order.
-/

namespace Conformance.Text

/-- A set of code points: ranges in ascending order, first and last included. -/
abbrev CodeRanges := List (Nat × Nat)

/-- Whether a code point is in a set. -/
def CodeRanges.contains : CodeRanges → Nat → Bool
  | [], _ => false
  | (first, last) :: ranges, code =>
    if code < first then false
    else if code ≤ last then true
    else CodeRanges.contains ranges code

end Conformance.Text
