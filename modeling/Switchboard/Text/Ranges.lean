/-!
# Sets of code points

A set of characters is a list of ranges of code points, both ends included, from low to high.
-/

namespace Switchboard

/-- A set of code points by its ranges. -/
abbrev Ranges := Array (Nat × Nat)

/-- Whether a code point lies in one of the ranges. -/
def Ranges.contains (r : Ranges) (point : Nat) : Bool :=
  r.any fun (lo, hi) => lo ≤ point && point ≤ hi

end Switchboard
