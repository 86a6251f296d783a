/-!
Contract: sets of characters given as ascending lists of closed code point intervals.

Owns: the search for a code point in such a list.

Does **not** own: any particular character class; each class keeps its own table.
-/

set_option autoImplicit false

namespace ChartParsing.Text

/-- Closed intervals `(first, last)` of code points, listed in ascending order. -/
abbrev Intervals := List (Nat × Nat)

namespace Intervals

/-- Whether a code point lies in one of the intervals. The search stops at the first interval that
begins above the code point, which is right because the list ascends. -/
def contains : Intervals → Nat → Bool
  | [], _ => false
  | (first, last) :: rest, code =>
    if code < first then false else code ≤ last || contains rest code

end Intervals

end ChartParsing.Text
