/-!
# Sets of code points as ranges

A set of code points is a list of ranges in ascending order, so a search stops at the first range
that begins above the code point asked for.
-/

namespace TemplateScan.Text

/-- Whether one of the ascending ranges, both ends included, holds the number. -/
def inRanges : List (Nat × Nat) → Nat → Bool
  | [], _ => false
  | (first, last) :: later, n => first ≤ n && (n ≤ last || inRanges later n)

end TemplateScan.Text
