import ComponentDecl.Text

/-!
# Sets of characters as ranges

A table of characters is a list of ranges of code points in increasing order.
-/

namespace ComponentDecl
namespace Text

/-- Whether a code point lies in one of the ranges, both ends included.  The ranges
are in increasing order, so the search may stop at the first that starts later. -/
def inRanges (n : Nat) : List (Nat × Nat) → Bool
  | [] => false
  | (low, high) :: rest => if n < low then false else n ≤ high || inRanges n rest

end Text
end ComponentDecl
