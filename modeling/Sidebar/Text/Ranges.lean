/-!
# Code point ranges

The range tables behind the character properties of `char`.

A `CodeRange` is a closed interval of code points; a property of characters given by a
Unicode table is a sorted list of such ranges.
-/

namespace Sidebar
namespace Text

/-- The code points from `lo` to `hi`, both included. -/
structure CodeRange where
  lo : Nat
  hi : Nat

/-- Whether a character lies in one of the ranges. -/
def inRanges (rs : List CodeRange) (c : Char) : Bool :=
  rs.any fun r => r.lo ≤ c.toNat && c.toNat ≤ r.hi

end Text
end Sidebar
