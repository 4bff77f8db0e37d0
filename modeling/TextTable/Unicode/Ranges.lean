/-!
# Sets of code points

A property of characters is given as a list of closed ranges of code points. A character has the
property when one of the ranges holds its code point; the order of the ranges carries no meaning.
-/

namespace TextTable.Unicode

/-- Some range of `ranges` holds the code point of `c`. Both ends of a range belong to it. -/
def inRanges (ranges : List (Nat × Nat)) (c : Char) : Bool :=
  ranges.any fun (lo, hi) => lo ≤ c.toNat && c.toNat ≤ hi

end TextTable.Unicode
