/-!
# Sets of code points as sorted ranges

A character class beyond ASCII is a table of closed ranges of code points in increasing
order. `inRanges` looks a code point up by halving the part of the table that can still hold
it, so a look-up costs a logarithm of the table's size.
-/

namespace GoAssets.Text

/-- Whether `n` lies in one of the ranges of `table` at the positions from `lo` up to but not
including `hi`. The ranges are closed and increase. -/
def inRangesBetween (table : Array (Nat × Nat)) (n lo hi : Nat) : Bool :=
  if lo < hi then
    let mid := (lo + hi) / 2
    match table[mid]? with
    | none => false
    | some (first, last) =>
      if n < first then inRangesBetween table n lo mid
      else if last < n then inRangesBetween table n (mid + 1) hi
      else true
  else false
termination_by hi - lo

/-- Whether `n` lies in one of the ranges of `table`. -/
def inRanges (table : Array (Nat × Nat)) (n : Nat) : Bool :=
  inRangesBetween table n 0 table.size

end GoAssets.Text
