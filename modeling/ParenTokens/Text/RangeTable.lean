namespace ParenTokens

/-!
# Tables of code point ranges

A property of code points that follows no formula is a sorted array of inclusive ranges, searched by halving.

* `RangeTable.contains`: whether a number lies in one of the ranges.
-/

/-- Inclusive ranges in increasing order, none touching the next. -/
abbrev RangeTable := Array (Nat × Nat)

namespace RangeTable

/-- Looks for the range of `n` among the indices from `lo` to below `hi`, halving at most `steps` times. -/
def search (table : RangeTable) (n : Nat) : (steps lo hi : Nat) → Bool
  | 0, _, _ => false
  | steps + 1, lo, hi =>
    if lo < hi then
      let mid := (lo + hi) / 2
      match table[mid]? with
      | none => false
      | some (first, last) =>
        if n < first then search table n steps lo mid
        else if last < n then search table n steps (mid + 1) hi
        else true
    else false

/-- Whether `n` lies in a range of the table. -/
def contains (table : RangeTable) (n : Nat) : Bool := search table n (table.size.log2 + 1) 0 table.size

end RangeTable

end ParenTokens
