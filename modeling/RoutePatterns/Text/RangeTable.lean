/-!
Sorted tables of code point ranges and their membership test by binary search.
-/

set_option autoImplicit false

namespace RoutePatterns.Text

/-- Disjoint inclusive ranges of code points in ascending order. -/
abbrev RangeTable := Array (Nat × Nat)

namespace RangeTable

/-- Whether one of the ranges with an index in `[low, high)` contains `code`. -/
def search (table : RangeTable) (code low high : Nat) : Bool :=
  if low < high then
    let middle := low + (high - low) / 2
    match table[middle]? with
    | none => false
    | some (first, last) =>
      if code < first then search table code low middle
      else if last < code then search table code (middle + 1) high
      else true
  else false
termination_by high - low

/-- Whether `code` lies in one of the ranges. -/
def contains (table : RangeTable) (code : Nat) : Bool :=
  table.search code 0 table.size

end RangeTable

end RoutePatterns.Text
