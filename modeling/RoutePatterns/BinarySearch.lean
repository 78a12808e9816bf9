/-!
Binary search for the end of the items that pass a test, where those items come first.
-/

set_option autoImplicit false

namespace RoutePatterns

/-- Searches the indices from `low` to `high` for the first item that fails a test, where the items
that pass come first. -/
def passingCountFrom {α : Type} (passes : α → Bool) (items : Array α) (low high : Nat) : Nat :=
  if low < high then
    let middle := low + (high - low) / 2
    if items[middle]?.any passes then passingCountFrom passes items (middle + 1) high
    else passingCountFrom passes items low middle
  else low
termination_by high - low

/-- The number of items that pass a test, where those items come first. -/
def passingCount {α : Type} (passes : α → Bool) (items : Array α) : Nat :=
  passingCountFrom passes items 0 items.size

end RoutePatterns
