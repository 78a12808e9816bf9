import RoutePatterns.Matcher.Basic
import RoutePatterns.Params
import RoutePatterns.Text.Split

/-!
Taking the values of parameters from a path. The captured text of a repeating parameter is cut at
every separator.
-/

set_option autoImplicit false

namespace RoutePatterns

/-- The value that a slot makes of its captured text. -/
def Slot.valueOf (slot : Slot) (text : List Char) : ParamValue :=
  if slot.isRepeating then
    .list ((Text.fields slot.separator text).map String.ofList)
  else .single (String.ofList text)

/-- Records the value of a slot, if the slot took part in a match. -/
def Slot.record (found : Regex.Match) (params : Params) (slot : Slot) : Params :=
  match found.captured? slot.capture with
  | none => params
  | some text => params.insert slot.name (slot.valueOf text)

/-- The values of the parameters in a path, if the path belongs to the pattern. Optional parameters
that took no part in the match are left out; of two parameters with one name the later counts. -/
def Matcher.params? (matcher : Matcher) (path : String) : Option Params :=
  (matcher.regex.find? path).map fun found => matcher.slots.foldl (Slot.record found) []

end RoutePatterns
