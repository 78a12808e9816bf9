import RoutePatterns.Options
import RoutePatterns.Pattern.Weights

/-!
What a router is set up with: the options that its patterns share and the weights of scores.
-/

set_option autoImplicit false

namespace RoutePatterns

/-- What a router is set up with. -/
structure RouterConfig where
  /-- The options of all patterns without options of their own. -/
  shared : PatternOptions := {}
  /-- The weights of scores. -/
  weights : Weights Float := .standard

namespace RouterConfig

/-- The first weight that is not finite. -/
def firstNonFinite? : List (String × Float) → Option (String × NonFinite)
  | [] => none
  | (name, value) :: weights =>
    match NonFinite.of? value with
    | some kind => some (name, kind)
    | none => firstNonFinite? weights

/-- Refuses a delimiter that is not usable, then a weight that is not finite. -/
def validate (config : RouterConfig) : Except OptionsError Unit :=
  match config.shared.validate with
  | .error error => .error error
  | .ok _ =>
    match firstNonFinite? config.weights.named with
    | some (name, kind) => .error (.nonFiniteWeight name kind)
    | none => .ok ()

end RouterConfig

end RoutePatterns
