/-!
The numbers that make up a score. They are kept over any kind of number with decimals, so that
scores can be worked out in floating point and exactly.
-/

set_option autoImplicit false

namespace RoutePatterns

/-- What each feature of a pattern adds to its score. -/
structure Weights (α : Type) where
  /-- A segment. -/
  segment : α
  /-- A segment of several pieces, on top of `segment`. -/
  subSegment : α
  /-- Static text. -/
  staticText : α
  /-- A plain parameter. -/
  dynamic : α
  /-- A parameter with a group of its own. -/
  customGroup : α
  /-- A wildcard that is a whole segment. -/
  wildcard : α
  /-- A wildcard within a segment. -/
  subWildcard : α
  /-- A repeating parameter. -/
  repeatable : α
  /-- Strict options. -/
  strict : α
  /-- Case-sensitive options. -/
  sensitive : α
  /-- An optional parameter that is a whole segment. -/
  optional : α
  /-- An optional parameter within a segment. -/
  subOptional : α
  /-- A segment that is the delimiter alone. -/
  root : α
  deriving DecidableEq, Repr

namespace Weights

variable {α : Type}

/-- The weights used when none are given. -/
def standard [OfScientific α] [Neg α] : Weights α where
  segment := 4.0
  subSegment := 2.0
  staticText := 3.0
  dynamic := 2.0
  customGroup := 2.5
  wildcard := -1.0
  subWildcard := 1.0
  repeatable := -0.5
  strict := 0.5
  sensitive := 0.25
  optional := -4.0
  subOptional := -0.1
  root := 1.0

/-- What the pattern of the delimiter alone adds. -/
def rootScore [Add α] (weights : Weights α) : α :=
  weights.segment + weights.staticText + weights.root

/-- The weights with their names, in the order in which they are checked. -/
def named (weights : Weights α) : List (String × α) := [
  ("segment", weights.segment),
  ("sub_segment", weights.subSegment),
  ("static_text", weights.staticText),
  ("dynamic", weights.dynamic),
  ("dynamic_custom_regexp", weights.customGroup),
  ("wildcard", weights.wildcard),
  ("sub_wildcard", weights.subWildcard),
  ("repeatable", weights.repeatable),
  ("strict", weights.strict),
  ("sensitive", weights.sensitive),
  ("optional", weights.optional),
  ("sub_optional", weights.subOptional),
  ("root", weights.root)]

end Weights

end RoutePatterns
