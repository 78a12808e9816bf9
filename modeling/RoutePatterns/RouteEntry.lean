import RoutePatterns.Options

/-!
Route entries: patterns together with options of their own, which take effect only on request.
-/

set_option autoImplicit false

namespace RoutePatterns

/-- A pattern with options that take effect only if they are to be applied. -/
structure RouteEntry where
  /-- The pattern. -/
  pattern : String
  /-- The options of the entry. -/
  options : PatternOptions
  /-- Whether the options of the entry take effect. -/
  applyOptions : Bool
  deriving DecidableEq, Repr

namespace RouteEntry

/-- An entry without options of its own. -/
def ofPattern (pattern : String) : RouteEntry :=
  ⟨pattern, {}, false⟩

/-- The entry with options that take effect. -/
def withOptions (entry : RouteEntry) (options : PatternOptions) : RouteEntry :=
  { entry with options, applyOptions := true }

/-- The options in force for the entry where `shared` are those of all patterns. -/
def optionsInForce (entry : RouteEntry) (shared : PatternOptions) : PatternOptions :=
  if entry.applyOptions then entry.options else shared

end RouteEntry

end RoutePatterns
