import RoutePatterns.Matcher.Build
import RoutePatterns.Matcher.Extract
import RoutePatterns.Pattern.Score
import RoutePatterns.Pattern.Tokenize

/-!
A route: a pattern with everything that is made of it, which is its tokens, its matcher and its
score.
-/

set_option autoImplicit false

namespace RoutePatterns

/-- A pattern ready for use. -/
structure Route where
  /-- The pattern as it is written. -/
  pattern : String
  /-- The options of the pattern. -/
  options : PatternOptions
  /-- The tokens of the pattern. -/
  tokens : List Token
  /-- The matcher of the pattern. -/
  matcher : Matcher
  /-- The specificity of the pattern. -/
  score : Float

namespace Route

/-- Makes a route. Faulty options are reported first, then faults of the pattern, then invalid
expressions. -/
def create (pattern : String) (options : PatternOptions) (weights : Weights Float := .standard) :
    Except PatternError Route :=
  match options.validate with
  | .error error => .error (.options error)
  | .ok _ =>
    match tokenize options.delimiter pattern with
    | .error error => .error error
    | .ok tokens =>
      (Matcher.ofTokens options tokens).map fun matcher =>
        ⟨pattern, options, tokens, matcher, RoutePatterns.score options weights tokens⟩

/-- Whether a path belongs to the route. -/
def accepts (route : Route) (path : String) : Bool :=
  route.matcher.accepts path

/-- The values of the parameters in a path, if the path belongs to the route. -/
def params? (route : Route) (path : String) : Option Params :=
  route.matcher.params? path

/-- The path for the values of the parameters. -/
def build (route : Route) (params : Params) : Except BuildError String :=
  route.matcher.build params

end Route

end RoutePatterns
