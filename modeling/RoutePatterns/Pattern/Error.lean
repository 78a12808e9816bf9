import RoutePatterns.Options

/-!
Why a pattern is refused. Places in a pattern are byte offsets into its UTF-8 form.
-/

set_option autoImplicit false

namespace RoutePatterns

/-- A fault in the spelling of a pattern, found without knowing the delimiter. -/
inductive SpellingFault
  /-- No name follows the colon at `index`. -/
  | missingName (index : Nat)
  /-- The modifier at `index` follows no parameter. -/
  | danglingModifier (index : Nat) (modifier : Char)
  /-- The parenthesis at `index` closes nothing. -/
  | unexpectedClosing (index : Nat)
  /-- The group that begins at `start` is not closed. -/
  | unterminatedGroup (start : Nat)
  /-- The group that begins at `start` is empty. -/
  | emptyGroup (start : Nat)
  /-- Nothing follows the escape character at `index`. -/
  | loneEscape (index : Nat)
  deriving DecidableEq, Repr

/-- Why a pattern is refused. -/
inductive PatternError
  /-- The pattern is spelled wrongly. -/
  | spelling (pattern : String) (fault : SpellingFault)
  /-- Two parameters have the same name. -/
  | duplicateName (pattern name : String)
  /-- An unnamed group does not stand alone in its segment. -/
  | unnamedInSegment (pattern : String) (position : Nat)
  /-- The regular expression written for the pattern is not one. -/
  | invalidRegex (source : String)
  /-- The options are refused. -/
  | options (error : OptionsError)
  deriving DecidableEq, Repr

/-- The wording of a spelling fault in `pattern`. -/
def SpellingFault.message (pattern : String) : SpellingFault → String
  | .missingName index =>
    s!"parameter at index {index} of pattern '{pattern}' is missing a name"
  | .danglingModifier index modifier =>
    s!"modifier '{modifier}' at index {index} of pattern '{pattern}' does not follow a parameter"
  | .unexpectedClosing index =>
    s!"unexpected ')' at index {index} of pattern '{pattern}'"
  | .unterminatedGroup start =>
    s!"group starting at index {start} of pattern '{pattern}' is never closed"
  | .emptyGroup start => s!"group starting at index {start} of pattern '{pattern}' is empty"
  | .loneEscape index =>
    s!"escape character at index {index} of pattern '{pattern}' has nothing to escape"

/-- The wording of a refusal. What the reader of regular expressions says about an invalid one is
left out: it would follow after a colon. -/
def PatternError.message : PatternError → String
  | .spelling pattern fault => fault.message pattern
  | .duplicateName pattern name =>
    s!"duplicate parameter name '{name}' in pattern '{pattern}'"
  | .unnamedInSegment pattern position =>
    s!"unnamed parameter {position} in pattern '{pattern}' shares its segment with other " ++
      "tokens; give it a name"
  | .invalidRegex source => s!"generated regular expression '{source}' is invalid"
  | .options error => error.message

end RoutePatterns
