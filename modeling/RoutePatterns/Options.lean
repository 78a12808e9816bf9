/-!
How patterns are read and paths are matched: the delimiter of segments, whether a trailing delimiter
is refused and whether letter case counts. Any character can be written down as a delimiter;
`validate` says which ones are usable.
-/

set_option autoImplicit false

namespace RoutePatterns

/-- The delimiter used when none is given. -/
def defaultDelimiter : Char := '/'

/-- The options of a pattern. -/
structure PatternOptions where
  /-- Refuse a trailing delimiter that the pattern does not ask for. -/
  strict : Bool := false
  /-- Tell upper case from lower case. -/
  sensitive : Bool := false
  /-- The character that separates segments. -/
  delimiter : Char := defaultDelimiter
  deriving DecidableEq, Repr, Inhabited

/-- A number that is not finite. -/
inductive NonFinite
  | notANumber | infinity | negativeInfinity
  deriving DecidableEq, Repr

namespace NonFinite

/-- The way in which `value` fails to be finite, if it does. -/
def of? (value : Float) : Option NonFinite :=
  if value.isNaN then some .notANumber
  else if value.isInf then
    if 0.0 < value then some .infinity else some .negativeInfinity
  else none

/-- The spelling of a number that is not finite. -/
def spelling : NonFinite → String
  | .notANumber => "NaN"
  | .infinity => "inf"
  | .negativeInfinity => "-inf"

end NonFinite

/-- Why options are refused. -/
inductive OptionsError
  /-- The character has a meaning in patterns, or is not ASCII punctuation. -/
  | invalidDelimiter (char : Char)
  /-- The score weight of that name is not finite. -/
  | nonFiniteWeight (name : String) (value : NonFinite)
  deriving DecidableEq, Repr

/-- The wording of a refusal. -/
def OptionsError.message : OptionsError → String
  | .invalidDelimiter char => s!"'{char}' cannot be used as a path delimiter"
  | .nonFiniteWeight name value =>
    s!"score weight '{name}' must be finite (got {value.spelling})"

/-- Whether `char` is ASCII punctuation. -/
def isAsciiPunctuation (char : Char) : Bool :=
  let code := char.toNat
  (0x21 ≤ code && code ≤ 0x2F) || (0x3A ≤ code && code ≤ 0x40) ||
    (0x5B ≤ code && code ≤ 0x60) || (0x7B ≤ code && code ≤ 0x7E)

/-- The punctuation with a meaning in patterns. -/
def reservedCharacters : List Char :=
  [':', '(', ')', '?', '*', '+', '\\', '.']

namespace PatternOptions

/-- Whether `char` can separate segments: ASCII punctuation without a meaning in patterns. -/
def isDelimiter (char : Char) : Bool :=
  isAsciiPunctuation char && !reservedCharacters.contains char

/-- Refuses options whose delimiter is not usable. -/
def validate (options : PatternOptions) : Except OptionsError Unit :=
  if isDelimiter options.delimiter then .ok ()
  else .error (.invalidDelimiter options.delimiter)

end PatternOptions

end RoutePatterns
