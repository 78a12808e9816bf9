/-!
Writing text as a regular expression that matches it literally.
-/

set_option autoImplicit false

namespace RoutePatterns.Regex

/-- The characters with a meaning of their own somewhere in a regular expression. -/
def metaCharacters : List Char :=
  ['\\', '.', '+', '*', '?', '(', ')', '|', '[', ']', '{', '}', '^', '$', '#', '&', '-', '~']

/-- Whether `char` has a meaning of its own. -/
def isMeta (char : Char) : Bool :=
  metaCharacters.contains char

/-- The expression for one character. -/
def escapeChar (char : Char) : List Char :=
  if isMeta char then ['\\', char] else [char]

/-- The expression for a text. -/
def escape (text : List Char) : List Char :=
  text.flatMap escapeChar

end RoutePatterns.Regex
