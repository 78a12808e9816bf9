import RoutePatterns.Text.Utf8

/-!
Why a scenario cannot be written down or read back.
-/

set_option autoImplicit false

namespace RoutePatterns.Scenario

/-- Why a scenario cannot be written down or read back. -/
inductive ScenarioError
  /-- A pattern contains the character that separates entries. -/
  | newlineInPattern (pattern : String)
  /-- The options of an entry have a delimiter other than the default one. -/
  | unsupportedDelimiter (pattern : String) (delimiter : Char)
  /-- The shared options have a delimiter other than the default one. -/
  | unsupportedSharedDelimiter (delimiter : Char)
  /-- A text stands where an option digit is expected. -/
  | invalidDigit (text : String)
  /-- The digit of the shared options is missing. -/
  | missingHeader
  /-- The entry with the number `line`, counted from zero, has no option digit. -/
  | malformedEntry (line : Nat) (text : String)
  /-- A token is not base64. -/
  | base64
  /-- The data of a token are damaged. -/
  | compression
  /-- The data of a token are not UTF-8. -/
  | utf8 (fault : Text.Utf8Fault)
  deriving DecidableEq, Repr

/-- The wording of a failure. For damaged base64 and damaged data it ends before the colon after
which the decoder says what is wrong. -/
def ScenarioError.message : ScenarioError → String
  | .newlineInPattern pattern => s!"path '{pattern}' contains a newline and cannot be encoded"
  | .unsupportedDelimiter pattern delimiter =>
    s!"path '{pattern}' uses delimiter '{delimiter}'; only '/' can be encoded"
  | .unsupportedSharedDelimiter delimiter =>
    s!"global options use delimiter '{delimiter}'; only '/' can be encoded"
  | .invalidDigit text => s!"'{text}' is not an option digit (expected 0-7)"
  | .missingHeader => "encoded scenario has no global options header"
  | .malformedEntry line text => s!"record {line} is malformed: '{text}'"
  | .base64 => "invalid base64 payload"
  | .compression => "compression stream failed"
  | .utf8 fault => s!"decompressed payload is not UTF-8: {fault.message}"

end RoutePatterns.Scenario
