import RoutePatterns.Deflate.Inflate
import RoutePatterns.Deflate.Stored
import RoutePatterns.Scenario.Plain
import RoutePatterns.Text.UrlBase64

/-!
Scenarios as tokens that can stand in an address: the plain text as UTF-8, compressed and spelled in
`UrlBase64`.
-/

set_option autoImplicit false

namespace RoutePatterns.Scenario

open Text

/-- The token of a scenario. -/
def toToken (scenario : Scenario) : Except ScenarioError (List Char) :=
  scenario.toText.map fun text => UrlBase64.encode (Deflate.store (Utf8.encode text))

/-- Reads a token. -/
def ofToken (token : List Char) : Except ScenarioError Scenario :=
  match UrlBase64.decode? token with
  | none => .error .base64
  | some packed =>
    match Deflate.inflate? packed with
    | none => .error .compression
    | some bytes =>
      match Utf8.decode bytes with
      | .error fault => .error (.utf8 fault)
      | .ok text => ofText text

end RoutePatterns.Scenario
