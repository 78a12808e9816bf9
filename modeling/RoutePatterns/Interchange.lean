import RoutePatterns.RouteTable

/-!
Options, entries and results as structured values, and reading them back. A structure is written as
an object with a field for each of its parts; it is also read from a list of its parts in order.
Fields that a structure does not have are ignored, and none may be missing.
-/

set_option autoImplicit false

namespace RoutePatterns

/-- A structured value. -/
inductive Value
  | null
  | bool (value : Bool)
  | number (value : Float)
  | text (value : String)
  | list (items : List Value)
  | object (fields : List (String × Value))
  deriving Inhabited

namespace Value

/-- The parts of a structure with the given field names. -/
def parts? (names : List String) : Value → Option (List Value)
  | object fields =>
    names.mapM fun name => (fields.find? fun field => field.1 == name).map (·.2)
  | list items => if items.length = names.length then some items else none
  | _ => none

/-- The truth value that a value is. -/
def toBool? : Value → Option Bool
  | bool value => some value
  | _ => none

/-- The number that a value is. -/
def toNumber? : Value → Option Float
  | number value => some value
  | _ => none

/-- The text that a value is. -/
def toText? : Value → Option String
  | text value => some value
  | _ => none

/-- The character that a value is: a text of exactly one. -/
def toChar? : Value → Option Char
  | text value =>
    match value.toList with
    | [char] => some char
    | _ => none
  | _ => none

/-- The texts that a value is a list of. -/
def toTexts? : Value → Option (List String)
  | list items => items.mapM toText?
  | _ => none

end Value

namespace PatternOptions

/-- The field names of options. -/
def fieldNames : List String :=
  ["strict", "sensitive", "delimiter"]

/-- Options as a value. -/
def toValue (options : PatternOptions) : Value :=
  .object (fieldNames.zip
    [.bool options.strict, .bool options.sensitive, .text (String.singleton options.delimiter)])

/-- Options from a value. -/
def ofValue? (value : Value) : Option PatternOptions := do
  match ← value.parts? fieldNames with
  | [strict, sensitive, delimiter] =>
    return ⟨← strict.toBool?, ← sensitive.toBool?, ← delimiter.toChar?⟩
  | _ => none

end PatternOptions

namespace Weights

/-- Weights as a value. -/
def toValue (weights : Weights Float) : Value :=
  .object (weights.named.map fun entry => (entry.1, .number entry.2))

/-- Weights from a value. -/
def ofValue? (value : Value) : Option (Weights Float) := do
  let names := (standard : Weights Float).named.map (·.1)
  let parts ← value.parts? names
  match ← parts.mapM Value.toNumber? with
  | [segment, subSegment, staticText, dynamic, customGroup, wildcard, subWildcard, repeatable,
      strict, sensitive, optional, subOptional, root] =>
    return ⟨segment, subSegment, staticText, dynamic, customGroup, wildcard, subWildcard,
      repeatable, strict, sensitive, optional, subOptional, root⟩
  | _ => none

end Weights

namespace RouteEntry

/-- The field names of an entry. -/
def fieldNames : List String :=
  ["path", "options", "apply_options"]

/-- An entry as a value. -/
def toValue (entry : RouteEntry) : Value :=
  .object (fieldNames.zip
    [.text entry.pattern, entry.options.toValue, .bool entry.applyOptions])

/-- An entry from a value. -/
def ofValue? (value : Value) : Option RouteEntry := do
  match ← value.parts? fieldNames with
  | [pattern, options, applyOptions] =>
    return ⟨← pattern.toText?, ← PatternOptions.ofValue? options, ← applyOptions.toBool?⟩
  | _ => none

end RouteEntry

namespace RouterConfig

/-- The field names of what a router is set up with. -/
def fieldNames : List String :=
  ["path", "weights"]

/-- What a router is set up with as a value. -/
def toValue (config : RouterConfig) : Value :=
  .object (fieldNames.zip [config.shared.toValue, config.weights.toValue])

/-- What a router is set up with from a value. -/
def ofValue? (value : Value) : Option RouterConfig := do
  match ← value.parts? fieldNames with
  | [shared, weights] => return ⟨← PatternOptions.ofValue? shared, ← Weights.ofValue? weights⟩
  | _ => none

end RouterConfig

namespace ParamValue

/-- The value of a parameter as a value: a text, or a list of texts. -/
def toValue : ParamValue → Value
  | single value => .text value
  | list values => .list (values.map .text)

/-- The value of a parameter from a value. -/
def ofValue? (value : Value) : Option ParamValue :=
  match value.toText? with
  | some text => some (.single text)
  | none => value.toTexts?.map .list

end ParamValue

namespace Params

/-- Values by parameter name as a value. -/
def toValue (params : Params) : Value :=
  .object (params.map fun entry => (entry.1, entry.2.toValue))

/-- Values by parameter name from a value. -/
def ofValue? : Value → Option Params
  | .object fields =>
    (fields.mapM fun field => (ParamValue.ofValue? field.2).map fun value => (field.1, value)).map
      ofList
  | _ => none

end Params

namespace Hit

/-- The field names of a hit. -/
def fieldNames : List String :=
  ["path", "params", "pattern", "score"]

/-- A hit as a value. -/
def toValue (hit : Hit) : Value :=
  .object (fieldNames.zip
    [.text hit.path, hit.params.toValue, .text hit.pattern, .number hit.score])

/-- A hit from a value. -/
def ofValue? (value : Value) : Option Hit := do
  match ← value.parts? fieldNames with
  | [path, params, pattern, score] =>
    return ⟨← path.toText?, ← Params.ofValue? params, ← pattern.toText?, ← score.toNumber?⟩
  | _ => none

end Hit

namespace Ranking

/-- The field names of a ranking. -/
def fieldNames : List String :=
  ["pattern", "score"]

/-- A ranking as a value. -/
def toValue (ranking : Ranking) : Value :=
  .object (fieldNames.zip [.text ranking.pattern, .number ranking.score])

/-- A ranking from a value. -/
def ofValue? (value : Value) : Option Ranking := do
  match ← value.parts? fieldNames with
  | [pattern, score] => return ⟨← pattern.toText?, ← score.toNumber?⟩
  | _ => none

end Ranking

end RoutePatterns
