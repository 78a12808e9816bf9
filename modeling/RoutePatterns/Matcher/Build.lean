import RoutePatterns.Matcher.Basic
import RoutePatterns.Params
import RoutePatterns.Text.Split

/-!
Building a path from the values of parameters, the reverse of taking them from a path. Every value
must match the expression of its slot.
-/

set_option autoImplicit false

namespace RoutePatterns

/-- Why values do not make a path. -/
inductive BuildError
  /-- A parameter that is not optional has no value. -/
  | missingParam (name : String)
  /-- A parameter that does not repeat has a list. -/
  | unexpectedList (name : String)
  /-- A parameter that is not optional has an empty list. -/
  | emptyList (name : String)
  /-- A value does not match the group of its parameter. -/
  | valueMismatch (name value group : String)
  deriving DecidableEq, Repr

/-- The wording of a failure. -/
def BuildError.message : BuildError → String
  | .missingParam name => s!"missing required parameter '{name}'"
  | .unexpectedList name => s!"parameter '{name}' does not repeat but a list was given"
  | .emptyList name => s!"repeatable parameter '{name}' requires at least one value"
  | .valueMismatch name value group =>
    s!"value '{value}' for parameter '{name}' does not match '{group}'"

namespace Slot

/-- Refuses a value that does not match the expression of the slot. -/
def checkValue (slot : Slot) (value : String) : Except BuildError Unit :=
  if slot.check.isMatch value then .ok ()
  else .error (.valueMismatch slot.name value slot.group)

/-- Checks values one after the other. -/
def checkValues (slot : Slot) : List String → Except BuildError Unit
  | [] => .ok ()
  | value :: values =>
    match slot.checkValue value with
    | .error error => .error error
    | .ok _ => slot.checkValues values

/-- The lead of the slot as text. -/
def leadText (slot : Slot) : List Char :=
  slot.lead.toList

/-- The text for the values of a list. -/
def buildList (slot : Slot) (values : List String) : Except BuildError (List Char) :=
  if !slot.isRepeating then .error (.unexpectedList slot.name)
  else if values.isEmpty then
    if slot.isOptional then .ok [] else .error (.emptyList slot.name)
  else
    (slot.checkValues values).map fun _ =>
      slot.leadText ++ Text.joinWith slot.separator (values.map String.toList)

/-- The text for the value of the slot. -/
def build (slot : Slot) : Option ParamValue → Except BuildError (List Char)
  | some (.list values) => slot.buildList values
  | some (.single value) => (slot.checkValue value).map fun _ => slot.leadText ++ value.toList
  | none => if slot.isOptional then .ok [] else .error (.missingParam slot.name)

end Slot

/-- The text for one part. -/
def Part.build (params : Params) : Part → Except BuildError (List Char)
  | .literal text => .ok text.toList
  | .param slot => slot.build (params.get? slot.name)

/-- The text for parts one after the other, or the failure of the first that has one. -/
def Part.buildAll (params : Params) : List Part → Except BuildError (List Char)
  | [] => .ok []
  | part :: parts =>
    match part.build params with
    | .error error => .error error
    | .ok text => (buildAll params parts).map (text ++ ·)

/-- The path for the values of the parameters. -/
def Matcher.build (matcher : Matcher) (params : Params) : Except BuildError String :=
  (Part.buildAll params matcher.parts).map String.ofList

end RoutePatterns
