import RoutePatterns.Regex.Escape

/-!
The tokens of a route pattern: static text and parameters. A parameter without a group of its own
matches `Param.defaultGroup`, a non-empty run without the delimiter.
-/

set_option autoImplicit false

namespace RoutePatterns

/-- How a parameter is called. -/
inductive ParamName
  /-- A name written in the pattern. -/
  | named (name : String)
  /-- An unnamed group, counted from zero in pattern order. -/
  | index (position : Nat)
  deriving DecidableEq, Repr

namespace ParamName

/-- The name under which values are stored. -/
def display : ParamName → String
  | .named name => name
  | .index position => toString position

/-- Whether the parameter is an unnamed group. -/
def isIndex : ParamName → Bool
  | .named _ => false
  | .index _ => true

end ParamName

/-- How often a parameter occurs. -/
inductive Quantifier
  | one | zeroOrOne | zeroOrMore | oneOrMore
  deriving DecidableEq, Repr

namespace Quantifier

/-- The quantifier that a modifier character stands for. -/
def ofModifier? : Char → Option Quantifier
  | '?' => some .zeroOrOne
  | '*' => some .zeroOrMore
  | '+' => some .oneOrMore
  | _ => none

/-- Whether the parameter may be absent. -/
def isOptional : Quantifier → Bool
  | .zeroOrOne | .zeroOrMore => true
  | .one | .oneOrMore => false

/-- Whether the parameter takes a list of values. -/
def isRepeating : Quantifier → Bool
  | .zeroOrMore | .oneOrMore => true
  | .one | .zeroOrOne => false

end Quantifier

/-- How specific the values of a parameter are. -/
inductive ParamKind
  /-- Anything, across segments. -/
  | wildcard
  /-- A plain segment value. -/
  | segment
  /-- A group written by the pattern's author. -/
  | custom
  deriving DecidableEq, Repr

/-- A parameter of a pattern. -/
structure Param where
  /-- Its name. -/
  name : ParamName
  /-- The regular expression for one value. -/
  group : String
  /-- The character before the value that belongs to the parameter. -/
  lead : Option Char
  /-- How often it occurs. -/
  quantifier : Quantifier
  deriving DecidableEq, Repr

namespace Param

/-- The group of a wildcard. -/
def wildcardGroup : String := ".*"

/-- The group of a parameter that has none of its own: as few characters as possible, at least one,
none of them the delimiter or the lead. -/
def defaultGroup (lead : Option Char) (delimiter : Char) : String :=
  let excluded :=
    match lead with
    | none => []
    | some char => if char = delimiter then [] else Regex.escapeChar char
  String.ofList ('[' :: '^' :: (excluded ++ Regex.escapeChar delimiter ++ [']', '+', '?']))

/-- Whether a group has the shape of a default group, also when its author spelled it out: a negated
class, repeated lazily, without a closing bracket inside. -/
def isDefaultGroup (group : String) : Bool :=
  match group.toList with
  | '[' :: '^' :: rest =>
    match rest.reverse with
    | '?' :: '+' :: ']' :: excluded => !excluded.isEmpty && !excluded.contains ']'
    | _ => false
  | _ => false

/-- The kind of the parameter, told from the text of its group. -/
def kind (param : Param) : ParamKind :=
  if param.group = wildcardGroup then .wildcard
  else if isDefaultGroup param.group then .segment
  else .custom

/-- Whether the parameter may be absent. -/
def isOptional (param : Param) : Bool :=
  param.quantifier.isOptional

/-- Whether the parameter takes a list of values. -/
def isRepeating (param : Param) : Bool :=
  param.quantifier.isRepeating

/-- The character between the values of a list. -/
def separator (param : Param) (delimiter : Char) : Char :=
  param.lead.getD delimiter

end Param

/-- A part of a pattern. -/
inductive Token
  /-- Text that stands for itself. -/
  | literal (text : String)
  /-- A place for values. -/
  | param (parameter : Param)
  deriving DecidableEq, Repr

/-- The parameter that the token is, if it is one. -/
def Token.param? : Token → Option Param
  | .literal _ => none
  | .param parameter => some parameter

end RoutePatterns
