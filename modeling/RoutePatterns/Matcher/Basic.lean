import RoutePatterns.Pattern.Error
import RoutePatterns.Pattern.Token
import RoutePatterns.Options
import RoutePatterns.Regex.Search

/-!
Matchers: token lists as regular expressions. Every parameter becomes a slot, which has a capture in
the expression for whole paths and an expression of its own that says which values it takes.
Neighbouring static texts become one part.
-/

set_option autoImplicit false

namespace RoutePatterns

/-- The place of a parameter in a matcher. -/
structure Slot where
  /-- The displayed name of the parameter. -/
  name : String
  /-- The name of its capture. -/
  capture : String
  /-- The character before the value that belongs to the parameter. -/
  lead : Option Char
  /-- The character between the values of a list. -/
  separator : Char
  /-- Whether the parameter may be absent. -/
  isOptional : Bool
  /-- Whether the parameter takes a list of values. -/
  isRepeating : Bool
  /-- The expression for one value, as it is written. -/
  group : String
  /-- The expression that a value must match from beginning to end. -/
  check : Regex

/-- A part of a matcher. -/
inductive Part
  /-- Text that stands for itself. -/
  | literal (text : String)
  /-- The place of a parameter. -/
  | param (slot : Slot)

/-- What tells whether a path belongs to a pattern. -/
structure Matcher where
  /-- The expression for whole paths. -/
  regex : Regex
  /-- The parts in pattern order. -/
  parts : List Part

/-- Reads an expression under the options. -/
def compileRegex (options : PatternOptions) (source : List Char) : Except PatternError Regex :=
  let source := String.ofList source
  match Regex.compile? (!options.sensitive) source with
  | some regex => .ok regex
  | none => .error (.invalidRegex source)

namespace Slot

/-- An expression in a group that records nothing. -/
def grouped (source : List Char) : List Char :=
  ['(', '?', ':'] ++ source ++ [')']

/-- The slot of the parameter that follows `index` others. -/
def ofParam (options : PatternOptions) (index : Nat) (parameter : Param) :
    Except PatternError Slot :=
  (compileRegex options (['^'] ++ grouped parameter.group.toList ++ ['$'])).map fun check =>
    { name := parameter.name.display
      capture := s!"__p{index}"
      lead := parameter.lead
      separator := parameter.separator options.delimiter
      isOptional := parameter.isOptional
      isRepeating := parameter.isRepeating
      group := parameter.group
      check }

/-- The expression for the values of the slot: one, or several with separators between them. -/
def valuesSource (slot : Slot) : List Char :=
  let value := grouped slot.group.toList
  if slot.isRepeating then
    value ++ grouped (Regex.escapeChar slot.separator ++ value) ++ ['*']
  else value

/-- The expression for the slot: its lead and the capture of its values, or nothing if it may be
absent. -/
def source (slot : Slot) : List Char :=
  let capture := "(?P<".toList ++ slot.capture.toList ++ ['>'] ++ slot.valuesSource ++ [')']
  match slot.lead with
  | none => if slot.isOptional then capture ++ ['?'] else capture
  | some lead =>
    let led := Regex.escapeChar lead ++ capture
    if slot.isOptional then grouped led ++ ['?'] else led

end Slot

namespace Part

/-- Puts static text before parts. -/
def prependText (text : String) : List Part → List Part
  | .literal next :: parts => .literal (text ++ next) :: parts
  | parts => .literal text :: parts

/-- The parts of tokens that follow `index` parameters. -/
def ofTokens (options : PatternOptions) (index : Nat) :
    List Token → Except PatternError (List Part)
  | [] => .ok []
  | .literal text :: tokens => (ofTokens options index tokens).map (prependText text)
  | .param parameter :: tokens =>
    match Slot.ofParam options index parameter with
    | .error error => .error error
    | .ok slot => (ofTokens options (index + 1) tokens).map (.param slot :: ·)

/-- The expression for a part. -/
def source : Part → List Char
  | .literal text => Regex.escape text.toList
  | .param slot => slot.source

/-- The slot that the part is, if it is one. -/
def slot? : Part → Option Slot
  | .literal _ => none
  | .param slot => some slot

end Part

namespace Matcher

/-- The expression for whole paths: the parts in order and, unless the options are strict, one more
delimiter or none. -/
def sourceOf (options : PatternOptions) (parts : List Part) : List Char :=
  let trailing :=
    if options.strict then []
    else Slot.grouped (Regex.escapeChar options.delimiter) ++ ['?']
  ['^'] ++ parts.flatMap Part.source ++ trailing ++ ['$']

/-- The matcher of tokens. The expressions for values are read first, in pattern order. -/
def ofTokens (options : PatternOptions) (tokens : List Token) :
    Except PatternError Matcher :=
  match Part.ofTokens options 0 tokens with
  | .error error => .error error
  | .ok parts => (compileRegex options (sourceOf options parts)).map fun regex => ⟨regex, parts⟩

/-- The slots in pattern order. -/
def slots (matcher : Matcher) : List Slot :=
  matcher.parts.filterMap Part.slot?

/-- The displayed names of the parameters in pattern order. -/
def paramNames (matcher : Matcher) : List String :=
  matcher.slots.map (·.name)

/-- Whether a path belongs to the pattern. -/
def accepts (matcher : Matcher) (path : String) : Bool :=
  matcher.regex.isMatch path

end Matcher

end RoutePatterns
