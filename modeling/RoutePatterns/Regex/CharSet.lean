import RoutePatterns.Text.Blank
import RoutePatterns.Text.FoldCase
import RoutePatterns.Text.Property
import RoutePatterns.Text.Script

/-!
Sets of characters, given by their membership test, with the operations and the named sets that
regular expressions use.
-/

set_option autoImplicit false

namespace RoutePatterns.Regex

open Text

/-- A set of characters, given by its membership test. -/
abbrev CharSet := Char → Bool

namespace CharSet

/-- No character. -/
def none : CharSet := fun _ => false

/-- One character. -/
def single (char : Char) : CharSet := fun other => other == char

/-- The characters from `low` to `high`. -/
def range (low high : Char) : CharSet := fun char => low ≤ char && char ≤ high

/-- The characters of either set. -/
def union (first second : CharSet) : CharSet := fun char => first char || second char

/-- The characters of both sets. -/
def inter (first second : CharSet) : CharSet := fun char => first char && second char

/-- The characters of the first set that are not in the second. -/
def diff (first second : CharSet) : CharSet := fun char => first char && !second char

/-- The characters of exactly one of the sets. -/
def symmDiff (first second : CharSet) : CharSet := fun char => first char != second char

/-- The characters that are not in the set. -/
def compl (set : CharSet) : CharSet := fun char => !set char

/-- The characters that fold like one of the set. -/
def folded (set : CharSet) : CharSet := fun char => (orbit char).any set

/-- The characters that fold like `char`. -/
def foldedSingle (char : Char) : CharSet :=
  let target := fold char
  fun other => fold other == target

/-- The ASCII letter of the other case; any other character is left as it is. -/
def swapAsciiCase (char : Char) : Char :=
  if 'a' ≤ char && char ≤ 'z' then Char.ofNat (char.toNat - 32)
  else if 'A' ≤ char && char ≤ 'Z' then Char.ofNat (char.toNat + 32)
  else char

/-- The characters of the set and the ASCII letters whose other case is in it. -/
def foldedAscii (set : CharSet) : CharSet := fun char => set char || set (swapAsciiCase char)

/-! ### Named sets -/

/-- Decimal digits. -/
def digit : CharSet := Category.decimalNumber.contains

/-- White space. -/
def space : CharSet := isBlank

/-- Whether an ASCII character can be part of a word. -/
def asciiWord : CharSet := fun char => char.isAlphanum || char == '_'

/-- Characters of words: letters, marks, decimal digits, connectors and joiners. -/
def word : CharSet := fun char =>
  if char.toNat < 0x80 then asciiWord char
  else
    Property.alphabetic.contains char || Category.marks.any (·.contains char) ||
      Category.decimalNumber.contains char || Category.connectorPunctuation.contains char ||
      Property.joinControl.contains char

/-- ASCII digits. -/
def asciiDigit : CharSet := Char.isDigit

/-- ASCII white space. -/
def asciiSpace : CharSet := fun char => char == ' ' || ('\t' ≤ char && char ≤ '\r')

/-- The ASCII sets that can be named inside brackets. -/
def asciiNamed? : String → Option CharSet
  | "alnum" => some Char.isAlphanum
  | "alpha" => some Char.isAlpha
  | "ascii" => some fun char => char.toNat < 0x80
  | "blank" => some fun char => char == ' ' || char == '\t'
  | "cntrl" => some fun char => char.toNat < 0x20 || char.toNat == 0x7F
  | "digit" => some asciiDigit
  | "graph" => some (range '!' '~')
  | "lower" => some (range 'a' 'z')
  | "print" => some (range ' ' '~')
  | "punct" => some fun char =>
      range '!' '/' char || range ':' '@' char || range '[' '`' char || range '\x7b' '~' char
  | "space" => some asciiSpace
  | "upper" => some (range 'A' 'Z')
  | "word" => some asciiWord
  | "xdigit" => some fun char => char.isDigit || range 'a' 'f' char || range 'A' 'F' char
  | _ => Option.none

/-- The spelling of a property name or value without what makes no difference: case, spaces,
underscores, hyphens, a leading `is` and everything beyond ASCII. A name that is `isc` in full keeps
its beginning. -/
def looseName (name : List Char) : String :=
  let lowered := name.map Char.toLower
  let (started, kept) :=
    match lowered with
    | 'i' :: 's' :: rest => (true, rest)
    | _ => (false, lowered)
  let squeezed := kept.filter fun char =>
    char != ' ' && char != '_' && char != '-' && char.toNat < 0x80
  if started && squeezed == ['c'] then "isc" else String.ofList squeezed

/-- The set with the loose spelling `name`: a property, a category or a script. The short names of
three properties that are no sets give way to the categories they also name. -/
def loosePropertyNamed? (name : String) : Option CharSet :=
  match if ["cf", "sc", "lc"].contains name then Option.none else Property.named? name with
  | some property => some property.contains
  | Option.none =>
    match CategoryClass.named? name with
    | some category => some fun char => category.contains char
    | Option.none =>
      (Script.named? name).map fun script char => script.ranges.contains char.toNat

/-- The set that `value` names within the property `name`, a general category or a script. No other
property with values is known, so that an expression that names script extensions (`scx`), an age
(`age`) or a class of text segmentation (`gcb`, `wb`, `sb`) is refused. -/
def propertyValueNamed? (name value : String) : Option CharSet :=
  if ["gc", "generalcategory"].contains name then
    (CategoryClass.named? value).map fun category char => category.contains char
  else if ["sc", "script"].contains name then
    (Script.named? value).map fun script char => script.ranges.contains char.toNat
  else Option.none

end CharSet

end RoutePatterns.Regex
