import RoutePatterns.Text.CategoryRanges

/-!
General categories of characters, the groups that have a name of their own, and look-up by name.
-/

set_option autoImplicit false

namespace RoutePatterns.Text

/-- The general category of an assigned character. -/
inductive Category
  | uppercaseLetter | lowercaseLetter | titlecaseLetter | modifierLetter | otherLetter
  | nonspacingMark | spacingMark | enclosingMark
  | decimalNumber | letterNumber | otherNumber
  | connectorPunctuation | dashPunctuation | openPunctuation | closePunctuation
  | initialPunctuation | finalPunctuation | otherPunctuation
  | mathSymbol | currencySymbol | modifierSymbol | otherSymbol
  | spaceSeparator | lineSeparator | paragraphSeparator
  | control | format | privateUse
  deriving DecidableEq, Repr

namespace Category

/-- The code points of a category. -/
def ranges : Category → RangeTable
  | .uppercaseLetter => CategoryRanges.uppercaseLetter
  | .lowercaseLetter => CategoryRanges.lowercaseLetter
  | .titlecaseLetter => CategoryRanges.titlecaseLetter
  | .modifierLetter => CategoryRanges.modifierLetter
  | .otherLetter => CategoryRanges.otherLetter
  | .nonspacingMark => CategoryRanges.nonspacingMark
  | .spacingMark => CategoryRanges.spacingMark
  | .enclosingMark => CategoryRanges.enclosingMark
  | .decimalNumber => CategoryRanges.decimalNumber
  | .letterNumber => CategoryRanges.letterNumber
  | .otherNumber => CategoryRanges.otherNumber
  | .connectorPunctuation => CategoryRanges.connectorPunctuation
  | .dashPunctuation => CategoryRanges.dashPunctuation
  | .openPunctuation => CategoryRanges.openPunctuation
  | .closePunctuation => CategoryRanges.closePunctuation
  | .initialPunctuation => CategoryRanges.initialPunctuation
  | .finalPunctuation => CategoryRanges.finalPunctuation
  | .otherPunctuation => CategoryRanges.otherPunctuation
  | .mathSymbol => CategoryRanges.mathSymbol
  | .currencySymbol => CategoryRanges.currencySymbol
  | .modifierSymbol => CategoryRanges.modifierSymbol
  | .otherSymbol => CategoryRanges.otherSymbol
  | .spaceSeparator => CategoryRanges.spaceSeparator
  | .lineSeparator => CategoryRanges.lineSeparator
  | .paragraphSeparator => CategoryRanges.paragraphSeparator
  | .control => CategoryRanges.control
  | .format => CategoryRanges.format
  | .privateUse => CategoryRanges.privateUse

/-- Whether `char` is of the category. -/
def contains (category : Category) (char : Char) : Bool :=
  category.ranges.contains char.toNat

/-- The three cases of a letter. -/
def casedLetters : List Category :=
  [.uppercaseLetter, .lowercaseLetter, .titlecaseLetter]

/-- All letters. -/
def letters : List Category :=
  casedLetters ++ [.modifierLetter, .otherLetter]

/-- All combining marks. -/
def marks : List Category :=
  [.nonspacingMark, .spacingMark, .enclosingMark]

/-- All numbers. -/
def numbers : List Category :=
  [.decimalNumber, .letterNumber, .otherNumber]

/-- All punctuation. -/
def punctuation : List Category :=
  [.connectorPunctuation, .dashPunctuation, .openPunctuation, .closePunctuation,
    .initialPunctuation, .finalPunctuation, .otherPunctuation]

/-- All symbols. -/
def symbols : List Category :=
  [.mathSymbol, .currencySymbol, .modifierSymbol, .otherSymbol]

/-- All separators. -/
def separators : List Category :=
  [.spaceSeparator, .lineSeparator, .paragraphSeparator]

/-- Every category of an assigned character. -/
def assigned : List Category :=
  letters ++ marks ++ numbers ++ punctuation ++ symbols ++ separators ++
    [.control, .format, .privateUse]

end Category

/-- A set of characters given by general categories. -/
inductive CategoryClass
  /-- The characters of one of the categories. -/
  | anyOf (categories : List Category)
  /-- The characters of none of the categories. -/
  | noneOf (categories : List Category)
  /-- The characters below U+0080. -/
  | ascii
  deriving DecidableEq, Repr

namespace CategoryClass

/-- Whether `char` belongs to the set. -/
def contains (char : Char) : CategoryClass → Bool
  | .anyOf categories => categories.any (·.contains char)
  | .noneOf categories => categories.all (!·.contains char)
  | .ascii => char.toNat < 0x80

/-- The loose spellings of the names of categories and of groups of categories. -/
def names : List (List String × CategoryClass) := [
  (["any"], .noneOf []),
  (["assigned"], .anyOf Category.assigned),
  (["ascii"], .ascii),
  (["l", "letter"], .anyOf Category.letters),
  (["lc", "casedletter"], .anyOf Category.casedLetters),
  (["lu", "uppercaseletter"], .anyOf [.uppercaseLetter]),
  (["ll", "lowercaseletter"], .anyOf [.lowercaseLetter]),
  (["lt", "titlecaseletter"], .anyOf [.titlecaseLetter]),
  (["lm", "modifierletter"], .anyOf [.modifierLetter]),
  (["lo", "otherletter"], .anyOf [.otherLetter]),
  (["m", "mark", "combiningmark"], .anyOf Category.marks),
  (["mn", "nonspacingmark"], .anyOf [.nonspacingMark]),
  (["mc", "spacingmark"], .anyOf [.spacingMark]),
  (["me", "enclosingmark"], .anyOf [.enclosingMark]),
  (["n", "number"], .anyOf Category.numbers),
  (["nd", "decimalnumber", "digit"], .anyOf [.decimalNumber]),
  (["nl", "letternumber"], .anyOf [.letterNumber]),
  (["no", "othernumber"], .anyOf [.otherNumber]),
  (["p", "punctuation", "punct"], .anyOf Category.punctuation),
  (["pc", "connectorpunctuation"], .anyOf [.connectorPunctuation]),
  (["pd", "dashpunctuation"], .anyOf [.dashPunctuation]),
  (["ps", "openpunctuation"], .anyOf [.openPunctuation]),
  (["pe", "closepunctuation"], .anyOf [.closePunctuation]),
  (["pi", "initialpunctuation"], .anyOf [.initialPunctuation]),
  (["pf", "finalpunctuation"], .anyOf [.finalPunctuation]),
  (["po", "otherpunctuation"], .anyOf [.otherPunctuation]),
  (["s", "symbol"], .anyOf Category.symbols),
  (["sm", "mathsymbol"], .anyOf [.mathSymbol]),
  (["sc", "currencysymbol"], .anyOf [.currencySymbol]),
  (["sk", "modifiersymbol"], .anyOf [.modifierSymbol]),
  (["so", "othersymbol"], .anyOf [.otherSymbol]),
  (["z", "separator"], .anyOf Category.separators),
  (["zs", "spaceseparator"], .anyOf [.spaceSeparator]),
  (["zl", "lineseparator"], .anyOf [.lineSeparator]),
  (["zp", "paragraphseparator"], .anyOf [.paragraphSeparator]),
  (["c", "other"], .noneOf (Category.letters ++ Category.marks ++ Category.numbers ++
    Category.punctuation ++ Category.symbols ++ Category.separators)),
  (["cc", "control", "cntrl"], .anyOf [.control]),
  (["cf", "format"], .anyOf [.format]),
  (["co", "privateuse"], .anyOf [.privateUse]),
  (["cn", "unassigned"], .noneOf Category.assigned)]

/-- The set of characters with the loose spelling `name`. -/
def named? (name : String) : Option CategoryClass :=
  (names.find? fun entry => entry.1.contains name).map (·.2)

end CategoryClass

end RoutePatterns.Text
