import RoutePatterns.Options

/-!
Options as one digit from 0 to 7: four for options that are applied, two for strict ones, one for
case-sensitive ones. The delimiter is not part of it.
-/

set_option autoImplicit false

namespace RoutePatterns.Scenario

/-- The switches that a digit stands for. -/
structure OptionDigit where
  /-- Whether the options are applied. -/
  applyOptions : Bool
  /-- Whether the options are strict. -/
  strict : Bool
  /-- Whether the options are case-sensitive. -/
  sensitive : Bool
  deriving DecidableEq, Repr

namespace OptionDigit

/-- The digit of options. -/
def ofOptions (applyOptions : Bool) (options : PatternOptions) : OptionDigit :=
  ⟨applyOptions, options.strict, options.sensitive⟩

/-- The options of a digit, with the default delimiter. -/
def options (digit : OptionDigit) : PatternOptions :=
  { strict := digit.strict, sensitive := digit.sensitive }

/-- The value of a digit. -/
def value (digit : OptionDigit) : Nat :=
  4 * digit.applyOptions.toNat + 2 * digit.strict.toNat + digit.sensitive.toNat

/-- The character of a digit. -/
def char (digit : OptionDigit) : Char :=
  Char.ofNat (0x30 + digit.value)

/-- The digit that a text is, if it is one. -/
def ofText? : List Char → Option OptionDigit
  | [char] =>
    if '0' ≤ char && char ≤ '7' then
      let value := char.toNat - 0x30
      some ⟨value.testBit 2, value.testBit 1, value.testBit 0⟩
    else none
  | _ => none

end OptionDigit

end RoutePatterns.Scenario
