import RoutePatterns.RouteEntry
import RoutePatterns.Scenario.Digit
import RoutePatterns.Scenario.Error
import RoutePatterns.Text.Split

/-!
Scenarios as plain text: the digit of the shared options and a blank, then for every entry its
digit, a blank and its pattern, with a line feed between entries.
-/

set_option autoImplicit false

namespace RoutePatterns

open Text

/-- Route entries with the options that they share. -/
structure Scenario where
  /-- The entries. -/
  entries : List RouteEntry
  /-- The options of entries without options of their own. -/
  shared : PatternOptions
  deriving DecidableEq, Repr

namespace Scenario

/-- The character after an option digit. -/
def digitMark : Char := ' '

/-- The character between entries. -/
def entryMark : Char := '\n'

/-! ### Writing -/

/-- The text of an entry. -/
def entryText (entry : RouteEntry) : List Char :=
  (OptionDigit.ofOptions entry.applyOptions entry.options).char :: digitMark ::
    entry.pattern.toList

/-- The text of an entry, unless it cannot be written down. -/
def writeEntry (entry : RouteEntry) : Except ScenarioError (List Char) :=
  if entry.pattern.toList.contains entryMark then .error (.newlineInPattern entry.pattern)
  else if entry.options.delimiter != defaultDelimiter then
    .error (.unsupportedDelimiter entry.pattern entry.options.delimiter)
  else .ok (entryText entry)

/-- The texts of entries, or the failure of the first that cannot be written down. -/
def writeEntries : List RouteEntry → Except ScenarioError (List (List Char))
  | [] => .ok []
  | entry :: entries =>
    match writeEntry entry with
    | .error error => .error error
    | .ok text => (writeEntries entries).map (text :: ·)

/-- The text of a scenario. -/
def toText (scenario : Scenario) : Except ScenarioError (List Char) :=
  if scenario.shared.delimiter != defaultDelimiter then
    .error (.unsupportedSharedDelimiter scenario.shared.delimiter)
  else
    (writeEntries scenario.entries).map fun texts =>
      (OptionDigit.ofOptions false scenario.shared).char :: digitMark :: joinWith entryMark texts

/-! ### Reading -/

/-- Reads an option digit. -/
def readDigit (text : List Char) : Except ScenarioError OptionDigit :=
  match OptionDigit.ofText? text with
  | some digit => .ok digit
  | none => .error (.invalidDigit (String.ofList text))

/-- Reads the entry with the number `line`. -/
def readEntry (line : Nat) (text : List Char) : Except ScenarioError RouteEntry :=
  match cutOnce digitMark text with
  | none => .error (.malformedEntry line (String.ofList text))
  | some (digit, pattern) =>
    (readDigit digit).map fun digit =>
      ⟨String.ofList pattern, digit.options, digit.applyOptions⟩

/-- Reads entries with numbers from `line` on, or gives the failure of the first faulty one. -/
def readEntries (line : Nat) : List (List Char) → Except ScenarioError (List RouteEntry)
  | [] => .ok []
  | text :: texts =>
    match readEntry line text with
    | .error error => .error error
    | .ok entry => (readEntries (line + 1) texts).map (entry :: ·)

/-- Reads a scenario. -/
def ofText (text : List Char) : Except ScenarioError Scenario :=
  match cutOnce digitMark text with
  | none => .error .missingHeader
  | some (header, body) =>
    match readDigit header with
    | .error error => .error error
    | .ok digit =>
      if body.isEmpty then .ok ⟨[], digit.options⟩
      else
        (readEntries 0 (fields entryMark body)).map fun entries => ⟨entries, digit.options⟩

end Scenario

end RoutePatterns
