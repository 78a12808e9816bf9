import RoutePatterns.Regex.Node

/-!
The switches that a regular expression can turn on and off, and what they mean for its parts. With
`unicode` off the expression is read as one over bytes; what could then match within the bytes of
a character is refused (`none`).
-/

set_option autoImplicit false

namespace RoutePatterns.Regex

/-- The switches in force at a place of an expression. -/
structure Flags where
  /-- Letters match in either case (`i`). -/
  ignoreCase : Bool := false
  /-- Line conditions hold at every line (`m`). -/
  multiLine : Bool := false
  /-- The dot matches line ends (`s`). -/
  dotMatchesAll : Bool := false
  /-- Greedy and lazy are swapped (`U`). -/
  swapGreed : Bool := false
  /-- Classes, words and case are those of Unicode (`u`). -/
  unicode : Bool := true
  /-- Lines end with a carriage return, a line feed or both (`R`). -/
  crlf : Bool := false
  /-- White space and comments are skipped (`x`). -/
  verbose : Bool := false
  deriving DecidableEq, Repr

namespace Flags

/-- Sets the switch with the letter `char`; other characters are ignored. -/
def set (flags : Flags) (value : Bool) : Char → Flags
  | 'i' => { flags with ignoreCase := value }
  | 'm' => { flags with multiLine := value }
  | 's' => { flags with dotMatchesAll := value }
  | 'U' => { flags with swapGreed := value }
  | 'u' => { flags with unicode := value }
  | 'R' => { flags with crlf := value }
  | 'x' => { flags with verbose := value }
  | _ => flags

/-- Applies a list of letters, where those after a hyphen are turned off. -/
def apply (flags : Flags) (letters : List Char) : Flags :=
  let (on, off) := (letters.takeWhile (· != '-'), letters.dropWhile (· != '-'))
  off.foldl (·.set false ·) (on.foldl (·.set true ·) flags)

/-- Whether letters are a list of switches: known, none twice, and something after a hyphen. -/
def areLetters (letters : List Char) : Bool :=
  letters.all ['i', 'm', 's', 'U', 'u', 'R', 'x', '-'].contains && letters.Nodup &&
    letters.getLast? != some '-'

/-! ### Meaning of the parts -/

/-- Closes a set under case folding if case is ignored. -/
def fold (flags : Flags) (set : CharSet) : CharSet :=
  if !flags.ignoreCase then set
  else if flags.unicode then set.folded
  else set.foldedAscii

/-- The complement of a set if `negated`. Over bytes there is none: the set has ASCII characters
only, and its complement would match within the bytes of others. -/
def negate? (flags : Flags) (negated : Bool) (set : CharSet) : Option CharSet :=
  if !negated then some set
  else if flags.unicode then some set.compl
  else none

/-- The set of one character. -/
def single (flags : Flags) (char : Char) : CharSet :=
  if !flags.ignoreCase then .single char
  else if flags.unicode then .foldedSingle char
  else (CharSet.single char).foldedAscii

/-- The set of the dot. -/
def dot? (flags : Flags) : Option CharSet :=
  if !flags.unicode then none
  else if flags.dotMatchesAll then some fun _ => true
  else if flags.crlf then some fun char => char != '\n' && char != '\r'
  else some fun char => char != '\n'

/-- The condition of a caret. -/
def caret (flags : Flags) : Look :=
  if !flags.multiLine then .textStart
  else if flags.crlf then .crlfLineStart
  else .lineStart

/-- The condition of a dollar sign. -/
def dollar (flags : Flags) : Look :=
  if !flags.multiLine then .textEnd
  else if flags.crlf then .crlfLineEnd
  else .lineEnd

end Flags

end RoutePatterns.Regex
