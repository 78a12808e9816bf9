import RoutePatterns.Text.Blank

/-!
Bytes as text that can stand in an address: base64 with `-`, `_` and `.` in place of `+`, `/` and
`=`. Reading takes both spellings, ignores white space at both ends and refuses anything that is not
the one way to write its bytes.
-/

set_option autoImplicit false

namespace RoutePatterns.Text.UrlBase64

/-- The character of a value below 64. -/
def symbol (value : Nat) : Char :=
  if value < 26 then Char.ofNat (0x41 + value)
  else if value < 52 then Char.ofNat (0x61 + (value - 26))
  else if value < 62 then Char.ofNat (0x30 + (value - 52))
  else if value = 62 then '-'
  else '_'

/-- The value of a character. -/
def value? (char : Char) : Option Nat :=
  let code := char.toNat
  if 0x41 ≤ code && code ≤ 0x5A then some (code - 0x41)
  else if 0x61 ≤ code && code ≤ 0x7A then some (code - 0x61 + 26)
  else if 0x30 ≤ code && code ≤ 0x39 then some (code - 0x30 + 52)
  else if char = '-' then some 62
  else if char = '_' then some 63
  else none

/-- The character that fills up the last group of four. -/
def padding : Char := '.'

/-- The text of bytes. -/
def encode : List UInt8 → List Char
  | [] => []
  | [first] =>
    let a := first.toNat
    [symbol (a / 4), symbol (a % 4 * 16), padding, padding]
  | [first, second] =>
    let (a, b) := (first.toNat, second.toNat)
    [symbol (a / 4), symbol (a % 4 * 16 + b / 16), symbol (b % 16 * 4), padding]
  | first :: second :: third :: rest =>
    let (a, b, c) := (first.toNat, second.toNat, third.toNat)
    symbol (a / 4) :: symbol (a % 4 * 16 + b / 16) :: symbol (b % 16 * 4 + c / 64) ::
      symbol (c % 64) :: encode rest

/-- The bytes of a last group with two characters; their unused bits must be zero. -/
def lastOne? (a b : Nat) : Option (List UInt8) :=
  if b % 16 = 0 then some [.ofNat (a * 4 + b / 16)] else none

/-- The bytes of a last group with three characters; their unused bits must be zero. -/
def lastTwo? (a b c : Nat) : Option (List UInt8) :=
  if c % 4 = 0 then some [.ofNat (a * 4 + b / 16), .ofNat (b % 16 * 16 + c / 4)] else none

/-- The bytes of a group of four characters. -/
def group (a b c d : Nat) : List UInt8 :=
  [.ofNat (a * 4 + b / 16), .ofNat (b % 16 * 16 + c / 4), .ofNat (c % 4 * 64 + d)]

/-- The bytes of groups of four characters. -/
def decodeGroups : List Char → Option (List UInt8)
  | [] => some []
  | first :: second :: third :: fourth :: rest =>
    match value? first, value? second, value? third, value? fourth with
    | some a, some b, some c, some d => (decodeGroups rest).map (group a b c d ++ ·)
    | some a, some b, some c, none =>
      if fourth = padding && rest.isEmpty then lastTwo? a b c else none
    | some a, some b, none, none =>
      if third = padding && fourth = padding && rest.isEmpty then lastOne? a b else none
    | _, _, _, _ => none
  | _ => none

/-- The safe spelling of a character. -/
def safeChar : Char → Char
  | '+' => '-'
  | '/' => '_'
  | '=' => '.'
  | char => char

/-- The safe spelling of a text, without white space at both ends. -/
def normalize (text : List Char) : List Char :=
  (trim text).map safeChar

/-- The bytes of a text, if it is the way to write them. -/
def decode? (text : List Char) : Option (List UInt8) :=
  decodeGroups (normalize text)

end RoutePatterns.Text.UrlBase64
