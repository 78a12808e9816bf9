import RoutePatterns.Regex.Escape
import RoutePatterns.Regex.Flags
import RoutePatterns.Text.Split

/-!
What a backslash introduces: characters by number or letter, sets by letter or property, and
conditions. The `_length` lemmas say that a reader gives back no more text than it was given.
-/

set_option autoImplicit false

namespace RoutePatterns.Regex

open Text

/-! ### Skipping -/

/-- Drops white space and comments, each of which goes from a number sign to the end of its line. -/
def skipBlanks (inComment : Bool) : List Char → List Char
  | [] => []
  | char :: rest =>
    if inComment then skipBlanks (char != '\n') rest
    else if isBlank char then skipBlanks false rest
    else if char == '#' then skipBlanks true rest
    else char :: rest

/-- Drops what the switches say is not part of the expression. -/
def Flags.skip (flags : Flags) (text : List Char) : List Char :=
  if flags.verbose then skipBlanks false text else text

theorem skipBlanks_length (inComment : Bool) (text : List Char) :
    (skipBlanks inComment text).length ≤ text.length := by
  fun_induction skipBlanks inComment text <;> simp_all <;> omega

theorem Flags.skip_length (flags : Flags) (text : List Char) :
    (flags.skip text).length ≤ text.length := by
  unfold Flags.skip
  split
  · exact skipBlanks_length _ _
  · exact Nat.le_refl _

/-- Reads up to a closing brace and gives what stands before it, less what is skipped. -/
def readBraced (flags : Flags) (inComment : Bool) (done : List Char) :
    List Char → Option (List Char × List Char)
  | [] => none
  | char :: rest =>
    if inComment then readBraced flags (char != '\n') done rest
    else if flags.verbose && isBlank char then readBraced flags false done rest
    else if flags.verbose && char == '#' then readBraced flags true done rest
    else if char == '\x7d' then some (done.reverse, rest)
    else readBraced flags false (char :: done) rest

theorem readBraced_length {flags : Flags} {inComment : Bool} {done text content rest : List Char}
    (h : readBraced flags inComment done text = some (content, rest)) :
    rest.length < text.length := by
  induction text generalizing inComment done with
  | nil => cases h
  | cons char after ih =>
    rw [List.length_cons]
    unfold readBraced at h
    split at h
    · exact Nat.lt_succ_of_lt (ih h)
    · split at h
      · exact Nat.lt_succ_of_lt (ih h)
      · split at h
        · exact Nat.lt_succ_of_lt (ih h)
        · split at h
          · cases h
            exact Nat.lt_succ_self _
          · exact Nat.lt_succ_of_lt (ih h)

/-! ### Characters by number -/

/-- The value of a hexadecimal digit. -/
def hexValue? (char : Char) : Option Nat :=
  if char.isDigit then some (char.toNat - 0x30)
  else if 'a' ≤ char && char ≤ 'f' then some (char.toNat - 0x57)
  else if 'A' ≤ char && char ≤ 'F' then some (char.toNat - 0x37)
  else none

/-- The character with a code point, if there is one. -/
def charOfCode? (code : Nat) : Option Char :=
  if code.isValidChar then some (Char.ofNat code) else none

/-- Reads `count` hexadecimal digits after the value `value`. -/
def readHexDigits (flags : Flags) : Nat → Nat → List Char → Option (Nat × List Char)
  | 0, value, text => some (value, text)
  | count + 1, value, text =>
    match flags.skip text with
    | [] => none
    | char :: rest =>
      match hexValue? char with
      | none => none
      | some digit => readHexDigits flags count (value * 16 + digit) rest

theorem readHexDigits_length {flags : Flags} {count value code : Nat} {text rest : List Char}
    (h : readHexDigits flags count value text = some (code, rest)) :
    rest.length ≤ text.length := by
  induction count generalizing value text with
  | zero => cases h; exact Nat.le_refl _
  | succ count ih =>
    have hskip := flags.skip_length text
    unfold readHexDigits at h
    split at h
    · cases h
    · next char after hafter =>
      rw [hafter] at hskip
      split at h
      · cases h
      · have := ih h
        simp at hskip
        omega

/-- The number that hexadecimal digits write, at least one of them. -/
def hexNumber? (digits : List Char) : Option Nat :=
  if digits.isEmpty then none
  else digits.foldlM (fun value char => (hexValue? char).map fun digit => value * 16 + digit) 0

/-! ### What a backslash introduces -/

/-- What a backslash introduces. -/
inductive Escaped
  /-- A character; `byte` tells that it is written as a byte. -/
  | literal (char : Char) (byte : Bool)
  /-- A set that is the same in either case. -/
  | classSet (unicode ascii : CharSet) (negated : Bool)
  /-- The set of a property. -/
  | property (set : CharSet) (negated : Bool)
  /-- A condition. -/
  | look (condition : Look)

/-- Reads a character by number: `width` digits, or any number of them in braces. -/
def readHex (flags : Flags) (byte : Bool) (width : Nat) (text : List Char) :
    Option (Escaped × List Char) :=
  match flags.skip text with
  | '\x7b' :: rest =>
    match readBraced flags false [] rest with
    | none => none
    | some (digits, rest) =>
      ((hexNumber? digits).bind charOfCode?).map fun char => (.literal char false, rest)
  | _ =>
    match readHexDigits flags width 0 text with
    | none => none
    | some (code, rest) => (charOfCode? code).map fun char => (.literal char byte, rest)

/-- The set that the text in the braces of a property names, and whether it is to be complemented.
-/
def propertySet? (content : List Char) : Option (CharSet × Bool) :=
  let byValue (name value : List Char) : Option CharSet :=
    CharSet.propertyValueNamed? (CharSet.looseName name) (CharSet.looseName value)
  match cutNotEqual content with
  | some (name, value) => (byValue name value).map fun set => (set, true)
  | none =>
    match (cutOnce ':' content).orElse fun _ => cutOnce '=' content with
    | some (name, value) => (byValue name value).map fun set => (set, false)
    | none =>
      (CharSet.loosePropertyNamed? (CharSet.looseName content)).map fun set => (set, false)
where
  /-- The text before and after the first exclamation mark that an equals sign follows. -/
  cutNotEqual : List Char → Option (List Char × List Char)
    | [] => none
    | '!' :: '=' :: rest => some ([], rest)
    | char :: rest => (cutNotEqual rest).map fun parts => (char :: parts.1, parts.2)

/-- Reads the name of a property: one letter, or a text in braces. -/
def readProperty (flags : Flags) (negated : Bool) (text : List Char) :
    Option (Escaped × List Char) :=
  match flags.skip text with
  | [] => none
  | '\\' :: _ => none
  | '\x7b' :: rest =>
    match readBraced flags false [] rest with
    | none => none
    | some (content, rest) =>
      (propertySet? content).map fun (set, flipped) => (.property set (negated != flipped), rest)
  | char :: rest =>
    (CharSet.loosePropertyNamed? (CharSet.looseName [char])).map fun set =>
      (.property set negated, rest)

/-- Reads what follows the letter of a word boundary: the kind of boundary in braces, or nothing if
the braces hold something else. -/
def readBoundary (flags : Flags) (text : List Char) : Option (Escaped × List Char) :=
  match text with
  | '\x7b' :: rest =>
    match flags.skip rest with
    | [] => none
    | char :: _ =>
      if !(char.isAlpha || char == '-') then some (.look (.boundary flags.unicode), text)
      else
        match readBraced flags false [] rest with
        | none => none
        | some (content, rest) =>
          match String.ofList content with
          | "start" => some (.look (.wordStart flags.unicode), rest)
          | "end" => some (.look (.wordEnd flags.unicode), rest)
          | "start-half" => some (.look (.wordStartHalf flags.unicode), rest)
          | "end-half" => some (.look (.wordEndHalf flags.unicode), rest)
          | _ => none
  | _ => some (.look (.boundary flags.unicode), text)

/-- Whether a backslash before `char` makes it stand for itself: ASCII, neither letter nor digit nor
angle bracket. -/
def isEscapable (char : Char) : Bool :=
  isMeta char || (char.toNat < 0x80 && !char.isAlphanum && char != '<' && char != '>')

/-- Reads what a backslash introduces. -/
def readEscaped (flags : Flags) : List Char → Option (Escaped × List Char)
  | [] => none
  | char :: rest =>
    match char with
    | 'x' => readHex flags true 2 rest
    | 'u' => readHex flags false 4 rest
    | 'U' => readHex flags false 8 rest
    | 'p' => readProperty flags false rest
    | 'P' => readProperty flags true rest
    | 'd' => some (.classSet .digit .asciiDigit false, rest)
    | 'D' => some (.classSet .digit .asciiDigit true, rest)
    | 's' => some (.classSet .space .asciiSpace false, rest)
    | 'S' => some (.classSet .space .asciiSpace true, rest)
    | 'w' => some (.classSet .word .asciiWord false, rest)
    | 'W' => some (.classSet .word .asciiWord true, rest)
    | 'a' => some (.literal '\x07' false, rest)
    | 'f' => some (.literal '\x0c' false, rest)
    | 't' => some (.literal '\t' false, rest)
    | 'n' => some (.literal '\n' false, rest)
    | 'r' => some (.literal '\r' false, rest)
    | 'v' => some (.literal '\x0b' false, rest)
    | 'A' => some (.look .textStart, rest)
    | 'z' => some (.look .textEnd, rest)
    | 'b' => readBoundary flags rest
    | 'B' => some (.look (.noBoundary flags.unicode), rest)
    | '<' => some (.look (.wordStart flags.unicode), rest)
    | '>' => some (.look (.wordEnd flags.unicode), rest)
    | _ => if isEscapable char then some (.literal char false, rest) else none

/-! ### What the readers take -/

private theorem readHex_length {flags : Flags} {byte : Bool} {width : Nat}
    {text rest : List Char} {escaped : Escaped}
    (h : readHex flags byte width text = some (escaped, rest)) : rest.length ≤ text.length := by
  have hskip := flags.skip_length text
  unfold readHex at h
  split at h
  · next after hafter =>
    rw [hafter, List.length_cons] at hskip
    split at h
    · cases h
    · next hbraced =>
      obtain ⟨_, _, heq⟩ := Option.map_eq_some_iff.mp h
      cases heq
      have := readBraced_length hbraced
      omega
  · split at h
    · cases h
    · next hdigits =>
      obtain ⟨_, _, heq⟩ := Option.map_eq_some_iff.mp h
      cases heq
      exact readHexDigits_length hdigits

private theorem readProperty_length {flags : Flags} {negated : Bool} {text rest : List Char}
    {escaped : Escaped} (h : readProperty flags negated text = some (escaped, rest)) :
    rest.length ≤ text.length := by
  have hskip := flags.skip_length text
  unfold readProperty at h
  split at h
  · cases h
  · cases h
  · next after hafter =>
    rw [hafter, List.length_cons] at hskip
    split at h
    · cases h
    · next hbraced =>
      obtain ⟨_, _, heq⟩ := Option.map_eq_some_iff.mp h
      cases heq
      have := readBraced_length hbraced
      omega
  · next hafter =>
    rw [hafter, List.length_cons] at hskip
    obtain ⟨_, _, heq⟩ := Option.map_eq_some_iff.mp h
    cases heq
    omega

private theorem readBoundary_length {flags : Flags} {text rest : List Char} {escaped : Escaped}
    (h : readBoundary flags text = some (escaped, rest)) : rest.length ≤ text.length := by
  unfold readBoundary at h
  split at h
  · next inner =>
    split at h
    · cases h
    · split at h
      · cases h
        exact Nat.le_refl _
      · split at h
        · cases h
        · next hbraced =>
          have := readBraced_length hbraced
          split at h <;> cases h <;> simp <;> omega
  · cases h
    exact Nat.le_refl _

/-- What a backslash introduces takes at least one character. -/
theorem readEscaped_length {flags : Flags} {text rest : List Char} {escaped : Escaped}
    (h : readEscaped flags text = some (escaped, rest)) : rest.length < text.length := by
  unfold readEscaped at h
  split at h
  · cases h
  · next char after =>
    refine Nat.lt_succ_of_le ?_
    split at h
    case h_1 | h_2 | h_3 => exact readHex_length h
    case h_4 | h_5 => exact readProperty_length h
    case h_20 => exact readBoundary_length h
    case h_24 =>
      split at h
      · cases h
        exact Nat.le_refl _
      · cases h
    all_goals
      cases h
      exact Nat.le_refl _

end RoutePatterns.Regex
