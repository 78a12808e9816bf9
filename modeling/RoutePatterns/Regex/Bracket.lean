import RoutePatterns.Regex.Escaped

/-!
Character classes in brackets: characters, ranges, named sets, nested brackets and the operations
`&&`, `--` and `~~`, which bind alike and to the left. `readBracket` reads a class after its opening
bracket. Main statement: `readBracket_length`, a class takes at least one character.
-/

set_option autoImplicit false

namespace RoutePatterns.Regex

open Text

/-- An operation between the operands of a class. -/
inductive SetOperation
  | inter | diff | symmDiff
  deriving DecidableEq, Repr

/-- The set that an operation makes of two. -/
def SetOperation.apply : SetOperation → CharSet → CharSet → CharSet
  | .inter => CharSet.inter
  | .diff => CharSet.diff
  | .symmDiff => CharSet.symmDiff

/-- An open bracket: what has been read of its class. -/
structure Bracket where
  /-- Whether the class is complemented. -/
  negated : Bool
  /-- The operand before the latest operation, with that operation. -/
  left : Option (SetOperation × CharSet)
  /-- The items since the latest operation. -/
  items : CharSet

namespace Bracket

/-- Adds an item. -/
def add (bracket : Bracket) (item : CharSet) : Bracket :=
  { bracket with items := bracket.items.union item }

/-- The set of what has been read, with the pending operation carried out. -/
def operand (flags : Flags) (bracket : Bracket) : CharSet :=
  match bracket.left with
  | none => bracket.items
  | some (operation, left) => operation.apply (flags.fold left) (flags.fold bracket.items)

/-- Makes what has been read the left operand of an operation. -/
def operate (flags : Flags) (operation : SetOperation) (bracket : Bracket) : Bracket :=
  { bracket with left := some (operation, bracket.operand flags), items := .none }

/-- The set of the whole class. -/
def close? (flags : Flags) (bracket : Bracket) : Option CharSet :=
  flags.negate? bracket.negated (flags.fold (bracket.operand flags))

end Bracket

/-- An item of a class that can stand before a hyphen. -/
inductive BracketAtom
  | literal (char : Char)
  | chars (set : CharSet)

/-- The set of an item. -/
def BracketAtom.toSet : BracketAtom → CharSet
  | .literal char => .single char
  | .chars set => set

/-- A character as an item. Over bytes it must be ASCII whatever the class does with it, so that
`(?-u)[^\x80-\xFF]` is refused at its first byte. -/
def literalAtom? (flags : Flags) (char : Char) : Option BracketAtom :=
  if flags.unicode || char.toNat < 0x80 then some (.literal char) else none

/-- What a backslash introduces, as an item. -/
def escapedAtom? (flags : Flags) : Escaped → Option BracketAtom
  | .literal char _ => literalAtom? flags char
  | .classSet unicode ascii negated =>
    (flags.negate? negated (if flags.unicode then unicode else ascii)).map .chars
  | .property set negated =>
    if flags.unicode then (flags.negate? negated (flags.fold set)).map .chars else none
  | .look _ => none

/-- Reads the item that begins with `char`. -/
def readAtom (flags : Flags) (char : Char) (rest : List Char) :
    Option (BracketAtom × List Char) :=
  if char = '\\' then
    match readEscaped flags rest with
    | none => none
    | some (escaped, rest) => (escapedAtom? flags escaped).map fun atom => (atom, rest)
  else (literalAtom? flags char).map fun atom => (atom, rest)

/-- The next character that is not skipped. A comment counts as skipped up to its first character
that is not white space. -/
def peek (flags : Flags) (text : List Char) : Option Char :=
  if !flags.verbose then text.head?
  else
    let after :=
      match text.dropWhile isBlank with
      | '#' :: rest => rest.dropWhile isBlank
      | rest => rest
    after.head?.or text.head?

/-- Reads the item or range that begins with `char`. A hyphen makes a range unless another hyphen or
the closing bracket follows it. -/
def readRange (flags : Flags) (char : Char) (rest : List Char) : Option (CharSet × List Char) :=
  match readAtom flags char rest with
  | none => none
  | some (first, rest) =>
    match flags.skip rest with
    | '-' :: after =>
      if peek flags after = some ']' || peek flags after = some '-' then
        some (first.toSet, '-' :: after)
      else
        match flags.skip after with
        | [] => none
        | char :: rest =>
          match first, readAtom flags char rest with
          | .literal low, some (.literal high, rest) =>
            if low ≤ high then some (.range low high, rest) else none
          | _, _ => none
    | rest => some (first.toSet, rest)

/-- Drops hyphens; the flag tells whether there were any. -/
def skipHyphens (flags : Flags) (text : List Char) : Bool × List Char :=
  match h : flags.skip text with
  | '-' :: rest =>
    have : rest.length < text.length := by
      have := flags.skip_length text
      rw [h, List.length_cons] at this
      omega
    (true, (skipHyphens flags rest).2)
  | rest => (false, rest)
termination_by text.length

/-- Opens a class after its bracket: a caret complements it, leading hyphens stand for themselves,
and so does a closing bracket that comes first. -/
def openBracket (flags : Flags) (text : List Char) : Bracket × List Char :=
  let (negated, text) :=
    match flags.skip text with
    | '^' :: rest => (true, rest)
    | rest => (false, rest)
  match skipHyphens flags text with
  | (true, rest) => (⟨negated, none, .single '-'⟩, rest)
  | (false, ']' :: rest) => (⟨negated, none, .single ']'⟩, rest)
  | (false, rest) => (⟨negated, none, .none⟩, rest)

/-- Reads an ASCII set by name after the bracket before its colon. -/
def readAsciiNamed (text : List Char) : Option (CharSet × Bool × List Char) :=
  match text with
  | ':' :: rest =>
    let (negated, rest) :=
      match rest with
      | '^' :: rest => (true, rest)
      | rest => (false, rest)
    match rest.dropWhile (· != ':') with
    | ':' :: ']' :: after =>
      (CharSet.asciiNamed? (String.ofList (rest.takeWhile (· != ':')))).map fun set =>
        (set, negated, after)
    | _ => none
  | _ => none

/-- How far a class has been read. -/
inductive BracketStep
  /-- The class goes on within `current`, which `outer` brackets enclose. -/
  | more (current : Bracket) (outer : List Bracket) (rest : List Char)
  /-- The class is complete. -/
  | done (set : CharSet) (rest : List Char)

/-- The text after a step. -/
def BracketStep.rest : BracketStep → List Char
  | .more _ _ rest => rest
  | .done _ rest => rest

/-- Reads what begins with an opening bracket within a class. -/
def nestBracket (flags : Flags) (current : Bracket) (outer : List Bracket) (rest : List Char) :
    Option BracketStep :=
  match readAsciiNamed rest with
  | some (set, negated, rest) =>
    (flags.negate? negated (flags.fold set)).map fun set => .more (current.add set) outer rest
  | none =>
    let (nested, rest) := openBracket flags rest
    some (.more nested (current :: outer) rest)

/-- Reads a closing bracket. -/
def closeBracket (flags : Flags) (current : Bracket) (outer : List Bracket) (rest : List Char) :
    Option BracketStep :=
  match current.close? flags with
  | none => none
  | some set =>
    match outer with
    | [] => some (.done set rest)
    | parent :: outer => some (.more (parent.add set) outer rest)

/-- Reads what begins with `char` within a class. -/
def bracketStep (flags : Flags) (current : Bracket) (outer : List Bracket) (char : Char)
    (rest : List Char) : Option BracketStep :=
  match char, rest with
  | '[', rest => nestBracket flags current outer rest
  | ']', rest => closeBracket flags current outer rest
  | '&', '&' :: rest => some (.more (current.operate flags .inter) outer rest)
  | '-', '-' :: rest => some (.more (current.operate flags .diff) outer rest)
  | '~', '~' :: rest => some (.more (current.operate flags .symmDiff) outer rest)
  | char, rest =>
    (readRange flags char rest).map fun (set, rest) => .more (current.add set) outer rest

/-! ### What the readers take -/

private theorem readAtom_length {flags : Flags} {char : Char} {text rest : List Char}
    {atom : BracketAtom} (h : readAtom flags char text = some (atom, rest)) :
    rest.length ≤ text.length := by
  unfold readAtom at h
  split at h
  · split at h
    · cases h
    · next hescaped =>
      obtain ⟨_, _, heq⟩ := Option.map_eq_some_iff.mp h
      cases heq
      exact Nat.le_of_lt (readEscaped_length hescaped)
  · obtain ⟨_, _, heq⟩ := Option.map_eq_some_iff.mp h
    cases heq
    exact Nat.le_refl _

private theorem readRange_length {flags : Flags} {char : Char} {text rest : List Char}
    {set : CharSet} (h : readRange flags char text = some (set, rest)) :
    rest.length ≤ text.length := by
  unfold readRange at h
  split at h
  · cases h
  · next first middle hfirst =>
    have hfirst := readAtom_length hfirst
    have hskip := flags.skip_length middle
    split at h
    · next after hafter =>
      rw [hafter, List.length_cons] at hskip
      split at h
      · cases h
        simp only [List.length_cons]
        omega
      · have hskip' := flags.skip_length after
        split at h
        · cases h
        · next char' after' hafter' =>
          rw [hafter', List.length_cons] at hskip'
          split at h
          · next hsecond =>
            have hsecond := readAtom_length hsecond
            split at h
            · cases h
              omega
            · cases h
          · cases h
    · cases h
      omega

private theorem skipHyphens_length (flags : Flags) (text : List Char) :
    (skipHyphens flags text).2.length ≤ text.length := by
  fun_induction skipHyphens flags text with
  | case1 text rest h hshorter ih => exact Nat.le_trans ih (Nat.le_of_lt hshorter)
  | case2 text => exact flags.skip_length text

private theorem openBracket_length (flags : Flags) (text : List Char) :
    (openBracket flags text).2.length ≤ text.length := by
  have hskip := flags.skip_length text
  have hcaret : ∀ negated inner,
      (match flags.skip text with
        | '^' :: rest => (true, rest)
        | rest => (false, rest)) = (negated, inner) → inner.length ≤ text.length := by
    intro negated inner heq
    split at heq
    · next hafter =>
      rw [hafter, List.length_cons] at hskip
      cases heq
      omega
    · cases heq
      exact hskip
  unfold openBracket
  generalize hinner : (match flags.skip text with
    | '^' :: rest => (true, rest)
    | rest => (false, rest)) = inner at hcaret ⊢
  obtain ⟨negated, inner⟩ := inner
  have hinner := hcaret negated inner rfl
  have hhyphens := skipHyphens_length flags inner
  simp only
  split
  · next hafter => rw [hafter] at hhyphens; exact Nat.le_trans hhyphens hinner
  · next hafter =>
    rw [hafter] at hhyphens
    simp only [List.length_cons] at hhyphens
    simp only
    omega
  · next hafter => rw [hafter] at hhyphens; exact Nat.le_trans hhyphens hinner

private theorem readAsciiNamed_length {text rest : List Char} {set : CharSet} {negated : Bool}
    (h : readAsciiNamed text = some (set, negated, rest)) : rest.length ≤ text.length := by
  unfold readAsciiNamed at h
  split at h
  · next inner =>
    have hcaret : ∀ flag name, (match inner with
          | '^' :: rest => (true, rest)
          | rest => (false, rest)) = (flag, name) → name.length ≤ inner.length := by
      intro flag name heq
      split at heq <;> cases heq <;> simp
    generalize hname : (match inner with
      | '^' :: rest => (true, rest)
      | rest => (false, rest)) = name at h hcaret
    obtain ⟨flag, name⟩ := name
    have hname := hcaret flag name rfl
    simp only at h
    split at h
    · next after hafter =>
      obtain ⟨_, _, heq⟩ := Option.map_eq_some_iff.mp h
      cases heq
      have hdrop := (List.dropWhile_suffix (l := name) (· != ':')).length_le
      rw [hafter] at hdrop
      simp only [List.length_cons] at hdrop ⊢
      omega
    · cases h
  · cases h

private theorem nestBracket_length {flags : Flags} {current : Bracket} {outer : List Bracket}
    {text : List Char} {step : BracketStep}
    (h : nestBracket flags current outer text = some step) : step.rest.length ≤ text.length := by
  unfold nestBracket at h
  split at h
  · next hnamed =>
    obtain ⟨_, _, heq⟩ := Option.map_eq_some_iff.mp h
    cases heq
    exact readAsciiNamed_length hnamed
  · cases h
    exact openBracket_length flags text

private theorem closeBracket_length {flags : Flags} {current : Bracket} {outer : List Bracket}
    {text : List Char} {step : BracketStep}
    (h : closeBracket flags current outer text = some step) :
    step.rest.length ≤ text.length := by
  unfold closeBracket at h
  split at h
  · cases h
  · split at h <;> cases h <;> exact Nat.le_refl _

/-- Every step within a class takes at least one character. -/
theorem bracketStep_length {flags : Flags} {current : Bracket} {outer : List Bracket} {char : Char}
    {text : List Char} {step : BracketStep}
    (h : bracketStep flags current outer char text = some step) :
    step.rest.length ≤ text.length := by
  unfold bracketStep at h
  split at h
  · exact nestBracket_length h
  · exact closeBracket_length h
  · cases h
    exact Nat.le_succ _
  · cases h
    exact Nat.le_succ _
  · cases h
    exact Nat.le_succ _
  · obtain ⟨parts, hrange, heq⟩ := Option.map_eq_some_iff.mp h
    cases heq
    exact readRange_length hrange

/-! ### Whole classes -/

/-- Reads the rest of a class within `current`, which `outer` brackets enclose. -/
def readBracketFrom (flags : Flags) (current : Bracket) (outer : List Bracket)
    (text : List Char) : Option (CharSet × List Char) :=
  match htext : flags.skip text with
  | [] => none
  | char :: rest =>
    match hstep : bracketStep flags current outer char rest with
    | none => none
    | some (.done set rest) => some (set, rest)
    | some (.more current outer rest) =>
      have : rest.length < text.length := by
        have hskip := flags.skip_length text
        have hrest := bracketStep_length hstep
        rw [htext, List.length_cons] at hskip
        simp only [BracketStep.rest] at hrest
        omega
      readBracketFrom flags current outer rest
termination_by text.length

/-- Reads a class after its opening bracket. -/
def readBracket (flags : Flags) (text : List Char) : Option (CharSet × List Char) :=
  let (bracket, rest) := openBracket flags text
  readBracketFrom flags bracket [] rest

private theorem readBracketFrom_length {flags : Flags} {current : Bracket} {outer : List Bracket}
    {text rest : List Char} {set : CharSet}
    (h : readBracketFrom flags current outer text = some (set, rest)) :
    rest.length < text.length := by
  fun_induction readBracketFrom flags current outer text with
  | case1 => cases h
  | case2 => cases h
  | case3 current outer text char after htext set' rest' hstep =>
    cases h
    have hskip := flags.skip_length text
    have hrest := bracketStep_length hstep
    rw [htext, List.length_cons] at hskip
    simp only [BracketStep.rest] at hrest
    omega
  | case4 current outer text char after htext current' outer' rest' hstep hshorter ih =>
    exact Nat.lt_trans (ih h) hshorter

/-- A class takes at least one character. -/
theorem readBracket_length {flags : Flags} {text rest : List Char} {set : CharSet}
    (h : readBracket flags text = some (set, rest)) : rest.length < text.length :=
  Nat.lt_of_lt_of_le (readBracketFrom_length h) (openBracket_length flags text)

end RoutePatterns.Regex
