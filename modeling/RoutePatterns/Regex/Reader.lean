import RoutePatterns.Regex.Bracket
import RoutePatterns.Regex.Group

/-!
Reading a regular expression. A `Reading` holds the groups that are open; `readStep` reads one piece
of the expression and `Node.read?` a whole one. `none` means that the expression is not valid, or
that a counted repetition in it is larger than `sizeLimit`. No other bound is set: expressions of any
length and depth of groups are read.
-/

set_option autoImplicit false

namespace RoutePatterns.Regex

open Text

/-- How large a counted repetition may become, in the measure of `repeat?`. It stands in for a bound
on the size of the compiled expression, which is not computed here. -/
def sizeLimit : Nat := 400000

/-- How far an expression has been read. -/
structure Reading where
  /-- The innermost open group; the whole expression if no group is open. -/
  current : Group
  /-- The groups around it, innermost first. -/
  enclosing : List Group
  /-- The switches in force. -/
  flags : Flags
  /-- Whether a repetition may follow. -/
  repeatable : Bool
  /-- The names of groups so far. -/
  names : List String

namespace Reading

/-- Nothing read yet. -/
def start (flags : Flags) : Reading :=
  ⟨⟨flags, none, [], []⟩, [], flags, false, []⟩

/-- Adds an item. -/
def push (reading : Reading) (node : Node) : Reading :=
  { reading with
    current := { reading.current with items := node :: reading.current.items }
    repeatable := true }

/-- Adds an item for one character of a set, if there is a set. -/
def pushSet? (reading : Reading) (set : Option CharSet) : Option Reading :=
  set.map fun set => reading.push (.one set)

/-- Replaces the latest item, if a repetition may follow it. -/
def modifyLast? (reading : Reading) (change : Node → Option Node) : Option Reading :=
  match reading.repeatable, reading.current.items with
  | true, node :: items =>
    (change node).map fun node =>
      { reading with current := { reading.current with items := node :: items } }
  | _, _ => none

/-- Begins the next branch. -/
def branch (reading : Reading) : Reading :=
  { reading with
    current :=
      { reading.current with
        branches := Node.ofItems reading.current.items.reverse :: reading.current.branches
        items := [] }
    repeatable := false }

/-- Enters a group. -/
def enter (reading : Reading) (name : Option String) (flags : Flags) : Reading :=
  { reading with
    current := ⟨reading.flags, name, [], []⟩
    enclosing := reading.current :: reading.enclosing
    flags
    repeatable := false }

/-- Carries out what an opening parenthesis introduces; a name may be used once only. -/
def opened? (reading : Reading) : Opening → Option Reading
  | .group flags => some (reading.enter none flags)
  | .named name =>
    if reading.names.contains name then none
    else some { reading.enter (some name) reading.flags with names := name :: reading.names }
  | .directive flags => some { reading with flags, repeatable := false }

/-- Leaves the innermost group. -/
def leave? (reading : Reading) : Option Reading :=
  match reading.enclosing with
  | [] => none
  | outer :: enclosing =>
    some
      ({ reading with
        current := outer
        enclosing
        flags := reading.current.outside }.push reading.current.node)

/-- Adds what a backslash introduces. -/
def escaped? (reading : Reading) : Escaped → Option Reading
  | .literal char byte =>
    if reading.flags.unicode || !byte || char.toNat < 0x80 then
      some (reading.push (.one (reading.flags.single char)))
    else none
  | .classSet unicode ascii negated =>
    reading.pushSet?
      (reading.flags.negate? negated (if reading.flags.unicode then unicode else ascii))
  | .property set negated =>
    if reading.flags.unicode then
      reading.pushSet? (reading.flags.negate? negated (reading.flags.fold set))
    else none
  | .look condition => some (reading.push (.look condition))

/-- The node of the whole expression, if all groups are closed. -/
def finish? (reading : Reading) : Option Node :=
  if reading.enclosing.isEmpty then some reading.current.content else none

end Reading

/-! ### Repetitions -/

/-- Reads the question mark of a lazy repetition; tells whether the repetition is greedy. -/
def readGreed (flags : Flags) (text : List Char) : Bool × List Char :=
  match text with
  | '?' :: rest => (flags.swapGreed, rest)
  | _ => (!flags.swapGreed, text)

/-- Reads decimal digits after the value `value`, skipping between and after them. -/
def readDigits (flags : Flags) (inComment : Bool) (value : Option Nat) :
    List Char → Option Nat × List Char
  | [] => (value, [])
  | char :: rest =>
    if inComment then readDigits flags (char != '\n') value rest
    else if char.isDigit then
      readDigits flags false (some (value.getD 0 * 10 + (char.toNat - 0x30))) rest
    else if flags.verbose && value.isSome && isBlank char then readDigits flags false value rest
    else if flags.verbose && value.isSome && char == '#' then readDigits flags true value rest
    else (value, char :: rest)

/-- Reads a decimal number below two to the power of 32 with white space around it. -/
def readDecimal (flags : Flags) (text : List Char) : Option Nat × List Char :=
  let (value, rest) := readDigits flags false none (text.dropWhile isBlank)
  (value.filter (· < 0x100000000), rest.dropWhile isBlank)

/-- Reads the bounds of a counted repetition and its closing brace. -/
def readCounts (flags : Flags) (text : List Char) : Option ((Nat × Option Nat) × List Char) :=
  match readDecimal flags (flags.skip text) with
  | (some least, '\x7d' :: rest) => some ((least, some least), rest)
  | (some least, ',' :: rest) =>
    match flags.skip rest with
    | '\x7d' :: rest => some ((least, none), rest)
    | rest =>
      match readDecimal flags rest with
      | (some most, '\x7d' :: rest) =>
        if least ≤ most then some ((least, some most), rest) else none
      | _ => none
  | _ => none

/-- Repeats a node, unless the result would be too large. -/
def repeat? (greedy : Bool) (least : Nat) (most : Option Nat) (node : Node) : Option Node :=
  if (node.size + 3) * max least (most.getD 1) ≤ sizeLimit then
    some (node.repeated greedy least most)
  else none

/-- Reads a counted repetition after its opening brace. -/
def readCounted (reading : Reading) (text : List Char) : Option (Reading × List Char) :=
  match readCounts reading.flags text with
  | none => none
  | some ((least, most), rest) =>
    let (greedy, rest) := readGreed reading.flags (reading.flags.skip rest)
    (reading.modifyLast? (repeat? greedy least most)).map fun reading => (reading, rest)

/-- Reads a repetition sign after its first character. -/
def readRepetition (reading : Reading) (make : Bool → Node → Node) (text : List Char) :
    Option (Reading × List Char) :=
  let (greedy, rest) := readGreed reading.flags text
  (reading.modifyLast? fun node => some (make greedy node)).map fun reading => (reading, rest)

/-! ### Steps -/

/-- Reads the piece of an expression that begins with `char`. -/
def readStep (reading : Reading) (char : Char) (rest : List Char) :
    Option (Reading × List Char) :=
  match char with
  | '(' =>
    match readOpening reading.flags rest with
    | none => none
    | some (opening, rest) => (reading.opened? opening).map fun reading => (reading, rest)
  | ')' => reading.leave?.map fun reading => (reading, rest)
  | '|' => some (reading.branch, rest)
  | '[' =>
    match readBracket reading.flags rest with
    | none => none
    | some (set, rest) => some (reading.push (.one set), rest)
  | '?' => readRepetition reading Node.optional rest
  | '*' => readRepetition reading Node.star rest
  | '+' => readRepetition reading Node.plus rest
  | '\x7b' => readCounted reading rest
  | '\\' =>
    match readEscaped reading.flags rest with
    | none => none
    | some (escaped, rest) => (reading.escaped? escaped).map fun reading => (reading, rest)
  | '.' => (reading.pushSet? reading.flags.dot?).map fun reading => (reading, rest)
  | '^' => some (reading.push (.look reading.flags.caret), rest)
  | '$' => some (reading.push (.look reading.flags.dollar), rest)
  | char => some (reading.push (.one (reading.flags.single char)), rest)

private theorem readGreed_length (flags : Flags) (text : List Char) :
    (readGreed flags text).2.length ≤ text.length := by
  unfold readGreed
  split
  · exact Nat.le_succ _
  · exact Nat.le_refl _

private theorem readDigits_length (flags : Flags) (inComment : Bool) (value : Option Nat)
    (text : List Char) : (readDigits flags inComment value text).2.length ≤ text.length := by
  induction text generalizing inComment value with
  | nil => exact Nat.le_refl _
  | cons char rest ih =>
    unfold readDigits
    split
    · exact Nat.le_succ_of_le (ih _ _)
    · split
      · exact Nat.le_succ_of_le (ih _ _)
      · split
        · exact Nat.le_succ_of_le (ih _ _)
        · split
          · exact Nat.le_succ_of_le (ih _ _)
          · exact Nat.le_refl _

private theorem readDecimal_length (flags : Flags) (text : List Char) :
    (readDecimal flags text).2.length ≤ text.length := by
  unfold readDecimal
  simp only
  refine Nat.le_trans (List.dropWhile_suffix _).length_le ?_
  refine Nat.le_trans (readDigits_length _ _ _ _) ?_
  exact (List.dropWhile_suffix _).length_le

private theorem readCounts_length {flags : Flags} {text rest : List Char}
    {counts : Nat × Option Nat} (h : readCounts flags text = some (counts, rest)) :
    rest.length ≤ text.length := by
  have hskip := flags.skip_length text
  have hdecimal := readDecimal_length flags (flags.skip text)
  unfold readCounts at h
  split at h
  · next hread =>
    cases h
    simp only [hread, List.length_cons] at hdecimal
    omega
  · next least after hread =>
    simp only [hread, List.length_cons] at hdecimal
    have hskip' := flags.skip_length after
    split at h
    · next hafter =>
      cases h
      rw [hafter, List.length_cons] at hskip'
      omega
    · have hdecimal' := readDecimal_length flags (flags.skip after)
      split at h
      · next hread' =>
        split at h
        · cases h
          simp only [hread', List.length_cons] at hdecimal'
          omega
        · cases h
      · cases h
  · cases h

private theorem readCounted_length {reading reading' : Reading} {text rest : List Char}
    (h : readCounted reading text = some (reading', rest)) : rest.length ≤ text.length := by
  unfold readCounted at h
  split at h
  · cases h
  · next least most after hcounts =>
    have hskip := reading.flags.skip_length after
    have hgreed := readGreed_length reading.flags (reading.flags.skip after)
    obtain ⟨_, _, heq⟩ := Option.map_eq_some_iff.mp h
    cases heq
    exact Nat.le_trans hgreed (Nat.le_trans hskip (readCounts_length hcounts))

private theorem readRepetition_length {reading reading' : Reading} {make : Bool → Node → Node}
    {text rest : List Char} (h : readRepetition reading make text = some (reading', rest)) :
    rest.length ≤ text.length := by
  unfold readRepetition at h
  obtain ⟨_, _, heq⟩ := Option.map_eq_some_iff.mp h
  cases heq
  exact readGreed_length _ _

/-- Every piece of an expression takes at least one character. -/
theorem readStep_length {reading reading' : Reading} {char : Char} {text rest : List Char}
    (h : readStep reading char text = some (reading', rest)) : rest.length ≤ text.length := by
  unfold readStep at h
  split at h
  case h_1 =>
    split at h
    · cases h
    · next hopening =>
      obtain ⟨_, _, heq⟩ := Option.map_eq_some_iff.mp h
      cases heq
      exact readOpening_length hopening
  case h_2 =>
    obtain ⟨_, _, heq⟩ := Option.map_eq_some_iff.mp h
    cases heq
    exact Nat.le_refl _
  case h_4 =>
    split at h
    · cases h
    · next hbracket =>
      cases h
      exact Nat.le_of_lt (readBracket_length hbracket)
  case h_5 | h_6 | h_7 => exact readRepetition_length h
  case h_8 => exact readCounted_length h
  case h_9 =>
    split at h
    · cases h
    · next hescaped =>
      obtain ⟨_, _, heq⟩ := Option.map_eq_some_iff.mp h
      cases heq
      exact Nat.le_of_lt (readEscaped_length hescaped)
  case h_10 =>
    obtain ⟨_, _, heq⟩ := Option.map_eq_some_iff.mp h
    cases heq
    exact Nat.le_refl _
  all_goals
    cases h
    exact Nat.le_refl _

/-! ### Whole expressions -/

/-- Reads the rest of an expression. -/
def Reading.run (reading : Reading) (text : List Char) : Option Reading :=
  match htext : reading.flags.skip text with
  | [] => some reading
  | char :: rest =>
    match hstep : readStep reading char rest with
    | none => none
    | some (reading', rest') =>
      have : rest'.length < text.length := by
        have hskip := reading.flags.skip_length text
        have hrest := readStep_length hstep
        rw [htext, List.length_cons] at hskip
        omega
      reading'.run rest'
termination_by text.length

/-- The tree of an expression, if it is valid. -/
def Node.read? (flags : Flags) (text : List Char) : Option Node :=
  ((Reading.start flags).run text).bind Reading.finish?

end RoutePatterns.Regex
