import RoutePatterns.Regex.Escaped

/-!
Groups: what may follow an opening parenthesis, and the groups that are open at a place of an
expression. Look-around, comments and anything else that begins with a question mark and is not a
name or a list of switches is refused.
-/

set_option autoImplicit false

namespace RoutePatterns.Regex

open Text

/-- What an opening parenthesis introduces. -/
inductive Opening
  /-- A group whose text is not recorded under a name, read with the switches. -/
  | group (flags : Flags)
  /-- A group whose text is recorded. -/
  | named (name : String)
  /-- Switches for the rest of the enclosing group. -/
  | directive (flags : Flags)
  deriving DecidableEq, Repr

/-- Whether `char` is a letter in the name of a group. -/
def isNameLetter (char : Char) : Bool :=
  if char.toNat < 0x80 then char.isAlpha else Property.alphabetic.contains char

/-- Whether `char` can begin the name of a group. -/
def isNameStart (char : Char) : Bool :=
  char == '_' || isNameLetter char

/-- Whether `char` can go on the name of a group. -/
def isNameRest (char : Char) : Bool :=
  char == '_' || char == '.' || char == '[' || char == ']' || isNameLetter char ||
    Category.numbers.any (·.contains char)

/-- Whether `name` can be the name of a group. -/
def isGroupName : List Char → Bool
  | [] => false
  | first :: rest => isNameStart first && rest.all isNameRest

/-- Reads the name of a group up to the angle bracket after it. -/
def readGroupName (text : List Char) : Option (Opening × List Char) :=
  match text.dropWhile (· != '>') with
  | '>' :: rest =>
    let name := text.takeWhile (· != '>')
    if isGroupName name then some (.named (String.ofList name), rest) else none
  | _ => none

/-- Reads switches up to the colon or the closing parenthesis after them. -/
def readSwitches (flags : Flags) (text : List Char) : Option (Opening × List Char) :=
  let letters := text.takeWhile fun char => char != ':' && char != ')'
  if !Flags.areLetters letters then none
  else
    match text.dropWhile fun char => char != ':' && char != ')' with
    | ':' :: rest => some (.group (flags.apply letters), rest)
    | ')' :: rest =>
      if letters.isEmpty then none else some (.directive (flags.apply letters), rest)
    | _ => none

/-- Reads what an opening parenthesis introduces. -/
def readOpening (flags : Flags) (text : List Char) : Option (Opening × List Char) :=
  match flags.skip text with
  | '?' :: '=' :: _ | '?' :: '!' :: _ | '?' :: '<' :: '=' :: _ | '?' :: '<' :: '!' :: _ => none
  | '?' :: 'P' :: '<' :: rest => readGroupName rest
  | '?' :: '<' :: rest => readGroupName rest
  | '?' :: rest => readSwitches flags rest
  | rest => some (.group flags, rest)

private theorem readGroupName_length {text rest : List Char} {opening : Opening}
    (h : readGroupName text = some (opening, rest)) : rest.length ≤ text.length := by
  have hdrop := (List.dropWhile_suffix (l := text) (· != '>')).length_le
  unfold readGroupName at h
  split at h
  · next after hafter =>
    rw [hafter, List.length_cons] at hdrop
    simp only at h
    split at h
    · cases h
      omega
    · cases h
  · cases h

private theorem readSwitches_length {flags : Flags} {text rest : List Char} {opening : Opening}
    (h : readSwitches flags text = some (opening, rest)) : rest.length ≤ text.length := by
  have hdrop := (List.dropWhile_suffix (l := text) fun char => char != ':' && char != ')').length_le
  unfold readSwitches at h
  simp only at h
  split at h
  · cases h
  · split at h
    · next after hafter =>
      rw [hafter, List.length_cons] at hdrop
      cases h
      omega
    · next after hafter =>
      rw [hafter, List.length_cons] at hdrop
      split at h
      · cases h
      · cases h
        omega
    · cases h

/-- What an opening parenthesis introduces is not longer than the text after it. -/
theorem readOpening_length {flags : Flags} {text rest : List Char} {opening : Opening}
    (h : readOpening flags text = some (opening, rest)) : rest.length ≤ text.length := by
  have hskip := flags.skip_length text
  unfold readOpening at h
  split at h
  case h_1 | h_2 | h_3 | h_4 => cases h
  case h_5 after hafter =>
    rw [hafter] at hskip
    simp only [List.length_cons] at hskip
    have := readGroupName_length h
    omega
  case h_6 after _ hafter =>
    rw [hafter] at hskip
    simp only [List.length_cons] at hskip
    have := readGroupName_length h
    omega
  case h_7 after _ _ _ _ _ _ hafter =>
    rw [hafter] at hskip
    simp only [List.length_cons] at hskip
    have := readSwitches_length h
    omega
  case h_8 => cases h; exact hskip

/-- An open group. -/
structure Group where
  /-- The switches outside the group. -/
  outside : Flags
  /-- The name under which the text of the group is recorded. -/
  name : Option String
  /-- The complete branches, the last of which comes first. -/
  branches : List Node
  /-- The items of the branch being read, the last of which comes first. -/
  items : List Node

namespace Group

/-- The node of the group's content. -/
def content (group : Group) : Node :=
  Node.ofBranches (Node.ofItems group.items.reverse) group.branches

/-- The node of the whole group. -/
def node (group : Group) : Node :=
  match group.name with
  | none => group.content
  | some name => .capture name group.content

end Group

end RoutePatterns.Regex
