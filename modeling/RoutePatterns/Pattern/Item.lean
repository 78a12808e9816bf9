import RoutePatterns.Pattern.Error
import RoutePatterns.Pattern.Token
import RoutePatterns.Text.Utf8

/-!
The spelling of a pattern: raw characters, escaped characters and parameters. `Item.scan` reads a
pattern as items without knowing the delimiter, or gives the first spelling fault with its place as
a byte offset. Main statements: `readGroup_eq_ok`, what a group reader takes is the group's body and
its closing parenthesis, and `nextItem_length`, each item takes at least one character.
-/

set_option autoImplicit false

namespace RoutePatterns

open Text

/-- An item of a pattern. -/
inductive Item
  /-- A character that stands for itself, written raw or escaped. -/
  | literal (char : Char) (escaped : Bool)
  /-- A parameter with the name, the group and the modifier that it is written with. -/
  | param (name : Option String) (group : Option String) (modifier : Option Quantifier)
  deriving DecidableEq, Repr

namespace Item

/-- Whether `char` can occur in the name of a parameter. -/
def isNameChar (char : Char) : Bool :=
  let code := char.toNat
  (0x30 ≤ code && code ≤ 0x39) || (0x41 ≤ code && code ≤ 0x5A) ||
    (0x61 ≤ code && code ≤ 0x7A) || code == 0x5F

/-- Reads the rest of a group that began at `start`: `index` is the place of the remaining text,
`depth` the number of parentheses opened inside the group, `body` what has been read, the last
character first. Gives the body and the text after the closing parenthesis. -/
def readGroup (start index depth : Nat) (body : List Char) :
    List Char → Except SpellingFault (List Char × List Char)
  | [] => .error (.unterminatedGroup start)
  | ['\\'] => .error (.loneEscape index)
  | '\\' :: char :: rest =>
    readGroup start (index + 1 + char.utf8Size) depth (char :: '\\' :: body) rest
  | '(' :: rest => readGroup start (index + 1) (depth + 1) ('(' :: body) rest
  | ')' :: rest =>
    match depth with
    | 0 => if body.isEmpty then .error (.emptyGroup start) else .ok (body.reverse, rest)
    | depth + 1 => readGroup start (index + 1) depth (')' :: body) rest
  | char :: rest => readGroup start (index + char.utf8Size) depth (char :: body) rest

/-- A place in a pattern: its byte offset and the text from there on. -/
structure Place where
  /-- The number of bytes before the place. -/
  index : Nat
  /-- The text after the place. -/
  text : List Char
  deriving DecidableEq, Repr

/-- Reads the group at a place, if there is one. -/
def readGroup? (place : Place) : Except SpellingFault (Option String × Place) :=
  match place.text with
  | '(' :: text =>
    (readGroup place.index (place.index + 1) 0 [] text).map fun (body, rest) =>
      (some (String.ofList body), ⟨place.index + Utf8.byteLength body + 2, rest⟩)
  | _ => .ok (none, place)

/-- Reads the modifier at a place, if there is one. -/
def readModifier? (place : Place) : Option Quantifier × Place :=
  match place.text with
  | [] => (none, place)
  | char :: rest =>
    match Quantifier.ofModifier? char with
    | some quantifier => (some quantifier, ⟨place.index + 1, rest⟩)
    | none => (none, place)

/-- Reads what follows the name of a parameter: a group and a modifier. -/
def readParam (name : Option String) (place : Place) : Except SpellingFault (Item × Place) :=
  (readGroup? place).map fun (group, place) =>
    let (modifier, place) := readModifier? place
    (.param name group modifier, place)

/-- Reads the item that begins with `first` at `index` and gives the place after it. -/
def nextItem (index : Nat) (first : Char) (text : List Char) :
    Except SpellingFault (Item × Place) :=
  match first with
  | '\\' =>
    match text with
    | [] => .error (.loneEscape index)
    | char :: rest => .ok (.literal char true, ⟨index + 1 + char.utf8Size, rest⟩)
  | ':' =>
    let name := text.takeWhile isNameChar
    if name.isEmpty then .error (.missingName index)
    else
      readParam (some (String.ofList name))
        ⟨index + 1 + name.length, text.dropWhile isNameChar⟩
  | '(' => readParam none ⟨index, '(' :: text⟩
  | ')' => .error (.unexpectedClosing index)
  | '?' | '*' | '+' => .error (.danglingModifier index first)
  | _ => .ok (.literal first false, ⟨index + first.utf8Size, text⟩)

/-! ### What the readers take -/

/-- What a group reader takes is the body and the parenthesis that closes it. -/
theorem readGroup_eq_ok {start index depth : Nat} {body text group rest : List Char}
    (h : readGroup start index depth body text = .ok (group, rest)) :
    body.reverse ++ text = group ++ ')' :: rest := by
  fun_induction readGroup start index depth body text with
  | case1 => cases h
  | case2 => cases h
  | case3 index depth body char rest' ih => simpa using ih h
  | case4 index depth body rest' ih => simpa using ih h
  | case5 => cases h
  | case6 index body rest' hbody => cases h; simp
  | case7 index body rest' depth ih => simpa using ih h
  | case8 index depth body char rest' _ _ _ _ ih => simpa using ih h

theorem readGroup?_length {place after : Place} {group : Option String}
    (h : readGroup? place = .ok (group, after)) :
    after.text.length ≤ place.text.length - (if place.text.head? = some '(' then 1 else 0) := by
  unfold readGroup? at h
  split at h
  · next text htext =>
    cases hread : readGroup place.index (place.index + 1) 0 [] text with
    | error fault => rw [hread] at h; cases h
    | ok parts =>
      obtain ⟨body, rest⟩ := parts
      rw [hread] at h
      cases h
      have hlength := congrArg List.length (readGroup_eq_ok hread)
      simp only [List.reverse_nil, List.nil_append, List.length_append, List.length_cons] at hlength
      simp [htext]
      omega
  · next hparen =>
    cases h
    split
    · next hhead =>
      obtain ⟨rest, hrest⟩ := List.head?_eq_some_iff.mp hhead
      exact absurd hrest (hparen rest)
    · exact Nat.le_refl _

theorem readModifier?_length (place : Place) :
    (readModifier? place).2.text.length ≤ place.text.length := by
  unfold readModifier?
  split
  · exact Nat.le_refl _
  · next char rest htext =>
    split
    · simp [htext]
    · exact Nat.le_refl _

theorem readParam_length {name : Option String} {place after : Place} {item : Item}
    (h : readParam name place = .ok (item, after)) :
    after.text.length ≤ place.text.length - (if place.text.head? = some '(' then 1 else 0) := by
  unfold readParam at h
  cases hread : readGroup? place with
  | error fault => rw [hread] at h; cases h
  | ok parts =>
    rw [hread] at h
    cases h
    exact Nat.le_trans (readModifier?_length _) (readGroup?_length hread)

/-- Every item takes at least one character. -/
theorem nextItem_length {index : Nat} {first : Char} {text : List Char} {item : Item}
    {after : Place} (h : nextItem index first text = .ok (item, after)) :
    after.text.length ≤ text.length := by
  unfold nextItem at h
  split at h
  · split at h
    · cases h
    · cases h
      simp
  · simp only at h
    split at h
    · cases h
    · refine Nat.le_trans (readParam_length h) (Nat.le_trans (Nat.sub_le _ _) ?_)
      exact (List.dropWhile_suffix _).length_le
  · simpa using readParam_length h
  · cases h
  · cases h
  · cases h
  · cases h
  · cases h
    exact Nat.le_refl _

/-! ### Whole patterns -/

/-- Reads all items of a text that begins at `index`. -/
def scanFrom (index : Nat) : List Char → Except SpellingFault (List Item)
  | [] => .ok []
  | first :: text =>
    match h : nextItem index first text with
    | .error fault => .error fault
    | .ok (item, after) =>
      have := nextItem_length h
      (scanFrom after.index after.text).map (item :: ·)
  termination_by text => text.length

/-- The items of a pattern, or its first spelling fault. -/
def scan (pattern : String) : Except SpellingFault (List Item) :=
  scanFrom 0 pattern.toList

end Item

end RoutePatterns
