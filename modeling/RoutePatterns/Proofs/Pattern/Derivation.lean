import Mathlib.Data.List.TakeWhile
import Mathlib.Tactic.Common
import RoutePatterns.Pattern.Item

/-!
# How patterns are spelled

A pattern is spelled right if it is a sequence of items, each spelled as it must be where the rest
of the pattern follows (`Item.IsWritten`, `Derives`). A raw character is any but those with a
meaning in patterns; an escaped one stands for itself. The name of a parameter is as long as it can
be, a group is taken wherever one can be, and parentheses in a group balance if escaped characters
are left out (`Balanced`).

Scanning reads exactly the sequences that a pattern derives (`Item.scan_eq_ok_iff`), so that a
pattern derives one sequence at most (`Derives.unique`). An item is spelled the same whatever
follows it, unless it ends in its name (`Item.IsWritten.before`).
-/

set_option autoImplicit false
set_option relaxedAutoImplicit false

namespace RoutePatterns

/-! ### The grammar -/

/-- The parentheses of the text balance, where escaped characters do not count. -/
inductive Balanced : List Char → Prop
  | nil : Balanced []
  | char {char : Char} {text : List Char} (hchar : char ∉ ['\\', '(', ')'])
      (htext : Balanced text) : Balanced (char :: text)
  | escaped {char : Char} {text : List Char} (htext : Balanced text) :
      Balanced ('\\' :: char :: text)
  | group {inner text : List Char} (hinner : Balanced inner) (htext : Balanced text) :
      Balanced ('(' :: inner ++ ')' :: text)

namespace Item

/-- The characters with a meaning in patterns, which do not stand for themselves. -/
def reserved : List Char :=
  ['\\', ':', '(', ')', '?', '*', '+']

/-- The spelling of a group, if there is one, where `rest` follows. There is one wherever there can
be one. -/
inductive GroupIsWritten : Option String → List Char → List Char → Prop
  | absent {rest : List Char} (hrest : rest.head? ≠ some '(') : GroupIsWritten none [] rest
  | present {body rest : List Char} (hbody : body ≠ []) (hbalanced : Balanced body) :
      GroupIsWritten (some (String.ofList body)) ('(' :: body ++ [')']) rest

/-- The spelling of a modifier, if there is one. -/
inductive ModifierIsWritten : Option Quantifier → List Char → Prop
  | absent : ModifierIsWritten none []
  | present {char : Char} {quantifier : Quantifier}
      (hchar : Quantifier.ofModifier? char = some quantifier) :
      ModifierIsWritten (some quantifier) [char]

/-- The spelling of an item where `rest` follows. -/
inductive IsWritten : Item → List Char → List Char → Prop
  | raw {char : Char} {rest : List Char} (hchar : char ∉ reserved) :
      IsWritten (.literal char false) [char] rest
  | escaped {char : Char} {rest : List Char} : IsWritten (.literal char true) ['\\', char] rest
  | named {name groupText modifierText rest : List Char} {group : Option String}
      {modifier : Option Quantifier} (hne : name ≠ []) (hname : ∀ char ∈ name, isNameChar char)
      (hend : ∀ char ∈ (groupText ++ (modifierText ++ rest)).head?, isNameChar char = false)
      (hgroup : GroupIsWritten group groupText (modifierText ++ rest))
      (hmodifier : ModifierIsWritten modifier modifierText) :
      IsWritten (.param (some (String.ofList name)) group modifier)
        (':' :: name ++ (groupText ++ modifierText)) rest
  | unnamed {group : String} {groupText modifierText rest : List Char}
      {modifier : Option Quantifier}
      (hgroup : GroupIsWritten (some group) groupText (modifierText ++ rest))
      (hmodifier : ModifierIsWritten modifier modifierText) :
      IsWritten (.param none (some group) modifier) (groupText ++ modifierText) rest

end Item

/-- The text spells the items one after the other. -/
inductive Derives : List Char → List Item → Prop
  | nil : Derives [] []
  | cons {item : Item} {spelled rest : List Char} {items : List Item}
      (hitem : item.IsWritten spelled rest) (hrest : Derives rest items) :
      Derives (spelled ++ rest) (item :: items)

/-! ### Groups -/

/-- The text closes as many parentheses as `depth` says, besides those that it opens. -/
inductive Unwinds : ℕ → List Char → Prop
  | zero {text : List Char} (htext : Balanced text) : Unwinds 0 text
  | succ {depth : ℕ} {front back : List Char} (hfront : Balanced front)
      (hback : Unwinds depth back) : Unwinds (depth + 1) (front ++ ')' :: back)

namespace Unwinds

variable {depth : ℕ} {char : Char} {text : List Char}

theorem char_cons (hchar : char ∉ ['\\', '(', ')']) (h : Unwinds depth text) :
    Unwinds depth (char :: text) := by
  cases h with
  | zero htext => exact .zero (.char hchar htext)
  | succ hfront hback => exact .succ (.char hchar hfront) hback

theorem escaped_cons (h : Unwinds depth text) : Unwinds depth ('\\' :: char :: text) := by
  cases h with
  | zero htext => exact .zero (.escaped htext)
  | succ hfront hback => exact .succ (.escaped hfront) hback

theorem opening_cons (h : Unwinds (depth + 1) text) : Unwinds depth ('(' :: text) := by
  cases h with
  | @succ _ front back hfront hback =>
    cases hback with
    | zero hback => exact .zero (.group hfront hback)
    | @succ depth front' back' hfront' hback' =>
      have hgroup := Unwinds.succ (.group hfront hfront') hback'
      rw [List.append_assoc] at hgroup
      exact hgroup

theorem closing_cons (h : Unwinds depth text) : Unwinds (depth + 1) (')' :: text) :=
  .succ .nil h

end Unwinds

namespace Item

theorem readGroup_char {char : Char} (hchar : char ∉ ['\\', '(', ')']) (start index depth : ℕ)
    (body rest : List Char) :
    readGroup start index depth body (char :: rest) =
      readGroup start (index + char.utf8Size) depth (char :: body) rest := by
  simp only [List.mem_cons, List.not_mem_nil, or_false, not_or] at hchar
  obtain ⟨hbackslash, hopening, hclosing⟩ := hchar
  conv => lhs; unfold readGroup
  split
  · next heq => cases heq
  · next heq => exact absurd (List.cons.inj heq).1 hbackslash
  · next heq => exact absurd (List.cons.inj heq).1 hbackslash
  · next heq => exact absurd (List.cons.inj heq).1 hopening
  · next heq => exact absurd (List.cons.inj heq).1 hclosing
  · next heq =>
    obtain ⟨rfl, rfl⟩ := List.cons.inj heq
    rfl

/-- What a group reader takes closes the group, and the group is not empty. -/
theorem unwinds_of_readGroup {start index depth : ℕ} {body text group rest : List Char}
    (h : readGroup start index depth body text = .ok (group, rest)) :
    ∃ inner, text = inner ++ ')' :: rest ∧ group = body.reverse ++ inner ∧ Unwinds depth inner ∧
      group ≠ [] := by
  -- A step puts one character before what the rest of the run takes, so `Unwinds` is kept by its
  -- rules for one more character in front.
  fun_induction readGroup start index depth body text with
  | case1 => cases h
  | case2 => cases h
  | case3 index depth body char text ih =>
    obtain ⟨inner, rfl, rfl, hinner, hne⟩ := ih h
    exact ⟨'\\' :: char :: inner, rfl, by simp, hinner.escaped_cons, hne⟩
  | case4 index depth body text ih =>
    obtain ⟨inner, rfl, rfl, hinner, hne⟩ := ih h
    exact ⟨'(' :: inner, rfl, by simp, hinner.opening_cons, hne⟩
  | case5 => cases h
  | case6 index body text hbody =>
    cases h
    refine ⟨[], rfl, (List.append_nil _).symm, .zero .nil, ?_⟩
    simpa using hbody
  | case7 index body text depth ih =>
    obtain ⟨inner, rfl, rfl, hinner, hne⟩ := ih h
    exact ⟨')' :: inner, rfl, by simp, hinner.closing_cons, hne⟩
  | case8 index depth body char text hlone hescaped hopening hclosing ih =>
    obtain ⟨inner, rfl, rfl, hinner, hne⟩ := ih h
    have hchar : char ∉ ['\\', '(', ')'] := by
      simp only [List.mem_cons, List.not_mem_nil, or_false, not_or]
      refine ⟨?_, hopening, hclosing⟩
      rintro rfl
      cases hcase : inner ++ ')' :: rest with
      | nil => exact hlone rfl hcase
      | cons next others => exact hescaped next others rfl hcase
    exact ⟨char :: inner, rfl, by simp, hinner.char_cons hchar, hne⟩

/-- A group reader takes a balanced text as a whole. -/
theorem readGroup_balanced {inner : List Char} (hinner : Balanced inner) (start index depth : ℕ)
    (body rest : List Char) :
    ∃ index', readGroup start index depth body (inner ++ rest) =
      readGroup start index' depth (inner.reverse ++ body) rest := by
  -- Where the reader has come to is not followed: only faults tell a place.
  induction hinner generalizing index depth body rest with
  | nil => exact ⟨index, rfl⟩
  | @char char text hchar _ ih =>
    obtain ⟨index', hread⟩ := ih (index + char.utf8Size) depth (char :: body) rest
    refine ⟨index', ?_⟩
    rw [List.cons_append, readGroup_char hchar, hread, List.reverse_cons, List.append_assoc]
    rfl
  | @escaped char text _ ih =>
    obtain ⟨index', hread⟩ := ih (index + 1 + char.utf8Size) depth (char :: '\\' :: body) rest
    refine ⟨index', ?_⟩
    rw [List.cons_append, List.cons_append, readGroup, hread]
    simp
  | @group inner text _ _ ihinner ihtext =>
    obtain ⟨middle, hinner⟩ := ihinner (index + 1) (depth + 1) ('(' :: body) (')' :: (text ++ rest))
    obtain ⟨index', htext⟩ := ihtext (middle + 1) depth (')' :: (inner.reverse ++ '(' :: body)) rest
    refine ⟨index', ?_⟩
    rw [List.cons_append, List.cons_append, List.append_assoc, List.cons_append, readGroup, hinner,
      readGroup, htext]
    simp

/-- What `readGroup?` takes is a group as it must be spelled. -/
theorem groupIsWritten_of_readGroup? {place after : Place} {group : Option String}
    (h : readGroup? place = .ok (group, after)) :
    ∃ groupText, place.text = groupText ++ after.text ∧
      GroupIsWritten group groupText after.text := by
  unfold readGroup? at h
  split at h
  · next text htext =>
    rcases hread : readGroup place.index (place.index + 1) 0 [] text with fault | ⟨body, rest⟩
    · rw [hread] at h
      cases h
    · rw [hread] at h
      cases h
      obtain ⟨inner, rfl, rfl, hinner, hne⟩ := unwinds_of_readGroup hread
      cases hinner with
      | zero hbalanced =>
        refine ⟨'(' :: body ++ [')'], ?_, ?_⟩
        · rw [htext, List.append_assoc]
          rfl
        · exact .present hne hbalanced
  · next hopening =>
    cases h
    refine ⟨[], rfl, .absent fun hhead ↦ ?_⟩
    obtain ⟨rest, hrest⟩ := List.head?_eq_some_iff.mp hhead
    exact hopening rest hrest

/-- A group that is spelled as it must be is read. -/
theorem readGroup?_of_isWritten {group : Option String} {groupText rest : List Char}
    (h : GroupIsWritten group groupText rest) (index : ℕ) :
    ∃ after, readGroup? ⟨index, groupText ++ rest⟩ = .ok (group, after) ∧ after.text = rest := by
  cases h with
  | absent hrest =>
    refine ⟨⟨index, rest⟩, ?_, rfl⟩
    rw [List.nil_append, readGroup?]
    split
    · next text htext =>
      change rest = '(' :: text at htext
      rw [htext] at hrest
      exact absurd rfl hrest
    · rfl
  | @present body _ hbody hbalanced =>
    obtain ⟨index', hread⟩ := readGroup_balanced hbalanced index (index + 1) 0 [] (')' :: rest)
    have hne : body.reverse.isEmpty = false := by simpa using hbody
    rw [List.append_nil, readGroup, hne, if_neg Bool.false_ne_true, List.reverse_reverse] at hread
    refine ⟨⟨index + Text.Utf8.byteLength body + 2, rest⟩, ?_, rfl⟩
    rw [List.append_assoc]
    change Except.map _ (readGroup index (index + 1) 0 [] (body ++ ')' :: rest)) = _
    rw [hread]
    rfl

/-! ### Modifiers and parameters -/

/-- What `readModifier?` takes is a modifier. -/
theorem modifierIsWritten_of_readModifier? (place : Place) :
    ∃ modifierText, place.text = modifierText ++ (readModifier? place).2.text ∧
      ModifierIsWritten (readModifier? place).1 modifierText := by
  unfold readModifier?
  split
  · exact ⟨[], rfl, .absent⟩
  · next char rest htext =>
    split
    · next quantifier hquantifier => exact ⟨[char], htext, .present hquantifier⟩
    · exact ⟨[], rfl, .absent⟩

/-- The text does not begin with a modifier. -/
def NoModifierAhead (text : List Char) : Prop :=
  ∀ char ∈ text.head?, Quantifier.ofModifier? char = none

/-- A modifier is read whatever follows it, and none is read where none follows. -/
theorem readModifier?_of_isWritten {modifier : Option Quantifier} {modifierText rest : List Char}
    (h : ModifierIsWritten modifier modifierText) (hrest : modifier = none → NoModifierAhead rest)
    (index : ℕ) :
    ∃ after, readModifier? ⟨index, modifierText ++ rest⟩ = (modifier, after) ∧
      after.text = rest := by
  cases h with
  | absent =>
    cases rest with
    | nil => exact ⟨⟨index, []⟩, rfl, rfl⟩
    | cons char rest =>
      refine ⟨⟨index, char :: rest⟩, ?_, rfl⟩
      rw [List.nil_append, readModifier?]
      simp only [hrest rfl char rfl]
  | present hchar =>
    refine ⟨⟨index + 1, rest⟩, ?_, rfl⟩
    rw [List.singleton_append, readModifier?]
    simp only [hchar]

/-- What follows the name of a parameter is a group and a modifier. -/
theorem exists_isWritten_of_readParam {name : Option String} {place after : Place} {item : Item}
    (h : readParam name place = .ok (item, after)) :
    ∃ group modifier groupText modifierText, item = .param name group modifier ∧
      place.text = groupText ++ (modifierText ++ after.text) ∧
      GroupIsWritten group groupText (modifierText ++ after.text) ∧
      ModifierIsWritten modifier modifierText := by
  unfold readParam at h
  rcases hread : readGroup? place with fault | ⟨group, middle⟩
  · rw [hread] at h
    cases h
  · rw [hread] at h
    cases h
    obtain ⟨groupText, hplace, hgroup⟩ := groupIsWritten_of_readGroup? hread
    obtain ⟨modifierText, hmiddle, hmodifier⟩ := modifierIsWritten_of_readModifier? middle
    rw [hmiddle] at hplace hgroup
    exact ⟨group, _, groupText, modifierText, rfl, hplace, hgroup, hmodifier⟩

/-- A group and a modifier that are spelled as they must be are read. -/
theorem readParam_of_isWritten {group : Option String} {modifier : Option Quantifier}
    {groupText modifierText rest : List Char}
    (hgroup : GroupIsWritten group groupText (modifierText ++ rest))
    (hmodifier : ModifierIsWritten modifier modifierText)
    (hrest : modifier = none → NoModifierAhead rest) (name : Option String) (index : ℕ) :
    ∃ after, readParam name ⟨index, groupText ++ (modifierText ++ rest)⟩ =
      .ok (.param name group modifier, after) ∧ after.text = rest := by
  obtain ⟨⟨index', _⟩, hread, rfl⟩ := readGroup?_of_isWritten hgroup index
  obtain ⟨after, hmodifier, hafter⟩ := readModifier?_of_isWritten hmodifier hrest index'
  refine ⟨after, ?_, hafter⟩
  rw [readParam, hread]
  change Except.ok (Item.param name group (readModifier? _).1, (readModifier? _).2) = _
  rw [hmodifier]

/-! ### Items -/

/-- A name is as long as it can be, and a parameter with a name is spelled as it must be. -/
theorem isWritten_of_readParam_named {index : ℕ} {text : List Char} {item : Item} {after : Place}
    (hname : text.takeWhile isNameChar ≠ [])
    (h : readParam (some (String.ofList (text.takeWhile isNameChar)))
      ⟨index, text.dropWhile isNameChar⟩ = .ok (item, after)) :
    ∃ spelled, ':' :: text = spelled ++ after.text ∧ item.IsWritten spelled after.text := by
  obtain ⟨group, modifier, groupText, modifierText, rfl, hplace, hgroup, hmodifier⟩ :=
    exists_isWritten_of_readParam h
  change text.dropWhile isNameChar = _ at hplace
  have hend : ∀ char ∈ (text.dropWhile isNameChar).head?, isNameChar char = false := by
    intro char hchar
    have hnot := List.head?_dropWhile_not isNameChar text
    rw [Option.mem_def.mp hchar] at hnot
    simpa using hnot
  refine ⟨':' :: text.takeWhile isNameChar ++ (groupText ++ modifierText), ?_, ?_⟩
  · rw [List.append_assoc, List.append_assoc, ← hplace, List.cons_append,
      List.takeWhile_append_dropWhile]
  · exact .named hname (fun char hchar ↦ List.mem_takeWhile_imp hchar) (hplace ▸ hend) hgroup
      hmodifier

/-- A parameter without a name is spelled as it must be. -/
theorem isWritten_of_readParam_unnamed {index : ℕ} {text : List Char} {item : Item} {after : Place}
    (h : readParam none ⟨index, '(' :: text⟩ = .ok (item, after)) :
    ∃ spelled, '(' :: text = spelled ++ after.text ∧ item.IsWritten spelled after.text := by
  obtain ⟨group, modifier, groupText, modifierText, rfl, hplace, hgroup, hmodifier⟩ :=
    exists_isWritten_of_readParam h
  change '(' :: text = _ at hplace
  refine ⟨groupText ++ modifierText, by rw [List.append_assoc, hplace], ?_⟩
  cases hgroup with
  | absent hrest =>
    -- A group is taken wherever there can be one, and one begins here.
    rw [List.nil_append] at hplace
    rw [← hplace] at hrest
    exact absurd rfl hrest
  | present hbody hbalanced => exact .unnamed (.present hbody hbalanced) hmodifier

/-- The item that is read is spelled as it must be. -/
theorem isWritten_of_nextItem {index : ℕ} {first : Char} {text : List Char} {item : Item}
    {after : Place} (h : nextItem index first text = .ok (item, after)) :
    ∃ spelled, first :: text = spelled ++ after.text ∧ item.IsWritten spelled after.text := by
  unfold nextItem at h
  split at h
  · split at h
    · cases h
    · next char rest =>
      cases h
      exact ⟨['\\', char], rfl, .escaped⟩
  · simp only at h
    split_ifs at h with hname
    exact isWritten_of_readParam_named (by simpa using hname) h
  · exact isWritten_of_readParam_unnamed h
  · cases h
  · cases h
  · cases h
  · cases h
  · next hbackslash hcolon hopening hclosing hoptional hstar hplus =>
    cases h
    refine ⟨[first], rfl, .raw ?_⟩
    simp only [reserved, List.mem_cons, List.not_mem_nil, or_false, not_or]
    exact ⟨hbackslash, hcolon, hopening, hclosing, hoptional, hstar, hplus⟩

theorem nextItem_raw {first : Char} (hfirst : first ∉ reserved) (index : ℕ) (text : List Char) :
    nextItem index first text = .ok (.literal first false, ⟨index + first.utf8Size, text⟩) := by
  simp only [reserved, List.mem_cons, List.not_mem_nil, or_false, not_or] at hfirst
  obtain ⟨hbackslash, hcolon, hopening, hclosing, hoptional, hstar, hplus⟩ := hfirst
  unfold nextItem
  split
  · exact absurd rfl hbackslash
  · exact absurd rfl hcolon
  · exact absurd rfl hopening
  · exact absurd rfl hclosing
  · exact absurd rfl hoptional
  · exact absurd rfl hstar
  · exact absurd rfl hplus
  · rfl

/-- A name ends where a character follows that cannot occur in names. -/
theorem takeWhile_dropWhile_of_name {name text : List Char}
    (hname : ∀ char ∈ name, isNameChar char = true)
    (hend : ∀ char ∈ text.head?, isNameChar char = false) :
    (name ++ text).takeWhile isNameChar = name ∧ (name ++ text).dropWhile isNameChar = text := by
  rw [List.takeWhile_append_of_pos hname, List.dropWhile_append_of_pos hname]
  cases text with
  | nil => exact ⟨List.append_nil _, rfl⟩
  | cons char text =>
    have hchar : ¬isNameChar char = true := by simpa using hend char rfl
    rw [List.takeWhile_cons_of_neg hchar, List.dropWhile_cons_of_neg hchar]
    exact ⟨List.append_nil _, rfl⟩

/-- The item is a parameter that a modifier can be added to. -/
def LacksModifier : Item → Prop
  | .param _ _ none => True
  | _ => False

/-- An item that is spelled as it must be is read, if it has all modifiers that it can have. -/
theorem nextItem_of_isWritten {item : Item} {spelled rest : List Char}
    (h : item.IsWritten spelled rest) (hrest : item.LacksModifier → NoModifierAhead rest)
    (index : ℕ) :
    ∃ first text after, spelled ++ rest = first :: text ∧
      nextItem index first text = .ok (item, after) ∧ after.text = rest := by
  cases h with
  | @raw char _ hchar => exact ⟨char, rest, _, rfl, nextItem_raw hchar index rest, rfl⟩
  | @escaped char => exact ⟨'\\', char :: rest, _, rfl, rfl, rfl⟩
  | @named name groupText modifierText _ group modifier hne hname hend hgroup hmodifier =>
    have hempty : name.isEmpty = false := by simpa using hne
    obtain ⟨htake, hdrop⟩ := takeWhile_dropWhile_of_name hname hend
    obtain ⟨after, hread, hafter⟩ := readParam_of_isWritten hgroup hmodifier
      (fun hnone ↦ hrest (hnone ▸ trivial)) (some (String.ofList name)) (index + 1 + name.length)
    refine ⟨':', name ++ (groupText ++ (modifierText ++ rest)), after, ?_, ?_, hafter⟩
    · rw [List.append_assoc, List.append_assoc]
      rfl
    · rw [nextItem, htake, hdrop, hempty, if_neg Bool.false_ne_true, hread]
  | @unnamed group groupText modifierText _ modifier hgroup hmodifier =>
    obtain ⟨after, hread, hafter⟩ := readParam_of_isWritten hgroup hmodifier
      (fun hnone ↦ hrest (hnone ▸ trivial)) none index
    cases hgroup with
    | @present body _ hbody hbalanced =>
      refine ⟨'(', body ++ ')' :: (modifierText ++ rest), after, ?_, ?_, hafter⟩
      · rw [List.append_assoc, List.append_assoc]
        rfl
      · rw [List.append_assoc] at hread
        exact hread

end Item

/-! ### Whole patterns -/

namespace Derives

variable {text : List Char} {items : List Item}

/-- What spells items does not begin with a modifier. -/
theorem noModifierAhead (h : Derives text items) : Item.NoModifierAhead text := by
  cases h with
  | nil =>
    rintro _ ⟨⟩
  | cons hitem hrest =>
    cases hitem with
    | raw hchar =>
      rintro char ⟨⟩
      unfold Quantifier.ofModifier?
      split
      · exact absurd (by decide) hchar
      · exact absurd (by decide) hchar
      · exact absurd (by decide) hchar
      · rfl
    | escaped =>
      rintro char ⟨⟩
      rfl
    | named =>
      rintro char ⟨⟩
      rfl
    | unnamed hgroup =>
      cases hgroup
      rintro char ⟨⟩
      rfl

end Derives

namespace Item

theorem scanFrom_of_nextItem {index : ℕ} {first : Char} {text : List Char} {item : Item}
    {after : Place} (h : nextItem index first text = .ok (item, after)) :
    scanFrom index (first :: text) = (scanFrom after.index after.text).map (item :: ·) := by
  rw [scanFrom]
  split
  · next fault hfault =>
    rw [h] at hfault
    cases hfault
  · next item' after' hok =>
    rw [h] at hok
    cases hok
    rfl

/-- Scanning reads exactly the items that a text spells. -/
theorem scanFrom_eq_ok_iff {index : ℕ} {text : List Char} {items : List Item} :
    scanFrom index text = .ok items ↔ Derives text items := by
  constructor
  · intro h
    fun_induction scanFrom index text generalizing items with
    | case1 =>
      cases h
      exact .nil
    | case2 => cases h
    | case3 index first text item after hnext hlength ih =>
      rcases hrest : scanFrom after.index after.text with fault | rest
      · rw [hrest] at h
        cases h
      · rw [hrest] at h
        cases h
        obtain ⟨spelled, hspelled, hitem⟩ := isWritten_of_nextItem hnext
        rw [hspelled]
        exact .cons hitem (ih hrest)
  · intro h
    induction h generalizing index with
    | nil => rw [scanFrom]
    | cons hitem hrest ih =>
      obtain ⟨first, text, after, hspelled, hnext, rfl⟩ :=
        nextItem_of_isWritten hitem (fun _ ↦ hrest.noModifierAhead) index
      rw [hspelled, scanFrom_of_nextItem hnext, ih]
      rfl

/-- Scanning reads exactly the items that a pattern spells. -/
theorem scan_eq_ok_iff {pattern : String} {items : List Item} :
    scan pattern = .ok items ↔ Derives pattern.toList items :=
  scanFrom_eq_ok_iff

end Item

/-- A text spells one sequence of items at most. -/
theorem Derives.unique {text : List Char} {items others : List Item} (h : Derives text items)
    (hothers : Derives text others) : items = others := by
  have hscan : Item.scanFrom 0 text = .ok items := Item.scanFrom_eq_ok_iff.mpr h
  rw [Item.scanFrom_eq_ok_iff.mpr hothers] at hscan
  exact (Except.ok.inj hscan).symm

/-! ### What follows an item -/

namespace Item

/-- The item is a parameter that ends in its name. -/
def EndsInName : Item → Prop
  | .param (some _) none none => True
  | _ => False

/-- The text begins neither with a group nor with a character of a name. -/
def NoNameAhead (text : List Char) : Prop :=
  text.head? ≠ some '(' ∧ ∀ char ∈ text.head?, isNameChar char = false

variable {item : Item} {spelled rest rest' more : List Char}

theorem noNameAhead_nil : NoNameAhead [] :=
  ⟨Option.some_ne_none _ |>.symm, by rintro _ ⟨⟩⟩

theorem IsWritten.noNameAhead (h : item.IsWritten spelled rest) (hends : item.EndsInName) :
    NoNameAhead rest := by
  cases h with
  | raw => cases hends
  | escaped => cases hends
  | unnamed => cases hends
  | named _ _ hend hgroup hmodifier =>
    cases hgroup with
    | present => cases hends
    | absent hrest =>
      cases hmodifier with
      | present => cases hends
      | absent => exact ⟨hrest, hend⟩

/-- How an item is spelled depends on what follows it only if it ends in its name. -/
theorem IsWritten.before (h : item.IsWritten spelled rest)
    (hends : item.EndsInName → NoNameAhead rest') : item.IsWritten spelled rest' := by
  cases h with
  | raw hchar => exact .raw hchar
  | escaped => exact .escaped
  | unnamed hgroup hmodifier =>
    cases hgroup with
    | present hbody hbalanced => exact .unnamed (.present hbody hbalanced) hmodifier
  | named hne hname hend hgroup hmodifier =>
    cases hgroup with
    | present hbody hbalanced => exact .named hne hname hend (.present hbody hbalanced) hmodifier
    | absent hrest =>
      cases hmodifier with
      | present hchar => exact .named hne hname hend (.absent hrest) (.present hchar)
      | absent =>
        obtain ⟨hgroup, hchar⟩ := hends trivial
        exact .named hne hname hchar (.absent hgroup) .absent

/-- An item is spelled as before where more text follows, unless the text goes on with a group or a
name that the item ends in. -/
theorem IsWritten.append (h : item.IsWritten spelled rest)
    (hmore : rest = [] → item.EndsInName → NoNameAhead more) :
    item.IsWritten spelled (rest ++ more) := by
  refine h.before fun hends ↦ ?_
  cases rest with
  | nil => exact hmore rfl hends
  | cons char rest => exact h.noNameAhead hends

/-- An item is spelled as before where the text after it is cut off. -/
theorem IsWritten.of_append (h : item.IsWritten spelled (rest ++ more)) :
    item.IsWritten spelled rest := by
  refine h.before fun hends ↦ ?_
  cases rest with
  | nil => exact noNameAhead_nil
  | cons char rest => exact h.noNameAhead hends

end Item

/-- A text that begins with the spelling of an item spells that item first. -/
theorem Derives.exists_eq_cons {item : Item} {spelled rest : List Char} {items : List Item}
    (h : Derives (spelled ++ rest) items) (hitem : item.IsWritten spelled rest)
    (hrest : item.LacksModifier → Item.NoModifierAhead rest) :
    ∃ others, items = item :: others ∧ Derives rest others := by
  obtain ⟨first, text, after, htext, hnext, rfl⟩ := Item.nextItem_of_isWritten hitem hrest 0
  rw [htext, ← @Item.scanFrom_eq_ok_iff 0, Item.scanFrom_of_nextItem hnext] at h
  rcases hscan : Item.scanFrom after.index after.text with fault | others
  · rw [hscan] at h
    cases h
  · rw [hscan] at h
    exact ⟨others, (Except.ok.inj h).symm, Item.scanFrom_eq_ok_iff.mp hscan⟩

end RoutePatterns
