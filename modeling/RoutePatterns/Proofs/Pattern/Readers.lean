import RoutePatterns.Proofs.Pattern.Derivation
import RoutePatterns.Proofs.Results

/-!
# How far the readers of items get

No reader moves the end of the text, so the place of what is left is told by the bytes of what is
read (`Item.index_of_nextItem`). A parameter cannot be read exactly if its group is empty or never
closed (`Item.readParam_eq_error_iff`), and the readers leave no modifier behind that could belong
to the item that they have read (`Item.noModifierAhead_of_nextItem`).
-/

set_option autoImplicit false
set_option relaxedAutoImplicit false

namespace RoutePatterns

open Text

namespace Item

/-! ### Places -/

/-- The byte offset at which the text of a place ends. -/
def Place.finish (place : Place) : ℕ :=
  place.index + Utf8.byteLength place.text

theorem mem_of_ofModifier? {char : Char} {quantifier : Quantifier}
    (h : Quantifier.ofModifier? char = some quantifier) : char ∈ ['?', '*', '+'] := by
  unfold Quantifier.ofModifier? at h
  split at h
  · decide
  · decide
  · decide
  · cases h

theorem utf8Size_of_ofModifier? {char : Char} {quantifier : Quantifier}
    (h : Quantifier.ofModifier? char = some quantifier) : char.utf8Size = 1 := by
  have hmem := mem_of_ofModifier? h
  simp only [List.mem_cons, List.not_mem_nil, or_false] at hmem
  rcases hmem with rfl | rfl | rfl <;> rfl

theorem utf8Size_of_isNameChar {char : Char} (h : isNameChar char = true) : char.utf8Size = 1 := by
  rw [Utf8.utf8Size_eq, if_pos]
  simp only [isNameChar, Bool.or_eq_true, Bool.and_eq_true, decide_eq_true_eq, beq_iff_eq] at h
  omega

/-- A name has one byte for each character. -/
theorem byteLength_eq_length_of_name {name : List Char}
    (h : ∀ char ∈ name, isNameChar char = true) : Utf8.byteLength name = name.length := by
  induction name with
  | nil => rfl
  | cons char name ih =>
    obtain ⟨hchar, hname⟩ := List.forall_mem_cons.mp h
    rw [Utf8.byteLength_cons, ih hname, utf8Size_of_isNameChar hchar, List.length_cons,
      Nat.add_comm]

theorem finish_of_readGroup? {place after : Place} {group : Option String}
    (h : readGroup? place = .ok (group, after)) : after.finish = place.finish := by
  unfold readGroup? at h
  split at h
  · next text htext =>
    rcases hread : readGroup place.index (place.index + 1) 0 [] text with fault | ⟨body, rest⟩
    · rw [hread] at h
      cases h
    · rw [hread] at h
      cases h
      have hbody : text = body ++ ')' :: rest := readGroup_eq_ok hread
      have hopening : '('.utf8Size = 1 := rfl
      have hclosing : ')'.utf8Size = 1 := rfl
      simp only [Place.finish, htext, hbody, Utf8.byteLength_cons, Utf8.byteLength_append]
      omega
  · cases h
    rfl

theorem finish_readModifier? (place : Place) : (readModifier? place).2.finish = place.finish := by
  unfold readModifier?
  split
  · rfl
  · next char rest htext =>
    split
    · next quantifier hquantifier =>
      simp only [Place.finish, htext, Utf8.byteLength_cons, utf8Size_of_ofModifier? hquantifier]
      omega
    · rfl

theorem finish_of_readParam {name : Option String} {place after : Place} {item : Item}
    (h : readParam name place = .ok (item, after)) : after.finish = place.finish := by
  unfold readParam at h
  rcases hread : readGroup? place with fault | ⟨group, middle⟩
  · rw [hread] at h
    cases h
  · rw [hread] at h
    cases h
    exact (finish_readModifier? middle).trans (finish_of_readGroup? hread)

/-- Reading an item leaves the end of the text where it is. -/
theorem finish_of_nextItem {index : ℕ} {first : Char} {text : List Char} {item : Item}
    {after : Place} (h : nextItem index first text = .ok (item, after)) :
    after.finish = index + Utf8.byteLength (first :: text) := by
  have hbackslash : '\\'.utf8Size = 1 := rfl
  have hcolon : ':'.utf8Size = 1 := rfl
  unfold nextItem at h
  split at h
  · split at h
    · cases h
    · cases h
      simp only [Place.finish, Utf8.byteLength_cons, hbackslash]
      omega
  · simp only at h
    split_ifs at h
    have hname := byteLength_eq_length_of_name fun char (hchar : char ∈ text.takeWhile isNameChar) ↦
      List.mem_takeWhile_imp hchar
    have htext := congrArg Utf8.byteLength (@List.takeWhile_append_dropWhile _ isNameChar text)
    rw [Utf8.byteLength_append] at htext
    rw [finish_of_readParam h, Place.finish, Utf8.byteLength_cons, hcolon]
    change index + 1 + (text.takeWhile isNameChar).length +
      Utf8.byteLength (text.dropWhile isNameChar) = _
    omega
  · exact finish_of_readParam h
  · cases h
  · cases h
  · cases h
  · cases h
  · cases h
    simp only [Place.finish, Utf8.byteLength_cons]
    omega

/-- What is read has the bytes between the two places. -/
theorem index_of_nextItem {index : ℕ} {first : Char} {text spelled : List Char} {item : Item}
    {after : Place} (h : nextItem index first text = .ok (item, after))
    (hspelled : first :: text = spelled ++ after.text) :
    after.index = index + Utf8.byteLength spelled := by
  have hfinish := finish_of_nextItem h
  rw [hspelled, Utf8.byteLength_append, Place.finish] at hfinish
  omega

/-! ### Groups that go wrong -/

/-- The text closes at most `depth` parentheses besides those that it opens, at every place in it,
and an escape character in it has something to escape. -/
inductive LeavesOpen : ℕ → List Char → Prop
  | nil {depth : ℕ} : LeavesOpen depth []
  | char {depth : ℕ} {char : Char} {text : List Char} (hchar : char ∉ ['\\', '(', ')'])
      (htext : LeavesOpen depth text) : LeavesOpen depth (char :: text)
  | escaped {depth : ℕ} {char : Char} {text : List Char} (htext : LeavesOpen depth text) :
      LeavesOpen depth ('\\' :: char :: text)
  | opening {depth : ℕ} {text : List Char} (htext : LeavesOpen (depth + 1) text) :
      LeavesOpen depth ('(' :: text)
  | closing {depth : ℕ} {text : List Char} (htext : LeavesOpen depth text) :
      LeavesOpen (depth + 1) (')' :: text)

theorem readGroup_of_leavesOpen {depth : ℕ} {inner : List Char} (h : LeavesOpen depth inner)
    (start index : ℕ) (body rest : List Char) :
    ∃ depth' body', readGroup start index depth body (inner ++ rest) =
      readGroup start (index + Utf8.byteLength inner) depth' body' rest := by
  induction h generalizing index body with
  | nil => exact ⟨_, _, rfl⟩
  | @char depth char text hchar _ ih =>
    obtain ⟨depth', body', hread⟩ := ih (index + char.utf8Size) (char :: body)
    refine ⟨depth', body', ?_⟩
    rw [List.cons_append, readGroup_char hchar, hread, Utf8.byteLength_cons, Nat.add_assoc]
  | @escaped depth char text _ ih =>
    obtain ⟨depth', body', hread⟩ := ih (index + 1 + char.utf8Size) (char :: '\\' :: body)
    refine ⟨depth', body', ?_⟩
    rw [List.cons_append, List.cons_append, readGroup, hread, Utf8.byteLength_cons,
      Utf8.byteLength_cons, Nat.add_assoc, Nat.add_assoc]
    rfl
  | @opening depth text _ ih =>
    obtain ⟨depth', body', hread⟩ := ih (index + 1) ('(' :: body)
    refine ⟨depth', body', ?_⟩
    rw [List.cons_append, readGroup, hread, Utf8.byteLength_cons, Nat.add_assoc]
    rfl
  | @closing depth text _ ih =>
    obtain ⟨depth', body', hread⟩ := ih (index + 1) (')' :: body)
    refine ⟨depth', body', ?_⟩
    rw [List.cons_append, readGroup, hread, Utf8.byteLength_cons, Nat.add_assoc]
    rfl

/-- What is wrong with a group of which `depth + 1` parentheses are open at `index`: the text ends
before they are closed, possibly with an escape character. -/
inductive EndsOpen (start index depth : ℕ) : List Char → SpellingFault → Prop
  | unterminated {inner : List Char} (hinner : LeavesOpen depth inner) :
      EndsOpen start index depth inner (.unterminatedGroup start)
  | loneEscape {inner : List Char} (hinner : LeavesOpen depth inner) :
      EndsOpen start index depth (inner ++ ['\\'])
        (.loneEscape (index + Utf8.byteLength inner))

theorem EndsOpen.prepend {start index index' depth depth' : ℕ} {text : List Char}
    {fault : SpellingFault} (h : EndsOpen start index' depth' text fault) (taken : List Char)
    (hindex : index' = index + Utf8.byteLength taken)
    (htaken : ∀ inner, LeavesOpen depth' inner → LeavesOpen depth (taken ++ inner)) :
    EndsOpen start index depth (taken ++ text) fault := by
  cases h with
  | unterminated hinner => exact .unterminated (htaken _ hinner)
  | loneEscape hinner =>
    rw [hindex, Nat.add_assoc, ← Utf8.byteLength_append, ← List.append_assoc]
    exact .loneEscape (htaken _ hinner)

theorem readGroup_of_endsOpen {start index depth : ℕ} {text : List Char} {fault : SpellingFault}
    (h : EndsOpen start index depth text fault) (body : List Char) :
    readGroup start index depth body text = .error fault := by
  cases h with
  | unterminated hinner =>
    obtain ⟨depth', body', hread⟩ := readGroup_of_leavesOpen hinner start index body []
    rw [List.append_nil] at hread
    rw [hread, readGroup]
  | loneEscape hinner =>
    obtain ⟨depth', body', hread⟩ := readGroup_of_leavesOpen hinner start index body ['\\']
    rw [hread, readGroup]

/-- A group reader fails on a text that ends too soon, and on an empty group. -/
theorem endsOpen_of_readGroup {start index depth : ℕ} {body text : List Char}
    {fault : SpellingFault} (h : readGroup start index depth body text = .error fault) :
    EndsOpen start index depth text fault ∨
      (body = [] ∧ ∃ rest, text = ')' :: rest) ∧ fault = .emptyGroup start := by
  -- Only the first step can find the group empty: from then on something has been read.
  fun_induction readGroup start index depth body text with
  | case1 =>
    cases h
    exact Or.inl (.unterminated .nil)
  | case2 index =>
    cases h
    exact Or.inl (.loneEscape .nil)
  | case3 index depth body char text ih =>
    rcases ih h with hopen | ⟨⟨hbody, -⟩, -⟩
    · exact Or.inl (hopen.prepend ['\\', char] (Nat.add_assoc _ _ _) fun _ ↦ .escaped)
    · cases hbody
  | case4 index depth body text ih =>
    rcases ih h with hopen | ⟨⟨hbody, -⟩, -⟩
    · exact Or.inl (hopen.prepend ['('] rfl fun _ ↦ .opening)
    · cases hbody
  | case5 index body text hbody =>
    cases h
    exact Or.inr ⟨⟨List.isEmpty_iff.mp hbody, text, rfl⟩, rfl⟩
  | case6 => cases h
  | case7 index body text depth ih =>
    rcases ih h with hopen | ⟨⟨hbody, -⟩, -⟩
    · exact Or.inl (hopen.prepend [')'] rfl fun _ ↦ .closing)
    · cases hbody
  | case8 index depth body char text hlone hescaped hopening hclosing ih =>
    have hchar : char ∉ ['\\', '(', ')'] := by
      simp only [List.mem_cons, List.not_mem_nil, or_false, not_or]
      refine ⟨?_, hopening, hclosing⟩
      rintro rfl
      cases text with
      | nil => exact hlone rfl rfl
      | cons next others => exact hescaped next others rfl rfl
    rcases ih h with hopen | ⟨⟨hbody, -⟩, -⟩
    · exact Or.inl (hopen.prepend [char] rfl fun _ ↦ .char hchar)
    · cases hbody

/-- What is wrong with the group that begins at `start`, told from the text after its opening
parenthesis. -/
inductive GroupGoesWrong (start : ℕ) : List Char → SpellingFault → Prop
  | empty {rest : List Char} : GroupGoesWrong start (')' :: rest) (.emptyGroup start)
  | endsOpen {text : List Char} {fault : SpellingFault}
      (htext : EndsOpen start (start + 1) 0 text fault) : GroupGoesWrong start text fault

theorem readGroup_eq_error_iff {start : ℕ} {text : List Char} {fault : SpellingFault} :
    readGroup start (start + 1) 0 [] text = .error fault ↔ GroupGoesWrong start text fault := by
  constructor
  · intro h
    rcases endsOpen_of_readGroup h with hopen | ⟨⟨-, rest, rfl⟩, rfl⟩
    · exact .endsOpen hopen
    · exact .empty
  · intro h
    cases h with
    | empty => rfl
    | endsOpen htext => exact readGroup_of_endsOpen htext []

/-- A parameter cannot be read exactly if its group goes wrong. -/
theorem readParam_eq_error_iff {name : Option String} {place : Place} {fault : SpellingFault} :
    readParam name place = .error fault ↔
      ∃ text, place.text = '(' :: text ∧ GroupGoesWrong place.index text fault := by
  rw [readParam, map_eq_error_iff, readGroup?]
  split
  · next text htext =>
    rw [map_eq_error_iff, readGroup_eq_error_iff, htext]
    constructor
    · exact fun h ↦ ⟨text, rfl, h⟩
    · rintro ⟨text', heq, h⟩
      rwa [(List.cons.inj heq).2]
  · next hopening =>
    simp only [reduceCtorEq, false_iff, not_exists, not_and]
    exact fun text htext ↦ absurd htext (hopening text)

/-! ### Modifiers that are left -/

theorem noModifierAhead_of_readModifier? {place : Place} (h : (readModifier? place).1 = none) :
    NoModifierAhead (readModifier? place).2.text := by
  obtain ⟨index, text⟩ := place
  cases text with
  | nil =>
    rintro _ ⟨⟩
  | cons char rest =>
    rw [readModifier?] at h ⊢
    cases hchar : Quantifier.ofModifier? char with
    | some quantifier =>
      simp only [hchar, reduceCtorEq] at h
    | none =>
      simp only [hchar]
      rintro _ ⟨⟩
      exact hchar

theorem noModifierAhead_of_readParam {name : Option String} {place after : Place} {item : Item}
    (h : readParam name place = .ok (item, after)) (hitem : item.LacksModifier) :
    NoModifierAhead after.text := by
  obtain ⟨⟨group, middle⟩, -, hread⟩ := exists_eq_ok_of_map h
  change (Item.param name group (readModifier? middle).1, (readModifier? middle).2) = _ at hread
  obtain ⟨rfl, rfl⟩ := Prod.mk.inj hread
  refine noModifierAhead_of_readModifier? ?_
  cases hmodifier : (readModifier? middle).1 with
  | none => rfl
  | some quantifier =>
    rw [hmodifier] at hitem
    cases hitem

/-- An item that is read has the modifier that it can have. -/
theorem noModifierAhead_of_nextItem {index : ℕ} {first : Char} {text : List Char} {item : Item}
    {after : Place} (h : nextItem index first text = .ok (item, after))
    (hitem : item.LacksModifier) : NoModifierAhead after.text := by
  unfold nextItem at h
  split at h
  · split at h
    · cases h
    · cases h
      cases hitem
  · simp only at h
    split_ifs at h
    exact noModifierAhead_of_readParam h hitem
  · exact noModifierAhead_of_readParam h hitem
  · cases h
  · cases h
  · cases h
  · cases h
  · cases h
    cases hitem

theorem noNameAhead_of_ofModifier? {char : Char} {quantifier : Quantifier}
    (h : Quantifier.ofModifier? char = some quantifier) (rest : List Char) :
    NoNameAhead (char :: rest) := by
  have hmem := mem_of_ofModifier? h
  simp only [List.mem_cons, List.not_mem_nil, or_false] at hmem
  rcases hmem with rfl | rfl | rfl <;> exact ⟨by simp, by rintro _ ⟨⟩; rfl⟩

/-- A modifier right after an item that can have one belongs to it. -/
theorem IsWritten.exists_concat {item : Item} {spelled : List Char} {char : Char}
    {quantifier : Quantifier} (h : item.IsWritten spelled []) (hitem : item.LacksModifier)
    (hchar : Quantifier.ofModifier? char = some quantifier) :
    ∃ other : Item, other.IsWritten (spelled ++ [char]) [] := by
  obtain ⟨hgroup', hname'⟩ := noNameAhead_of_ofModifier? hchar []
  cases h with
  | raw => cases hitem
  | escaped => cases hitem
  | unnamed hgroup hmodifier =>
    cases hmodifier with
    | present => cases hitem
    | absent =>
      cases hgroup with
      | @present body _ hbody hbalanced =>
        refine ⟨.param none (some (String.ofList body)) (some quantifier), ?_⟩
        rw [List.append_nil]
        exact .unnamed (.present hbody hbalanced) (.present hchar)
  | @named name groupText modifierText _ group modifier hne hchars hend hgroup hmodifier =>
    cases hmodifier with
    | present => cases hitem
    | absent =>
      refine ⟨.param (some (String.ofList name)) group (some quantifier), ?_⟩
      rw [List.append_nil, List.append_assoc]
      cases hgroup with
      | absent => exact .named hne hchars hname' (.absent hgroup') (.present hchar)
      | present hbody hbalanced =>
        exact .named hne hchars hend (.present hbody hbalanced) (.present hchar)

/-! ### Parameters that end in their names -/

section Names

variable {item : Item} {spelled rest name : List Char}

/-- The spelling of a parameter that ends in its name. -/
theorem IsWritten.bareName (hne : name ≠ [])
    (hname : ∀ char ∈ name, isNameChar char = true) :
    IsWritten (.param (some (String.ofList name)) none none) (':' :: name) [] := by
  have hwritten := @IsWritten.named name [] [] [] none none hne hname noNameAhead_nil.2
    (.absent noNameAhead_nil.1) .absent
  rwa [List.append_nil, List.append_nil] at hwritten

theorem IsWritten.exists_eq_of_endsInName (h : item.IsWritten spelled rest)
    (hends : item.EndsInName) :
    ∃ name, name ≠ [] ∧ (∀ char ∈ name, isNameChar char = true) ∧ spelled = ':' :: name := by
  cases h with
  | raw => cases hends
  | escaped => cases hends
  | unnamed => cases hends
  | @named name _ _ _ _ _ hne hname _ hgroup hmodifier =>
    cases hgroup with
    | present => cases hends
    | absent =>
      cases hmodifier with
      | present => cases hends
      | absent => exact ⟨name, hne, hname, by simp⟩

theorem nextItem_name (hne : name ≠ [])
    (hname : ∀ char ∈ name, isNameChar char = true)
    (hrest : ∀ char ∈ rest.head?, isNameChar char = false) (index : ℕ) :
    nextItem index ':' (name ++ rest) =
      readParam (some (String.ofList name)) ⟨index + 1 + name.length, rest⟩ := by
  obtain ⟨htake, hdrop⟩ := takeWhile_dropWhile_of_name hname hrest
  have hempty : name.isEmpty = false := by simpa using hne
  rw [nextItem, htake, hdrop, hempty, if_neg Bool.false_ne_true]

theorem byteLength_bareName (hname : ∀ char ∈ name, isNameChar char = true)
    (index : ℕ) : index + Utf8.byteLength (':' :: name) = index + 1 + name.length := by
  rw [Utf8.byteLength_cons, byteLength_eq_length_of_name hname, ← Nat.add_assoc]
  rfl

end Names

end Item

end RoutePatterns
