import RoutePatterns.Proofs.Pattern.Meaning
import RoutePatterns.Proofs.Pattern.Readers

/-!
# Where a pattern is spelled wrong

A text that derives no items has a beginning that does, and goes wrong right after it: the rest
begins with a character that cannot stand there, or with a group that is empty or never closed
(`Item.GoesWrong`). Scanning reports exactly that (`Item.scanFrom_eq_error_iff`), so what it reports
is the first thing that is wrong. What a fault tells of the pattern is `SpellingFault.Tells`, and
the main statement is `tokenize_eq_error_spelling`.
-/

set_option autoImplicit false
set_option relaxedAutoImplicit false

namespace RoutePatterns

open Text

namespace Item

/-! ### Texts that go wrong -/

/-- What is wrong with the text after `before`, which derives items itself and ends at `index`. -/
inductive GoesWrong (before : List Char) (index : ℕ) : List Char → SpellingFault → Prop
  | missingName {after : List Char} (hafter : ∀ char ∈ after.head?, isNameChar char = false) :
      GoesWrong before index (':' :: after) (.missingName index)
  | danglingModifier {char : Char} {after : List Char} {quantifier : Quantifier}
      (hchar : Quantifier.ofModifier? char = some quantifier)
      (hdangling : ∀ items, ¬Derives (before ++ [char]) items) :
      GoesWrong before index (char :: after) (.danglingModifier index char)
  | unexpectedClosing {after : List Char} :
      GoesWrong before index (')' :: after) (.unexpectedClosing index)
  | loneEscape : GoesWrong before index ['\\'] (.loneEscape index)
  | group {text : List Char} {fault : SpellingFault} (hgroup : GroupGoesWrong index text fault) :
      GoesWrong before index ('(' :: text) fault

/-- The text, which begins at `index`, derives items up to a place where it goes wrong. -/
def Misspells (index : ℕ) (text : List Char) (fault : SpellingFault) : Prop :=
  ∃ before items rest, text = before ++ rest ∧ Derives before items ∧
    GoesWrong before (index + Utf8.byteLength before) rest fault

variable {before rest spelled text : List Char} {item : Item} {items : List Item}
  {fault : SpellingFault} {index : ℕ}

/-- What is wrong after a text is wrong after an item and the text. -/
theorem GoesWrong.prepend (h : GoesWrong before index rest fault)
    (hitem : item.IsWritten spelled (before ++ rest))
    (hlacks : item.LacksModifier → NoModifierAhead (before ++ rest)) :
    GoesWrong (spelled ++ before) index rest fault := by
  cases h with
  | missingName hafter => exact .missingName hafter
  | unexpectedClosing => exact .unexpectedClosing
  | loneEscape => exact .loneEscape
  | group hgroup => exact .group hgroup
  | @danglingModifier char after _ hchar hdangling =>
    refine .danglingModifier hchar fun others hothers ↦ ?_
    have hafter : before ++ char :: after = (before ++ [char]) ++ after := by simp
    have hhead : (before ++ char :: after).head? = (before ++ [char]).head? := by
      cases before <;> rfl
    rw [List.append_assoc] at hothers
    rw [hafter] at hitem
    obtain ⟨_, -, hrest⟩ := hothers.exists_eq_cons hitem.of_append fun hitem ↦ by
      rw [NoModifierAhead, ← hhead]
      exact hlacks hitem
    exact hdangling _ hrest

/-- What is wrong after an item and a text is wrong after the text. -/
theorem GoesWrong.of_prepend (h : GoesWrong (spelled ++ before) index rest fault)
    (hitem : item.IsWritten spelled before) : GoesWrong before index rest fault := by
  cases h with
  | missingName hafter => exact .missingName hafter
  | unexpectedClosing => exact .unexpectedClosing
  | loneEscape => exact .loneEscape
  | group hgroup => exact .group hgroup
  | @danglingModifier char _ _ hchar hdangling =>
    refine .danglingModifier hchar fun others hothers ↦ ?_
    have hne : before ≠ [] := by
      rintro rfl
      have hnone := hothers.noModifierAhead char rfl
      rw [hchar] at hnone
      cases hnone
    refine hdangling (item :: others) ?_
    rw [List.append_assoc]
    exact .cons (hitem.append fun hnil ↦ absurd hnil hne) hothers

/-- An item that cannot be read is wrong at its beginning, or in the group after its name. -/
theorem misspells_of_nextItem {first : Char} (h : nextItem index first text = .error fault) :
    Misspells index (first :: text) fault := by
  have hfirst {rest : List Char} {fault : SpellingFault}
      (h : GoesWrong [] index rest fault) : Misspells index rest fault :=
    ⟨[], [], rest, rfl, .nil, h⟩
  have hmodifier {char : Char} {quantifier : Quantifier}
      (hchar : Quantifier.ofModifier? char = some quantifier) :
      Misspells index (char :: text) (.danglingModifier index char) := by
    refine hfirst (.danglingModifier hchar fun items hitems ↦ ?_)
    have hnone := hitems.noModifierAhead char rfl
    rw [hchar] at hnone
    cases hnone
  unfold nextItem at h
  split at h
  · split at h
    · cases h
      exact hfirst .loneEscape
    · cases h
  · simp only at h
    split_ifs at h with hname
    · cases h
      refine hfirst (.missingName fun char hchar ↦ ?_)
      cases text with
      | nil => cases hchar
      | cons head tail =>
        cases hchar
        simpa [List.takeWhile_cons] using hname
    · obtain ⟨rest, hrest, hgroup⟩ := readParam_eq_error_iff.mp h
      change text.dropWhile isNameChar = '(' :: rest at hrest
      have hchars : ∀ char ∈ text.takeWhile isNameChar, isNameChar char = true :=
        fun char hchar ↦ List.mem_takeWhile_imp hchar
      have hbefore := Derives.cons (.bareName (by simpa using hname) hchars) .nil
      rw [List.append_nil] at hbefore
      rw [← byteLength_bareName hchars] at hgroup
      rw [← @List.takeWhile_append_dropWhile _ isNameChar text, hrest, ← List.cons_append]
      exact ⟨_, _, _, rfl, hbefore, .group hgroup⟩
  · obtain ⟨rest, hrest, hgroup⟩ := readParam_eq_error_iff.mp h
    cases hrest
    exact hfirst (.group hgroup)
  · cases h
    exact hfirst .unexpectedClosing
  · cases h
    exact hmodifier rfl
  · cases h
    exact hmodifier rfl
  · cases h
    exact hmodifier rfl
  · cases h

theorem Misspells.prepend (h : Misspells (index + Utf8.byteLength spelled) text fault)
    (hitem : item.IsWritten spelled text)
    (hlacks : item.LacksModifier → NoModifierAhead text) :
    Misspells index (spelled ++ text) fault := by
  obtain ⟨before, items, rest, rfl, hbefore, hrest⟩ := h
  rw [Nat.add_assoc, ← Utf8.byteLength_append] at hrest
  rw [← List.append_assoc]
  exact ⟨_, _, rest, rfl, .cons hitem.of_append hbefore, hrest.prepend hitem hlacks⟩

theorem exists_cons_of_goesWrong (h : GoesWrong before index rest fault) :
    ∃ first text, rest = first :: text ∧ nextItem index first text = .error fault := by
  cases h with
  | @missingName after hafter =>
    refine ⟨':', after, rfl, ?_⟩
    have hname : after.takeWhile isNameChar = [] := by
      cases after with
      | nil => rfl
      | cons char after => exact List.takeWhile_cons_of_neg (by simp [hafter char rfl])
    rw [nextItem, hname]
    rfl
  | @danglingModifier char after _ hchar =>
    have hmem := mem_of_ofModifier? hchar
    simp only [List.mem_cons, List.not_mem_nil, or_false] at hmem
    rcases hmem with rfl | rfl | rfl <;> exact ⟨_, _, rfl, rfl⟩
  | unexpectedClosing => exact ⟨_, _, rfl, rfl⟩
  | loneEscape => exact ⟨_, _, rfl, rfl⟩
  | group hgroup =>
    exact ⟨_, _, rfl, readParam_eq_error_iff.mpr ⟨_, rfl, hgroup⟩⟩

theorem scanFrom_of_nextItem_eq_error {first : Char}
    (h : nextItem index first text = .error fault) :
    scanFrom index (first :: text) = .error fault := by
  rw [scanFrom]
  split
  · next fault' hfault =>
    rw [h] at hfault
    exact congrArg Except.error (Except.error.inj hfault).symm
  · next hok =>
    rw [h] at hok
    cases hok

/-- An item that ends in its name cannot be read where a group that goes wrong follows. -/
theorem scanFrom_of_endsInName (hitem : item.IsWritten spelled []) (hends : item.EndsInName)
    (hgroup : GroupGoesWrong (index + Utf8.byteLength spelled) text fault) :
    scanFrom index (spelled ++ '(' :: text) = .error fault := by
  obtain ⟨name, hne, hname, rfl⟩ := hitem.exists_eq_of_endsInName hends
  have hopening : ∀ char ∈ ('(' :: text).head?, isNameChar char = false := by
    rintro _ ⟨⟩
    rfl
  rw [byteLength_bareName hname] at hgroup
  refine scanFrom_of_nextItem_eq_error ?_
  rw [List.append_eq, nextItem_name hne hname hopening]
  exact readParam_eq_error_iff.mpr ⟨text, rfl, hgroup⟩

/-- What goes wrong does not go on with a name, unless it is a group. -/
theorem GoesWrong.cases_noNameAhead (h : GoesWrong before index rest fault) :
    NoNameAhead rest ∨ ∃ text, rest = '(' :: text ∧ GroupGoesWrong index text fault := by
  cases h with
  | danglingModifier hchar => exact Or.inl (noNameAhead_of_ofModifier? hchar _)
  | group hgroup => exact Or.inr ⟨_, rfl, hgroup⟩
  | missingName => exact Or.inl ⟨by simp, by rintro _ ⟨⟩; rfl⟩
  | unexpectedClosing => exact Or.inl ⟨by simp, by rintro _ ⟨⟩; rfl⟩
  | loneEscape => exact Or.inl ⟨by simp, by rintro _ ⟨⟩; rfl⟩

/-- What goes wrong after an item does not go on with a modifier for it. -/
theorem GoesWrong.noModifierAhead (h : GoesWrong spelled index rest fault)
    (hitem : item.IsWritten spelled []) (hlacks : item.LacksModifier) : NoModifierAhead rest := by
  cases h with
  | danglingModifier hchar hdangling =>
    obtain ⟨other, hother⟩ := hitem.exists_concat hlacks hchar
    have hderives := Derives.cons hother .nil
    rw [List.append_nil] at hderives
    exact absurd hderives (hdangling _)
  | group => rintro _ ⟨⟩; rfl
  | missingName => rintro _ ⟨⟩; rfl
  | unexpectedClosing => rintro _ ⟨⟩; rfl
  | loneEscape => rintro _ ⟨⟩; rfl

theorem scanFrom_of_goesWrong (hbefore : Derives before items)
    (h : GoesWrong before (index + Utf8.byteLength before) rest fault) :
    scanFrom index (before ++ rest) = .error fault := by
  induction hbefore generalizing index with
  | nil =>
    obtain ⟨first, text, rfl, hnext⟩ := exists_cons_of_goesWrong h
    exact scanFrom_of_nextItem_eq_error hnext
  | @cons item spelled before items hitem hbefore ih =>
    have hrest := h.of_prepend hitem
    rw [Utf8.byteLength_append, ← Nat.add_assoc] at h hrest
    -- The item is read as such, unless it ends in its name and the group that goes wrong is its
    -- own.
    have hread (hitem' : item.IsWritten spelled (before ++ rest))
        (hlacks : item.LacksModifier → NoModifierAhead (before ++ rest)) :
        scanFrom index (spelled ++ before ++ rest) = .error fault := by
      obtain ⟨first, text, after, hspelled, hnext, hafter⟩ :=
        nextItem_of_isWritten hitem' hlacks index
      have hindex := index_of_nextItem hnext (hafter.symm ▸ hspelled.symm)
      rw [List.append_assoc, hspelled, scanFrom_of_nextItem hnext, hafter, hindex, ih hrest]
      rfl
    by_cases hnil : before = []
    · subst hnil
      rw [List.append_nil] at h hread ⊢
      rcases h.cases_noNameAhead with hname | ⟨text, rfl, hgroup⟩
      · exact hread (hitem.before fun _ ↦ hname) (h.noModifierAhead hitem)
      · by_cases hends : item.EndsInName
        · exact scanFrom_of_endsInName hitem hends hgroup
        · exact hread (hitem.before fun h ↦ absurd h hends) (h.noModifierAhead hitem)
    · refine hread (hitem.append fun h ↦ absurd h hnil) fun _ ↦ ?_
      obtain ⟨char, others, rfl⟩ := List.exists_cons_of_ne_nil hnil
      exact hbefore.noModifierAhead

/-- Scanning reports exactly what is wrong with a text. -/
theorem scanFrom_eq_error_iff :
    scanFrom index text = .error fault ↔ Misspells index text fault := by
  constructor
  · intro h
    fun_induction scanFrom index text with
    | case1 => cases h
    | case2 index first text other hnext =>
      obtain rfl := Except.error.inj h
      exact misspells_of_nextItem hnext
    | case3 index first text item after hnext hlength ih =>
      obtain ⟨spelled, hspelled, hitem⟩ := isWritten_of_nextItem hnext
      have hrest := ih (map_eq_error_iff.mp h)
      rw [index_of_nextItem hnext hspelled] at hrest
      rw [hspelled]
      exact hrest.prepend hitem (noModifierAhead_of_nextItem hnext)
  · rintro ⟨before, items, rest, rfl, hbefore, hrest⟩
    exact scanFrom_of_goesWrong hbefore hrest

end Item

/-! ### What a fault tells -/

namespace SpellingFault

/-- The place that a fault tells. -/
def index : SpellingFault → ℕ
  | missingName index => index
  | danglingModifier index _ => index
  | unexpectedClosing index => index
  | unterminatedGroup start => start
  | emptyGroup start => start
  | loneEscape index => index

/-- The character at the place that a fault tells. -/
def mark : SpellingFault → Char
  | missingName _ => ':'
  | danglingModifier _ modifier => modifier
  | unexpectedClosing _ => ')'
  | unterminatedGroup _ => '('
  | emptyGroup _ => '('
  | loneEscape _ => '\\'

/-- The text from the place on that makes the fault whatever follows, if there is such a text. -/
def evidence? : SpellingFault → Option (List Char)
  | danglingModifier _ modifier => some [modifier]
  | unexpectedClosing _ => some [')']
  | emptyGroup _ => some ['(', ')']
  | missingName _ => none
  | unterminatedGroup _ => none
  | loneEscape _ => none

end SpellingFault

/-- The text ends inside a group, and derives items up to the beginning of the group. -/
def EndsInGroup (text : List Char) : Prop :=
  ∃ front items inner, text = front ++ '(' :: inner ∧ Derives front items ∧
    Item.LeavesOpen 0 inner

namespace Item

variable {before rest : List Char} {fault : SpellingFault} {index : ℕ}

/-- A fault tells the place where the text goes wrong, except for an escape character at the end of
a group. -/
theorem GoesWrong.cases_index (h : GoesWrong before index rest fault) :
    (fault.index = index ∧ ∃ after, rest = fault.mark :: after ∧
        ∀ place, fault = .loneEscape place → after = []) ∨
      ∃ inner, rest = '(' :: (inner ++ ['\\']) ∧ LeavesOpen 0 inner ∧
        fault = .loneEscape (index + 1 + Utf8.byteLength inner) := by
  cases h with
  | missingName => exact Or.inl ⟨rfl, _, rfl, by rintro _ ⟨⟩⟩
  | danglingModifier => exact Or.inl ⟨rfl, _, rfl, by rintro _ ⟨⟩⟩
  | unexpectedClosing => exact Or.inl ⟨rfl, _, rfl, by rintro _ ⟨⟩⟩
  | loneEscape => exact Or.inl ⟨rfl, _, rfl, fun _ _ ↦ rfl⟩
  | group hgroup =>
    cases hgroup with
    | empty => exact Or.inl ⟨rfl, _, rfl, by rintro _ ⟨⟩⟩
    | endsOpen htext =>
      cases htext with
      | unterminated => exact Or.inl ⟨rfl, _, rfl, by rintro _ ⟨⟩⟩
      | loneEscape hinner => exact Or.inr ⟨_, rfl, hinner, rfl⟩

theorem GoesWrong.modifier_mem {place : ℕ} {modifier : Char}
    (h : GoesWrong before index rest (.danglingModifier place modifier)) :
    modifier ∈ ['?', '*', '+'] := by
  cases h with
  | danglingModifier hchar => exact mem_of_ofModifier? hchar
  | group hgroup =>
    cases hgroup with
    | endsOpen htext => cases htext

/-- What makes a fault whatever follows it is there, and makes the fault whatever follows it. -/
theorem GoesWrong.of_evidence (h : GoesWrong before index rest fault) {evidence : List Char}
    (hevidence : evidence ∈ fault.evidence?) :
    evidence <+: rest ∧ ∀ more, GoesWrong before index (evidence ++ more) fault := by
  cases h with
  | missingName => cases hevidence
  | loneEscape => cases hevidence
  | danglingModifier hchar hdangling =>
    obtain rfl := Option.some.inj hevidence
    exact ⟨⟨_, rfl⟩, fun more ↦ .danglingModifier hchar hdangling⟩
  | unexpectedClosing =>
    obtain rfl := Option.some.inj hevidence
    exact ⟨⟨_, rfl⟩, fun more ↦ .unexpectedClosing⟩
  | group hgroup =>
    cases hgroup with
    | empty =>
      obtain rfl := Option.some.inj hevidence
      exact ⟨⟨_, rfl⟩, fun more ↦ .group .empty⟩
    | endsOpen htext => cases htext <;> cases hevidence

end Item

/-! ### Patterns -/

section Patterns

variable {delimiter : Char} {pattern text : String} {fault : SpellingFault}

theorem tokenize_eq_error_spelling_iff :
    tokenize delimiter pattern = .error (.spelling text fault) ↔
      text = pattern ∧ Item.Misspells 0 pattern.toList fault := by
  rw [← Item.scanFrom_eq_error_iff, ← Item.scan, tokenize]
  cases hscan : Item.scan pattern with
  | error other =>
    simp only [Except.error.injEq, PatternError.spelling.injEq]
    exact and_congr_left fun _ ↦ eq_comm
  | ok items =>
    simp only [reduceCtorEq, and_false, iff_false]
    intro h
    rcases checkTokens_cases pattern delimiter (Token.ofItems delimiter items) with
      ⟨-, -, hcheck⟩ | ⟨-, _, hcheck⟩ | ⟨-, -, _, hcheck⟩
    · rw [hcheck] at h
      cases h
    · rw [hcheck] at h
      cases h
    · rw [hcheck] at h
      cases h

/-- A text has a fault under some delimiter exactly if it derives no items. -/
theorem exists_fault_iff {before : List Char} :
    (∃ other text fault, tokenize other (String.ofList before) = .error (.spelling text fault)) ↔
      ∀ items, ¬Derives before items := by
  simp only [tokenize_eq_error_spelling_iff, String.toList_ofList, ← Item.scanFrom_eq_error_iff,
    ← @Item.scanFrom_eq_ok_iff 0]
  cases Item.scanFrom 0 before with
  | error fault => simp
  | ok items => simp

theorem EndsInGroup.not_derives {before : List Char} (h : EndsInGroup before) (items : List Item) :
    ¬Derives before items := by
  obtain ⟨front, others, inner, rfl, hfront, hinner⟩ := h
  have hscan := @Item.scanFrom_of_goesWrong _ _ _ _ 0 hfront
    (.group (.endsOpen (.unterminated hinner)))
  rw [← @Item.scanFrom_eq_ok_iff 0, hscan]
  rintro ⟨⟩

/-- What a fault tells of a pattern that has `before` in front of the place of the fault and `after`
after the character there. -/
structure SpellingFault.Tells (fault : SpellingFault) (pattern : String)
    (before after : List Char) : Prop where
  /-- The character of the fault stands at its place. -/
  toList_eq : pattern.toList = before ++ fault.mark :: after
  /-- The place is the number of bytes before it. -/
  index_eq : fault.index = (Utf8.encode before).length
  /-- Only modifiers are reported as such. -/
  modifier_mem : ∀ place modifier, fault = .danglingModifier place modifier →
    modifier ∈ ['?', '*', '+']
  /-- An escape character with nothing to escape is the last character. -/
  after_eq_nil : ∀ place, fault = .loneEscape place → after = []
  /-- Nothing is wrong before the place, except that a group is open where an escape character in it
  has nothing to escape. -/
  before_iff : (∃ other text fault,
      tokenize other (String.ofList before) = .error (.spelling text fault)) ↔
    (∃ place, fault = .loneEscape place) ∧ EndsInGroup before
  /-- What makes the fault whatever follows does so in every pattern that begins like this one. -/
  of_evidence : ∀ evidence ∈ fault.evidence?, evidence <+: fault.mark :: after ∧
    ∀ other : String, before ++ evidence <+: other.toList →
      ∀ delimiter, tokenize delimiter other = .error (.spelling other fault)

theorem Item.GoesWrong.tells {before after : List Char} {items : List Item}
    (h : GoesWrong before fault.index (fault.mark :: after) fault) (hbefore : Derives before items)
    (htext : pattern.toList = before ++ fault.mark :: after)
    (hindex : fault.index = Utf8.byteLength before)
    (hafter : ∀ place, fault = .loneEscape place → after = []) :
    fault.Tells pattern before after where
  toList_eq := htext
  index_eq := hindex.trans (Utf8.length_encode before).symm
  modifier_mem := by
    rintro place modifier rfl
    exact h.modifier_mem
  after_eq_nil := hafter
  before_iff := by
    rw [exists_fault_iff]
    constructor
    · exact fun hnot ↦ absurd hbefore (hnot items)
    · exact fun ⟨_, hgroup⟩ ↦ absurd hbefore (hgroup.not_derives items)
  of_evidence := by
    intro evidence hevidence
    obtain ⟨hpresent, hwrong⟩ := h.of_evidence hevidence
    refine ⟨hpresent, fun other hother delimiter ↦ ?_⟩
    obtain ⟨more, hmore⟩ := hother
    refine tokenize_eq_error_spelling_iff.mpr ⟨rfl, ?_⟩
    rw [← hmore, List.append_assoc]
    have hrest := hwrong more
    rw [hindex, ← Nat.zero_add (Utf8.byteLength before)] at hrest
    exact ⟨before, items, _, rfl, hbefore, hrest⟩

theorem tells_of_loneEscape {front inner : List Char} {items : List Item}
    (hfront : Derives front items) (hinner : Item.LeavesOpen 0 inner)
    (htext : pattern.toList = front ++ '(' :: (inner ++ ['\\'])) :
    (SpellingFault.loneEscape (Utf8.byteLength (front ++ '(' :: inner))).Tells pattern
      (front ++ '(' :: inner) [] where
  toList_eq := by
    rw [htext, List.append_assoc]
    rfl
  index_eq := (Utf8.length_encode _).symm
  modifier_mem := by rintro _ _ ⟨⟩
  after_eq_nil _ _ := rfl
  before_iff := by
    have hgroup : EndsInGroup (front ++ '(' :: inner) := ⟨front, items, inner, rfl, hfront, hinner⟩
    rw [exists_fault_iff]
    exact ⟨fun _ ↦ ⟨⟨_, rfl⟩, hgroup⟩, fun _ ↦ hgroup.not_derives⟩
  of_evidence := by rintro _ ⟨⟩

/-- A fault points at the first thing that is wrong with the spelling of a pattern. It is the same
under all delimiters, and in all patterns that begin alike up to what makes it. -/
theorem tokenize_eq_error_spelling
    (h : tokenize delimiter pattern = .error (.spelling text fault)) :
    text = pattern ∧ (∀ other, tokenize other pattern = .error (.spelling pattern fault)) ∧
      ∃ before after, fault.Tells pattern before after := by
  obtain ⟨rfl, hmisspells⟩ := tokenize_eq_error_spelling_iff.mp h
  refine ⟨rfl, fun other ↦ tokenize_eq_error_spelling_iff.mpr ⟨rfl, hmisspells⟩, ?_⟩
  obtain ⟨before, items, rest, htext, hbefore, hrest⟩ := hmisspells
  rw [Nat.zero_add] at hrest
  rcases hrest.cases_index with ⟨hindex, after, rfl, hafter⟩ | ⟨inner, rfl, hinner, rfl⟩
  · exact ⟨before, after, (hindex ▸ hrest).tells hbefore htext hindex hafter⟩
  · have hplace : Utf8.byteLength before + 1 + Utf8.byteLength inner =
        Utf8.byteLength (before ++ '(' :: inner) := by
      rw [Utf8.byteLength_append, Utf8.byteLength_cons, ← Nat.add_assoc]
      rfl
    rw [hplace]
    exact ⟨_, [], tells_of_loneEscape hbefore hinner htext⟩

/-- A second modifier after text with a character of two bytes. -/
theorem tokenize_eq_error_spelling_accented :
    tokenize '/' "/é/:id?+x" = .error (.spelling "/é/:id?+x" (.danglingModifier 8 '+')) ∧
      ∃ before after, (SpellingFault.danglingModifier 8 '+').Tells "/é/:id?+x" before after := by
  have herror : tokenize '/' "/é/:id?+x" =
      .error (.spelling "/é/:id?+x" (.danglingModifier 8 '+')) := by with_unfolding_all rfl
  obtain ⟨-, -, htells⟩ := tokenize_eq_error_spelling herror
  exact ⟨herror, htells⟩

end Patterns

end RoutePatterns
