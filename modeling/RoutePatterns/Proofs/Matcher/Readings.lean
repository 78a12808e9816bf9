import RoutePatterns.Proofs.Matcher.Trees
import RoutePatterns.Proofs.Pattern.Grammar
import RoutePatterns.Proofs.Regex.Found
import RoutePatterns.Proofs.Regex.Languages
import RoutePatterns.Proofs.Text.Joining

/-!
# What the expressions of plain tokens read

The expression of a plain parameter is measured against the grammar. `hasLanguage_text` is about
static text, in which case may not count, and `hasLanguage_values` about the values of a parameter:
they are read as one text, joined by the separator. A slot reads what its parameter takes and
records the values without the lead (`exists_takes_of_readsAll`, `exists_readsAll_of_takes`), or
nothing where the parameter is left out (`RecordsText`).

All of it rests on delimiters and leads being punctuation, which has no case
(`Param.IsPunctuated`).
-/

set_option autoImplicit false
set_option relaxedAutoImplicit false

namespace RoutePatterns

open Text
open Regex (CharSet Covers HasLanguage Node Reads ReadsAll Recorded mem_textsWith textsWith)
open scoped Computability

variable {options : PatternOptions} {text : List Char}

/-! ### Characters -/

theorem single_iff {char other : Char} :
    Regex.Flags.single { ignoreCase := !options.sensitive } char other = true ↔
      SameChar options char other := by
  unfold SameChar Regex.Flags.single
  cases options.sensitive with
  | true => exact beq_iff_eq.trans eq_comm
  | false => exact beq_iff_eq.trans eq_comm

/-- Whether case is ignored or not, the complement of punctuation holds all other characters. -/
theorem noneOf_iff {ignoreCase : Bool} {chars : List Char} {char : Char}
    (hchars : ∀ other ∈ chars, isAsciiPunctuation other = true) :
    CharSet.noneOf ignoreCase chars char = true ↔ char ∉ chars := by
  have hset : Regex.Flags.fold { ignoreCase } (.oneOf chars) char = true ↔ char ∈ chars := by
    cases ignoreCase with
    | false => simp [Regex.Flags.fold, CharSet.oneOf]
    | true =>
      simp only [Regex.Flags.fold, CharSet.folded, CharSet.oneOf, Bool.not_true, Bool.false_eq_true,
        if_false, if_true, List.any_eq_true, List.contains_iff_mem]
      constructor
      · rintro ⟨other, horbit, hother⟩
        have hfold := mem_orbit_iff.mp horbit
        exact eq_of_fold_eq_of_punctuation (hchars other hother) hfold.symm ▸ hother
      · exact fun hchar ↦ ⟨char, mem_orbit_self char, hchar⟩
  rw [CharSet.noneOf, CharSet.compl, Bool.not_eq_true', ← Bool.not_eq_true, hset]

theorem hasLanguage_charNode (char : Char) :
    HasLanguage text [options.charNode char]
      (textsWith fun part ↦ ∃ other, SameChar options char other ∧ part = [other]) := by
  have hone := @HasLanguage.one text (Regex.Flags.single { ignoreCase := !options.sensitive } char)
  simp only [single_iff] at hone
  exact hone

theorem hasLanguage_charNode_of_punctuation {char : Char} (hchar : isAsciiPunctuation char = true) :
    HasLanguage text [options.charNode char] (textsWith fun part ↦ part = [char]) := by
  have hnode := @hasLanguage_charNode options text char
  simpa only [sameChar_iff_of_punctuation hchar, exists_eq_left] using hnode

/-- Static text is read as the texts that are the same. -/
theorem hasLanguage_text (chars : List Char) :
    HasLanguage text (chars.map options.charNode)
      (textsWith fun part ↦ SameText options chars part) := by
  induction chars with
  | nil => exact HasLanguage.nil.congr fun part ↦ List.forall₂_nil_left_iff.symm
  | cons char chars ih =>
    refine ((hasLanguage_charNode char).append ih).congr fun part ↦ ?_
    rw [Language.mem_mul, mem_textsWith]
    constructor
    · rintro ⟨_, ⟨other, hchar, rfl⟩, rest, hrest, rfl⟩
      exact .cons hchar hrest
    · intro h
      obtain ⟨other, rest, hchar, hrest, rfl⟩ := List.forall₂_cons_left_iff.mp h
      exact ⟨[other], ⟨other, hchar, rfl⟩, rest, hrest, rfl⟩

/-! ### Values -/

/-- Any number of rounds, each of a mark and a text. -/
theorem mem_kstar_marked_iff {mark : Char} {holds : List Char → Prop} {part : List Char} :
    part ∈ (textsWith (fun part ↦ part = [mark]) * textsWith holds)∗ ↔
      ∃ values : List (List Char), (∀ value ∈ values, holds value) ∧
        part = (values.map (mark :: ·)).flatten := by
  rw [Language.mem_kstar]
  constructor
  · rintro ⟨rounds, rfl, hrounds⟩
    induction rounds with
    | nil => exact ⟨[], by simp, rfl⟩
    | cons round rounds ih =>
      obtain ⟨hround, hrest⟩ := List.forall_mem_cons.mp hrounds
      obtain ⟨_, rfl, value, hvalue, rfl⟩ := Language.mem_mul.mp hround
      obtain ⟨values, hvalues, hflatten⟩ := ih hrest
      refine ⟨value :: values, List.forall_mem_cons.mpr ⟨hvalue, hvalues⟩, ?_⟩
      rw [List.flatten_cons, hflatten]
      rfl
  · rintro ⟨values, hvalues, rfl⟩
    refine ⟨_, rfl, fun round hround ↦ ?_⟩
    obtain ⟨value, hvalue, rfl⟩ := List.mem_map.mp hround
    exact ⟨[mark], rfl, value, hvalues value hvalue, rfl⟩

/-- One text or several with marks between them. -/
theorem mem_mul_kstar_marked_iff {mark : Char} {holds : List Char → Prop} {part : List Char} :
    part ∈ textsWith holds * (textsWith (fun part ↦ part = [mark]) * textsWith holds)∗ ↔
      ∃ values : List (List Char), values ≠ [] ∧ (∀ value ∈ values, holds value) ∧
        part = joinWith mark values := by
  rw [Language.mem_mul]
  simp only [mem_kstar_marked_iff, mem_textsWith]
  constructor
  · rintro ⟨first, hfirst, _, ⟨others, hothers, rfl⟩, rfl⟩
    exact ⟨first :: others, by simp, List.forall_mem_cons.mpr ⟨hfirst, hothers⟩,
      (joinWith_cons _ _ _).symm⟩
  · rintro ⟨values, hne, hvalues, rfl⟩
    obtain ⟨first, others, rfl⟩ := List.exists_cons_of_ne_nil hne
    obtain ⟨hfirst, hothers⟩ := List.forall_mem_cons.mp hvalues
    exact ⟨first, hfirst, _, ⟨others, hothers, rfl⟩, (joinWith_cons _ _ _).symm⟩

/-- What the options and the pattern keep to: the delimiter and the lead are punctuation. -/
def Param.IsPunctuated (delimiter : Char) (parameter : Param) : Prop :=
  ∀ char ∈ parameter.excluded delimiter, isAsciiPunctuation char = true

namespace Param

variable {parameter : Param} {index : Nat}

theorem isPunctuated_of_lead {delimiter : Char}
    (hdelimiter : PatternOptions.isDelimiter delimiter = true)
    (hlead : ∀ char ∈ parameter.lead, char = delimiter ∨ char = Token.extensionMark) :
    parameter.IsPunctuated delimiter := by
  intro char hchar
  rcases mem_excluded_iff.mp hchar with rfl | hchar
  · exact isAsciiPunctuation_of_isDelimiter hdelimiter
  · rcases hlead char hchar with rfl | rfl
    · exact isAsciiPunctuation_of_isDelimiter hdelimiter
    · decide

theorem separator_mem_excluded (delimiter : Char) (parameter : Param) :
    parameter.separator delimiter ∈ parameter.excluded delimiter := by
  rw [mem_excluded_iff, separator]
  cases parameter.lead with
  | none => exact Or.inl rfl
  | some lead => exact Or.inr rfl

theorem isValue_iff {delimiter : Char} {value : List Char} :
    parameter.IsValue delimiter value ↔
      value ≠ [] ∧ ∀ char ∈ value, char ∉ parameter.excluded delimiter := by
  simp only [IsValue, mem_excluded_iff, not_or]
  constructor
  · rintro ⟨hne, hdelimiter, hlead⟩
    exact ⟨hne, fun char hchar ↦ ⟨fun heq ↦ hdelimiter (heq ▸ hchar),
      fun hmem ↦ hlead char hmem hchar⟩⟩
  · rintro ⟨hne, hchars⟩
    exact ⟨hne, fun hmem ↦ (hchars _ hmem).1 rfl, fun lead hlead hmem ↦ (hchars _ hmem).2 hlead⟩

theorem hasLanguage_value (hpunctuated : parameter.IsPunctuated options.delimiter) :
    HasLanguage text [parameter.valueNode options]
      (textsWith (parameter.IsValue options.delimiter)) := by
  refine (HasLanguage.run _ false).congr fun part ↦ ?_
  simp only [mem_textsWith, isValue_iff, noneOf_iff hpunctuated]

/-- The trees for values read the values that a parameter takes, joined by its separator. -/
theorem hasLanguage_values (hpunctuated : parameter.IsPunctuated options.delimiter) :
    HasLanguage text (parameter.valuesNodes options) (textsWith fun part ↦
      ∃ values, parameter.Takes options.delimiter (some values) ∧
        part = joinWith (parameter.separator options.delimiter) values) := by
  have hvalue := @hasLanguage_value options text parameter hpunctuated
  have hseparator := @hasLanguage_charNode_of_punctuation options text _
    (hpunctuated _ (separator_mem_excluded options.delimiter parameter))
  unfold valuesNodes
  by_cases hrepeating : parameter.isRepeating = true
  · rw [if_pos hrepeating]
    refine (hvalue.append ((hseparator.append hvalue).group.loop true)).congr fun part ↦ ?_
    simp only [mem_mul_kstar_marked_iff, mem_textsWith, Takes, hrepeating, reduceCtorEq,
      false_implies, true_and, and_assoc]
  · rw [if_neg hrepeating]
    refine hvalue.congr fun part ↦ ?_
    simp only [mem_textsWith, Takes, Bool.not_eq_true] at hrepeating ⊢
    constructor
    · intro hpart
      exact ⟨[part], ⟨by simp, fun _ ↦ rfl, by simpa using hpart⟩, rfl⟩
    · rintro ⟨values, ⟨-, hlength, hvalues⟩, rfl⟩
      obtain ⟨value, rfl⟩ := List.length_eq_one_iff.mp (hlength hrepeating)
      exact hvalues value List.mem_cons_self

/-! ### Slots -/

theorem readsAll_ledNodes_iff (hpunctuated : parameter.IsPunctuated options.delimiter)
    {start stop : Nat} {recorded : List Recorded} :
    ReadsAll text (parameter.ledNodes options index) start stop recorded ↔
      ∃ middle values, parameter.Takes options.delimiter (some values) ∧
        Covers text start middle parameter.lead.toList ∧
        Covers text middle stop (joinWith (parameter.separator options.delimiter) values) ∧
        recorded = [(captureName index, middle, stop)] := by
  have hlead : HasLanguage text (parameter.lead.toList.map options.charNode)
      (textsWith fun part ↦ part = parameter.lead.toList) := by
    cases hlead : parameter.lead with
    | none => exact HasLanguage.nil
    | some lead =>
      have hmem : lead ∈ parameter.excluded options.delimiter :=
        mem_excluded_iff.mpr (Or.inr hlead)
      exact hasLanguage_charNode_of_punctuation (hpunctuated lead hmem)
  have hcapture : ∀ {start stop recorded},
      Reads text (parameter.captureNode options index) start stop recorded ↔
        ∃ later, ReadsAll text (parameter.valuesNodes options) start stop later ∧
          recorded = (captureName index, start, stop) :: later := by
    intro start stop recorded
    simp only [captureNode, Regex.reads_capture_iff, Regex.reads_ofItems_iff]
  rw [ledNodes, Regex.readsAll_append_iff]
  simp only [Regex.readsAll_singleton_iff, hcapture, hlead _ _ _,
    hasLanguage_values hpunctuated _ _ _, mem_textsWith]
  constructor
  · rintro ⟨middle, _, _, ⟨rfl, _, rfl, hlead⟩, ⟨_, ⟨rfl, _, ⟨values, hvalues, rfl⟩, hcovers⟩, rfl⟩,
      rfl⟩
    exact ⟨middle, values, hvalues, hlead, hcovers, rfl⟩
  · rintro ⟨middle, values, hvalues, hlead, hcovers, rfl⟩
    exact ⟨middle, [], _, ⟨rfl, _, rfl, hlead⟩,
      ⟨[], ⟨rfl, _, ⟨values, hvalues, rfl⟩, hcovers⟩, rfl⟩, rfl⟩

theorem readsAll_slotNodes_iff {start stop : Nat} {recorded : List Recorded} :
    ReadsAll text (parameter.slotNodes options index) start stop recorded ↔
      (parameter.isOptional = true ∧ start = stop ∧ recorded = []) ∨
        ReadsAll text (parameter.ledNodes options index) start stop recorded := by
  unfold slotNodes
  cases parameter.isOptional with
  | true => simp [Regex.readsAll_singleton_iff, Regex.reads_optional_iff, Regex.reads_ofItems_iff]
  | false => simp

end Param

/-- The captures are one of the text under the name, or none if there is no text. -/
inductive RecordsText (text : List Char) (name : String) :
    Option (List Char) → List Recorded → Prop
  | absent : RecordsText text name none []
  | present {part : List Char} {start stop : Nat} (hcovers : Covers text start stop part) :
      RecordsText text name (some part) [(name, start, stop)]

namespace Param

variable {parameter : Param} {index : Nat}

/-- What is read for a slot is the text of values that the parameter takes, and the values are
recorded. -/
theorem exists_takes_of_readsAll (hpunctuated : parameter.IsPunctuated options.delimiter)
    {start stop : Nat} {recorded : List Recorded}
    (h : ReadsAll text (parameter.slotNodes options index) start stop recorded) :
    ∃ taken, parameter.Takes options.delimiter taken ∧
      Covers text start stop (parameter.textOf options.delimiter taken) ∧
      RecordsText text (captureName index)
        (taken.map (joinWith (parameter.separator options.delimiter))) recorded := by
  rcases readsAll_slotNodes_iff.mp h with ⟨hoptional, rfl, rfl⟩ | hled
  · exact ⟨none, hoptional, .nil _, .absent⟩
  · obtain ⟨middle, values, hvalues, hlead, hcovers, rfl⟩ :=
      (readsAll_ledNodes_iff hpunctuated).mp hled
    exact ⟨some values, hvalues, hlead.append hcovers, .present hcovers⟩

/-- The text of values that the parameter takes can be read for its slot. -/
theorem exists_readsAll_of_takes (hpunctuated : parameter.IsPunctuated options.delimiter)
    {taken : Taken} (htaken : parameter.Takes options.delimiter taken) {start stop : Nat}
    (hcovers : Covers text start stop (parameter.textOf options.delimiter taken)) :
    ∃ recorded, ReadsAll text (parameter.slotNodes options index) start stop recorded := by
  cases taken with
  | none =>
    exact ⟨[], readsAll_slotNodes_iff.mpr (Or.inl ⟨htaken, Regex.covers_nil_iff.mp hcovers, rfl⟩)⟩
  | some values =>
    obtain ⟨middle, hlead, hvalues⟩ := Regex.covers_append_iff.mp hcovers
    exact ⟨_, readsAll_slotNodes_iff.mpr (Or.inr ((readsAll_ledNodes_iff hpunctuated).mpr
      ⟨middle, values, htaken, hlead, hvalues, rfl⟩))⟩

end Param

end RoutePatterns
