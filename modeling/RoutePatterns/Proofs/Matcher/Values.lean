import RoutePatterns.Proofs.Matcher.Building
import RoutePatterns.Proofs.Matcher.Captured
import RoutePatterns.Proofs.Regex.NodeLanguages

/-!
# Values of groups without conditions

A group that is an expression on its own and has no conditions has a language, and so has a matcher
all of whose groups are of this kind. The check of a slot accepts the language of its group
(`Slot.IsFree.isMatch_check_iff`), and what is read for the slot is values that the check accepts,
joined by the separator (`Slot.IsFree.mem_languageOf_valuesNodes_iff`). So the matcher accepts what
is built of values (`Matcher.IsFree.accepts_of_build`).

Captured text is cut at every separator, whether it separates values or is in one of them. What is
captured makes a path again exactly if the check accepts what the text is cut into
(`Slot.Captured.exists_build_iff`, `Matcher.IsFree.exists_build_iff`), as it does if the separator
is in no value (`Matcher.IsFree.forall_isMatch`).
-/

set_option autoImplicit false
set_option relaxedAutoImplicit false

namespace RoutePatterns

open Text
open Regex (Node languageOf mem_textsWith textsWith)
open scoped Computability

variable {options : PatternOptions} {text : List Char}

/-! ### Static text -/

theorem isFree_of_mem_map_charNode {chars : List Char} :
    ∀ node ∈ chars.map options.charNode, node.isFree = true := by
  intro node hnode
  obtain ⟨char, -, rfl⟩ := List.mem_map.mp hnode
  rfl

/-- The language of static text is the texts that are the same. -/
theorem languageOf_text (chars : List Char) :
    languageOf (chars.map options.charNode) =
      textsWith fun part ↦ SameText options chars part :=
  Regex.languageOf_eq_of_hasLanguage isFree_of_mem_map_charNode fun _ ↦ hasLanguage_text chars

theorem language_charNode_of_punctuation {char : Char} (hchar : isAsciiPunctuation char = true) :
    (options.charNode char).language = textsWith fun part ↦ part = [char] := by
  rw [← Regex.languageOf_singleton]
  refine Regex.languageOf_eq_of_hasLanguage ?_ fun _ ↦ hasLanguage_charNode_of_punctuation hchar
  exact List.forall_mem_singleton.mpr rfl

/-! ### Slots -/

namespace Slot

/-- The group of the slot is an expression on its own and has no conditions, and the separator is
punctuation. -/
structure IsFree (options : PatternOptions) (slot : Slot) : Prop extends slot.IsRead options where
  /-- The group has no conditions. -/
  value : (slot.valueNode options).isFree = true
  /-- The separator has no case. -/
  separator : isAsciiPunctuation slot.separator = true

variable {slot : Slot}

theorem IsFree.of_mem_valuesNodes (h : slot.IsFree options) :
    ∀ node ∈ slot.valuesNodes options, node.isFree = true := by
  intro node hnode
  unfold valuesNodes at hnode
  split_ifs at hnode
  · rcases List.mem_pair.mp hnode with rfl | rfl
    · exact h.value
    · simpa [Node.isFree, PatternOptions.charNode] using h.value
  · rw [List.mem_singleton.mp hnode]
    exact h.value

theorem IsFree.of_mem_nodes (h : slot.IsFree options) :
    ∀ node ∈ slot.nodes options, node.isFree = true := by
  have hled : ∀ node ∈ slot.ledNodes options, node.isFree = true := by
    refine List.forall_mem_append.mpr ⟨isFree_of_mem_map_charNode, ?_⟩
    rw [List.forall_mem_singleton, Node.isFree, Regex.isFree_ofItems]
    exact List.all_eq_true.mpr h.of_mem_valuesNodes
  unfold nodes
  split_ifs
  · rw [List.forall_mem_singleton, Regex.isFree_optional, Regex.isFree_ofItems]
    exact List.all_eq_true.mpr hled
  · exact hled

/-- The check of a slot accepts the language of its group. -/
theorem IsFree.isMatch_check_iff (h : slot.IsFree options) {value : String} :
    slot.check.isMatch value = true ↔ value.toList ∈ (slot.valueNode options).language := by
  have hnodes : ∀ node ∈ [slot.valueNode options], node.isFree = true :=
    List.forall_mem_singleton.mpr h.value
  rw [Regex.isMatch_iff_mem_language h.check_root hnodes, Regex.languageOf_singleton]

/-- The values of a slot are read joined by its separator. -/
theorem IsFree.mem_languageOf_valuesNodes_iff (h : slot.IsFree options) {part : List Char} :
    part ∈ languageOf (slot.valuesNodes options) ↔
      ∃ values, values ≠ [] ∧ (slot.isRepeating = false → values.length = 1) ∧
        (∀ value ∈ values, value ∈ (slot.valueNode options).language) ∧
        part = joinWith slot.separator values := by
  unfold valuesNodes
  by_cases hrepeating : slot.isRepeating = true
  · have hvalue : (slot.valueNode options).language =
        textsWith fun part ↦ part ∈ (slot.valueNode options).language := rfl
    rw [if_pos hrepeating, Regex.languageOf_cons, Regex.languageOf_singleton, Node.language,
      Regex.language_ofItems, Regex.languageOf_cons, Regex.languageOf_singleton,
      language_charNode_of_punctuation h.separator, hvalue, mem_mul_kstar_marked_iff]
    simp only [hrepeating, reduceCtorEq, false_implies, true_and, mem_textsWith]
  · rw [if_neg hrepeating, Regex.languageOf_singleton]
    constructor
    · intro hpart
      exact ⟨[part], by simp, fun _ ↦ rfl, by simpa using hpart, rfl⟩
    · rintro ⟨values, -, hlength, hvalues, rfl⟩
      obtain ⟨value, rfl⟩ := List.length_eq_one_iff.mp (hlength (Bool.not_eq_true _ ▸ hrepeating))
      exact hvalues value List.mem_cons_self

/-! ### Building -/

/-- Values that the check accepts are in the language of the slot, joined behind its lead. -/
theorem IsFree.mem_languageOf_nodes (h : slot.IsFree options) {values : List (List Char)}
    (hne : values ≠ []) (hlength : slot.isRepeating = false → values.length = 1)
    (hvalues : ∀ value ∈ values, value ∈ (slot.valueNode options).language) :
    slot.leadText ++ joinWith slot.separator values ∈ languageOf (slot.nodes options) := by
  have hled : slot.leadText ++ joinWith slot.separator values ∈
      languageOf (slot.ledNodes options) := by
    have hlead : slot.leadText ∈ languageOf (slot.lead.toList.map options.charNode) := by
      rw [languageOf_text]
      exact sameText_refl options _
    have hjoined := h.mem_languageOf_valuesNodes_iff.mpr ⟨values, hne, hlength, hvalues, rfl⟩
    rw [ledNodes, Regex.languageOf_append, Regex.languageOf_singleton, Node.language,
      Regex.language_ofItems]
    exact Language.append_mem_mul hlead hjoined
  unfold nodes
  split_ifs
  · rw [Regex.languageOf_singleton, Regex.language_optional, Regex.language_ofItems]
    exact Or.inr hled
  · exact hled

theorem nil_mem_languageOf_nodes (hoptional : slot.isOptional = true) :
    [] ∈ languageOf (slot.nodes options) := by
  rw [nodes, if_pos hoptional, Regex.languageOf_singleton, Regex.language_optional]
  exact Or.inl Language.nil_mem_one

/-- What is built for a slot is in its language. -/
theorem IsFree.mem_languageOf_of_build (h : slot.IsFree options) {given : Option ParamValue}
    {built : List Char} (hbuild : slot.build given = .ok built) :
    built ∈ languageOf (slot.nodes options) := by
  cases given with
  | none =>
    obtain ⟨hoptional, rfl⟩ := build_none_eq_ok_iff.mp hbuild
    exact nil_mem_languageOf_nodes hoptional
  | some value =>
    cases value with
    | single value =>
      obtain ⟨hvalue, rfl⟩ := build_single_eq_ok_iff.mp hbuild
      rw [h.isMatch_check_iff] at hvalue
      exact h.mem_languageOf_nodes (List.cons_ne_nil value.toList []) (fun _ ↦ rfl)
        (List.forall_mem_singleton.mpr hvalue)
    | list values =>
      by_cases hne : values = []
      · subst hne
        obtain ⟨-, hoptional, rfl⟩ := build_list_nil_eq_ok_iff.mp hbuild
        exact nil_mem_languageOf_nodes hoptional
      · obtain ⟨hrepeating, hvalues, rfl⟩ := (build_list_eq_ok_iff hne).mp hbuild
        refine h.mem_languageOf_nodes (by simpa using hne) (by simp [hrepeating]) ?_
        intro chars hchars
        obtain ⟨value, hvalue, rfl⟩ := List.mem_map.mp hchars
        exact h.isMatch_check_iff.mp (hvalues value hvalue)

/-! ### Captured values -/

/-- Captured text is values that the check accepts, joined by the separator. -/
theorem Captured.exists_values {part : List Char} (h : slot.Captured options text (some part))
    (hfree : slot.IsFree options) :
    ∃ values, values ≠ [] ∧ (slot.isRepeating = false → values.length = 1) ∧
      (∀ value ∈ values, slot.check.isMatch (String.ofList value) = true) ∧
      part = joinWith slot.separator values := by
  cases h with
  | present hreads =>
    obtain ⟨part, hpart, hcovers⟩ :=
      (Regex.exists_readsAll_iff hfree.of_mem_valuesNodes).mp ⟨_, hreads⟩
    rw [hcovers.eq_take]
    obtain ⟨values, hne, hlength, hvalues, rfl⟩ := hfree.mem_languageOf_valuesNodes_iff.mp hpart
    refine ⟨values, hne, hlength, fun value hvalue ↦ ?_, rfl⟩
    rw [hfree.isMatch_check_iff, String.toList_ofList]
    exact hvalues value hvalue

/-- If the separator is in no value that the check accepts, the check accepts whatever the captured
text is cut into. -/
theorem Captured.forall_isMatch {part : List Char} (h : slot.Captured options text (some part))
    (hfree : slot.IsFree options)
    (hcut : ∀ value, slot.check.isMatch value = true → slot.separator ∉ value.toList) :
    ∀ value ∈ (fields slot.separator part).map String.ofList, slot.check.isMatch value = true := by
  obtain ⟨values, hne, -, hvalues, rfl⟩ := h.exists_values hfree
  have hfields : fields slot.separator (joinWith slot.separator values) = values := by
    refine fields_joinWith hne fun value hvalue ↦ ?_
    have hnone := hcut _ (hvalues value hvalue)
    rwa [String.toList_ofList] at hnone
  rw [hfields, List.forall_mem_map]
  exact hvalues

/-- What a slot has captured makes a path again exactly if the check accepts the values of a list
that it is cut into. -/
theorem Captured.exists_build_iff {part : Option (List Char)}
    (h : slot.Captured options text part) (hfree : slot.IsFree options) :
    (∃ built, slot.build (part.map slot.valueOf) = .ok built) ↔
      ∀ values, part.map slot.valueOf = some (.list values) →
        ∀ value ∈ values, slot.check.isMatch value = true := by
  cases part with
  | none =>
    obtain ⟨hoptional⟩ := h
    have hbuild : slot.build none = .ok [] := build_none_eq_ok_iff.mpr ⟨hoptional, rfl⟩
    simp [hbuild]
  | some part =>
    rw [Option.map_some, valueOf]
    by_cases hrepeating : slot.isRepeating = true
    · have hne : (fields slot.separator part).map String.ofList ≠ [] := by
        simpa using fields_ne_nil slot.separator part
      rw [if_pos hrepeating]
      simp only [build_list_eq_ok_iff hne, hrepeating, true_and, exists_and_left, exists_eq,
        and_true, Option.some.injEq, ParamValue.list.injEq, forall_eq']
    · obtain ⟨values, -, hlength, hvalues, rfl⟩ := h.exists_values hfree
      obtain ⟨value, rfl⟩ := List.length_eq_one_iff.mp (hlength (Bool.not_eq_true _ ▸ hrepeating))
      have hvalue := hvalues value List.mem_cons_self
      simp [if_neg hrepeating, build_single_eq_ok_iff, joinWith, hvalue]

end Slot

/-! ### Parts and matchers -/

namespace Part

variable {parts : List Part}

theorem isFree_of_mem_nodes (hslots : ∀ slot ∈ parts.filterMap slot?, slot.IsFree options) :
    ∀ node ∈ parts.flatMap (nodes options), node.isFree = true := by
  intro node hnode
  obtain ⟨part, hpart, hnode⟩ := List.mem_flatMap.mp hnode
  cases part with
  | literal chars => exact isFree_of_mem_map_charNode node hnode
  | param slot =>
    have hslot : slot ∈ parts.filterMap slot? := List.mem_filterMap.mpr ⟨_, hpart, rfl⟩
    exact (hslots slot hslot).of_mem_nodes node hnode

theorem mem_languageOf_of_buildAll
    (hslots : ∀ slot ∈ parts.filterMap slot?, slot.IsFree options) {params : Params}
    {built : List Char} (h : buildAll params parts = .ok built) :
    built ∈ languageOf (parts.flatMap (nodes options)) := by
  induction parts generalizing built with
  | nil =>
    obtain rfl := Except.ok.inj h
    exact Language.nil_mem_one
  | cons part parts ih =>
    obtain ⟨front, rest, hpart, hrest, rfl⟩ := buildAll_cons_eq_ok_iff.mp h
    rw [List.flatMap_cons, Regex.languageOf_append]
    cases part with
    | literal chars =>
      rw [filterMap_slot?_literal] at hslots
      obtain rfl := Except.ok.inj hpart
      refine Language.append_mem_mul ?_ (ih hslots hrest)
      rw [nodes, languageOf_text]
      exact sameText_refl options _
    | param slot =>
      rw [filterMap_slot?_param, List.forall_mem_cons] at hslots
      exact Language.append_mem_mul (hslots.1.mem_languageOf_of_build hpart) (ih hslots.2 hrest)

/-- Parts can be built if the slot of each of them can. -/
theorem exists_buildAll_iff {params : Params} :
    (∃ built, buildAll params parts = .ok built) ↔
      ∀ slot ∈ parts.filterMap slot?, ∃ built, slot.build (params.get? slot.name) = .ok built := by
  induction parts with
  | nil => simp [buildAll]
  | cons part parts ih =>
    simp only [buildAll_cons_eq_ok_iff]
    cases part with
    | literal chars =>
      rw [filterMap_slot?_literal, ← ih]
      constructor
      · rintro ⟨_, _, rest, -, hrest, -⟩
        exact ⟨rest, hrest⟩
      · rintro ⟨rest, hrest⟩
        exact ⟨_, _, rest, rfl, hrest, rfl⟩
    | param slot =>
      rw [filterMap_slot?_param, List.forall_mem_cons, ← ih]
      constructor
      · rintro ⟨_, text, rest, htext, hrest, -⟩
        exact ⟨⟨text, htext⟩, rest, hrest⟩
      · rintro ⟨⟨text, htext⟩, rest, hrest⟩
        exact ⟨_, text, rest, htext, hrest, rfl⟩

end Part

/-- The token is static text or a parameter whose group is an expression on its own and has no
conditions. -/
def Token.IsFree (options : PatternOptions) : Token → Prop
  | .literal _ => True
  | .param parameter =>
    ∃ root ∈ Node.read? { ignoreCase := !options.sensitive } parameter.group.toList,
      root.isFree = true

instance (options : PatternOptions) (token : Token) : Decidable (token.IsFree options) :=
  match token with
  | .literal _ => inferInstanceAs (Decidable True)
  | .param _ => inferInstanceAs (Decidable (∃ root ∈ Node.read? _ _, root.isFree = true))

theorem Token.IsPlain.isFree {token : Token} (h : token.IsPlain options.delimiter) :
    token.IsFree options := by
  cases token with
  | literal text => trivial
  | param parameter => exact ⟨_, Param.read?_group_of_isPlain h, rfl⟩

/-- The matcher of a pattern all of whose groups are expressions on their own without conditions. -/
structure Matcher.IsFree (options : PatternOptions) (matcher : Matcher) : Prop extends
    matcher.IsRead options where
  /-- The groups have no conditions. -/
  slots_isFree : ∀ slot ∈ matcher.slots, slot.IsFree options

namespace Matcher

variable {matcher : Matcher}

theorem isFree_of_ofTokens {pattern : String} {tokens : List Token}
    (hoptions : options.validate = .ok ())
    (htokens : tokenize options.delimiter pattern = .ok tokens)
    (hmatcher : Matcher.ofTokens options tokens = .ok matcher)
    (hgroups : ∀ token ∈ tokens, token.IsFree options) : matcher.IsFree options := by
  have hexpressions : ∀ parameter, .param parameter ∈ tokens → parameter.IsExpression options := by
    intro parameter hparameter
    obtain ⟨root, hroot, -⟩ := hgroups _ hparameter
    exact Option.isSome_iff_exists.mpr ⟨root, hroot⟩
  have hread := isRead_of_ofTokens hoptions htokens hmatcher hexpressions
  refine ⟨hread, fun slot hslot ↦ ⟨hread.slots slot hslot, ?_, hread.separators slot hslot⟩⟩
  obtain ⟨hparts, -⟩ := ofTokens_eq_ok_iff.mp hmatcher
  obtain ⟨index, parameter, hparameter, hofParam⟩ := Part.exists_ofParam_of_mem hparts hslot
  obtain ⟨-, hgroup, -⟩ := Param.isRead_of_ofParam hofParam (hexpressions _ hparameter)
  obtain ⟨root, hroot, hfree⟩ := hgroups _ hparameter
  rwa [Slot.valueNode, hgroup, Option.mem_def.mp hroot]

/-- The matcher accepts the texts of its parts and what may follow them. -/
theorem IsFree.accepts_iff (h : matcher.IsFree options) {path : String} :
    matcher.accepts path = true ↔
      path.toList ∈ languageOf (matcher.parts.flatMap (Part.nodes options)) *
        languageOf (Token.tailNodes options) := by
  have hnodes : ∀ node ∈ matcher.parts.flatMap (Part.nodes options) ++ Token.tailNodes options,
      node.isFree = true := by
    refine List.forall_mem_append.mpr ⟨Part.isFree_of_mem_nodes h.slots_isFree, ?_⟩
    unfold Token.tailNodes
    split_ifs
    · exact List.forall_mem_nil _
    · exact List.forall_mem_singleton.mpr (Regex.isFree_optional _ _)
  rw [Matcher.accepts, Regex.isMatch_iff_mem_language h.root hnodes, Regex.languageOf_append]

/-- The matcher accepts what is built of values. -/
theorem IsFree.accepts_of_build (h : matcher.IsFree options) {params : Params} {path : String}
    (hbuild : matcher.build params = .ok path) : matcher.accepts path = true := by
  obtain ⟨built, hbuilt, rfl⟩ := exists_eq_ok_of_map hbuild
  have hmem := Part.mem_languageOf_of_buildAll h.slots_isFree hbuilt
  have htail : [] ∈ languageOf (Token.tailNodes options) := by
    unfold Token.tailNodes
    split_ifs
    · exact Language.nil_mem_one
    · rw [Regex.languageOf_singleton, Regex.language_optional]
      exact Or.inl Language.nil_mem_one
  rw [h.accepts_iff, String.toList_ofList, ← List.append_nil built]
  exact Language.append_mem_mul hmem htail

/-- The values of a path can be built exactly if the checks accept the elements of all lists. -/
theorem IsFree.exists_build_iff (h : matcher.IsFree options) {path : String} {params : Params}
    (hfound : matcher.params? path = some params) :
    (∃ built, matcher.build params = .ok built) ↔
      ∀ slot ∈ matcher.slots, ∀ values, params.get? slot.name = some (.list values) →
        ∀ value ∈ values, slot.check.isMatch value = true := by
  obtain ⟨hcaptured, -⟩ := h.exists_captured hfound
  have hbuild : (∃ built, matcher.build params = .ok built) ↔
      ∃ built, Part.buildAll params matcher.parts = .ok built := by
    constructor
    · rintro ⟨built, hbuilt⟩
      obtain ⟨text, htext, -⟩ := exists_eq_ok_of_map hbuilt
      exact ⟨text, htext⟩
    · rintro ⟨text, htext⟩
      exact ⟨String.ofList text, by rw [Matcher.build, htext, Except.map]⟩
  rw [hbuild, Part.exists_buildAll_iff]
  refine forall₂_congr fun slot hslot ↦ ?_
  obtain ⟨part, hpart, hget⟩ := hcaptured slot hslot
  rw [hget]
  exact hpart.exists_build_iff (h.slots_isFree slot hslot)

/-- If no value that the check of a repeating slot accepts contains its separator, the checks accept
the elements of all lists that are taken from a path. -/
theorem IsFree.forall_isMatch (h : matcher.IsFree options) {path : String} {params : Params}
    (hfound : matcher.params? path = some params)
    (hcut : ∀ slot ∈ matcher.slots, slot.isRepeating = true →
      ∀ value, slot.check.isMatch value = true → slot.separator ∉ value.toList) :
    ∀ slot ∈ matcher.slots, ∀ values, params.get? slot.name = some (.list values) →
      ∀ value ∈ values, slot.check.isMatch value = true := by
  obtain ⟨hcaptured, -⟩ := h.exists_captured hfound
  intro slot hslot values hvalues
  obtain ⟨part, hpart, hget⟩ := hcaptured slot hslot
  obtain ⟨text, rfl, hvalue⟩ := Option.map_eq_some_iff.mp (hget.symm.trans hvalues)
  unfold Slot.valueOf at hvalue
  split_ifs at hvalue with hrepeating
  obtain rfl := ParamValue.list.inj hvalue
  exact hpart.forall_isMatch (h.slots_isFree slot hslot) (hcut slot hslot hrepeating)

end Matcher

end RoutePatterns
