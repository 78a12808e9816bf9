import RoutePatterns.Proofs.Matcher.Readings
import RoutePatterns.Proofs.Regex.Captures

/-!
# The expressions of groups

The text of a group goes into two expressions: the check of a slot, which is about one value, and
the expression for whole paths. If the text is an expression on its own (`Slot.IsRead`), both have
read it as what it is on its own, `Slot.valueNode`, so that they agree about the values of the slot.
Such slots have the trees `Slot.nodes` in the expression for whole paths (`Slot.exists_yields`).

`Matcher.IsRead` collects what is known of a matcher all of whose groups are expressions on their
own, whatever the tokens are (`Matcher.isRead_of_ofTokens`).
-/

set_option autoImplicit false
set_option relaxedAutoImplicit false

namespace RoutePatterns

open Regex (Node Spells Yields groupNames)

variable {options : PatternOptions}

theorem compileRegex_eq_ok {source : List Char} {regex : Regex}
    (h : compileRegex options source = .ok regex) :
    Node.read? { ignoreCase := !options.sensitive } source = some regex.root := by
  unfold compileRegex at h
  cases hcompile : Regex.compile? (!options.sensitive) (String.ofList source) with
  | none => simp [hcompile] at h
  | some compiled =>
    obtain rfl : compiled = regex := by simpa [hcompile] using h
    obtain ⟨root, hroot, rfl⟩ := Option.map_eq_some_iff.mp hcompile
    rwa [String.toList_ofList] at hroot

/-! ### Slots -/

namespace Slot

theorem name_of_ofParam {index : ℕ} {parameter : Param} {slot : Slot}
    (h : ofParam options index parameter = .ok slot) : slot.name = parameter.name.display := by
  obtain ⟨check, -, rfl⟩ := exists_eq_ok_of_map h
  rfl

section Trees

variable (options : PatternOptions) (slot : Slot)

/-- The tree for one value of the slot: what its group is on its own. -/
def valueNode : Node :=
  (Node.read? { ignoreCase := !options.sensitive } slot.group.toList).getD .empty

/-- The trees for the values of the slot: one, or several with separators between them. -/
def valuesNodes : List Node :=
  if slot.isRepeating then
    [slot.valueNode options,
      .loop true (.ofItems [options.charNode slot.separator, slot.valueNode options])]
  else [slot.valueNode options]

/-- The trees for the lead and the values of the slot. -/
def ledNodes : List Node :=
  slot.lead.toList.map options.charNode ++
    [.capture slot.capture (.ofItems (slot.valuesNodes options))]

/-- The trees for the slot, which is absent if need be and possible. -/
def nodes : List Node :=
  if slot.isOptional then [.optional true (.ofItems (slot.ledNodes options))]
  else slot.ledNodes options

/-- The names of the groups in the expression for one value. -/
def valueNames : List String :=
  groupNames { ignoreCase := !options.sensitive } slot.group.toList

/-- The names of the groups in the expression for the slot. -/
def names : List String :=
  slot.capture :: (slot.valueNames options ++
    if slot.isRepeating then slot.valueNames options else [])

/-- The slot is one that a parameter has, and its group is an expression on its own. -/
structure IsRead : Prop where
  /-- The group is an expression on its own. -/
  group : Node.read? { ignoreCase := !options.sensitive } slot.group.toList =
    some (slot.valueNode options)
  /-- The check has been read. -/
  check : Node.read? { ignoreCase := !options.sensitive }
    (['^'] ++ grouped slot.group.toList ++ ['$']) = some slot.check.root
  /-- The capture has one of the names that captures of slots have. -/
  capture : ∃ index, slot.capture = captureName index

end Trees

variable {slot : Slot}

/-- Wherever the group of the slot stands, it was read as what it is on its own. -/
theorem IsRead.yields_value (h : slot.IsRead options) :
    Yields (!options.sensitive) true (grouped slot.group.toList) [slot.valueNode options]
      (slot.valueNames options) := by
  have hcheck := h.check
  have hsource : ['^'] ++ grouped slot.group.toList ++ ['$'] =
      '^' :: (['(', '?', ':'] ++ slot.group.toList ++ [')', '$']) := by
    simp [grouped]
  rw [hsource] at hcheck
  exact Yields.group_of_read? h.group hcheck

/-- The check is about whole values. -/
theorem IsRead.check_root (h : slot.IsRead options) :
    slot.check.root =
      .ofItems ([.look .textStart] ++ [slot.valueNode options] ++ [.look .textEnd]) := by
  have hcheck := (Spells.caret.yields.append h.yields_value).append Spells.dollar.yields
  exact (hcheck.of_read? h.check).1

theorem IsRead.exists_yields_values (h : slot.IsRead options) :
    ∃ closed, Yields (!options.sensitive) closed slot.valuesSource (slot.valuesNodes options)
      (slot.valueNames options ++ if slot.isRepeating then slot.valueNames options else []) := by
  have hvalue := h.yields_value
  unfold valuesSource valuesNodes
  by_cases hrepeating : slot.isRepeating = true
  · have hround :=
      ((spells_charNode options slot.separator).yields.append hvalue).group.star (by simp)
    rw [List.singleton_append, Param.star_eq_loop _ _ rfl] at hround
    have hvalues := hvalue.append hround
    rw [← List.append_assoc] at hvalues
    refine ⟨false, ?_⟩
    rw [if_pos hrepeating, if_pos hrepeating, if_pos hrepeating]
    exact hvalues
  · refine ⟨true, ?_⟩
    rw [if_neg hrepeating, if_neg hrepeating, if_neg hrepeating, List.append_nil]
    exact hvalue

theorem IsRead.yields_capture (h : slot.IsRead options) :
    Yields (!options.sensitive) true
      ("(?P<".toList ++ slot.capture.toList ++ ['>'] ++ slot.valuesSource ++ [')'])
      [.capture slot.capture (.ofItems (slot.valuesNodes options))] (slot.names options) := by
  obtain ⟨_, hvalues⟩ := h.exists_yields_values
  obtain ⟨index, hindex⟩ := h.capture
  have hcapture := hvalues.capture (isGroupName_captureName index)
    (bracket_notMem_captureName index)
  rwa [String.ofList_toList, ← hindex] at hcapture

/-- The expression that is written for the slot was read as its trees. -/
theorem IsRead.exists_yields (h : slot.IsRead options) :
    ∃ closed, Yields (!options.sensitive) closed slot.source (slot.nodes options)
      (slot.names options) := by
  have hcapture := h.yields_capture
  unfold source nodes ledNodes
  cases hoptional : slot.isOptional with
  | true =>
    refine ⟨false, ?_⟩
    simp only [if_true]
    cases slot.lead with
    | none =>
      rw [Option.toList_none, List.map_nil, List.nil_append, Param.ofItems_singleton]
      exact hcapture.optional (by simp)
    | some lead =>
      exact ((spells_charNode options lead).yields.append hcapture).group.optional (by simp)
  | false =>
    simp only [Bool.false_eq_true, if_false]
    cases slot.lead with
    | none => exact ⟨true, hcapture⟩
    | some lead => exact ⟨false, (spells_charNode options lead).yields.append hcapture⟩

end Slot

/-! ### Parts -/

namespace Part

variable (options : PatternOptions)

/-- The trees of a part. -/
def nodes : Part → List Node
  | .literal text => text.toList.map options.charNode
  | .param slot => slot.nodes options

/-- The names of the groups in the expression for a part. -/
def names : Part → List String
  | .literal _ => []
  | .param slot => slot.names options

variable {options}

/-- The expressions that are written for parts one after the other were read as their trees. -/
theorem exists_yields {parts : List Part}
    (hslots : ∀ slot ∈ parts.filterMap slot?, slot.IsRead options) :
    ∃ closed, Yields (!options.sensitive) closed (parts.flatMap source)
      (parts.flatMap (nodes options)) (parts.flatMap (names options)) := by
  induction parts with
  | nil => exact ⟨true, Spells.nil.yields⟩
  | cons part parts ih =>
    cases part with
    | literal text =>
      rw [filterMap_slot?_literal] at hslots
      obtain ⟨_, hrest⟩ := ih hslots
      exact ⟨false, (Spells.text text.toList).yields.append hrest⟩
    | param slot =>
      rw [filterMap_slot?_param, List.forall_mem_cons] at hslots
      obtain ⟨_, hslot⟩ := hslots.1.exists_yields
      obtain ⟨_, hrest⟩ := ih hslots.2
      exact ⟨false, hslot.append hrest⟩

/-- The slots of a matcher are those of the parameters of its tokens, made in order. -/
theorem forall₂_zipIdx_of_ofTokens {index : Nat} {tokens : List Token} {parts : List Part}
    (h : ofTokens options index tokens = .ok parts) :
    List.Forall₂ (fun parameter entry ↦ Slot.ofParam options entry.2 parameter = .ok entry.1)
      (tokens.filterMap Token.param?) ((parts.filterMap slot?).zipIdx index) := by
  induction tokens generalizing index parts with
  | nil =>
    obtain rfl := Except.ok.inj h
    exact .nil
  | cons token tokens ih =>
    cases token with
    | literal text =>
      rw [ofTokens] at h
      obtain ⟨rest, hrest, rfl⟩ := exists_eq_ok_of_map h
      rw [filterMap_slot?_prependText]
      exact ih hrest
    | param parameter =>
      rw [ofTokens] at h
      cases hslot : Slot.ofParam options index parameter with
      | error error =>
        rw [hslot] at h
        cases h
      | ok slot =>
        rw [hslot] at h
        obtain ⟨rest, hrest, rfl⟩ := exists_eq_ok_of_map h
        rw [filterMap_slot?_param]
        exact .cons hslot (ih hrest)

theorem forall₂_of_ofTokens {index : Nat} {tokens : List Token} {parts : List Part}
    (h : ofTokens options index tokens = .ok parts) :
    List.Forall₂ (fun parameter slot ↦ ∃ index, Slot.ofParam options index parameter = .ok slot)
      (tokens.filterMap Token.param?) (parts.filterMap slot?) := by
  have hslots := (forall₂_zipIdx_of_ofTokens h).imp
    fun parameter entry hentry ↦ (⟨entry.2, hentry⟩ :
      ∃ index, Slot.ofParam options index parameter = .ok entry.1)
  rw [← List.zipIdx_map_fst index (parts.filterMap slot?), List.forall₂_map_right_iff]
  exact hslots

theorem exists_ofParam_of_mem {index : Nat} {tokens : List Token} {parts : List Part}
    (h : ofTokens options index tokens = .ok parts) {slot : Slot}
    (hslot : slot ∈ parts.filterMap slot?) :
    ∃ index parameter, .param parameter ∈ tokens ∧
      Slot.ofParam options index parameter = .ok slot := by
  obtain ⟨hlength, hofParam⟩ := List.forall₂_iff_get.mp (forall₂_of_ofTokens h)
  obtain ⟨place, hplace, rfl⟩ := List.mem_iff_getElem.mp hslot
  obtain ⟨index, hindex⟩ := hofParam place (hlength ▸ hplace) hplace
  exact ⟨index, _, Token.mem_filterMap_param?_iff.mp (List.getElem_mem _), hindex⟩

theorem map_name_of_ofTokens {index : Nat} {tokens : List Token} {parts : List Part}
    (h : ofTokens options index tokens = .ok parts) :
    (parts.filterMap slot?).map (·.name) = Token.paramNames tokens := by
  have hnames : List.Forall₂ (fun parameter slot ↦ parameter.name.display = slot.name)
      (tokens.filterMap Token.param?) (parts.filterMap slot?) :=
    (forall₂_of_ofTokens h).imp fun _ _ ⟨_, hslot⟩ ↦ (Slot.name_of_ofParam hslot).symm
  rw [Token.paramNames_eq_map, ← List.forall₂_eq_eq_eq, List.forall₂_map_left_iff,
    List.forall₂_map_right_iff]
  exact hnames.flip.imp fun _ _ heq ↦ heq.symm

end Part

/-! ### Parameters -/

namespace Param

variable {parameter : Param}

/-- The group of the parameter is an expression on its own. -/
def IsExpression (options : PatternOptions) (parameter : Param) : Prop :=
  (Node.read? { ignoreCase := !options.sensitive } parameter.group.toList).isSome

theorem read?_group_of_isPlain (hplain : Token.IsPlain options.delimiter (.param parameter)) :
    Node.read? { ignoreCase := !options.sensitive } parameter.group.toList =
      some (parameter.valueNode options) := by
  rw [(spells_group hplain).read?_eq, ofItems_singleton]

/-- A slot is made of its parameter, and its group is an expression if that of the parameter is. -/
theorem isRead_of_ofParam {index : Nat} {slot : Slot}
    (hslot : Slot.ofParam options index parameter = .ok slot)
    (hgroup : parameter.IsExpression options) :
    slot.IsRead options ∧ slot.group = parameter.group ∧
      slot.separator = parameter.separator options.delimiter := by
  obtain ⟨check, hcheck, rfl⟩ := exists_eq_ok_of_map hslot
  obtain ⟨value, hvalue⟩ := Option.isSome_iff_exists.mp hgroup
  refine ⟨⟨?_, compileRegex_eq_ok hcheck, ⟨index, rfl⟩⟩, rfl, rfl⟩
  rw [Slot.valueNode, hvalue, Option.getD_some]

end Param

/-! ### Matchers -/

/-- The matcher of a pattern all of whose groups are expressions on their own. -/
structure Matcher.IsRead (options : PatternOptions) (matcher : Matcher) : Prop where
  /-- The slots are those of parameters. -/
  slots : ∀ slot ∈ matcher.slots, slot.IsRead options
  /-- The expression for whole paths has been read as the trees of the parts. -/
  root : matcher.regex.root =
    .ofItems ([.look .textStart] ++
      (matcher.parts.flatMap (Part.nodes options) ++ Token.tailNodes options) ++ [.look .textEnd])
  /-- The groups have different names. -/
  names : (matcher.parts.flatMap (Part.names options)).Nodup
  /-- The slots have different names. -/
  paramNames : matcher.paramNames.Nodup
  /-- Separators are punctuation. -/
  separators : ∀ slot ∈ matcher.slots, isAsciiPunctuation slot.separator = true

theorem Matcher.ofTokens_eq_ok_iff {tokens : List Token} {matcher : Matcher} :
    Matcher.ofTokens options tokens = .ok matcher ↔
      Part.ofTokens options 0 tokens = .ok matcher.parts ∧
        compileRegex options (sourceOf options matcher.parts) = .ok matcher.regex := by
  unfold Matcher.ofTokens
  cases Part.ofTokens options 0 tokens with
  | error error => simp
  | ok parts =>
    constructor
    · intro h
      obtain ⟨regex, hregex, rfl⟩ := exists_eq_ok_of_map h
      exact ⟨rfl, hregex⟩
    · rintro ⟨hparts, hregex⟩
      obtain rfl := Except.ok.inj hparts
      simp [hregex, Except.map]

/-- If the groups of a pattern are expressions on their own, its matcher has been read as the trees
of its parts. -/
theorem Matcher.isRead_of_ofTokens {pattern : String} {tokens : List Token} {matcher : Matcher}
    (hoptions : options.validate = .ok ())
    (htokens : tokenize options.delimiter pattern = .ok tokens)
    (hmatcher : Matcher.ofTokens options tokens = .ok matcher)
    (hgroups : ∀ parameter, .param parameter ∈ tokens → parameter.IsExpression options) :
    matcher.IsRead options := by
  obtain ⟨hparts, hregex⟩ := Matcher.ofTokens_eq_ok_iff.mp hmatcher
  have hslots : ∀ slot ∈ matcher.slots, slot.IsRead options ∧
      isAsciiPunctuation slot.separator = true := by
    intro slot hslot
    obtain ⟨index, parameter, hparameter, hofParam⟩ := Part.exists_ofParam_of_mem hparts hslot
    obtain ⟨hread, -, hseparator⟩ := Param.isRead_of_ofParam hofParam (hgroups _ hparameter)
    refine ⟨hread, ?_⟩
    rw [hseparator]
    exact Param.isPunctuated_of_lead (validate_eq_ok_iff.mp hoptions)
      (lead_of_mem_tokenize htokens hparameter) _
      (Param.separator_mem_excluded options.delimiter parameter)
  obtain ⟨_, hyields⟩ := Part.exists_yields fun slot hslot ↦ (hslots slot hslot).1
  obtain ⟨_, htail⟩ := Token.exists_spells_tail options
  have hwhole := (Spells.caret.yields.append (hyields.append htail.yields)).append
    Spells.dollar.yields
  rw [← List.append_assoc] at hwhole
  obtain ⟨hroot, hnames⟩ := hwhole.of_read? (compileRegex_eq_ok hregex)
  refine ⟨fun slot hslot ↦ (hslots slot hslot).1, hroot, ?_, ?_,
    fun slot hslot ↦ (hslots slot hslot).2⟩
  · simpa using hnames
  · rw [Matcher.paramNames, Matcher.slots, Part.map_name_of_ofTokens hparts]
    exact nodup_paramNames_of_tokenize htokens

end RoutePatterns
