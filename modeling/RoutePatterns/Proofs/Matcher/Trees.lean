import RoutePatterns.Proofs.Matcher.Parts
import RoutePatterns.Proofs.Pattern.Tokens
import RoutePatterns.Proofs.Regex.Spelling

/-!
# The expressions of plain tokens

A matcher is a regular expression that is written down and read again. For plain tokens the
expression is known: `Token.nodesFrom` gives its items and `Token.slotsFrom` the slots, whatever the
static text and the options are. `ofTokens_of_isPlain` says that plain tokens have a matcher and
that it is the one with these items between the two ends of the path.
-/

set_option autoImplicit false
set_option relaxedAutoImplicit false

namespace RoutePatterns

open Regex (Node Spells CharSet)

/-! ### Names of captures -/

/-- The name of the capture of the parameter that follows `index` others. -/
def captureName (index : Nat) : String :=
  s!"__p{index}"

theorem toList_captureName (index : Nat) :
    (captureName index).toList = ['_', '_', 'p'] ++ Nat.toDigits 10 index := by
  simp [captureName, toString, Nat.toList_repr]

theorem captureName_injective {first second : Nat} (h : captureName first = captureName second) :
    first = second := by
  have hlist := congrArg String.toList h
  rw [toList_captureName, toList_captureName] at hlist
  have hdigits := List.append_cancel_left hlist
  rw [← Nat.ofDigitChars_ten_toDigits (n := first), hdigits, Nat.ofDigitChars_ten_toDigits]

private theorem isNameRest_ofNat :
    ∀ code < 58, 48 ≤ code → Regex.isNameRest (Char.ofNat code) = true := by
  decide +kernel

theorem isNameRest_of_isDigit {char : Char} (h : char.isDigit = true) :
    Regex.isNameRest char = true := by
  have hbounds : 48 ≤ char.toNat ∧ char.toNat ≤ 57 := by
    simp only [Char.isDigit, Bool.and_eq_true, decide_eq_true_eq] at h
    exact ⟨h.1, h.2⟩
  rw [← Char.ofNat_toNat char]
  exact isNameRest_ofNat _ (Nat.lt_succ_of_le hbounds.2) hbounds.1

theorem isGroupName_captureName (index : Nat) :
    Regex.isGroupName (captureName index).toList = true := by
  have hdigits : (Nat.toDigits 10 index).all Regex.isNameRest = true := by
    refine List.all_eq_true.mpr fun char hchar ↦ isNameRest_of_isDigit ?_
    exact Nat.isDigit_of_mem_toDigits (by decide) (by decide) hchar
  rw [toList_captureName]
  simp [Regex.isGroupName, Regex.isNameStart, Regex.isNameRest, hdigits, Regex.isNameLetter]

theorem bracket_notMem_captureName (index : Nat) : '>' ∉ (captureName index).toList := by
  rw [toList_captureName]
  simp only [List.mem_append, List.mem_cons, List.not_mem_nil, or_false, not_or]
  refine ⟨by decide, fun hmem ↦ ?_⟩
  exact absurd (Nat.isDigit_of_mem_toDigits (by decide) (by decide) hmem) (by decide)

/-! ### Values and slots -/

/-- The tree for one character. -/
def PatternOptions.charNode (options : PatternOptions) (char : Char) : Node :=
  .one (Regex.Flags.single { ignoreCase := !options.sensitive } char)

theorem compileRegex_of_read? {options : PatternOptions} {source : List Char} {root : Node}
    (h : Node.read? { ignoreCase := !options.sensitive } source = some root) :
    compileRegex options source = .ok ⟨String.ofList source, root⟩ := by
  have hcompile : Regex.compile? (!options.sensitive) (String.ofList source) =
      some ⟨String.ofList source, root⟩ := by
    rw [Regex.compile?, String.toList_ofList, h, Option.map_some]
  simp only [compileRegex, hcompile]

theorem spells_charNode (options : PatternOptions) (char : Char) :
    Spells (!options.sensitive) true (Regex.escapeChar char) [options.charNode char] [] :=
  .char char

namespace Param

/-- The characters that are in no value of a plain parameter. -/
def excluded (delimiter : Char) (parameter : Param) : List Char :=
  parameter.lead.toList.filter (· ≠ delimiter) ++ [delimiter]

theorem mem_excluded_iff {delimiter char : Char} {parameter : Param} :
    char ∈ parameter.excluded delimiter ↔ char = delimiter ∨ char ∈ parameter.lead := by
  simp only [excluded, List.mem_append, List.mem_filter, Option.mem_toList, List.mem_singleton,
    decide_eq_true_eq]
  by_cases hchar : char = delimiter <;> simp [hchar]

/-- The default group is the class of the characters that are not excluded, repeated lazily. -/
theorem toList_defaultGroup (delimiter : Char) (parameter : Param) :
    (defaultGroup parameter.lead delimiter).toList =
      '[' :: '^' :: (Regex.escape (parameter.excluded delimiter) ++ [']']) ++ ['+', '?'] := by
  unfold defaultGroup excluded
  cases parameter.lead with
  | none => simp [Regex.escape]
  | some lead => by_cases hlead : lead = delimiter <;> simp [Regex.escape, hlead]

variable (options : PatternOptions) (index : Nat) (parameter : Param)

/-- The tree for one value of a plain parameter. -/
def valueNode : Node :=
  .plus false (.one (.noneOf (!options.sensitive) (parameter.excluded options.delimiter)))

/-- The trees for the values of a plain parameter: one, or several with separators between them. -/
def valuesNodes : List Node :=
  if parameter.isRepeating then
    [parameter.valueNode options,
      .loop true (.ofItems [options.charNode (parameter.separator options.delimiter),
        parameter.valueNode options])]
  else [parameter.valueNode options]

/-- The tree that records the values of the parameter. -/
def captureNode : Node :=
  .capture (captureName index) (.ofItems (parameter.valuesNodes options))

/-- The trees for the lead and the values of the parameter. -/
def ledNodes : List Node :=
  parameter.lead.toList.map options.charNode ++ [parameter.captureNode options index]

/-- The trees for the parameter, which is absent if need be and possible. -/
def slotNodes : List Node :=
  if parameter.isOptional then
    [.optional true (.ofItems (parameter.ledNodes options index))]
  else parameter.ledNodes options index

/-- The slot of a plain parameter. -/
def plainSlot : Slot where
  name := parameter.name.display
  capture := captureName index
  lead := parameter.lead
  separator := parameter.separator options.delimiter
  isOptional := parameter.isOptional
  isRepeating := parameter.isRepeating
  group := parameter.group
  check :=
    { source := String.ofList (['^'] ++ Slot.grouped parameter.group.toList ++ ['$'])
      root := .ofItems [.look .textStart, parameter.valueNode options, .look .textEnd] }

@[simp]
theorem plainSlot_lead : (parameter.plainSlot options index).lead = parameter.lead :=
  rfl

@[simp]
theorem plainSlot_isOptional :
    (parameter.plainSlot options index).isOptional = parameter.isOptional :=
  rfl

@[simp]
theorem plainSlot_isRepeating :
    (parameter.plainSlot options index).isRepeating = parameter.isRepeating :=
  rfl

variable {options index parameter}

theorem ofItems_singleton (node : Node) : Node.ofItems [node] = node := by
  rw [Node.ofItems]

theorem spells_group (hplain : Token.IsPlain options.delimiter (.param parameter)) :
    Spells (!options.sensitive) true parameter.group.toList [parameter.valueNode options] [] := by
  have hclass : parameter.excluded options.delimiter ≠ [] := by simp [excluded]
  have hspells := (@Spells.noneOf (!options.sensitive) _ hclass).lazyPlus (by simp)
  rw [← toList_defaultGroup, ← hplain] at hspells
  exact hspells

theorem spells_value (hplain : Token.IsPlain options.delimiter (.param parameter)) :
    Spells (!options.sensitive) true (Slot.grouped parameter.group.toList)
      [parameter.valueNode options] [] := by
  have hspells := (spells_group hplain).group
  rwa [ofItems_singleton] at hspells

theorem star_eq_loop (first second : Node) (hfirst : first.isNullable = false) :
    Node.star true (.ofItems [first, second]) = .loop true (.ofItems [first, second]) := by
  have hitems : Node.ofItems [first, second] = .seq first second := by
    simp [Node.ofItems]
  rw [hitems, Node.star, if_neg (by simp [Node.isNullable, hfirst])]

theorem exists_spells_values (hplain : Token.IsPlain options.delimiter (.param parameter)) :
    ∃ closed, Spells (!options.sensitive) closed (parameter.plainSlot options index).valuesSource
      (parameter.valuesNodes options) [] := by
  have hvalue := spells_value hplain
  unfold Slot.valuesSource valuesNodes
  rw [plainSlot_isRepeating]
  by_cases hrepeating : parameter.isRepeating = true
  · have hround := ((spells_charNode options (parameter.separator options.delimiter)).append hvalue
      (by simp)).group.star (by simp)
    rw [List.singleton_append, star_eq_loop _ _ rfl] at hround
    have hspells := hvalue.append hround (by simp)
    rw [← List.append_assoc] at hspells
    refine ⟨false, ?_⟩
    rw [if_pos hrepeating, if_pos hrepeating]
    exact hspells
  · refine ⟨true, ?_⟩
    rw [if_neg hrepeating, if_neg hrepeating]
    exact hvalue

theorem spells_capture (hplain : Token.IsPlain options.delimiter (.param parameter)) :
    Spells (!options.sensitive) true
      ("(?P<".toList ++ (captureName index).toList ++ ['>'] ++
        (parameter.plainSlot options index).valuesSource ++ [')'])
      [parameter.captureNode options index] [captureName index] := by
  obtain ⟨_, hvalues⟩ := @exists_spells_values options index parameter hplain
  have hcapture := hvalues.capture (isGroupName_captureName index)
    (bracket_notMem_captureName index) (by simp)
  rwa [String.ofList_toList] at hcapture

/-- The expression that is written for a plain slot is read as its tree. -/
theorem exists_spells_slot (hplain : Token.IsPlain options.delimiter (.param parameter)) :
    ∃ closed, Spells (!options.sensitive) closed (parameter.plainSlot options index).source
      (parameter.slotNodes options index) [captureName index] := by
  have hcapture := @spells_capture options index parameter hplain
  unfold Slot.source slotNodes ledNodes
  rw [plainSlot_lead, plainSlot_isOptional]
  cases hoptional : parameter.isOptional with
  | true =>
    refine ⟨false, ?_⟩
    simp only [if_true]
    cases parameter.lead with
    | none =>
      rw [Option.toList_none, List.map_nil, List.nil_append, ofItems_singleton]
      exact hcapture.optional (by simp)
    | some lead =>
      exact ((spells_charNode options lead).append hcapture (by simp)).group.optional (by simp)
  | false =>
    simp only [Bool.false_eq_true, if_false]
    cases parameter.lead with
    | none => exact ⟨true, hcapture⟩
    | some lead => exact ⟨false, (spells_charNode options lead).append hcapture (by simp)⟩

theorem compileRegex_of_spells {closed : Bool} {source : List Char} {nodes : List Node}
    {names : List String} (h : Spells (!options.sensitive) closed source nodes names) :
    compileRegex options source = .ok ⟨String.ofList source, .ofItems nodes⟩ :=
  compileRegex_of_read? h.read?_eq

theorem ofParam_of_isPlain (hplain : Token.IsPlain options.delimiter (.param parameter)) :
    Slot.ofParam options index parameter = .ok (parameter.plainSlot options index) := by
  have hcheck := (Spells.caret.append (spells_value hplain) (by simp)).append Spells.dollar
    (by simp)
  rw [Slot.ofParam, compileRegex_of_spells hcheck]
  rfl

end Param

/-! ### Tokens -/

namespace Token

variable (options : PatternOptions)

/-- The parts of plain tokens that follow `index` parameters, one for each token. -/
def partsFrom (index : Nat) : List Token → List Part
  | [] => []
  | .literal text :: tokens => .literal text :: partsFrom index tokens
  | .param parameter :: tokens =>
    .param (parameter.plainSlot options index) :: partsFrom (index + 1) tokens

/-- The slots of plain tokens that follow `index` parameters. -/
def slotsFrom (index : Nat) : List Token → List Slot
  | [] => []
  | .literal _ :: tokens => slotsFrom index tokens
  | .param parameter :: tokens => parameter.plainSlot options index :: slotsFrom (index + 1) tokens

/-- The trees of plain tokens that follow `index` parameters. -/
def nodesFrom (index : Nat) : List Token → List Node
  | [] => []
  | .literal text :: tokens => text.toList.map options.charNode ++ nodesFrom index tokens
  | .param parameter :: tokens =>
    parameter.slotNodes options index ++ nodesFrom (index + 1) tokens

/-- The trees for what may follow the last token. -/
def tailNodes : List Node :=
  if options.strict then [] else [.optional true (options.charNode options.delimiter)]

variable {options}

theorem filterMap_slot?_partsFrom (index : Nat) (tokens : List Token) :
    (partsFrom options index tokens).filterMap Part.slot? = slotsFrom options index tokens := by
  induction tokens generalizing index with
  | nil => rfl
  | cons token tokens ih =>
    cases token with
    | literal text => rw [partsFrom, Part.filterMap_slot?_literal, ih, slotsFrom]
    | param parameter => rw [partsFrom, Part.filterMap_slot?_param, ih, slotsFrom]

theorem exists_of_mem_slotsFrom {index : Nat} {tokens : List Token} {slot : Slot}
    (h : slot ∈ slotsFrom options index tokens) :
    ∃ place ≥ index, slot.capture = captureName place := by
  induction tokens generalizing index with
  | nil => cases h
  | cons token tokens ih =>
    cases token with
    | literal text => exact ih h
    | param parameter =>
      rcases List.mem_cons.mp h with rfl | h
      · exact ⟨index, Nat.le_refl _, rfl⟩
      · obtain ⟨place, hplace, hcapture⟩ := ih h
        exact ⟨place, Nat.le_of_succ_le hplace, hcapture⟩

theorem captureName_notMem (index : Nat) (tokens : List Token) :
    captureName index ∉ (slotsFrom options (index + 1) tokens).map (·.capture) := by
  intro hmem
  obtain ⟨slot, hslot, hcapture⟩ := List.mem_map.mp hmem
  obtain ⟨place, hplace, hname⟩ := exists_of_mem_slotsFrom hslot
  have := captureName_injective (hname.symm.trans hcapture)
  omega

theorem nodup_captures (index : Nat) (tokens : List Token) :
    ((slotsFrom options index tokens).map (·.capture)).Nodup := by
  induction tokens generalizing index with
  | nil => exact List.nodup_nil
  | cons token tokens ih =>
    cases token with
    | literal text => exact ih index
    | param parameter => exact List.nodup_cons.mpr ⟨captureName_notMem index tokens, ih (index + 1)⟩

theorem eachOf_of_isPlain {index : Nat} {tokens : List Token}
    (hplain : ∀ token ∈ tokens, token.IsPlain options.delimiter) :
    Part.eachOf options index tokens = .ok (partsFrom options index tokens) := by
  induction tokens generalizing index with
  | nil => rfl
  | cons token tokens ih =>
    obtain ⟨htoken, htokens⟩ := List.forall_mem_cons.mp hplain
    cases token with
    | literal text =>
      rw [Part.eachOf, ih htokens]
      rfl
    | param parameter =>
      rw [Part.eachOf, Param.ofParam_of_isPlain htoken, ih htokens]
      rfl

theorem exists_spells_parts {index : Nat} {tokens : List Token}
    (hplain : ∀ token ∈ tokens, token.IsPlain options.delimiter) :
    ∃ closed, Spells (!options.sensitive) closed
      ((partsFrom options index tokens).flatMap Part.source) (nodesFrom options index tokens)
      ((slotsFrom options index tokens).map (·.capture)) := by
  induction tokens generalizing index with
  | nil => exact ⟨true, .nil⟩
  | cons token tokens ih =>
    obtain ⟨htoken, htokens⟩ := List.forall_mem_cons.mp hplain
    cases token with
    | literal text =>
      obtain ⟨_, hrest⟩ := @ih index htokens
      exact ⟨false, (Spells.text text.toList).append hrest (by simp)⟩
    | param parameter =>
      obtain ⟨_, hslot⟩ := @Param.exists_spells_slot options index parameter htoken
      obtain ⟨_, hrest⟩ := @ih (index + 1) htokens
      refine ⟨false, hslot.append hrest ?_⟩
      rw [List.singleton_disjoint]
      exact captureName_notMem index tokens

/-- The trees of plain tokens and their tail between the two ends of a path. -/
def wholeNodes (options : PatternOptions) (tokens : List Token) : List Node :=
  [.look .textStart] ++ (nodesFrom options 0 tokens ++ tailNodes options) ++ [.look .textEnd]

theorem exists_spells_tail (options : PatternOptions) :
    ∃ closed, Spells (!options.sensitive) closed
      (if options.strict then [] else Slot.grouped (Regex.escapeChar options.delimiter) ++ ['?'])
      (tailNodes options) [] := by
  unfold tailNodes
  cases options.strict with
  | true => exact ⟨true, .nil⟩
  | false =>
    have hdelimiter := (spells_charNode options options.delimiter).group
    rw [Param.ofItems_singleton] at hdelimiter
    exact ⟨false, hdelimiter.optional (by simp)⟩

/-- The expression that is written for plain tokens is read as their trees. -/
theorem exists_spells_sourceOf {tokens : List Token}
    (hplain : ∀ token ∈ tokens, token.IsPlain options.delimiter) :
    ∃ names, Spells (!options.sensitive) false
      (Matcher.sourceOf options (Part.glue (partsFrom options 0 tokens)))
      (wholeNodes options tokens) names := by
  obtain ⟨_, hparts⟩ := @exists_spells_parts options 0 tokens hplain
  obtain ⟨_, htail⟩ := exists_spells_tail options
  have hwhole := (Spells.caret.append (hparts.append htail (by simp)) (by simp)).append
    Spells.dollar (by simp)
  rw [← List.append_assoc] at hwhole
  rw [Matcher.sourceOf, Part.flatMap_source_glue]
  exact ⟨_, hwhole⟩

end Token

/-- Plain tokens have a matcher, whose tree, slots and built paths are those of the tokens. -/
theorem Matcher.ofTokens_of_isPlain {options : PatternOptions} {tokens : List Token}
    (hplain : ∀ token ∈ tokens, token.IsPlain options.delimiter) :
    ∃ matcher, Matcher.ofTokens options tokens = .ok matcher ∧
      matcher.regex.root = .ofItems (Token.wholeNodes options tokens) ∧
      matcher.slots = Token.slotsFrom options 0 tokens ∧
      ∀ params, matcher.build params =
        (Part.buildAll params (Token.partsFrom options 0 tokens)).map String.ofList := by
  let parts := Part.glue (Token.partsFrom options 0 tokens)
  have hparts : Part.ofTokens options 0 tokens = .ok parts := by
    rw [Part.ofTokens_eq_map_glue, Token.eachOf_of_isPlain hplain]
    rfl
  obtain ⟨_, hspells⟩ := Token.exists_spells_sourceOf hplain
  have hmatcher : Matcher.ofTokens options tokens =
      .ok ⟨⟨String.ofList (Matcher.sourceOf options parts),
        .ofItems (Token.wholeNodes options tokens)⟩, parts⟩ := by
    simp only [Matcher.ofTokens, hparts, Param.compileRegex_of_spells hspells, parts]
    rfl
  refine ⟨_, hmatcher, rfl, ?_, fun params ↦ ?_⟩
  · rw [Matcher.slots, Part.filterMap_slot?_glue, Token.filterMap_slot?_partsFrom]
  · rw [Matcher.build, Part.buildAll_glue]

end RoutePatterns
