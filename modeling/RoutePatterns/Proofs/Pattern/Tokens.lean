import Mathlib.Data.List.Nodup
import RoutePatterns.Pattern.Tokenize

/-!
# What tokenizing gives

`tokenize_eq_ok_iff` says when a pattern has tokens and which: it is spelled right, its parameters
have different names and its unnamed groups stand alone in their segments. A lead is the delimiter
or a full stop whatever the pattern is (`lead_of_mem_tokenize`).

A token is plain (`Token.IsPlain`) unless it is a parameter with a group of its own. A pattern that
is written without groups has plain tokens only (`isPlain_of_mem_tokenize`).
-/

set_option autoImplicit false
set_option relaxedAutoImplicit false

namespace RoutePatterns

/-! ### Names -/

namespace Token

@[simp]
theorem paramNames_param (parameter : Param) (tokens : List Token) :
    paramNames (.param parameter :: tokens) = parameter.name.display :: paramNames tokens :=
  rfl

theorem mem_filterMap_param?_iff {tokens : List Token} {parameter : Param} :
    parameter ∈ tokens.filterMap param? ↔ .param parameter ∈ tokens := by
  rw [List.mem_filterMap]
  constructor
  · rintro ⟨token, htoken, hparam⟩
    cases token with
    | literal text => cases hparam
    | param other => rwa [← Option.some.inj hparam]
  · exact fun hmem ↦ ⟨_, hmem, rfl⟩

theorem paramNames_eq_map (tokens : List Token) :
    paramNames tokens = (tokens.filterMap param?).map fun parameter ↦ parameter.name.display :=
  List.map_filterMap.symm

theorem mem_paramNames_iff {tokens : List Token} {name : String} :
    name ∈ paramNames tokens ↔
      ∃ parameter, .param parameter ∈ tokens ∧ parameter.name.display = name := by
  simp only [paramNames_eq_map, List.mem_map, mem_filterMap_param?_iff]

/-- Parameters of different names are told by their names. -/
theorem eq_of_display_eq {tokens : List Token} (hnodup : (paramNames tokens).Nodup)
    {parameter other : Param} (hparameter : .param parameter ∈ tokens)
    (hother : .param other ∈ tokens) (hname : parameter.name.display = other.name.display) :
    parameter = other := by
  rw [paramNames_eq_map] at hnodup
  exact List.inj_on_of_nodup_map hnodup (mem_filterMap_param?_iff.mpr hparameter)
    (mem_filterMap_param?_iff.mpr hother) hname

end Token

/-- No name is reported as repeated exactly if the names differ from each other and from those
seen. -/
theorem firstRepeated?_eq_none_iff {seen names : List String} :
    firstRepeated? seen names = none ↔ names.Nodup ∧ ∀ name ∈ names, name ∉ seen := by
  induction names generalizing seen with
  | nil => simp [firstRepeated?]
  | cons name names ih =>
    rw [firstRepeated?]
    by_cases hseen : name ∈ seen
    · simp [hseen]
    · have hcontains : seen.contains name = false := by simpa using hseen
      rw [hcontains, if_neg Bool.false_ne_true, ih, List.nodup_cons]
      constructor
      · rintro ⟨hnodup, hfresh⟩
        refine ⟨⟨fun hmem ↦ hfresh name hmem List.mem_cons_self, hnodup⟩, ?_⟩
        intro other hother
        rcases List.mem_cons.mp hother with rfl | hother
        · exact hseen
        · exact fun hmem ↦ hfresh other hother (List.mem_cons_of_mem _ hmem)
      · rintro ⟨⟨hname, hnodup⟩, hfresh⟩
        refine ⟨hnodup, fun other hother hmem ↦ ?_⟩
        rcases List.mem_cons.mp hmem with rfl | hmem
        · exact hname hother
        · exact hfresh other (List.mem_cons_of_mem _ hother) hmem

theorem firstRepeated?_nil_eq_none_iff {names : List String} :
    firstRepeated? [] names = none ↔ names.Nodup := by
  simp [firstRepeated?_eq_none_iff]

theorem checkTokens_eq_ok_iff {pattern : String} {delimiter : Char} {tokens : List Token} :
    checkTokens pattern delimiter tokens = .ok () ↔
      (Token.paramNames tokens).Nodup ∧ firstCrowded? (segments delimiter tokens) = none := by
  rw [← firstRepeated?_nil_eq_none_iff, checkTokens]
  cases firstRepeated? [] (Token.paramNames tokens) with
  | some name => simp
  | none => cases firstCrowded? (segments delimiter tokens) <;> simp

/-- The tokens of a pattern are those of its items, if no check refuses them. -/
theorem tokenize_eq_ok_iff {delimiter : Char} {pattern : String} {tokens : List Token} :
    tokenize delimiter pattern = .ok tokens ↔
      ∃ items, Item.scan pattern = .ok items ∧ tokens = Token.ofItems delimiter items ∧
        (Token.paramNames tokens).Nodup ∧ firstCrowded? (segments delimiter tokens) = none := by
  unfold tokenize
  cases hscan : Item.scan pattern with
  | error fault => simp
  | ok items =>
    have hcheck := @checkTokens_eq_ok_iff pattern delimiter (Token.ofItems delimiter items)
    simp only [Except.ok.injEq, exists_eq_left']
    constructor
    · intro h
      cases hok : checkTokens pattern delimiter (Token.ofItems delimiter items) with
      | error error => rw [hok] at h; cases h
      | ok done =>
        rw [hok] at h
        cases h
        exact ⟨rfl, hcheck.mp hok⟩
    · rintro ⟨rfl, hnames, hcrowded⟩
      rw [hcheck.mpr ⟨hnames, hcrowded⟩]
      rfl

theorem nodup_paramNames_of_tokenize {delimiter : Char} {pattern : String} {tokens : List Token}
    (h : tokenize delimiter pattern = .ok tokens) : (Token.paramNames tokens).Nodup := by
  obtain ⟨_, -, -, hnames, -⟩ := tokenize_eq_ok_iff.mp h
  exact hnames

/-! ### Parameters and the items they come from -/

namespace Token

theorem takeLead_lead (delimiter : Char) (run : List (Char × Bool)) :
    ∀ char ∈ (takeLead delimiter run).1, char = delimiter ∨ char = extensionMark := by
  intro char hchar
  cases run with
  | nil => cases hchar
  | cons last run =>
    obtain ⟨last, escaped⟩ := last
    rw [takeLead] at hchar
    by_cases hlead : (!escaped && (last == delimiter || last == extensionMark)) = true
    · rw [if_pos hlead] at hchar
      obtain rfl := Option.some.inj hchar
      simp only [Bool.and_eq_true, Bool.or_eq_true, beq_iff_eq] at hlead
      exact hlead.2
    · rw [if_neg hlead] at hchar
      cases hchar

theorem not_param_mem_ofRun {delimiter : Char} {run : List (Char × Bool)} {parameter : Param} :
    .param parameter ∉ ofRun delimiter run := by
  simp [ofRun]

/-- A parameter among the tokens comes from an item with its group and modifier. -/
theorem exists_item_of_param_mem {delimiter : Char} {unnamed : Nat} {run : List (Char × Bool)}
    {items : List Item} {parameter : Param}
    (h : .param parameter ∈ ofItemsFrom delimiter unnamed run items) :
    (∀ char ∈ parameter.lead, char = delimiter ∨ char = extensionMark) ∧
      ∃ name group modifier, .param name group modifier ∈ items ∧
        parameter.group = group.getD (Param.defaultGroup parameter.lead delimiter) ∧
        parameter.quantifier = modifier.getD .one := by
  induction items generalizing unnamed run with
  | nil => exact absurd h not_param_mem_ofRun
  | cons item items ih =>
    cases item with
    | literal char escaped =>
      obtain ⟨hlead, name, group, modifier, hmem, hgroup⟩ := ih h
      exact ⟨hlead, name, group, modifier, List.mem_cons_of_mem _ hmem, hgroup⟩
    | param name group modifier =>
      rcases List.mem_append.mp h with hrun | hrest
      · exact absurd hrun not_param_mem_ofRun
      · rcases List.mem_cons.mp hrest with hself | hrest
        · cases hself
          exact ⟨takeLead_lead delimiter run, name, group, modifier, List.mem_cons_self, rfl, rfl⟩
        · obtain ⟨hlead, name, group, modifier, hmem, hgroup⟩ := ih hrest
          exact ⟨hlead, name, group, modifier, List.mem_cons_of_mem _ hmem, hgroup⟩

end Token

/-- A lead is the delimiter or a full stop. -/
theorem lead_of_mem_tokenize {delimiter : Char} {pattern : String} {tokens : List Token}
    (h : tokenize delimiter pattern = .ok tokens) {parameter : Param}
    (hmem : .param parameter ∈ tokens) :
    ∀ char ∈ parameter.lead, char = delimiter ∨ char = Token.extensionMark := by
  obtain ⟨items, -, rfl, -⟩ := tokenize_eq_ok_iff.mp h
  exact (Token.exists_item_of_param_mem hmem).1

/-! ### Plain tokens -/

/-- The group that an item is written with. -/
def Item.group? : Item → Option String
  | .literal _ _ => none
  | .param _ group _ => group

/-- The token is static text or a parameter with the default group. -/
def Token.IsPlain (delimiter : Char) : Token → Prop
  | .literal _ => True
  | .param parameter => parameter.group = Param.defaultGroup parameter.lead delimiter

instance (delimiter : Char) (token : Token) : Decidable (token.IsPlain delimiter) :=
  match token with
  | .literal _ => inferInstanceAs (Decidable True)
  | .param parameter =>
    inferInstanceAs (Decidable (parameter.group = Param.defaultGroup parameter.lead delimiter))

/-- A pattern that is written without groups has plain tokens. -/
theorem isPlain_of_mem_tokenize {delimiter : Char} {pattern : String} {items : List Item}
    {tokens : List Token} (hscan : Item.scan pattern = .ok items)
    (hitems : ∀ item ∈ items, item.group? = none) (h : tokenize delimiter pattern = .ok tokens) :
    ∀ token ∈ tokens, token.IsPlain delimiter := by
  intro token htoken
  cases token with
  | literal text => trivial
  | param parameter =>
    obtain ⟨items', hscan', rfl, -⟩ := tokenize_eq_ok_iff.mp h
    obtain rfl := Except.ok.inj (hscan.symm.trans hscan')
    obtain ⟨-, name, group, modifier, hmem, hgroup, -⟩ := Token.exists_item_of_param_mem htoken
    have hnone : group = none := hitems _ hmem
    rw [hnone] at hgroup
    exact hgroup

end RoutePatterns
