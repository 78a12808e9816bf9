import RoutePatterns.Proofs.Route.Groups

/-!
# The values that a path gives

Whatever the groups of a pattern are, as long as each is an expression on its own, the values that
its route takes from a path have the shape that their parameters ask for (`Token.HaveTaken`): only
parameters have values, those that are not optional have one, and a list is not empty and has no
separators left in it. What is then missing for building a path is at most that a check refuses one
of the values (`Route.haveTaken_of_params?`).
-/

set_option autoImplicit false
set_option relaxedAutoImplicit false

namespace RoutePatterns

open Text

variable {options : PatternOptions}

/-! ### The shape of values -/

/-- A value of the kind that a path gives to a parameter: if the parameter repeats, a list that is
not empty and has the separator in none of its values, else a single value. -/
def Param.Admits (delimiter : Char) (parameter : Param) : ParamValue → Prop
  | .single _ => parameter.isRepeating = false
  | .list values => parameter.isRepeating = true ∧ values ≠ [] ∧
      ∀ value ∈ values, parameter.separator delimiter ∉ value.toList

/-- The values are those that a path gives to the parameters among the tokens. -/
structure Token.HaveTaken (delimiter : Char) (tokens : List Token) (params : Params) : Prop where
  /-- Only parameters have values. -/
  names : ∀ name, (params.get? name).isSome = true → name ∈ paramNames tokens
  /-- A parameter that is not optional has a value. -/
  required : ∀ parameter, .param parameter ∈ tokens → parameter.isOptional = false →
    (params.get? parameter.name.display).isSome = true
  /-- A parameter has a value of its kind. -/
  admitted : ∀ parameter, .param parameter ∈ tokens →
    ∀ value ∈ params.get? parameter.name.display, parameter.Admits delimiter value

/-! ### What slots make of captured text -/

/-- The value that a slot makes of any text is of the kind of its parameter. -/
theorem Slot.admits_valueOf {index : ℕ} {parameter : Param} {slot : Slot}
    (hslot : Slot.ofParam options index parameter = .ok slot) (text : List Char) :
    parameter.Admits options.delimiter (slot.valueOf text) := by
  obtain ⟨check, -, rfl⟩ := exists_eq_ok_of_map hslot
  rw [valueOf]
  by_cases hrepeating : parameter.isRepeating = true
  · rw [if_pos hrepeating]
    refine ⟨hrepeating, by simpa using fields_ne_nil _ text, fun value hvalue ↦ ?_⟩
    obtain ⟨field, hfield, rfl⟩ := List.mem_map.mp hvalue
    rw [String.toList_ofList]
    exact mark_notMem_of_mem_fields hfield
  · rw [if_neg hrepeating]
    exact Bool.eq_false_of_not_eq_true hrepeating

theorem Slot.Captured.isSome {slot : Slot} {text : List Char} {part : Option (List Char)}
    (h : slot.Captured options text part) (hrequired : slot.isOptional = false) :
    part.isSome = true := by
  cases h with
  | absent hoptional =>
    rw [hrequired] at hoptional
    cases hoptional
  | present _ => rfl

/-- Every parameter among the tokens has a slot. -/
theorem Matcher.exists_slot_of_mem {tokens : List Token} {matcher : Matcher}
    (hmatcher : Matcher.ofTokens options tokens = .ok matcher) {parameter : Param}
    (hparameter : .param parameter ∈ tokens) :
    ∃ slot ∈ matcher.slots, ∃ index, Slot.ofParam options index parameter = .ok slot := by
  obtain ⟨hparts, -⟩ := ofTokens_eq_ok_iff.mp hmatcher
  obtain ⟨hlength, hofParam⟩ := List.forall₂_iff_get.mp (Part.forall₂_of_ofTokens hparts)
  obtain ⟨place, hplace, rfl⟩ :=
    List.mem_iff_getElem.mp (Token.mem_filterMap_param?_iff.mpr hparameter)
  obtain ⟨index, hindex⟩ := hofParam place hplace (hlength ▸ hplace)
  exact ⟨_, List.get_mem _ _, index, hindex⟩

/-- The values of a path have the shape that the parameters ask for. -/
theorem Matcher.IsRead.haveTaken {tokens : List Token} {matcher : Matcher}
    (hread : matcher.IsRead options) (hmatcher : Matcher.ofTokens options tokens = .ok matcher)
    {path : String} {params : Params} (hfound : matcher.params? path = some params) :
    Token.HaveTaken options.delimiter tokens params := by
  obtain ⟨hcaptured, hothers⟩ := hread.exists_captured hfound
  obtain ⟨hparts, -⟩ := ofTokens_eq_ok_iff.mp hmatcher
  have hnames : matcher.paramNames = Token.paramNames tokens := Part.map_name_of_ofTokens hparts
  rw [hnames] at hothers
  constructor
  · intro name hname
    by_contra hmem
    rw [hothers name hmem] at hname
    cases hname
  · intro parameter hparameter hrequired
    obtain ⟨slot, hslot, index, hofParam⟩ := exists_slot_of_mem hmatcher hparameter
    obtain ⟨part, hpart, hget⟩ := hcaptured slot hslot
    obtain ⟨check, -, rfl⟩ := exists_eq_ok_of_map hofParam
    rw [hget, Option.isSome_map]
    exact hpart.isSome hrequired
  · intro parameter hparameter value hvalue
    obtain ⟨slot, hslot, index, hofParam⟩ := exists_slot_of_mem hmatcher hparameter
    obtain ⟨part, -, hget⟩ := hcaptured slot hslot
    rw [← Slot.name_of_ofParam hofParam, hget] at hvalue
    obtain ⟨text, -, rfl⟩ := Option.map_eq_some_iff.mp hvalue
    exact Slot.admits_valueOf hofParam text

/-! ### Failures of building -/

namespace Slot

variable {slot : Slot} {error : BuildError}

theorem checkValue_eq_error {value : String} (h : slot.checkValue value = .error error) :
    error = .valueMismatch slot.name value slot.group := by
  unfold checkValue at h
  split at h
  · cases h
  · exact (Except.error.inj h).symm

theorem exists_mismatch_of_checkValues {values : List String}
    (h : slot.checkValues values = .error error) :
    ∃ value, error = .valueMismatch slot.name value slot.group := by
  induction values with
  | nil => cases h
  | cons value values ih =>
    rw [checkValues] at h
    cases hvalue : slot.checkValue value with
    | error mismatch =>
      rw [hvalue] at h
      obtain rfl := Except.error.inj h
      exact ⟨value, checkValue_eq_error hvalue⟩
    | ok done =>
      rw [hvalue] at h
      exact ih h

/-- If the slot has a value where it must and a list has the shape that it must, only a check can
fail. -/
theorem exists_mismatch_of_build {given : Option ParamValue}
    (hgiven : given = none → slot.isOptional = true)
    (hlist : ∀ values, given = some (.list values) → slot.isRepeating = true ∧ values ≠ [])
    (h : slot.build given = .error error) :
    ∃ value, error = .valueMismatch slot.name value slot.group := by
  cases given with
  | none =>
    rw [build, if_pos (hgiven rfl)] at h
    cases h
  | some value =>
    cases value with
    | single value => exact ⟨value, checkValue_eq_error (map_eq_error_iff.mp h)⟩
    | list values =>
      obtain ⟨hrepeating, hne⟩ := hlist values rfl
      have hempty : values.isEmpty = false := by simpa using hne
      rw [build, buildList, hrepeating, hempty] at h
      exact exists_mismatch_of_checkValues (map_eq_error_iff.mp h)

end Slot

/-- Parts fail to be built if the slot of one of them does. -/
theorem Part.exists_slot_of_buildAll {params : Params} {parts : List Part} {error : BuildError}
    (h : buildAll params parts = .error error) :
    ∃ slot ∈ parts.filterMap slot?, slot.build (params.get? slot.name) = .error error := by
  induction parts with
  | nil => cases h
  | cons part parts ih =>
    rw [buildAll] at h
    cases part with
    | literal text =>
      rw [filterMap_slot?_literal]
      exact ih (map_eq_error_iff.mp h)
    | param slot =>
      rw [filterMap_slot?_param]
      cases hslot : Part.build params (.param slot) with
      | error fault =>
        rw [hslot] at h
        obtain rfl := Except.error.inj h
        exact ⟨slot, List.mem_cons_self, hslot⟩
      | ok text =>
        rw [hslot] at h
        obtain ⟨other, hother, hfault⟩ := ih (map_eq_error_iff.mp h)
        exact ⟨other, List.mem_cons_of_mem _ hother, hfault⟩

/-- Values of the shape that the parameters ask for make a path, unless a check refuses one. -/
theorem Token.HaveTaken.exists_mismatch {tokens : List Token} {matcher : Matcher} {params : Params}
    (htaken : HaveTaken options.delimiter tokens params)
    (hmatcher : Matcher.ofTokens options tokens = .ok matcher) {error : BuildError}
    (h : matcher.build params = .error error) :
    ∃ parameter value, .param parameter ∈ tokens ∧
      error = .valueMismatch parameter.name.display value parameter.group := by
  obtain ⟨hparts, -⟩ := Matcher.ofTokens_eq_ok_iff.mp hmatcher
  obtain ⟨slot, hslot, hfault⟩ := Part.exists_slot_of_buildAll (map_eq_error_iff.mp h)
  obtain ⟨index, parameter, hparameter, hofParam⟩ := Part.exists_ofParam_of_mem hparts hslot
  obtain ⟨check, -, rfl⟩ := exists_eq_ok_of_map hofParam
  have hrequired : params.get? parameter.name.display = none → parameter.isOptional = true := by
    intro hnone
    by_contra hoptional
    have hsome := htaken.required parameter hparameter (Bool.eq_false_of_not_eq_true hoptional)
    rw [hnone] at hsome
    cases hsome
  have hlist : ∀ values, params.get? parameter.name.display = some (.list values) →
      parameter.isRepeating = true ∧ values ≠ [] := by
    intro values hvalues
    obtain ⟨hrepeating, hne, -⟩ := htaken.admitted parameter hparameter _ hvalues
    exact ⟨hrepeating, hne⟩
  obtain ⟨value, hmismatch⟩ := Slot.exists_mismatch_of_build hrequired hlist hfault
  exact ⟨parameter, value, hparameter, hmismatch⟩

/-! ### Routes -/

/-- The token is static text or a parameter whose group is an expression on its own. -/
def Token.IsExpression (options : PatternOptions) : Token → Prop
  | .literal _ => True
  | .param parameter => parameter.IsExpression options

instance (options : PatternOptions) (token : Token) : Decidable (token.IsExpression options) :=
  match token with
  | .literal _ => inferInstanceAs (Decidable True)
  | .param parameter =>
    inferInstanceAs (Decidable ((Regex.Node.read? _ parameter.group.toList).isSome = true))

namespace Route

variable {pattern : String} {weights : Weights Float} {route : Route}

/-- Assumes: groups of their own that are expressions, of any kind. What a route takes from a path
has the shape that its parameters ask for, and it makes a path again unless a check refuses one of
the values. -/
theorem haveTaken_of_params? (hroute : Route.create pattern options weights = .ok route)
    (hgroups : ∀ token ∈ route.tokens,
      token.IsPlain options.delimiter ∨ token.IsExpression options)
    {path : String} {params : Params} (hfound : route.params? path = some params) :
    Token.HaveTaken options.delimiter route.tokens params ∧
      ∀ error, route.build params = .error error →
        ∃ parameter value, .param parameter ∈ route.tokens ∧
          error = .valueMismatch parameter.name.display value parameter.group := by
  obtain ⟨hoptions, tokens, matcher, htokens, hmatcher, rfl⟩ := create_eq_ok_iff.mp hroute
  have hexpressions : ∀ parameter, .param parameter ∈ tokens → parameter.IsExpression options := by
    intro parameter hparameter
    rcases hgroups _ hparameter with hplain | hexpression
    · exact Option.isSome_iff_exists.mpr ⟨_, Param.read?_group_of_isPlain hplain⟩
    · exact hexpression
  have hread := Matcher.isRead_of_ofTokens hoptions htokens hmatcher hexpressions
  have htaken := hread.haveTaken hmatcher hfound
  exact ⟨htaken, fun error herror ↦ htaken.exists_mismatch hmatcher herror⟩

/-- The pattern `/:x((?i)\ba/b)+/:y(\d+)?` takes a list from a path that it cannot build again. -/
theorem haveTaken_of_params?_separated :
    ∃ route params, Route.create "/:x((?i)\\ba/b)+/:y(\\d+)?" { sensitive := true } = .ok route ∧
      route.params? "/A/b" = some params ∧
      params.get? "x" = some (.list ["A", "b"]) ∧
      Token.HaveTaken '/' route.tokens params ∧
      ∃ error, route.build params = .error error ∧
        ∃ parameter value, .param parameter ∈ route.tokens ∧
          error = .valueMismatch parameter.name.display value parameter.group := by
  let created := (Route.create "/:x((?i)\\ba/b)+/:y(\\d+)?" { sensitive := true }).toOption
  have hcreated : ∃ route ∈ created,
      (∀ token ∈ route.tokens, token.IsPlain '/' ∨ token.IsExpression { sensitive := true }) ∧
        ∃ params ∈ route.params? "/A/b", params.get? "x" = some (.list ["A", "b"]) ∧
          route.build params = .error (.valueMismatch "x" "A" "(?i)\\ba/b") := by
    decide +kernel
  obtain ⟨route, hroute, hgroups, params, hparams, hlist, hrefused⟩ := hcreated
  obtain ⟨htaken, hmismatch⟩ := haveTaken_of_params? (eq_ok_of_toOption hroute) hgroups hparams
  exact ⟨route, params, eq_ok_of_toOption hroute, hparams, hlist, htaken, _, hrefused,
    hmismatch _ hrefused⟩

end Route

end RoutePatterns
