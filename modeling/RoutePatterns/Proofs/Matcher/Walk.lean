import RoutePatterns.Proofs.Matcher.Layout

/-!
# Building a path is a walk over the tokens

The path that a matcher builds of values can be told from the tokens alone. Static text contributes
itself and a parameter what it makes of the value under its name (`Param.contribution`); the path is
what all of them contribute, or the failure of the first that has one (`Token.walk`). The slots of
the matcher, the parts in which its text is joined and the numbers by which the parts refer to the
slots make no difference (`Matcher.build_eq_walk`).
-/

set_option autoImplicit false
set_option relaxedAutoImplicit false

namespace RoutePatterns

variable {options : PatternOptions}

/-! ### Contributions -/

namespace Param

/-- Whether a value matches the group of the parameter from beginning to end. -/
def accepts (options : PatternOptions) (parameter : Param) (value : String) : Bool :=
  match compileRegex options (['^'] ++ Slot.grouped parameter.group.toList ++ ['$']) with
  | .ok check => check.isMatch value
  | .error _ => false

/-- What the parameter contributes to a path if it is given a value or none. -/
def contribution (options : PatternOptions) (parameter : Param) :
    Option ParamValue → Except BuildError (List Char)
  | some (.single value) =>
    if parameter.accepts options value then .ok (parameter.lead.toList ++ value.toList)
    else .error (.valueMismatch parameter.name.display value parameter.group)
  | some (.list values) =>
    if parameter.isRepeating = false then .error (.unexpectedList parameter.name.display)
    else if values = [] then
      if parameter.isOptional then .ok [] else .error (.emptyList parameter.name.display)
    else
      match values.find? fun value ↦ !parameter.accepts options value with
      | some value => .error (.valueMismatch parameter.name.display value parameter.group)
      | none =>
        .ok (parameter.lead.toList ++
          [parameter.separator options.delimiter].intercalate (values.map String.toList))
  | none => if parameter.isOptional then .ok [] else .error (.missingParam parameter.name.display)

end Param

namespace Token

/-- What a token contributes to the path for the values. -/
def contribution (options : PatternOptions) (params : Params) :
    Token → Except BuildError (List Char)
  | .literal text => .ok text.toList
  | .param parameter => parameter.contribution options (params.get? parameter.name.display)

/-- What tokens contribute one after the other, or the failure of the first that has one. -/
def walk (options : PatternOptions) (params : Params) (tokens : List Token) :
    Except BuildError String :=
  (tokens.mapM (contribution options params)).map fun texts ↦ String.ofList texts.flatten

end Token

/-! ### Slots -/

/-- Values are refused for the first of them that the check does not match. -/
theorem Slot.checkValues_eq (slot : Slot) (values : List String) :
    slot.checkValues values =
      match values.find? fun value ↦ !slot.check.isMatch value with
      | some value => .error (.valueMismatch slot.name value slot.group)
      | none => .ok () := by
  induction values with
  | nil => rfl
  | cons value values ih =>
    rw [checkValues, checkValue, List.find?_cons]
    cases slot.check.isMatch value with
    | false => rfl
    | true => exact ih

/-- A slot makes of a value what its parameter contributes. -/
theorem Slot.build_eq_contribution {index : ℕ} {parameter : Param} {slot : Slot}
    (h : Slot.ofParam options index parameter = .ok slot) (given : Option ParamValue) :
    slot.build given = parameter.contribution options given := by
  obtain ⟨check, hcheck, rfl⟩ := exists_eq_ok_of_map h
  have haccepts : parameter.accepts options = check.isMatch := by
    funext value
    rw [Param.accepts, hcheck]
  cases given with
  | none => rfl
  | some value =>
    cases value with
    | single value =>
      rw [build, checkValue, Param.contribution, haccepts]
      cases check.isMatch value <;> rfl
    | list values =>
      rw [build, buildList, checkValues_eq, Text.joinWith_eq_intercalate, Param.contribution,
        haccepts]
      cases parameter.isRepeating with
      | false => rfl
      | true =>
        cases values with
        | nil => rfl
        | cons first values =>
          dsimp only
          cases (first :: values).find? fun value ↦ !check.isMatch value <;> rfl

/-- A slot that repeats makes of one value what it makes of a list of that value. -/
theorem Slot.build_single {slot : Slot} (h : slot.isRepeating = true) (value : String) :
    slot.build (some (.single value)) = slot.build (some (.list [value])) := by
  rw [build, build, buildList, h, checkValues]
  cases slot.checkValue value <;> rfl

/-! ### Parts -/

/-- The parts of tokens make what the tokens contribute. -/
theorem Part.buildAll_eq_mapM {index : ℕ} {tokens : List Token} {parts : List Part}
    (h : Part.eachOf options index tokens = .ok parts) (params : Params) :
    buildAll params parts =
      (tokens.mapM (Token.contribution options params)).map List.flatten := by
  induction tokens generalizing index parts with
  | nil =>
    obtain rfl := Except.ok.inj h
    rfl
  | cons token tokens ih =>
    have hcons {part : Part} {rest : List Part}
        (hpart : part.build params = token.contribution options params)
        (hrest : buildAll params rest =
          (tokens.mapM (Token.contribution options params)).map List.flatten) :
        buildAll params (part :: rest) =
          ((token :: tokens).mapM (Token.contribution options params)).map List.flatten := by
      rw [buildAll, hpart, hrest, List.mapM_cons]
      cases token.contribution options params with
      | error error => rfl
      | ok text => cases tokens.mapM (Token.contribution options params) <;> rfl
    cases token with
    | literal text =>
      rw [eachOf] at h
      obtain ⟨rest, hrest, rfl⟩ := exists_eq_ok_of_map h
      exact hcons rfl (ih hrest)
    | param parameter =>
      rw [eachOf] at h
      cases hslot : Slot.ofParam options index parameter with
      | error error =>
        rw [hslot] at h
        cases h
      | ok slot =>
        rw [hslot] at h
        obtain ⟨rest, hrest, rfl⟩ := exists_eq_ok_of_map h
        refine hcons ?_ (ih hrest)
        rw [build, Slot.build_eq_contribution hslot, Slot.name_of_ofParam hslot]
        rfl

/-- If every slot of a name repeats, one value and a list of that value give the same. -/
theorem Part.buildAll_insert_single {parts : List Part} {name : String}
    (h : ∀ slot ∈ parts.filterMap slot?, slot.name = name → slot.isRepeating = true)
    (params : Params) (value : String) :
    buildAll (Params.insert name (.single value) params) parts =
      buildAll (Params.insert name (.list [value]) params) parts := by
  induction parts with
  | nil => rfl
  | cons part parts ih =>
    cases part with
    | literal text =>
      rw [filterMap_slot?_literal] at h
      rw [buildAll, buildAll, ih h]
      rfl
    | param slot =>
      rw [filterMap_slot?_param, List.forall_mem_cons] at h
      have hslot : slot.build ((Params.insert name (.single value) params).get? slot.name) =
          slot.build ((Params.insert name (.list [value]) params).get? slot.name) := by
        rw [Params.get?_insert, Params.get?_insert]
        by_cases hname : name = slot.name
        · rw [if_pos hname, if_pos hname, Slot.build_single (h.1 hname.symm)]
        · rw [if_neg hname, if_neg hname]
      rw [buildAll, buildAll, build, build, hslot, ih h.2]

/-! ### Matchers -/

/-- A matcher builds what a walk over its tokens gives. -/
theorem Matcher.build_eq {tokens : List Token} {matcher : Matcher}
    (h : Matcher.ofTokens options tokens = .ok matcher) (params : Params) :
    matcher.build params = Token.walk options params tokens := by
  obtain ⟨hparts, -⟩ := ofTokens_eq_ok_iff.mp h
  rw [Part.ofTokens_eq_map_glue] at hparts
  obtain ⟨parts, heach, hglue⟩ := exists_eq_ok_of_map hparts
  rw [build, ← hglue, Part.buildAll_glue, Part.buildAll_eq_mapM heach, Token.walk]
  cases tokens.mapM (Token.contribution options params) <;> rfl

/-- A matcher builds what a walk over its tokens gives. The loop over the tokens lays it out in
parts that refer to every slot once, in order, the slot with a number is that of the parameter with
that number, and looking them up by number builds the same. A slot that repeats makes of one value
what it makes of a list of that value, and so does the matcher if every parameter of the name
repeats. -/
theorem Matcher.build_eq_walk {tokens : List Token} {matcher : Matcher}
    (h : Matcher.ofTokens options tokens = .ok matcher) :
    (∀ params, matcher.build params = Token.walk options params tokens) ∧
    (∃ layout, Layout.ofTokens options tokens = .ok layout ∧
      layout.numbers = List.range layout.slots.length ∧
      List.Forall₂ (fun parameter entry ↦ Slot.ofParam options entry.2 parameter = .ok entry.1)
        (tokens.filterMap Token.param?) layout.slots.zipIdx ∧
      ∀ params, layout.build? params = some (matcher.build params)) ∧
    (∀ slot ∈ matcher.slots, slot.isRepeating = true → ∀ value,
      slot.build (some (.single value)) = slot.build (some (.list [value]))) ∧
    ∀ name, (∀ parameter, .param parameter ∈ tokens → parameter.name.display = name →
        parameter.isRepeating = true) →
      ∀ params value, matcher.build (Params.insert name (.single value) params) =
        matcher.build (Params.insert name (.list [value]) params) := by
  refine ⟨build_eq h, Layout.exists_of_ofTokens h, fun _ _ hslot ↦ Slot.build_single hslot, ?_⟩
  intro name hname params value
  obtain ⟨hparts, -⟩ := ofTokens_eq_ok_iff.mp h
  have hslots : ∀ slot ∈ matcher.parts.filterMap Part.slot?, slot.name = name →
      slot.isRepeating = true := by
    intro slot hslot hslotName
    obtain ⟨index, parameter, hparameter, hofParam⟩ := Part.exists_ofParam_of_mem hparts hslot
    rw [Slot.name_of_ofParam hofParam] at hslotName
    obtain ⟨check, -, rfl⟩ := exists_eq_ok_of_map hofParam
    exact hname parameter hparameter hslotName
  rw [build, build, Part.buildAll_insert_single hslots]

/-- Two parameters of one name, both of which repeat, behind text that is in two tokens. -/
theorem Matcher.build_eq_walk_shared_name :
    let led : Param := ⟨.named "x", "[^/]+?", some '/', .oneOrMore⟩
    let bare : Param := ⟨.named "x", "[a-c]", none, .zeroOrMore⟩
    let tokens : List Token := [.literal "/", .literal "v", .param led, .param bare]
    ∃ matcher, Matcher.ofTokens {} tokens = .ok matcher ∧
      matcher.build [("x", .list ["a", "b"])] = .ok "/v/a/ba/b" ∧
      matcher.build [("x", .list ["a", "d", "e"])] = .error (.valueMismatch "x" "d" "[a-c]") ∧
      ∀ value, matcher.build [("x", .single value)] = matcher.build [("x", .list [value])] := by
  intro led bare tokens
  have hsome : (Matcher.ofTokens {} tokens).toOption.isSome = true := by decide +kernel
  obtain ⟨matcher, hmatcher⟩ := Option.isSome_iff_exists.mp hsome
  have hok := eq_ok_of_toOption hmatcher
  obtain ⟨hwalk, -, -, hlist⟩ := Matcher.build_eq_walk hok
  refine ⟨matcher, hok, ?_, ?_, fun value ↦ ?_⟩
  · rw [hwalk]
    decide +kernel
  · rw [hwalk]
    decide +kernel
  · refine hlist "x" (fun parameter hmem _ ↦ ?_) [] value
    simp only [tokens, List.mem_cons, Token.param.injEq, List.not_mem_nil, or_false, reduceCtorEq,
      false_or] at hmem
    rcases hmem with rfl | rfl <;> rfl

end RoutePatterns
