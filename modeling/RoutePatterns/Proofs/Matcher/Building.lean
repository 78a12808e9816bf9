import RoutePatterns.Proofs.Matcher.Matches

/-!
# Building paths of plain tokens

The value check of a plain slot takes exactly the values of its parameter (`isMatch_check_iff`), so
that what a parameter takes from a path can be built again (`build_valueOf`) and what is built is
text of values that the parameter takes (`exists_takes_of_build`). `exists_rebuilds` and
`exists_fills_of_build` say the same of token lists.
-/

set_option autoImplicit false
set_option relaxedAutoImplicit false

namespace RoutePatterns

open Text

variable {options : PatternOptions}

/-! ### Checks -/

theorem Slot.checkValue_eq_ok_iff {slot : Slot} {value : String} :
    slot.checkValue value = .ok () ↔ slot.check.isMatch value = true := by
  unfold Slot.checkValue
  split <;> simp_all

theorem Slot.checkValues_eq_ok_iff {slot : Slot} {values : List String} :
    slot.checkValues values = .ok () ↔ ∀ value ∈ values, slot.check.isMatch value = true := by
  induction values with
  | nil => simp [Slot.checkValues]
  | cons value values ih =>
    rw [List.forall_mem_cons, ← ih, ← Slot.checkValue_eq_ok_iff, Slot.checkValues]
    cases slot.checkValue value with
    | error error => simp
    | ok done => simp

/-! ### Slots in general -/

namespace Slot

variable {slot : Slot} {built : List Char}

theorem build_none_eq_ok_iff :
    slot.build none = .ok built ↔ slot.isOptional = true ∧ built = [] := by
  rw [build]
  cases slot.isOptional <;> simp [eq_comm]

theorem build_single_eq_ok_iff {value : String} :
    slot.build (some (.single value)) = .ok built ↔
      slot.check.isMatch value = true ∧ built = slot.leadText ++ value.toList := by
  rw [build, ← checkValue_eq_ok_iff]
  cases slot.checkValue value with
  | error error => simp [Except.map]
  | ok done => simp [Except.map, eq_comm]

theorem build_list_nil_eq_ok_iff :
    slot.build (some (.list [])) = .ok built ↔
      slot.isRepeating = true ∧ slot.isOptional = true ∧ built = [] := by
  rw [build, buildList]
  cases slot.isRepeating <;> cases slot.isOptional <;> simp [eq_comm]

theorem build_list_eq_ok_iff {values : List String} (hvalues : values ≠ []) :
    slot.build (some (.list values)) = .ok built ↔
      slot.isRepeating = true ∧ (∀ value ∈ values, slot.check.isMatch value = true) ∧
        built = slot.leadText ++ joinWith slot.separator (values.map String.toList) := by
  rw [build, buildList, ← checkValues_eq_ok_iff]
  have hempty : values.isEmpty = false := by simpa using hvalues
  cases slot.isRepeating with
  | false => simp
  | true =>
    cases slot.checkValues values with
    | error error => simp [hempty, Except.map]
    | ok done => simp [hempty, Except.map, eq_comm]

end Slot

/-! ### Slots of plain parameters -/

namespace Param

variable {parameter : Param} {index : Nat}

/-- The value check of a plain slot takes the values of its parameter and no other text. -/
theorem isMatch_check_iff (hpunctuated : parameter.IsPunctuated options.delimiter)
    {value : String} :
    (parameter.plainSlot options index).check.isMatch value = true ↔
      parameter.IsValue options.delimiter value.toList := by
  have hroot : (parameter.plainSlot options index).check.root =
      .ofItems ([.look .textStart] ++ [parameter.valueNode options] ++ [.look .textEnd]) := rfl
  rw [Regex.isMatch_iff_of_anchored hroot]
  simp only [hasLanguage_value hpunctuated _ _ _, Regex.mem_textsWith, Regex.covers_text_iff]
  constructor
  · rintro ⟨_, rfl, part, hpart, rfl⟩
    exact hpart
  · exact fun hvalue ↦ ⟨[], rfl, _, hvalue, rfl⟩

/-- A value of the kind that a parameter takes: a list that is not empty if it repeats, else a
single value. -/
def Fits (parameter : Param) : ParamValue → Prop
  | .single _ => parameter.isRepeating = false
  | .list values => parameter.isRepeating = true ∧ values ≠ []

/-- The values that a parameter takes make its text again. -/
theorem build_valueOf (hpunctuated : parameter.IsPunctuated options.delimiter) {taken : Taken}
    (htaken : parameter.Takes options.delimiter taken) :
    (parameter.plainSlot options index).build (taken.map parameter.valueOf) =
      .ok (parameter.textOf options.delimiter taken) := by
  cases taken with
  | none => exact Slot.build_none_eq_ok_iff.mpr ⟨htaken, rfl⟩
  | some values =>
    obtain ⟨hne, hlength, hvalues⟩ := htaken
    rw [Option.map_some, valueOf]
    by_cases hrepeating : parameter.isRepeating = true
    · rw [if_pos hrepeating, Slot.build_list_eq_ok_iff (by simpa using hne)]
      refine ⟨hrepeating, fun value hvalue ↦ ?_, ?_⟩
      · obtain ⟨chars, hchars, rfl⟩ := List.mem_map.mp hvalue
        rw [isMatch_check_iff hpunctuated, String.toList_ofList]
        exact hvalues chars hchars
      · simp only [List.map_map, Function.comp_def, String.toList_ofList, List.map_id']
        rfl
    · obtain ⟨value, rfl⟩ := List.length_eq_one_iff.mp (hlength (Bool.not_eq_true _ ▸ hrepeating))
      rw [if_neg hrepeating, List.flatten_singleton, Slot.build_single_eq_ok_iff,
        isMatch_check_iff hpunctuated, String.toList_ofList]
      exact ⟨hvalues value List.mem_cons_self, rfl⟩

/-- What is built for a parameter is text of values that it takes, and they are the given ones if
these are of its kind. -/
theorem exists_takes_of_build (hpunctuated : parameter.IsPunctuated options.delimiter)
    {given : Option ParamValue} {built : List Char}
    (hbuild : (parameter.plainSlot options index).build given = .ok built) :
    ∃ taken, parameter.Takes options.delimiter taken ∧
      built = parameter.textOf options.delimiter taken ∧
      ((∀ value ∈ given, parameter.Fits value) → given = taken.map parameter.valueOf) := by
  cases given with
  | none =>
    obtain ⟨hoptional, rfl⟩ := Slot.build_none_eq_ok_iff.mp hbuild
    exact ⟨none, hoptional, rfl, fun _ ↦ rfl⟩
  | some value =>
    cases value with
    | single value =>
      obtain ⟨hvalue, rfl⟩ := Slot.build_single_eq_ok_iff.mp hbuild
      rw [isMatch_check_iff hpunctuated] at hvalue
      refine ⟨some [value.toList], ⟨by simp, fun _ ↦ rfl, by simpa using hvalue⟩, rfl, ?_⟩
      intro hgiven
      have hsingle : parameter.isRepeating = false := hgiven _ rfl
      rw [Option.map_some, valueOf, hsingle]
      simp
    | list values =>
      by_cases hne : values = []
      · subst hne
        obtain ⟨-, hoptional, rfl⟩ := Slot.build_list_nil_eq_ok_iff.mp hbuild
        exact ⟨none, hoptional, rfl, fun hgiven ↦ absurd rfl (hgiven _ rfl).2⟩
      · obtain ⟨hrepeating, hvalues, rfl⟩ := (Slot.build_list_eq_ok_iff hne).mp hbuild
        rw [plainSlot_isRepeating] at hrepeating
        refine ⟨some (values.map String.toList), ⟨by simpa using hne, by simp [hrepeating], ?_⟩,
          rfl, fun _ ↦ ?_⟩
        · intro chars hchars
          obtain ⟨value, hvalue, rfl⟩ := List.mem_map.mp hchars
          exact (isMatch_check_iff hpunctuated).mp (hvalues value hvalue)
        · simp [valueOf, hrepeating, Function.comp_def]

end Param

/-! ### Token lists -/

/-- Two rows of texts for the same tokens: for static text the text itself and one that is the same,
for a parameter twice the text of values that it takes. -/
inductive Rebuilds (options : PatternOptions) :
    List Token → List (List Char) → List (List Char) → Prop
  | nil : Rebuilds options [] [] []
  | literal {text : String} {part : List Char} {tokens : List Token}
      {built parts : List (List Char)} (hpart : SameText options text.toList part)
      (hrest : Rebuilds options tokens built parts) :
      Rebuilds options (.literal text :: tokens) (text.toList :: built) (part :: parts)
  | param {parameter : Param} {taken : Taken} {tokens : List Token}
      {built parts : List (List Char)} (htaken : parameter.Takes options.delimiter taken)
      (hrest : Rebuilds options tokens built parts) :
      Rebuilds options (.param parameter :: tokens)
        (parameter.textOf options.delimiter taken :: built)
        (parameter.textOf options.delimiter taken :: parts)

theorem Rebuilds.sameText_flatten {tokens : List Token} {built parts : List (List Char)}
    (h : Rebuilds options tokens built parts) :
    SameText options built.flatten parts.flatten := by
  induction h with
  | nil => exact .nil
  | literal hpart _ ih => exact List.rel_append hpart ih
  | param _ _ ih => exact List.rel_append (sameText_refl options _) ih

/-- What a matcher takes from texts of plain tokens makes texts of them again. -/
theorem exists_rebuilds {tokens : List Token} {parts : List (List Char)} {takens : List Taken}
    (hfills : Fills options tokens parts takens)
    (hpunctuated : ∀ parameter, .param parameter ∈ tokens →
      parameter.IsPunctuated options.delimiter)
    {params : Params} (hparams : Token.HaveValues params tokens takens) (index : Nat) :
    ∃ built, Part.buildAll params (Token.partsFrom options index tokens) = .ok built.flatten ∧
      Rebuilds options tokens built parts := by
  induction hfills generalizing index with
  | nil => exact ⟨[], rfl, .nil⟩
  | @literal text part tokens parts takens hpart _ ih =>
    obtain ⟨built, hbuilt, hrest⟩ :=
      ih (fun parameter hmem ↦ hpunctuated parameter (List.mem_cons_of_mem _ hmem)) hparams index
    exact ⟨text.toList :: built,
      Part.buildAll_cons_eq_ok_iff.mpr ⟨_, _, rfl, hbuilt, rfl⟩, .literal hpart hrest⟩
  | @param parameter taken tokens parts takens htaken _ ih =>
    obtain ⟨hhead, htail⟩ := List.forall₂_cons.mp hparams
    obtain ⟨built, hbuilt, hrest⟩ := ih
      (fun parameter hmem ↦ hpunctuated parameter (List.mem_cons_of_mem _ hmem)) htail (index + 1)
    have hpart : Part.build params (.param (parameter.plainSlot options index)) =
        .ok (parameter.textOf options.delimiter taken) := by
      change Slot.build _ (params.get? parameter.name.display) = _
      rw [hhead, Param.build_valueOf (hpunctuated _ List.mem_cons_self) htaken]
    exact ⟨_ :: built,
      Part.buildAll_cons_eq_ok_iff.mpr ⟨_, _, hpart, hbuilt, rfl⟩, .param htaken hrest⟩

/-- What is built for plain tokens is texts of the tokens, of the given values if these are of the
kinds of the parameters. -/
theorem exists_fills_of_build {tokens : List Token} {params : Params} {index : Nat}
    {built : List Char}
    (hpunctuated : ∀ parameter, .param parameter ∈ tokens →
      parameter.IsPunctuated options.delimiter)
    (hbuild : Part.buildAll params (Token.partsFrom options index tokens) = .ok built) :
    ∃ parts takens, Fills options tokens parts takens ∧ built = parts.flatten ∧
      ((∀ parameter, .param parameter ∈ tokens →
          ∀ value ∈ params.get? parameter.name.display, parameter.Fits value) →
        Token.HaveValues params tokens takens) := by
  induction tokens generalizing index built with
  | nil =>
    cases hbuild
    exact ⟨[], [], .nil, rfl, fun _ ↦ .nil⟩
  | cons token tokens ih =>
    have hpunctuated' parameter hmem := hpunctuated parameter (List.mem_cons_of_mem _ hmem)
    cases token with
    | literal text =>
      obtain ⟨_, rest, hpart, hrest, rfl⟩ := Part.buildAll_cons_eq_ok_iff.mp hbuild
      obtain rfl := Except.ok.inj hpart
      obtain ⟨parts, takens, hfills, rfl, hgiven⟩ := ih hpunctuated' hrest
      refine ⟨text.toList :: parts, takens, .literal (sameText_refl options _) hfills, rfl, ?_⟩
      exact fun hparams ↦ hgiven fun parameter hmem ↦
        hparams parameter (List.mem_cons_of_mem _ hmem)
    | param parameter =>
      obtain ⟨part, rest, hpart, hrest, rfl⟩ := Part.buildAll_cons_eq_ok_iff.mp hbuild
      obtain ⟨taken, htaken, rfl, hhere⟩ :=
        Param.exists_takes_of_build (hpunctuated _ List.mem_cons_self) hpart
      obtain ⟨parts, takens, hfills, rfl, hgiven⟩ := ih hpunctuated' hrest
      refine ⟨_ :: parts, taken :: takens, .param htaken hfills, rfl, fun hparams ↦ .cons ?_ ?_⟩
      · exact hhere (hparams _ List.mem_cons_self)
      · exact hgiven fun parameter hmem ↦ hparams parameter (List.mem_cons_of_mem _ hmem)

end RoutePatterns
