import RoutePatterns.Proofs.Matcher.Building
import RoutePatterns.Proofs.Pattern.Division
import RoutePatterns.Proofs.Route.Acceptance

/-!
# Taking values from a path and building it again

For routes whose parameters have no groups of their own, what a route takes from a path makes the
path again, but for a trailing delimiter and the case of static text
(`Route.exists_build_of_params?`). The other way round needs more, because a path can then be
divided in several ways: if every segment is a single piece and only the last token is optional or
repeats, the values that make a path are taken from it again (`Route.exists_params?_of_build`).
-/

set_option autoImplicit false
set_option relaxedAutoImplicit false

namespace RoutePatterns.Route

variable {pattern : String} {options : PatternOptions} {weights : Weights Float} {route : Route}

/-! ### From a path to values and back -/

/-- The values of texts of the tokens make texts of the tokens again. -/
theorem exists_build_of_fills (hroute : Route.create pattern options weights = .ok route)
    (hplain : ∀ token ∈ route.tokens, token.IsPlain options.delimiter)
    {parts : List (List Char)} {takens : List Taken}
    (hfills : Fills options route.tokens parts takens) {params : Params}
    (hparams : Token.HaveValues params route.tokens takens) :
    ∃ texts, route.build params = .ok (String.ofList texts.flatten) ∧
      Rebuilds options route.tokens texts parts := by
  obtain ⟨harePlain, hmatcher⟩ := arePlain_of_create hroute hplain
  obtain ⟨-, -, hbuildAll⟩ := Matcher.ofTokens_eq_ok harePlain hmatcher
  obtain ⟨texts, hbuild, hrebuilds⟩ := exists_rebuilds hfills harePlain.punctuated hparams 0
  refine ⟨texts, ?_, hrebuilds⟩
  rw [Route.build, hbuildAll, hbuild]
  rfl

/-- What a route takes from a path can be built, and gives the path without its tail: the same
characters but for the case of static text. -/
theorem exists_build_of_params? (hroute : Route.create pattern options weights = .ok route)
    (hplain : ∀ token ∈ route.tokens, token.IsPlain options.delimiter) {path : String}
    {params : Params} (hfound : route.params? path = some params) :
    ∃ built rest tail, route.build params = .ok built ∧ path.toList = rest ++ tail ∧
      IsTail options tail ∧ (options.sensitive = true → rest = built.toList) ∧
      rest.length = built.toList.length ∧
      ∃ texts parts, built.toList = texts.flatten ∧ rest = parts.flatten ∧
        Rebuilds options route.tokens texts parts := by
  obtain ⟨harePlain, hmatcher⟩ := arePlain_of_create hroute hplain
  obtain ⟨parts, takens, tail, hfills, htail, hpath, hgive, -⟩ :=
    Matcher.exists_fills_of_params? harePlain hmatcher hfound
  obtain ⟨texts, hbuilt, hrebuilds⟩ := exists_build_of_fills hroute hplain hfills hgive
  have hsame := hrebuilds.sameText_flatten
  refine ⟨_, parts.flatten, tail, hbuilt, hpath, htail, fun hsensitive ↦ ?_, ?_, texts, parts,
    String.toList_ofList, rfl, hrebuilds⟩
  · rw [String.toList_ofList, hsame.eq_of_sensitive hsensitive]
  · rw [String.toList_ofList, hsame.length_eq]

/-- The pattern `/Files/:path+` builds a path again whose static text is written in another case and
that ends with a delimiter. -/
theorem exists_build_files_path :
    ∃ route params built, Route.create "/Files/:path+" {} = .ok route ∧
      route.params? "/fiLes/a/b/" = some params ∧ route.build params = .ok built := by
  let parameter : Param := ⟨.named "path", "[^/]+?", some '/', .oneOrMore⟩
  have htokens : tokenize '/' "/Files/:path+" = .ok [.literal "/Files", .param parameter] := by
    with_unfolding_all rfl
  have hplain : ∀ token ∈ [.literal "/Files", .param parameter],
      Token.IsPlain '/' token := by decide
  obtain ⟨route, hroute, hroutes⟩ :=
    @exists_create_of_isPlain _ {} .standard _ rfl htokens hplain
  rw [← hroutes] at hplain
  let taken : Taken := some ["a".toList, "b".toList]
  have htaken : parameter.Takes '/' taken := by decide
  have hfills : Fills {} route.tokens ["/fiLes".toList, parameter.textOf '/' taken] [taken] := by
    rw [hroutes]
    exact .literal (by decide) (.param htaken .nil)
  have haccepts : route.accepts "/fiLes/a/b/" = true :=
    (accepts_iff_exists_fills hroute hplain).mpr ⟨_, _, ['/'], hfills, Or.inr ⟨rfl, rfl⟩, by decide⟩
  obtain ⟨params, hfound⟩ := Option.isSome_iff_exists.mp
    ((Matcher.isSome_params? route.matcher _).trans haccepts)
  obtain ⟨built, -, -, hbuild, -⟩ := exists_build_of_params? hroute hplain hfound
  exact ⟨route, params, built, hroute, hfound, hbuild⟩

/-! ### From values to a path and back -/

/-- Two ways to give the same values to the parameters agree on every parameter. -/
theorem get?_eq_of_haveValues {first second : Params} {tokens : List Token} {takens : List Taken}
    (hfirst : Token.HaveValues first tokens takens)
    (hsecond : Token.HaveValues second tokens takens) :
    ∀ parameter ∈ tokens.filterMap Token.param?,
      first.get? parameter.name.display = second.get? parameter.name.display := by
  unfold Token.HaveValues at hfirst hsecond
  generalize tokens.filterMap Token.param? = parameters at hfirst hsecond ⊢
  induction hfirst with
  | nil => simp
  | cons hhead _ ih =>
    obtain ⟨hhead', htail'⟩ := List.forall₂_cons.mp hsecond
    exact List.forall_mem_cons.mpr ⟨hhead.trans hhead'.symm, ih htail'⟩

/-- If every segment is a single piece and only the last token is optional or repeats, the values
that make a path, each of the kind of its parameter, are taken from it again. -/
theorem exists_params?_of_build (hroute : Route.create pattern options weights = .ok route)
    (hplain : ∀ token ∈ route.tokens, token.IsPlain options.delimiter)
    (hsegments : ∀ segment ∈ segments options.delimiter route.tokens, segment.length = 1)
    (hone : ∀ parameter, .param parameter ∈ route.tokens.dropLast → parameter.quantifier = .one)
    {params : Params} (hparams : ∀ name value, params.get? name = some value →
      ∃ parameter, .param parameter ∈ route.tokens ∧ parameter.name.display = name ∧
        parameter.Fits value)
    {path : String} (hbuild : route.build params = .ok path) :
    ∃ found, route.params? path = some found ∧ ∀ name, found.get? name = params.get? name := by
  obtain ⟨harePlain, hmatcher⟩ := arePlain_of_create hroute hplain
  obtain ⟨-, -, hbuildAll⟩ := Matcher.ofTokens_eq_ok harePlain hmatcher
  rw [Route.build, hbuildAll] at hbuild
  have hfits : ∀ parameter, .param parameter ∈ route.tokens →
      ∀ value ∈ params.get? parameter.name.display, parameter.Fits value := by
    intro parameter hmem value hvalue
    obtain ⟨other, hother, hname, hfits⟩ := hparams _ value hvalue
    rwa [Token.eq_of_display_eq harePlain.nodup hmem hother hname.symm]
  cases hbuilt : Part.buildAll params (Token.partsFrom options 0 route.tokens) with
  | error error =>
    rw [hbuilt] at hbuild
    cases hbuild
  | ok built =>
    rw [hbuilt] at hbuild
    obtain rfl := Except.ok.inj hbuild
    obtain ⟨parts, takens, hfills, rfl, hgiven⟩ :=
      exists_fills_of_build harePlain.punctuated hbuilt
    have hgiven := hgiven hfits
    have haccepts : route.accepts (String.ofList parts.flatten) = true := by
      rw [accepts_iff_exists_fills hroute hplain, String.toList_ofList]
      exact ⟨parts, takens, [], hfills, Or.inl rfl, (List.append_nil _).symm⟩
    obtain ⟨found, hfound⟩ := Option.isSome_iff_exists.mp
      ((Matcher.isSome_params? route.matcher _).trans haccepts)
    obtain ⟨parts', takens', tail, hfills', htail, hpath, hgive, hother⟩ :=
      Matcher.exists_fills_of_params? harePlain hmatcher hfound
    rw [String.toList_ofList] at hpath
    have hspaced := Token.spaced_of_segments hsegments hone
    obtain rfl := hfills.takens_eq hfills' htail harePlain.delimiter hspaced hpath
    refine ⟨found, hfound, fun name ↦ ?_⟩
    by_cases hname : name ∈ Token.paramNames route.tokens
    · obtain ⟨parameter, hmem, rfl⟩ := Token.mem_paramNames_iff.mp hname
      exact get?_eq_of_haveValues hgive hgiven parameter (Token.mem_filterMap_param?_iff.mpr hmem)
    · rw [hother name hname]
      cases hvalue : params.get? name with
      | none => rfl
      | some value =>
        obtain ⟨parameter, hmem, hdisplay, -⟩ := hparams name value hvalue
        exact absurd (Token.mem_paramNames_iff.mpr ⟨parameter, hmem, hdisplay⟩) hname

/-- The pattern `/Users/:id/:rest*` takes from a path the list that the path was built of. -/
theorem exists_params?_users_path :
    ∃ route path found, Route.create "/Users/:id/:rest*" {} = .ok route ∧
      route.build [("id", .single "7"), ("rest", .list ["a", "b"])] = .ok path ∧
      route.params? path = some found ∧ found.get? "rest" = some (.list ["a", "b"]) := by
  let single : Param := ⟨.named "id", "[^/]+?", some '/', .one⟩
  let list : Param := ⟨.named "rest", "[^/]+?", some '/', .zeroOrMore⟩
  have htokens : tokenize '/' "/Users/:id/:rest*" =
      .ok [.literal "/Users", .param single, .param list] := by with_unfolding_all rfl
  have hplain : ∀ token ∈ [.literal "/Users", .param single, .param list],
      Token.IsPlain '/' token := by decide
  obtain ⟨route, hroute, hroutes⟩ :=
    @exists_create_of_isPlain _ {} .standard _ rfl htokens hplain
  rw [← hroutes] at hplain
  let takens : List Taken := [some ["7".toList], some ["a".toList, "b".toList]]
  let params : Params := [("id", .single "7"), ("rest", .list ["a", "b"])]
  have hsingle : single.Takes '/' (some ["7".toList]) := by decide
  have hlist : list.Takes '/' (some ["a".toList, "b".toList]) := by decide
  obtain ⟨_, hfills⟩ : ∃ parts, Fills {} route.tokens parts takens := by
    rw [hroutes]
    exact ⟨_, .literal (sameText_refl _ _) (.param hsingle (.param hlist .nil))⟩
  have hgiven : Token.HaveValues params route.tokens takens := by
    rw [hroutes]
    exact .cons (by decide) (.cons (by decide) .nil)
  have hfits : ∀ name value, params.get? name = some value → ∃ parameter,
      .param parameter ∈ route.tokens ∧ parameter.name.display = name ∧ parameter.Fits value := by
    intro name value hvalue
    rw [hroutes]
    rw [Params.get?_cons, Params.get?_cons, Params.get?_nil] at hvalue
    split at hvalue
    · next hname => exact ⟨single, by simp, hname, Option.some.inj hvalue ▸ rfl⟩
    · split at hvalue
      · next hname => exact ⟨list, by simp, hname, Option.some.inj hvalue ▸ ⟨rfl, by simp⟩⟩
      · cases hvalue
  have hsegments : ∀ segment ∈ segments '/' route.tokens, segment.length = 1 := by
    rw [hroutes]
    decide
  have hone : ∀ parameter, .param parameter ∈ route.tokens.dropLast →
      parameter.quantifier = .one := by
    rw [hroutes]
    simp [single]
  obtain ⟨_, hbuild, -⟩ := exists_build_of_fills hroute hplain hfills hgiven
  obtain ⟨found, hfound, hget⟩ :=
    exists_params?_of_build hroute hplain hsegments hone hfits hbuild
  exact ⟨route, _, found, hroute, hbuild, hfound, (hget "rest").trans (by decide)⟩

end RoutePatterns.Route
