import RoutePatterns.Proofs.Matcher.Values
import RoutePatterns.Proofs.Route.Acceptance

/-!
# Routes with groups of their own

The text of a group is put between parentheses twice: in the check of one value and in the
expression for whole paths. If the text is an expression on its own and has no conditions, the two
agree, and a route accepts what it builds (`Route.accepts_of_build_of_isFree`). A text that closes
the parenthesis around it can make them differ (`Route.exists_build_of_unbalanced`).

Under the same condition the values of a path make a path again if the checks accept the elements of
the lists among them, which they do if no value contains its separator
(`Route.exists_build_iff_of_params?`). A list whose values contain the separator is not taken from a
path as it was put in (`Route.exists_params?_of_separated`).
-/

set_option autoImplicit false
set_option relaxedAutoImplicit false

namespace RoutePatterns.Route

variable {pattern : String} {options : PatternOptions} {weights : Weights Float} {route : Route}

theorem isFree_of_create (hroute : Route.create pattern options weights = .ok route)
    (hgroups : ∀ token ∈ route.tokens, token.IsPlain options.delimiter ∨ token.IsFree options) :
    route.matcher.IsFree options := by
  obtain ⟨hoptions, tokens, matcher, htokens, hmatcher, rfl⟩ := create_eq_ok_iff.mp hroute
  refine Matcher.isFree_of_ofTokens hoptions htokens hmatcher fun token htoken ↦ ?_
  exact (hgroups token htoken).elim Token.IsPlain.isFree id

/-! ### Building -/

/-- Assumes: groups of their own that are expressions without conditions. The route accepts what it
builds of any values. -/
theorem accepts_of_build_of_isFree (hroute : Route.create pattern options weights = .ok route)
    (hgroups : ∀ token ∈ route.tokens, token.IsPlain options.delimiter ∨ token.IsFree options)
    {params : Params} {path : String} (hbuild : route.build params = .ok path) :
    route.accepts path = true :=
  (isFree_of_create hroute hgroups).accepts_of_build hbuild

/-- The pattern `/users/:id(\d+)/:tags(a|b)*` accepts the path that it builds of a list. -/
theorem accepts_of_build_users_tags :
    ∃ route path, Route.create "/users/:id(\\d+)/:tags(a|b)*" {} = .ok route ∧
      (∀ token ∈ route.tokens, token.IsPlain '/' ∨ token.IsFree {}) ∧
      route.build [("id", .single "7"), ("tags", .list ["a", "B"])] = .ok path ∧
      route.accepts path = true := by
  have hcreated : ∃ route ∈ (Route.create "/users/:id(\\d+)/:tags(a|b)*" {}).toOption,
      (∀ token ∈ route.tokens, token.IsPlain '/' ∨ token.IsFree {}) ∧
        (route.build [("id", .single "7"), ("tags", .list ["a", "B"])]).toOption.isSome = true := by
    with_unfolding_all decide
  obtain ⟨route, hroute, hgroups, hbuilt⟩ := hcreated
  obtain ⟨path, hpath⟩ := Option.isSome_iff_exists.mp hbuilt
  refine ⟨route, path, eq_ok_of_toOption hroute, hgroups, eq_ok_of_toOption hpath, ?_⟩
  exact accepts_of_build_of_isFree (eq_ok_of_toOption hroute) hgroups (eq_ok_of_toOption hpath)

/-- The group of the pattern `/:x([(])|(?:[)])` closes the parenthesis around it. In the check, the
ends of the value are then in different branches, and a value gets through that the route does not
accept. -/
theorem exists_build_of_unbalanced :
    ∃ route, Route.create "/:x([(])|(?:[)])" {} = .ok route ∧
      route.build [("x", .single "(a")] = .ok "/(a" ∧ route.accepts "/(a" = false := by
  have hcreated : ∃ route ∈ (Route.create "/:x([(])|(?:[)])" {}).toOption,
      route.build [("x", .single "(a")] = .ok "/(a" ∧ route.accepts "/(a" = false := by
    with_unfolding_all decide
  obtain ⟨route, hroute, hrefused⟩ := hcreated
  exact ⟨route, eq_ok_of_toOption hroute, hrefused⟩

/-! ### Values of a path -/

/-- Assumes: groups of their own that are expressions without conditions. The values of a path can
be built exactly if the checks accept the elements of all lists among them. They do if no value that
the check of a repeating slot accepts contains its separator. -/
theorem exists_build_iff_of_params? (hroute : Route.create pattern options weights = .ok route)
    (hgroups : ∀ token ∈ route.tokens, token.IsPlain options.delimiter ∨ token.IsFree options)
    {path : String} {params : Params} (hfound : route.params? path = some params) :
    ((∃ built, route.build params = .ok built) ↔
      ∀ slot ∈ route.matcher.slots, ∀ values, params.get? slot.name = some (.list values) →
        ∀ value ∈ values, slot.check.isMatch value = true) ∧
    ((∀ slot ∈ route.matcher.slots, slot.isRepeating = true →
        ∀ value, slot.check.isMatch value = true → slot.separator ∉ value.toList) →
      ∃ built, route.build params = .ok built) := by
  have hfree := isFree_of_create hroute hgroups
  have hbuild := hfree.exists_build_iff hfound
  exact ⟨hbuild, fun hcut ↦ hbuild.mpr (hfree.forall_isMatch hfound hcut)⟩

/-- The pattern `/:x(a)+` builds a path again of the list that it takes from one. -/
theorem exists_build_letters_path :
    ∃ route params built, Route.create "/:x(a)+" {} = .ok route ∧
      route.params? "/a/A" = some params ∧ route.build params = .ok built := by
  have hcreated : ∃ route ∈ (Route.create "/:x(a)+" {}).toOption,
      (∀ token ∈ route.tokens, token.IsPlain '/' ∨ token.IsFree {}) ∧
        (∀ slot ∈ route.matcher.slots, slot.group = "a" ∧ slot.separator = '/') ∧
          (route.params? "/a/A").isSome = true := by
    with_unfolding_all decide
  obtain ⟨route, hroute, hgroups, hslots, hfound⟩ := hcreated
  obtain ⟨params, hparams⟩ := Option.isSome_iff_exists.mp hfound
  have hfree := isFree_of_create (eq_ok_of_toOption hroute) hgroups
  -- The check accepts one letter, which is not the separator.
  have hcut : ∀ slot ∈ route.matcher.slots, slot.isRepeating = true →
      ∀ value, slot.check.isMatch value = true → slot.separator ∉ value.toList := by
    intro slot hslot _ value hvalue
    obtain ⟨hgroup, hseparator⟩ := hslots slot hslot
    have hnode : slot.valueNode {} = PatternOptions.charNode {} 'a' := by
      have hread := (spells_charNode {} 'a').read?_eq
      have hescape : Regex.escapeChar 'a' = "a".toList := by decide
      rw [hescape, Param.ofItems_singleton] at hread
      rw [Slot.valueNode, hgroup, hread, Option.getD_some]
    rw [(hfree.slots_isFree slot hslot).isMatch_check_iff, hnode] at hvalue
    obtain ⟨char, hchar, hvalue⟩ := hvalue
    rw [hseparator, hvalue, List.mem_singleton]
    rintro rfl
    exact absurd hchar (by decide)
  obtain ⟨built, hbuilt⟩ :=
    (exists_build_iff_of_params? (eq_ok_of_toOption hroute) hgroups hparams).2 hcut
  exact ⟨route, params, built, eq_ok_of_toOption hroute, hparams, hbuilt⟩

/-- The pattern `/:x(a/b)+` takes one value with a separator in it for a list of two, neither of
which its group accepts. -/
theorem exists_params?_of_separated :
    ∃ route params, Route.create "/:x(a/b)+" {} = .ok route ∧
      (∀ token ∈ route.tokens, token.IsPlain '/' ∨ token.IsFree {}) ∧
      route.params? "/a/b" = some params ∧
      route.build params = .error (.valueMismatch "x" "a" "a/b") := by
  have hcreated : ∃ route ∈ (Route.create "/:x(a/b)+" {}).toOption,
      (∀ token ∈ route.tokens, token.IsPlain '/' ∨ token.IsFree {}) ∧
        ∃ params ∈ route.params? "/a/b",
          route.build params = .error (.valueMismatch "x" "a" "a/b") := by
    with_unfolding_all decide
  obtain ⟨route, hroute, hgroups, params, hparams, hrefused⟩ := hcreated
  exact ⟨route, params, eq_ok_of_toOption hroute, hgroups, hparams, hrefused⟩

end RoutePatterns.Route
