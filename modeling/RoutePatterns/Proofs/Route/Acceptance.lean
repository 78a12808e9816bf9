import RoutePatterns.Proofs.Matcher.Matches
import RoutePatterns.Route

/-!
# The paths of a route

`Route.create_eq_ok_iff` says when a route is made and of what. For a pattern whose parameters have
no groups of their own, `Route.exists_accepts_iff` says that the route is made and which paths
belong to it: those that are one text for each token, one after the other, and a tail. The grammar
does not mention regular expressions.
-/

set_option autoImplicit false
set_option relaxedAutoImplicit false

namespace RoutePatterns.Route

variable {pattern : String} {options : PatternOptions} {weights : Weights Float}

/-- A route is made if its options are in order, its pattern has tokens and these have a matcher. -/
theorem create_eq_ok_iff {route : Route} :
    Route.create pattern options weights = .ok route ↔
      options.validate = .ok () ∧ ∃ tokens matcher,
        tokenize options.delimiter pattern = .ok tokens ∧
        Matcher.ofTokens options tokens = .ok matcher ∧
        route =
          ⟨pattern, options, tokens, matcher, RoutePatterns.score options weights tokens⟩ := by
  unfold Route.create
  cases options.validate with
  | error error => simp
  | ok done =>
    cases htokens : tokenize options.delimiter pattern with
    | error error => simp
    | ok tokens =>
      cases hmatcher : Matcher.ofTokens options tokens with
      | error error => simp [Except.map, hmatcher]
      | ok matcher => simp [Except.map, hmatcher, eq_comm]

/-- What a route without groups of its own is made of. -/
theorem arePlain_of_create {route : Route}
    (hroute : Route.create pattern options weights = .ok route)
    (hplain : ∀ token ∈ route.tokens, token.IsPlain options.delimiter) :
    Token.ArePlain options route.tokens ∧
      Matcher.ofTokens options route.tokens = .ok route.matcher := by
  obtain ⟨hoptions, tokens, matcher, htokens, hmatcher, rfl⟩ := create_eq_ok_iff.mp hroute
  exact ⟨Token.arePlain_of_tokenize hoptions htokens hplain, hmatcher⟩

/-- A pattern whose parameters have no groups of their own makes a route. -/
theorem exists_create_of_isPlain {tokens : List Token} (hoptions : options.validate = .ok ())
    (htokens : tokenize options.delimiter pattern = .ok tokens)
    (hplain : ∀ token ∈ tokens, token.IsPlain options.delimiter) :
    ∃ route, Route.create pattern options weights = .ok route ∧ route.tokens = tokens := by
  obtain ⟨matcher, hmatcher, -⟩ := Matcher.ofTokens_of_isPlain hplain
  exact ⟨_, create_eq_ok_iff.mpr ⟨hoptions, tokens, matcher, htokens, hmatcher, rfl⟩, rfl⟩

/-- The paths of a route whose parameters have no groups of their own. -/
theorem accepts_iff_exists_fills {route : Route}
    (hroute : Route.create pattern options weights = .ok route)
    (hplain : ∀ token ∈ route.tokens, token.IsPlain options.delimiter) {path : String} :
    route.accepts path = true ↔
      ∃ parts takens tail, Fills options route.tokens parts takens ∧ IsTail options tail ∧
        path.toList = parts.flatten ++ tail := by
  obtain ⟨harePlain, hmatcher⟩ := arePlain_of_create hroute hplain
  exact Matcher.accepts_iff harePlain hmatcher

/-- A pattern whose parameters have no groups of their own makes a route under options that are in
order, and the paths of the route are one text for each token, one after the other, and a tail. -/
theorem exists_accepts_iff {tokens : List Token} (hoptions : options.validate = .ok ())
    (htokens : tokenize options.delimiter pattern = .ok tokens)
    (hplain : ∀ token ∈ tokens, token.IsPlain options.delimiter) :
    ∃ route, Route.create pattern options weights = .ok route ∧ ∀ path,
      route.accepts path = true ↔ ∃ parts tail,
        List.Forall₂ (Token.Contributes options) tokens parts ∧ IsTail options tail ∧
        path.toList = parts.flatten ++ tail := by
  obtain ⟨route, hroute, rfl⟩ := exists_create_of_isPlain hoptions htokens hplain
  refine ⟨route, hroute, fun path ↦ ?_⟩
  rw [accepts_iff_exists_fills hroute hplain]
  constructor
  · rintro ⟨parts, takens, tail, hfills, htail, hpath⟩
    exact ⟨parts, tail, forall₂_contributes_iff.mpr ⟨takens, hfills⟩, htail, hpath⟩
  · rintro ⟨parts, tail, hparts, htail, hpath⟩
    obtain ⟨takens, hfills⟩ := forall₂_contributes_iff.mp hparts
    exact ⟨parts, takens, tail, hfills, htail, hpath⟩

/-- The pattern `/:user/:tail*` takes a list of any length and lets a delimiter follow. -/
theorem exists_accepts_user_tail :
    ∃ route, Route.create "/:user/:tail*" {} = .ok route ∧ route.accepts "/ann/a/b/" = true := by
  let user : Param := ⟨.named "user", "[^/]+?", some '/', .one⟩
  let list : Param := ⟨.named "tail", "[^/]+?", some '/', .zeroOrMore⟩
  have htokens : tokenize '/' "/:user/:tail*" = .ok [.param user, .param list] := by
    with_unfolding_all rfl
  have hplain : ∀ token ∈ [Token.param user, .param list], token.IsPlain '/' := by decide
  obtain ⟨route, hroute, haccepts⟩ :=
    @exists_accepts_iff _ {} .standard _ rfl htokens hplain
  refine ⟨route, hroute, (haccepts _).mpr ⟨["/ann".toList, "/a/b".toList], ['/'], ?_, ?_, ?_⟩⟩
  · have huser : user.Takes '/' (some ["ann".toList]) := by decide
    have hlist : list.Takes '/' (some ["a".toList, "b".toList]) := by decide
    exact .cons ⟨_, huser, by decide⟩ (.cons ⟨_, hlist, by decide⟩ .nil)
  · exact Or.inr ⟨rfl, rfl⟩
  · decide

end RoutePatterns.Route
