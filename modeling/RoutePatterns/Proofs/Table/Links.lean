import RoutePatterns.Proofs.Route.Groups
import RoutePatterns.Proofs.Table.Clients
import RoutePatterns.Proofs.Table.Lookup

/-!
# Links

A path that a route builds of values is a link. The router builds it from the parts of the pattern
and the checks of the values, without the expression that paths are matched with. For a route whose
parameters have no groups of their own the two agree, so that it accepts whatever it builds. A
router has only routes that were made of patterns (`Router.exists_create_of_mem_added`), so that
every such link leads to a route of no lower score (`Router.exists_lookup_of_build`), whatever other
routes there are.
-/

set_option autoImplicit false
set_option relaxedAutoImplicit false

namespace RoutePatterns

namespace Router

variable {router : Router} {call : Call} {calls : List Call} {route : Route}

/-- The request is for a pattern. -/
def IsForPattern : Request → Prop
  | .add _ _ | .addEntry _ => True
  | .insert _ | .lookup _ => False

theorem isForPattern_of_mem_entryRequests {table : RouteTable} {entries : List RouteEntry}
    {request : Request} (h : request ∈ entryRequests table entries) : IsForPattern request := by
  induction entries with
  | nil => cases h
  | cons entry entries ih =>
    unfold entryRequests entryRequest? at h
    split at h
    · cases h
    · next hrequest =>
      split_ifs at hrequest
      obtain rfl := Option.some.inj hrequest
      rcases List.mem_cons.mp h with rfl | hmem
      · trivial
      · split_ifs at hmem
        · exact ih hmem
        · cases hmem

/-- A router asks its table for patterns only. -/
theorem isForPattern_of_mem_requests {request : Request} (h : request ∈ router.requests call) :
    IsForPattern request := by
  cases call with
  | add pattern options =>
    change request ∈ (addRequest? pattern options).toList at h
    unfold addRequest? at h
    split_ifs at h
    · cases h
    · obtain rfl := List.mem_singleton.mp h
      trivial
  | addEntry entry =>
    change request ∈ (entryRequest? entry).toList at h
    unfold entryRequest? at h
    split_ifs at h
    · cases h
    · obtain rfl := List.mem_singleton.mp h
      trivial
  | addEntries entries => exact isForPattern_of_mem_entryRequests h

/-- The routes that calls add to a router are made of patterns. -/
theorem exists_create_of_mem_added (h : route ∈ router.added calls) :
    ∃ pattern options, Route.create pattern options router.table.weights = .ok route := by
  obtain ⟨request, hrequest, hroute⟩ := List.mem_filterMap.mp h
  obtain ⟨call, -, hcall⟩ := List.mem_flatMap.mp hrequest
  have hpattern := isForPattern_of_mem_requests hcall
  cases request with
  | add pattern options => exact ⟨_, _, eq_ok_of_toOption hroute⟩
  | addEntry entry => exact ⟨_, _, eq_ok_of_toOption hroute⟩
  | insert route => exact hpattern.elim
  | lookup path => exact hpattern.elim

end Router

/-- The routes that a router is made with are made of patterns. -/
theorem RouterOrigin.exists_create_of_mem_routes {origin : RouterOrigin} {route : Route}
    (h : route ∈ origin.routes) :
    ∃ pattern options weights, Route.create pattern options weights = .ok route := by
  cases origin with
  | standard => cases h
  | create config => cases h
  | ofEntries entries config =>
    obtain ⟨pattern, options, hroute⟩ := Router.exists_create_of_mem_added h
    exact ⟨pattern, options, _, hroute⟩

/-- Assumes: scores that are numbers. However a router is made and whatever calls it served, the
path that it builds for a pattern belongs to the first route of that pattern, if the parameters of
the route have no groups of their own, and looking the path up finds a route of no lower score. -/
theorem Router.exists_lookup_of_build {origin : RouterOrigin} {router : Router}
    (horigin : origin.router = .ok router) (calls : List Router.Call)
    (hscores : ∀ route ∈ origin.routes ++ router.added calls, route.score.isNaN = false)
    {pattern : String} {route : Route}
    (hfirst : ((router.callAll calls).table.routes.find? fun route ↦ route.pattern == pattern) =
      some route)
    (hplain : ∀ token ∈ route.tokens, token.IsPlain route.options.delimiter)
    {params : Params} {path : String}
    (hbuild : (router.callAll calls).build pattern params = .ok path) :
    route.accepts path = true ∧
      ∃ hit, ((router.callAll calls).lookup path).1 = .ok hit ∧ route.score ≤ hit.score := by
  have hranks := (origin.ranks horigin fun route hroute ↦
    hscores route (List.mem_append_left _ hroute)).serveAll (calls.flatMap router.requests) hscores
  rw [← Router.callAll_table] at hranks
  have hmem : route ∈ origin.routes ++ router.added calls := by
    refine hranks.perm.mem_iff.mp (Array.mem_toList_iff.mpr ?_)
    exact Array.mem_of_find?_eq_some hfirst
  have hcreate : ∃ pattern options weights, Route.create pattern options weights = .ok route := by
    rcases List.mem_append.mp hmem with horiginal | hadded
    · exact RouterOrigin.exists_create_of_mem_routes horiginal
    · obtain ⟨pattern, options, hroute⟩ := Router.exists_create_of_mem_added hadded
      exact ⟨pattern, options, _, hroute⟩
  obtain ⟨spelling, options, weights, hroute⟩ := hcreate
  have hoptions : route.options = options := by
    obtain ⟨-, _, _, -, -, rfl⟩ := Route.create_eq_ok_iff.mp hroute
    rfl
  subst hoptions
  have hbuilt : route.build params = .ok path := by
    rw [Router.build, hfirst] at hbuild
    exact eq_ok_of_mapError hbuild
  have hfree := Route.isFree_of_create hroute fun token htoken ↦ Or.inl (hplain token htoken)
  have haccepts : route.accepts path = true := hfree.accepts_of_build hbuilt
  have hsome : (route.params? path).isSome = true :=
    (Matcher.isSome_params? route.matcher path).trans haccepts
  obtain ⟨_, found, values, hbest, -, hlookup⟩ :=
    hranks.exists_lookup_eq_ok hscores ⟨route, hmem, hsome⟩
  have hhit : ((router.callAll calls).lookup path).1 =
      .ok ⟨path, values, found.pattern, found.score⟩ := by
    simp only [Router.lookup, hlookup, Except.mapError]
  exact ⟨haccepts, _, hhit, hbest.top.highest route hmem hsome⟩

/-- A link to a user leads to a route, though a pattern with a group of its own is tried before the
pattern that the link was built for. -/
theorem Router.exists_lookup_of_build_user :
    ∃ route path hit,
      ((Router.standard.callAll [.add "/users/(\\d+)" none,
        .addEntries [.ofPattern "/users/:id"]]).table.routes.find? fun route ↦
          route.pattern == "/users/:id") = some route ∧
      (Router.standard.callAll [.add "/users/(\\d+)" none,
        .addEntries [.ofPattern "/users/:id"]]).build "/users/:id" [("id", .single "7")] =
          .ok path ∧
      ((Router.standard.callAll [.add "/users/(\\d+)" none,
        .addEntries [.ofPattern "/users/:id"]]).lookup path).1 = .ok hit ∧
      route.score ≤ hit.score := by
  let calls : List Router.Call :=
    [.add "/users/(\\d+)" none, .addEntries [.ofPattern "/users/:id"]]
  let found := (Router.standard.callAll calls).table.routes.find? fun route ↦
    route.pattern == "/users/:id"
  let built := (Router.standard.callAll calls).build "/users/:id" [("id", .single "7")]
  have hfound : ∃ route ∈ found, ∀ token ∈ route.tokens, token.IsPlain route.options.delimiter := by
    decide +kernel
  have hbuilt : built.toOption.isSome = true := by decide +kernel
  obtain ⟨route, hroute, hplain⟩ := hfound
  obtain ⟨path, hpath⟩ := Option.isSome_iff_exists.mp hbuilt
  have hbuild := eq_ok_of_toOption hpath
  obtain ⟨-, hit, hhit, hscore⟩ := @Router.exists_lookup_of_build .standard _ rfl calls
    (by decide +kernel) _ _ hroute hplain _ _ hbuild
  exact ⟨route, path, hit, hroute, hbuild, hhit, hscore⟩

end RoutePatterns
