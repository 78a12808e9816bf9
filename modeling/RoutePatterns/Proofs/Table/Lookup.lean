import RoutePatterns.Proofs.Table.Requests

/-!
# The route that is found

Of the routes that were added to a table, a path can belong to several. Those of the highest score
are on top (`IsTop`), and the first of them to be added is the best one (`IsBest`). A ranked table
finds a route exactly if the path belongs to any (`RouteTable.Ranks.find?_eq_none_iff`), and it
finds the best one (`RouteTable.Ranks.exists_isBest_of_find?`). So does a table that was empty,
whatever it has been asked to do (`RouteTable.lookup_serveAll`). The score found does not depend on
the order in which the same routes are added, nor does the route if a single one is on top.
-/

set_option autoImplicit false
set_option relaxedAutoImplicit false

namespace RoutePatterns

/-- The path belongs to the route, and to none of the routes that has a higher score. -/
structure IsTop (routes : List Route) (path : String) (route : Route) : Prop where
  mem : route ∈ routes
  accepts : (route.params? path).isSome = true
  highest : ∀ other ∈ routes, (other.params? path).isSome = true → other.score ≤ route.score

/-- Of the routes on top, the one at `index` is the first. -/
structure IsBest (routes : List Route) (path : String) (index : ℕ) (route : Route) : Prop where
  get : routes[index]? = some route
  top : IsTop routes path route
  earliest : ∀ (place : ℕ) (other : Route), routes[place]? = some other →
    IsTop routes path other → index ≤ place

variable {routes routes' : List Route} {path : String} {route route' : Route}

theorem IsTop.perm (htop : IsTop routes path route) (hperm : routes.Perm routes') :
    IsTop routes' path route where
  mem := hperm.mem_iff.mp htop.mem
  accepts := htop.accepts
  highest other hother := htop.highest other (hperm.mem_iff.mpr hother)

theorem IsTop.score_beq (htop : IsTop routes path route) (htop' : IsTop routes path route') :
    (route.score == route'.score) = true :=
  Score.beq_of_le_of_le (htop'.highest route htop.mem htop.accepts)
    (htop.highest route' htop'.mem htop'.accepts)

namespace RouteTable

variable {table : RouteTable} {added : List Route} {params : Params}

/-- A ranked table finds no route exactly if the path belongs to none that was added. -/
theorem Ranks.find?_eq_none_iff (hranks : table.Ranks added) :
    table.find? path = none ↔ ∀ route ∈ added, route.params? path = none := by
  rw [find?, List.findSome?_eq_none_iff]
  constructor
  · intro hnone route hroute
    exact Option.map_eq_none_iff.mp (hnone route (hranks.perm.mem_iff.mpr hroute))
  · intro hnone route hroute
    exact Option.map_eq_none_iff.mpr (hnone route (hranks.perm.mem_iff.mp hroute))

/-- Assumes: scores that are numbers. The route that a ranked table finds is the best one. -/
theorem Ranks.exists_isBest_of_find? (hranks : table.Ranks added)
    (hadded : ∀ route ∈ added, route.score.isNaN = false)
    (hfind : table.find? path = some (route, params)) :
    route.params? path = some params ∧ ∃ index, IsBest added path index route := by
  obtain ⟨entries, hentries, hperm, hordered⟩ := hranks
  rw [find?, ← hentries, List.findSome?_map, List.findSome?_eq_some_iff] at hfind
  obtain ⟨before, ⟨found, index⟩, after, rfl, hfound, hbefore⟩ := hfind
  obtain ⟨_, hparams, heq⟩ := Option.map_eq_some_iff.mp hfound
  obtain ⟨rfl, rfl⟩ := Prod.mk.inj heq
  have hget {other : Route} {place : ℕ} :
      (other, place) ∈ before ++ (found, index) :: after ↔ added[place]? = some other := by
    rw [hperm.mem_iff, List.mem_zipIdx_iff_getElem?]
  have hindex : added[index]? = some found := hget.mp (by simp)
  have hnumber := hadded found (List.mem_of_getElem? hindex)
  -- Any other route that the path belongs to stands after the one found.
  have hlater {other : Route} {place : ℕ} (hother : added[place]? = some other)
      (haccepts : (other.params? path).isSome = true) :
      (other, place) = (found, index) ∨ Precedes (found, index) (other, place) := by
    rcases List.mem_append.mp (hget.mpr hother) with hmem | hmem
    · have hnone : other.params? path = none := Option.map_eq_none_iff.mp (hbefore _ hmem)
      rw [hnone] at haccepts
      exact absurd haccepts Bool.false_ne_true
    · rcases List.mem_cons.mp hmem with heq | hmem
      · exact Or.inl heq
      · have hafter := (List.pairwise_append.mp hordered).2.1
        exact Or.inr ((List.pairwise_cons.mp hafter).1 _ hmem)
  refine ⟨hparams, index, hindex, ⟨List.mem_of_getElem? hindex, ?_, ?_⟩, ?_⟩
  · rw [hparams]
    rfl
  · intro other hother haccepts
    obtain ⟨place, hplace⟩ := List.mem_iff_getElem?.mp hother
    rcases hlater hplace haccepts with heq | hprecedes
    · obtain ⟨rfl, -⟩ := Prod.mk.inj heq
      exact Score.le_refl hnumber
    · exact hprecedes.1
  · intro place other hplace htop
    rcases hlater hplace htop.accepts with heq | hprecedes
    · exact (Prod.mk.inj heq).2.ge
    · have hle := htop.highest found (List.mem_of_getElem? hindex) (by rw [hparams]; rfl)
      exact (hprecedes.2 hle).le

theorem Ranks.lookup_eq_error_iff (hranks : table.Ranks added) :
    (table.lookup path).1 = .error (.noMatch path) ↔
      ∀ route ∈ added, route.params? path = none := by
  rw [← hranks.find?_eq_none_iff, lookup]
  rcases table.find? path with _ | _
  · exact iff_of_true rfl rfl
  · exact iff_of_false (fun h ↦ by cases h) (Option.some_ne_none _)

/-- Assumes: scores that are numbers. A path that is looked up in a ranked table is found to belong
to the best route. -/
theorem Ranks.exists_lookup_eq_ok (hranks : table.Ranks added)
    (hadded : ∀ route ∈ added, route.score.isNaN = false)
    (haccepts : ∃ route ∈ added, (route.params? path).isSome = true) :
    ∃ index route params, IsBest added path index route ∧ route.params? path = some params ∧
      (table.lookup path).1 = .ok ⟨path, params, route.pattern, route.score⟩ := by
  rcases hfind : table.find? path with _ | ⟨route, params⟩
  · obtain ⟨route, hroute, hsome⟩ := haccepts
    rw [hranks.find?_eq_none_iff.mp hfind route hroute] at hsome
    exact absurd hsome Bool.false_ne_true
  · obtain ⟨hparams, index, hbest⟩ := hranks.exists_isBest_of_find? hadded hfind
    refine ⟨index, route, params, hbest, hparams, ?_⟩
    rw [lookup, hfind]

/-- Assumes: scores that are numbers. In two tables that hold the same routes in any two orders, a
path is found with the same score, and alike if a single route is on top. -/
theorem Ranks.lookup_of_perm {table' : RouteTable} {added' : List Route}
    (hranks : table.Ranks added) (hranks' : table'.Ranks added') (hperm : added.Perm added')
    (hadded : ∀ route ∈ added, route.score.isNaN = false) :
    (∀ hit, (table.lookup path).1 = .ok hit →
        ∃ hit', (table'.lookup path).1 = .ok hit' ∧ (hit.score == hit'.score) = true) ∧
      ((∀ route route', IsTop added path route → IsTop added path route' → route = route') →
        (table'.lookup path).1 = (table.lookup path).1) := by
  have hadded' : ∀ route ∈ added', route.score.isNaN = false :=
    fun route hroute ↦ hadded route (hperm.mem_iff.mpr hroute)
  by_cases haccepts : ∃ route ∈ added, (route.params? path).isSome = true
  · have haccepts' : ∃ route ∈ added', (route.params? path).isSome = true := by
      obtain ⟨route, hroute, hsome⟩ := haccepts
      exact ⟨route, hperm.mem_iff.mp hroute, hsome⟩
    obtain ⟨_, route, params, hbest, hparams, hlookup⟩ := hranks.exists_lookup_eq_ok hadded haccepts
    obtain ⟨_, route', params', hbest', hparams', hlookup'⟩ :=
      hranks'.exists_lookup_eq_ok hadded' haccepts'
    have htop' := hbest'.top.perm hperm.symm
    constructor
    · intro hit hhit
      obtain rfl := Except.ok.inj (hlookup.symm.trans hhit)
      exact ⟨_, hlookup', hbest.top.score_beq htop'⟩
    · intro hunique
      obtain rfl := hunique route route' hbest.top htop'
      obtain rfl := Option.some.inj (hparams.symm.trans hparams')
      rw [hlookup, hlookup']
  · have hnone : ∀ route ∈ added, route.params? path = none := by
      intro route hroute
      by_contra hsome
      exact haccepts ⟨route, hroute, Option.isSome_iff_ne_none.mpr hsome⟩
    have hlookup := hranks.lookup_eq_error_iff.mpr hnone
    have hlookup' := hranks'.lookup_eq_error_iff.mpr fun route hroute ↦
      hnone route (hperm.mem_iff.mpr hroute)
    constructor
    · intro hit hhit
      rw [hlookup] at hhit
      cases hhit
    · intro _
      rw [hlookup, hlookup']

/-- Assumes: an empty table and scores that are numbers. After any requests, a path is refused
exactly if it belongs to none of the routes that were added, and else is found to belong to the best
one. Of two tables to which the same routes were added in any orders, both find the same score, and
the same route if a single one is on top. -/
theorem lookup_serveAll (hempty : table.routes = #[]) (requests : List Request)
    (hscores : ∀ route ∈ table.added requests, route.score.isNaN = false) (path : String) :
    (((table.serveAll requests).lookup path).1 = .error (.noMatch path) ↔
        ∀ route ∈ table.added requests, route.params? path = none) ∧
      ((∃ route ∈ table.added requests, (route.params? path).isSome = true) →
        ∃ index route params, IsBest (table.added requests) path index route ∧
          route.params? path = some params ∧
            ((table.serveAll requests).lookup path).1 =
              .ok ⟨path, params, route.pattern, route.score⟩) ∧
      ∀ (table' : RouteTable) (requests' : List Request), table'.routes = #[] →
        (table.added requests).Perm (table'.added requests') →
          (∀ hit, ((table.serveAll requests).lookup path).1 = .ok hit →
            ∃ hit', ((table'.serveAll requests').lookup path).1 = .ok hit' ∧
              (hit.score == hit'.score) = true) ∧
          ((∀ route route', IsTop (table.added requests) path route →
              IsTop (table.added requests) path route' → route = route') →
            ((table'.serveAll requests').lookup path).1 =
              ((table.serveAll requests).lookup path).1) := by
  have hranks := ranks_serveAll hempty requests hscores
  refine ⟨hranks.lookup_eq_error_iff, hranks.exists_lookup_eq_ok hscores, ?_⟩
  intro table' requests' hempty' hperm
  have hscores' : ∀ route ∈ table'.added requests', route.score.isNaN = false :=
    fun route hroute ↦ hscores route (hperm.mem_iff.mpr hroute)
  exact hranks.lookup_of_perm (ranks_serveAll hempty' requests' hscores') hperm hscores

/-- A path that belongs to both routes of a table is found to belong to the best one. -/
theorem exists_lookup_files_list :
    ∃ index route params,
      IsBest ((empty {}).added [.add "/files/:name" none, .add "/files/list" none]) "/files/list"
          index route ∧
        route.params? "/files/list" = some params ∧
          (((empty {}).serveAll [.add "/files/:name" none, .add "/files/list" none]).lookup
              "/files/list").1 = .ok ⟨"/files/list", params, route.pattern, route.score⟩ :=
  (lookup_serveAll rfl [.add "/files/:name" none, .add "/files/list" none] (by decide +kernel)
    "/files/list").2.1 (by decide +kernel)

end RouteTable

end RoutePatterns
