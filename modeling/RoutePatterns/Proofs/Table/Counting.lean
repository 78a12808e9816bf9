import RoutePatterns.Proofs.Table.Clients

/-!
# What tables count

A request that adds a route makes a table longer by one, a refused pattern changes nothing but the
number of refusals (`RouteTable.serve_of_refuses`), and a lookup changes nothing but the numbers of
lookups and misses. So the counters of a table tell what it has been asked to do
(`RouteTable.counters_serveAll`).

Tables can be cloned. Those that are held side by side change by what each of them is asked
(`run_getElem?`), so that every one has the counters of its own history, which for a clone goes on
from that of its original (`run_serve`). The main statement is `counters_of_run`.
-/

set_option autoImplicit false
set_option relaxedAutoImplicit false

namespace RoutePatterns

/-! ### One request -/

namespace RouteTable

/-- Whether the table refuses to add the pattern of the request. -/
def refuses (table : RouteTable) : Request → Bool
  | .add pattern options => !(table.add pattern options).1.isOk
  | .addEntry entry => !(table.addEntry entry).1.isOk
  | .insert _ => false
  | .lookup _ => false

/-- Whether the request looks a path up. -/
def looksUp : Request → Bool
  | .lookup _ => true
  | _ => false

/-- Whether the request looks a path up that the table finds to belong to no route. -/
def misses (table : RouteTable) : Request → Bool
  | .lookup path =>
    match (table.lookup path).1 with
    | .error (.noMatch _) => true
    | _ => false
  | _ => false

variable {table : RouteTable}

theorem size_insert (table : RouteTable) (route : Route) :
    (table.insert route).2.size = table.size + 1 := by
  have hlength := (table.perm_insert route).length_eq
  rwa [Array.length_toList, List.length_cons, Array.length_toList] at hlength

theorem serve_add_of_refuses {pattern : String} {options : Option PatternOptions}
    (h : table.refuses (.add pattern options) = true) :
    table.serve (.add pattern options) =
      { table with counters := { table.counters with rejected := table.counters.rejected + 1 } } := by
  rcases table.add_cases pattern options with ⟨route, -, hadd⟩ | ⟨-, error, -, hadd⟩
  · rw [refuses, hadd] at h
    cases h
  · exact congrArg Prod.snd hadd

/-- A refused pattern is counted and changes nothing else. -/
theorem serve_of_refuses {request : Request} (h : table.refuses request = true) :
    table.serve request =
      { table with counters := { table.counters with rejected := table.counters.rejected + 1 } } := by
  cases request with
  | add pattern options => exact serve_add_of_refuses h
  | addEntry entry => exact serve_add_of_refuses h
  | insert route => cases h
  | lookup path => cases h

/-- The counters after a request that comes to a table with these counters: each goes up by one if
the request is what it counts. -/
def countedUp (table : RouteTable) (request : Request) : Counters where
  registered := table.counters.registered + (table.route? request).isSome.toNat
  rejected := table.counters.rejected + (table.refuses request).toNat
  lookups := table.counters.lookups + (looksUp request).toNat
  misses := table.counters.misses + (table.misses request).toNat

theorem counters_serve_add (table : RouteTable) (pattern : String)
    (options : Option PatternOptions) :
    (table.add pattern options).2.counters = table.countedUp (.add pattern options) := by
  rcases table.add_cases pattern options with ⟨route, hroute, hadd⟩ | ⟨hroute, error, -, hadd⟩
  · rw [countedUp, refuses, hroute, hadd]
    rfl
  · rw [countedUp, refuses, hroute, hadd]
    rfl

theorem counters_serve (table : RouteTable) (request : Request) :
    (table.serve request).counters = table.countedUp request := by
  cases request with
  | add pattern options => exact table.counters_serve_add pattern options
  | addEntry entry =>
    exact table.counters_serve_add entry.pattern (some (entry.optionsInForce table.shared))
  | insert route => rfl
  | lookup path =>
    rw [serve, countedUp, misses, lookup]
    rcases table.find? path with _ | ⟨route, params⟩
    · rfl
    · rfl

theorem size_serve (table : RouteTable) (request : Request) :
    (table.serve request).size = table.size + (table.route? request).isSome.toNat := by
  rw [size, routes_serve]
  rcases table.route? request with _ | route
  · rfl
  · exact table.size_insert route

/-! ### Several requests -/

/-- How many of the requests pass a test on the table at the time when they come. -/
def countAlong (test : RouteTable → Request → Bool) (table : RouteTable) : List Request → ℕ
  | [] => 0
  | request :: requests =>
    (test table request).toNat + countAlong test (table.serve request) requests

theorem size_serveAll (table : RouteTable) (requests : List Request) :
    (table.serveAll requests).size = table.size + (table.added requests).length := by
  induction requests generalizing table with
  | nil => rfl
  | cons request requests ih =>
    have hadded : (table.serve request).added = table.added := table.added_serveAll [request]
    change ((table.serve request).serveAll requests).size = _
    rw [ih, size_serve, added_cons, hadded, List.length_append, Nat.add_assoc]
    rcases table.route? request with _ | route <;> rfl

/-- What requests add to the counters is how many of them there are of each kind. -/
theorem counters_serveAll (table : RouteTable) (requests : List Request) :
    (table.serveAll requests).counters =
      { registered := table.counters.registered + (table.added requests).length
        rejected := table.counters.rejected + countAlong refuses table requests
        lookups := table.counters.lookups + requests.countP looksUp
        misses := table.counters.misses + countAlong misses table requests } := by
  induction requests generalizing table with
  | nil => rfl
  | cons request requests ih =>
    have hadded : (table.serve request).added = table.added := table.added_serveAll [request]
    have hlength : ((table.route? request).toList.length) =
        (table.route? request).isSome.toNat := by
      rcases table.route? request with _ | route <;> rfl
    change ((table.serve request).serveAll requests).counters = _
    rw [ih, counters_serve, added_cons, hadded, List.length_append, hlength, List.countP_cons,
      countAlong, countAlong]
    simp only [countedUp, Nat.add_assoc, Counters.mk.injEq, true_and]
    rcases looksUp request with _ | _
    · simp
    · simp [Nat.add_comm]

theorem countAlong_misses_le (table : RouteTable) (requests : List Request) :
    countAlong misses table requests ≤ requests.countP looksUp := by
  induction requests generalizing table with
  | nil => exact le_rfl
  | cons request requests ih =>
    have hrequest : (table.misses request).toNat ≤ if looksUp request then 1 else 0 := by
      cases request with
      | lookup path => exact Bool.toNat_le _
      | add pattern options => exact le_rfl
      | addEntry entry => exact le_rfl
      | insert route => exact le_rfl
    rw [countAlong, List.countP_cons, Nat.add_comm]
    exact Nat.add_le_add (ih _) hrequest

end RouteTable

/-- The table has counted its routes and nothing else. -/
def RouteTable.IsUnused (table : RouteTable) : Prop :=
  table.counters = ⟨table.size, 0, 0, 0⟩

theorem RouteTable.IsUnused.addEntries {table last : RouteTable} {entries : List RouteEntry}
    (hunused : table.IsUnused) (h : table.addEntries entries = .ok last) : last.IsUnused := by
  induction entries generalizing table with
  | nil =>
    obtain rfl := Except.ok.inj h
    exact hunused
  | cons entry entries ih =>
    rw [RouteTable.addEntries, addEntry] at h
    rcases table.add_cases entry.pattern (some (entry.optionsInForce table.shared)) with
      ⟨route, -, hadd⟩ | ⟨-, error, -, hadd⟩
    · rw [hadd] at h
      refine ih ?_ h
      rw [IsUnused] at hunused ⊢
      rw [size_insert, insert, hunused]
    · rw [hadd] at h
      cases h

theorem TableOrigin.isUnused {origin : TableOrigin} {table : RouteTable}
    (h : origin.table = .ok table) : table.IsUnused := by
  cases origin with
  | standard =>
    obtain rfl := Except.ok.inj h
    rfl
  | empty shared =>
    obtain rfl := Except.ok.inj h
    rfl
  | ofConfig config =>
    obtain rfl := Except.ok.inj h
    rfl
  | ofEntries entries shared =>
    have hempty : (RouteTable.empty shared).IsUnused := rfl
    exact hempty.addEntries h

/-! ### Tables side by side -/

namespace RouteTable

/-- What is done with tables that are held side by side, each of them named by its place. A clone
gets the place after all others. -/
inductive Action
  | ask (place : ℕ) (request : Request)
  | find (place : ℕ) (path : String)
  | rank (place : ℕ)
  | clone (place : ℕ)

section Runs

variable {σ τ : Type} {serve : σ → Request → σ} {serve' : τ → Request → τ}

/-- The states after an action, where `serve` tells what a request does to a state. -/
def act (serve : σ → Request → σ) (states : List σ) : Action → List σ
  | .ask place request => states.modify place fun state ↦ serve state request
  | .find _ _ => states
  | .rank _ => states
  | .clone place => states ++ states[place]?.toList

/-- The states after several actions. -/
def run (serve : σ → Request → σ) (states : List σ) (actions : List Action) : List σ :=
  actions.foldl (act serve) states

/-- The requests among the actions that the table at a place is asked. -/
def asked (place : ℕ) : List Action → List Request
  | [] => []
  | .ask other request :: actions =>
    if other = place then request :: asked place actions else asked place actions
  | _ :: actions => asked place actions

/-- What is at a place changes by the requests that it is asked, and by nothing else. -/
theorem run_getElem? {states : List σ} {place : ℕ} {state : σ} (h : states[place]? = some state)
    (actions : List Action) :
    (run serve states actions)[place]? = some ((asked place actions).foldl serve state) := by
  induction actions generalizing states state with
  | nil => exact h
  | cons action actions ih =>
    change (run serve (act serve states action) actions)[place]? = _
    cases action with
    | ask other request =>
      by_cases hother : other = place
      · rw [asked, if_pos hother]
        refine ih ?_
        rw [act, hother, List.getElem?_modify_eq, h]
        rfl
      · rw [asked, if_neg hother]
        refine ih ?_
        rw [act, List.getElem?_modify_ne _ _ hother, h]
    | find other path => exact ih h
    | rank other => exact ih h
    | clone other =>
      refine ih ?_
      rw [act, List.getElem?_append_left (List.getElem?_eq_some_iff.mp h).1, h]

/-- A clone is what its original is when it is cloned. -/
theorem act_clone {states : List σ} {place : ℕ} {state : σ} (h : states[place]? = some state) :
    (act serve states (.clone place))[states.length]? = some state := by
  rw [act, h, Option.toList_some, List.getElem?_concat_length]

theorem map_act {f : σ → τ} (hf : ∀ state request, f (serve state request) =
    serve' (f state) request) (states : List σ) (action : Action) :
    (act serve states action).map f = act serve' (states.map f) action := by
  cases action with
  | ask place request =>
    refine List.ext_getElem? fun other ↦ ?_
    rw [act, act, List.getElem?_map, List.getElem?_modify, List.getElem?_modify, List.getElem?_map]
    rcases states[other]? with _ | state
    · rfl
    · by_cases hother : place = other
      · simp [hother, hf]
      · simp [hother]
  | find place path => rfl
  | rank place => rfl
  | clone place =>
    rw [act, act, List.map_append, List.getElem?_map]
    rcases states[place]? with _ | state <;> rfl

theorem map_run {f : σ → τ} (hf : ∀ state request, f (serve state request) =
    serve' (f state) request) (states : List σ) (actions : List Action) :
    (run serve states actions).map f = run serve' (states.map f) actions := by
  induction actions generalizing states with
  | nil => rfl
  | cons action actions ih =>
    change (run serve (act serve states action) actions).map f =
      run serve' (act serve' (states.map f) action) actions
    rw [ih, map_act hf]

end Runs

/-- The requests that lead to each of the states, of which a clone has those of its original. -/
def histories (actions : List Action) : List (List Request) :=
  run (fun history request ↦ history ++ [request]) [[]] actions

/-- Each table that comes from one table has served its own history. -/
theorem run_serve (table : RouteTable) (actions : List Action) :
    run serve [table] actions = (histories actions).map table.serveAll :=
  (map_run (fun history request ↦ @serveAll_concat table history request) [[]] actions).symm

/-- A table and its clones, whatever they are asked and in whatever order. Each is the table that
its own history leads to, and counts what is in this history: the routes, the patterns refused, the
paths looked up and those of them that belong to no route. A refused pattern changes nothing but the
number of refusals. What is done with one of them does not change the others, and a clone goes on
from what its original is when it is cloned. -/
theorem counters_of_run {origin : TableOrigin} {table : RouteTable} (h : origin.table = .ok table)
    (actions : List Action) :
    run serve [table] actions = (histories actions).map table.serveAll ∧
      (∀ history ∈ histories actions,
        (table.serveAll history).counters =
            { registered := (table.serveAll history).size
              rejected := countAlong refuses table history
              lookups := history.countP looksUp
              misses := countAlong misses table history } ∧
          countAlong misses table history ≤ history.countP looksUp) ∧
      ∀ place current, (run serve [table] actions)[place]? = some current →
        (∀ request, current.refuses request = true →
          current.serve request =
            { current with
              counters := { current.counters with rejected := current.counters.rejected + 1 } }) ∧
        ∀ more,
          (run serve [table] (actions ++ more))[place]? =
              some (current.serveAll (asked place more)) ∧
            (run serve [table] (actions ++ .clone place :: more))[(histories actions).length]? =
              some (current.serveAll (asked (histories actions).length more)) := by
  refine ⟨table.run_serve actions, fun history _ ↦ ⟨?_, table.countAlong_misses_le history⟩,
    fun place current hcurrent ↦ ⟨fun request ↦ serve_of_refuses, fun more ↦ ⟨?_, ?_⟩⟩⟩
  · have hunused : table.counters = ⟨table.size, 0, 0, 0⟩ := TableOrigin.isUnused h
    rw [counters_serveAll, size_serveAll, hunused]
    simp only [Nat.zero_add]
  · rw [run, List.foldl_append]
    exact run_getElem? hcurrent more
  · rw [run, List.foldl_append]
    have hlength := congrArg List.length (table.run_serve actions)
    rw [List.length_map] at hlength
    rw [← hlength]
    exact run_getElem? (act_clone hcurrent) more

/-- A pattern is refused before the table is cloned, and a path is looked up in the clone. -/
theorem counters_of_run_clone :
    let front : List Request := [.add "/users/:id" none, .add "/:" none]
    let actions : List Action := [.ask 0 (.add "/users/:id" none), .ask 0 (.add "/:" none),
      .clone 0, .ask 1 (.lookup "/about"), .find 0 "/about", .rank 1]
    histories actions = [front, front ++ [.lookup "/about"]] ∧
      (serveAll {} front).counters = ⟨1, 1, 0, 0⟩ ∧
      (serveAll {} (front ++ [.lookup "/about"])).counters = ⟨1, 1, 1, 1⟩ ∧
      run serve [{}] actions = [serveAll {} front, serveAll {} (front ++ [.lookup "/about"])] := by
  intro front actions
  obtain ⟨htables, hcounters, -⟩ := @counters_of_run .standard {} rfl actions
  have hfront := (hcounters front (List.mem_cons_self ..)).1
  have hclone := (hcounters (front ++ [.lookup "/about"]) (.tail _ (List.mem_cons_self ..))).1
  refine ⟨rfl, hfront.trans ?_, hclone.trans ?_, htables⟩
  · decide +kernel
  · decide +kernel

end RouteTable

end RoutePatterns
