import RoutePatterns.Proofs.Table.Requests
import RoutePatterns.Proofs.Table.Sorting
import RoutePatterns.Router

/-!
# The places that are given back

A table answers a request that adds a route with the place of that route (`RouteTable.place?`), and
a router answers a call with the places of all routes that the call adds (`Router.call`). A call
does to the table of a router what some requests do, and its answer consists of theirs
(`Router.call_eq`), since the router refuses options itself and leaves all else to its table
(`Router.Refines`). Calls of several clients come to the router one after the other, in any order,
so that any interleaving of them is a list of calls.

Whatever a table or a router is made from (`TableOrigin`, `RouterOrigin`), after any requests or
calls its routes are the stable sort of those that were added, and every answer tells where the new
routes went (`RouteTable.areAdded_of_requests_of_calls`), provided that no score is the number that
is none.
-/

set_option autoImplicit false
set_option relaxedAutoImplicit false

namespace RoutePatterns

/-! ### Requests and their places -/

namespace RouteTable

/-- The place that a request is answered with, if it adds a route. -/
def place? (table : RouteTable) : Request → Option ℕ
  | .add pattern options => (table.add pattern options).1.toOption
  | .addEntry entry => (table.addEntry entry).1.toOption
  | .insert route => some (table.insert route).1
  | .lookup _ => none

/-- The places that several requests are answered with. -/
def places (table : RouteTable) : List Request → List ℕ
  | [] => []
  | request :: requests => (table.place? request).toList ++ (table.serve request).places requests

variable {table : RouteTable} {added : List Route}

theorem toOption_add (table : RouteTable) (pattern : String) (options : Option PatternOptions) :
    (table.add pattern options).1.toOption =
      (table.route? (.add pattern options)).map fun route ↦ (table.insert route).1 := by
  rcases table.add_cases pattern options with ⟨route, hroute, hadd⟩ | ⟨hroute, error, -, hadd⟩
  · rw [hroute, hadd]
    rfl
  · rw [hroute, hadd]
    rfl

/-- A request is answered with the place of the route that it adds. -/
theorem place?_eq (table : RouteTable) (request : Request) :
    table.place? request = (table.route? request).map fun route ↦ (table.insert route).1 := by
  cases request with
  | add pattern options => exact table.toOption_add pattern options
  | addEntry entry =>
    exact table.toOption_add entry.pattern (some (entry.optionsInForce table.shared))
  | insert route => rfl
  | lookup path => rfl

theorem added_cons (table : RouteTable) (request : Request) (requests : List Request) :
    table.added (request :: requests) =
      (table.route? request).toList ++ (table.serve request).added requests := by
  rw [added, added, route?_serve]
  rcases hroute : table.route? request with _ | route
  · rw [List.filterMap_cons_none hroute]
    rfl
  · rw [List.filterMap_cons_some hroute]
    rfl

theorem added_singleton (table : RouteTable) (request : Request) :
    table.added [request] = (table.route? request).toList := by
  rw [added_cons]
  exact List.append_nil _

/-- What requests would add does not change by requests. -/
theorem added_serveAll (table : RouteTable) (requests : List Request) :
    (table.serveAll requests).added = table.added := by
  ext1 requests'
  rw [added, added, route?_serveAll]

theorem added_append (table : RouteTable) (requests requests' : List Request) :
    table.added (requests ++ requests') =
      table.added requests ++ table.added requests' :=
  List.filterMap_append

theorem serveAll_append (table : RouteTable) (requests requests' : List Request) :
    table.serveAll (requests ++ requests') = (table.serveAll requests).serveAll requests' :=
  List.foldl_append

/-- Assumes: a ranked table and scores that are numbers. The routes that requests add go to the
places that the requests are answered with. -/
theorem Ranks.areAdded (hranks : table.Ranks added) (requests : List Request)
    (hscores : ∀ route ∈ added ++ table.added requests, route.score.isNaN = false) :
    AreAdded added table.routes.toList (table.added requests) (table.places requests)
      (table.serveAll requests).routes.toList := by
  induction requests generalizing table added with
  | nil => exact .nil
  | cons request requests ih =>
    rw [added_cons, ← List.append_assoc] at hscores
    have hadded : ∀ route ∈ added, route.score.isNaN = false := fun route hroute ↦
      hscores route (List.mem_append_left _ (List.mem_append_left _ hroute))
    have hroute : ∀ route ∈ table.route? request, route.score.isNaN = false := by
      intro route hroute
      have hmem := List.mem_append_right added (Option.mem_toList.mpr hroute)
      exact hscores route (List.mem_append_left _ hmem)
    have hrest := ih (hranks.serve request hadded hroute) hscores
    have hroutes := table.routes_serve request
    rw [added_cons, places, place?_eq]
    rcases hcase : table.route? request with _ | route
    · rw [hcase] at hroutes hrest
      rw [Option.toList_none, List.append_nil, hroutes] at hrest
      exact hrest
    · rw [hcase] at hroutes hrest
      have hfirst := hranks.isAdded hadded (hroute route hcase)
      rw [hroutes] at hrest
      exact .cons hfirst hrest

end RouteTable

/-! ### Calls and their places -/

/-- The options that the entry asks to apply. -/
def RouteEntry.explicit? (entry : RouteEntry) : Option PatternOptions :=
  if entry.applyOptions then some entry.options else none

namespace Router

/-- What a client can ask a router to add. -/
inductive Call
  | add (pattern : String) (options : Option PatternOptions)
  | addEntry (entry : RouteEntry)
  | addEntries (entries : List RouteEntry)

/-- The number of patterns that a call asks to add. -/
def Call.size : Call → ℕ
  | .add _ _ => 1
  | .addEntry _ => 1
  | .addEntries entries => entries.length

/-- The places that a call is answered with, and the router after it. -/
def call (router : Router) : Call → Except RouterError (List ℕ) × Router
  | .add pattern options =>
    let (result, router) := router.add pattern options
    (result.map ([·]), router)
  | .addEntry entry =>
    let (result, router) := router.addEntry entry
    (result.map ([·]), router)
  | .addEntries entries => router.addEntries entries

/-- The router after several calls, in the order in which they come to it. -/
def callAll (router : Router) (calls : List Call) : Router :=
  calls.foldl (fun router call ↦ (router.call call).2) router

/-- The request for a pattern, which a router makes of its table unless it refuses the options. -/
def addRequest? (pattern : String) (options : Option PatternOptions) : Option Request :=
  if options.any fun options ↦ !PatternOptions.isDelimiter options.delimiter then none
  else some (.add pattern options)

/-- The request for an entry, which a router makes of its table unless it refuses the options of the
entry. -/
def entryRequest? (entry : RouteEntry) : Option Request :=
  if entry.applyOptions && !PatternOptions.isDelimiter entry.options.delimiter then none
  else some (.addEntry entry)

/-- The requests that a router makes of its table for entries: it stops at the first entry that is
refused by the router or the table. -/
def entryRequests (table : RouteTable) : List RouteEntry → List Request
  | [] => []
  | entry :: entries =>
    match entryRequest? entry with
    | none => []
    | some request =>
      request :: if (table.route? request).isSome then entryRequests table entries else []

/-- The requests that a router makes of its table for a call. -/
def requests (router : Router) : Call → List Request
  | .add pattern options => (addRequest? pattern options).toList
  | .addEntry entry => (entryRequest? entry).toList
  | .addEntries entries => entryRequests router.table entries

/-- The routes that calls add, in the order in which they are added. -/
def added (router : Router) (calls : List Call) : List Route :=
  router.table.added (calls.flatMap router.requests)

variable {router : Router}

/-! ### One call -/

theorem toOption_mapError {ε ε' α : Type} (f : ε → ε') (result : Except ε α) :
    (result.mapError f).toOption = result.toOption := by
  rcases result with error | value
  · rfl
  · rfl

/-- What a router answers, and the router after it, where its table would answer `plain`. Explicit
options that are refused are reported, and the router stays as it is. Otherwise the answer is that
of the table, a refusal marked as one by the table, and the table is left as it would be. -/
structure Refines (router : Router) (explicit : Option PatternOptions)
    (answer : Except RouterError ℕ × Router) (plain : Except RouteTableError ℕ × RouteTable) :
    Prop where
  refused : ∀ options ∈ explicit, ∀ error, options.validate = .error error →
    answer = (.error (.options error), router)
  passed : (∀ options ∈ explicit, options.validate = .ok ()) →
    answer = (plain.1.mapError .table, ⟨plain.2⟩)

theorem refines_add (router : Router) (pattern : String) (options : Option PatternOptions) :
    Refines router options (router.add pattern options) (router.table.add pattern options) where
  refused := by
    rintro options rfl error hrefused
    rw [add, Option.map_some, Option.getD_some, hrefused]
  passed hoptions := by
    have hcheck : (options.map PatternOptions.validate).getD (.ok ()) = .ok () := by
      rcases options with _ | options
      · rfl
      · exact hoptions options rfl
    rw [add, hcheck]

theorem refines_addEntry (router : Router) (entry : RouteEntry) :
    Refines router entry.explicit? (router.addEntry entry) (router.table.addEntry entry) where
  refused := by
    intro options hmem error hrefused
    rw [RouteEntry.explicit?] at hmem
    split_ifs at hmem with happly
    · obtain rfl := Option.some.inj hmem
      rw [addEntry, if_pos happly, hrefused]
    · cases hmem
  passed hoptions := by
    have hcheck : (if entry.applyOptions then entry.options.validate else .ok ()) = .ok () := by
      split_ifs with happly
      · exact hoptions _ (if_pos happly)
      · rfl
    rw [addEntry, hcheck]

namespace Refines

variable {explicit : Option PatternOptions} {answer : Except RouterError ℕ × Router}
  {plain : Except RouteTableError ℕ × RouteTable}

theorem exists_eq_error (h : Refines router explicit answer plain)
    (hrefused : (explicit.any fun options ↦
      !PatternOptions.isDelimiter options.delimiter) = true) :
    ∃ error, answer = (.error error, router) := by
  rcases explicit with _ | options
  · cases hrefused
  · have hvalidate : options.validate = .error (.invalidDelimiter options.delimiter) :=
      if_neg (by simpa using hrefused)
    exact ⟨_, h.refused options rfl _ hvalidate⟩

theorem eq_answer (h : Refines router explicit answer plain)
    (hpassed : ¬(explicit.any fun options ↦
      !PatternOptions.isDelimiter options.delimiter) = true) :
    answer = (plain.1.mapError .table, ⟨plain.2⟩) := by
  refine h.passed fun options hmem ↦ ?_
  obtain rfl := Option.mem_def.mp hmem
  exact if_pos (by simpa using hpassed)

end Refines

theorem add_of_none {pattern : String} {options : Option PatternOptions}
    (h : addRequest? pattern options = none) :
    ∃ error, router.add pattern options = (.error error, router) := by
  unfold addRequest? at h
  split_ifs at h with hrefused
  exact (router.refines_add pattern options).exists_eq_error hrefused

theorem add_of_some {pattern : String} {options : Option PatternOptions} {request : Request}
    (h : addRequest? pattern options = some request) :
    (router.add pattern options).1.toOption = router.table.place? request ∧
      (router.add pattern options).2.table = router.table.serve request := by
  unfold addRequest? at h
  split_ifs at h with hrefused
  obtain rfl := Option.some.inj h
  rw [(router.refines_add pattern options).eq_answer hrefused]
  exact ⟨toOption_mapError _ _, rfl⟩

theorem entryRequest?_eq (entry : RouteEntry) :
    entryRequest? entry =
      if entry.explicit?.any fun options ↦ !PatternOptions.isDelimiter options.delimiter then none
      else some (.addEntry entry) := by
  rw [entryRequest?, RouteEntry.explicit?]
  rcases entry.applyOptions with _ | _
  · rfl
  · rfl

theorem addEntry_of_none {entry : RouteEntry} (h : entryRequest? entry = none) :
    ∃ error, router.addEntry entry = (.error error, router) := by
  rw [entryRequest?_eq] at h
  split_ifs at h with hrefused
  exact (router.refines_addEntry entry).exists_eq_error hrefused

theorem addEntry_of_some {entry : RouteEntry} {request : Request}
    (h : entryRequest? entry = some request) :
    (router.addEntry entry).1.toOption = router.table.place? request ∧
      (router.addEntry entry).2.table = router.table.serve request := by
  rw [entryRequest?_eq] at h
  split_ifs at h with hrefused
  obtain rfl := Option.some.inj h
  rw [(router.refines_addEntry entry).eq_answer hrefused]
  exact ⟨toOption_mapError _ _, rfl⟩

theorem entryRequests_congr {table table' : RouteTable} (h : table.route? = table'.route?)
    (entries : List RouteEntry) : entryRequests table entries = entryRequests table' entries := by
  induction entries with
  | nil => rfl
  | cons entry entries ih => rw [entryRequests, entryRequests, h, ih]

/-- The places of routes that were to be `size` many, unless one of them was refused. -/
def fullPlaces? (size : ℕ) (places : List ℕ) : Option (List ℕ) :=
  if places.length = size then some places else none

theorem fullPlaces?_cons (size place : ℕ) (places : List ℕ) :
    fullPlaces? (size + 1) (place :: places) = (fullPlaces? size places).map (place :: ·) := by
  simp only [fullPlaces?, List.length_cons, Nat.add_right_cancel_iff]
  split_ifs <;> rfl

theorem toOption_map_singleton {ε : Type} {result : Except ε ℕ} {place : Option ℕ}
    (h : result.toOption = place) :
    (result.map ([·])).toOption = fullPlaces? 1 (place.toList ++ []) := by
  subst h
  rcases result with error | place
  · rfl
  · rfl

/-- Several entries are added one after the other. -/
theorem addEntries_cons (router : Router) (entry : RouteEntry) (entries : List RouteEntry) :
    router.addEntries (entry :: entries) =
      match router.addEntry entry with
      | (.error error, router) => (.error error, router)
      | (.ok index, router) =>
        ((router.addEntries entries).1.map (index :: ·), (router.addEntries entries).2) := by
  rw [addEntries, addEntry]
  rcases (if entry.applyOptions then entry.options.validate else .ok ()) with error | _
  · rfl
  · rcases router.table.addEntry entry with ⟨error | index, table⟩
    · rfl
    · rfl

/-- Entries are added as the requests for them are served, and are answered with their places if
none is refused. -/
theorem addEntries_eq (router : Router) (entries : List RouteEntry) :
    (router.addEntries entries).2.table =
        router.table.serveAll (entryRequests router.table entries) ∧
      (router.addEntries entries).1.toOption =
        fullPlaces? entries.length
          (router.table.places (entryRequests router.table entries)) := by
  induction entries generalizing router with
  | nil => exact ⟨rfl, rfl⟩
  | cons entry entries ih =>
    rw [entryRequests]
    rcases hrequest : entryRequest? entry with _ | request
    · obtain ⟨error, herror⟩ := @addEntry_of_none router entry hrequest
      rw [addEntries_cons, herror]
      exact ⟨rfl, rfl⟩
    · obtain ⟨hplace, htable⟩ := @addEntry_of_some router entry request hrequest
      rcases hadd : router.addEntry entry with ⟨error | index, router'⟩
      · rw [hadd] at hplace htable
        have hroute : router.table.route? request = none := by
          rw [RouteTable.place?_eq] at hplace
          exact Option.map_eq_none_iff.mp hplace.symm
        simp only [addEntries_cons, hadd, hroute, Option.isSome_none, Bool.false_eq_true, if_false,
          RouteTable.places, ← hplace]
        exact ⟨htable, rfl⟩
      · rw [hadd] at hplace htable
        have hroute : (router.table.route? request).isSome = true := by
          rw [← Option.isSome_map (f := fun route ↦ (router.table.insert route).1),
            ← RouteTable.place?_eq, ← hplace]
          rfl
        have hsame : entryRequests router'.table entries = entryRequests router.table entries :=
          entryRequests_congr (by rw [htable, RouteTable.route?_serve]) entries
        obtain ⟨ihtable, ihanswer⟩ := ih router'
        rw [hsame, htable] at ihtable ihanswer
        simp only [addEntries_cons, hadd, hroute, if_true, RouteTable.places, ← hplace]
        refine ⟨ihtable, ?_⟩
        change _ = fullPlaces? (entries.length + 1)
          (index :: (router.table.serve request).places _)
        rw [fullPlaces?_cons, ← ihanswer]
        rcases (router'.addEntries entries).1 with error | indices
        · rfl
        · rfl

/-- A router serves a call as requests of its table, and answers with the places of its routes if
none is refused. -/
theorem call_eq (router : Router) (call : Call) :
    (router.call call).2.table = router.table.serveAll (router.requests call) ∧
      (router.call call).1.toOption =
        fullPlaces? call.size (router.table.places (router.requests call)) := by
  cases call with
  | add pattern options =>
    rcases hrequest : addRequest? pattern options with _ | request
    · obtain ⟨error, herror⟩ := @add_of_none router pattern options hrequest
      rw [Router.call, requests, hrequest, herror]
      exact ⟨rfl, rfl⟩
    · obtain ⟨hplace, htable⟩ := @add_of_some router pattern options request hrequest
      rw [Router.call, requests, hrequest]
      refine ⟨htable, ?_⟩
      exact toOption_map_singleton hplace
  | addEntry entry =>
    rcases hrequest : entryRequest? entry with _ | request
    · obtain ⟨error, herror⟩ := @addEntry_of_none router entry hrequest
      rw [Router.call, requests, hrequest, herror]
      exact ⟨rfl, rfl⟩
    · obtain ⟨hplace, htable⟩ := @addEntry_of_some router entry request hrequest
      rw [Router.call, requests, hrequest]
      refine ⟨htable, ?_⟩
      exact toOption_map_singleton hplace
  | addEntries entries => exact router.addEntries_eq entries

/-! ### Several calls -/

theorem requests_call (router : Router) (call : Call) :
    (router.call call).2.requests = router.requests := by
  have hroute : (router.call call).2.table.route? = router.table.route? := by
    rw [(router.call_eq call).1, RouteTable.route?_serveAll]
  ext1 other
  cases other with
  | add pattern options => rfl
  | addEntry entry => rfl
  | addEntries entries => exact entryRequests_congr hroute entries

/-- Calls do to the table what all their requests do. -/
theorem callAll_table (router : Router) (calls : List Call) :
    (router.callAll calls).table = router.table.serveAll (calls.flatMap router.requests) := by
  induction calls generalizing router with
  | nil => rfl
  | cons call calls ih =>
    change ((router.call call).2.callAll calls).table = _
    rw [ih, requests_call, (router.call_eq call).1, List.flatMap_cons, RouteTable.serveAll_append]

theorem requests_callAll (router : Router) (calls : List Call) :
    (router.callAll calls).requests = router.requests := by
  induction calls generalizing router with
  | nil => rfl
  | cons call calls ih => exact (ih (router.call call).2).trans (router.requests_call call)

end Router

/-! ### What tables and routers are made from -/

/-- The ways to make a table. -/
inductive TableOrigin
  | standard
  | empty (shared : PatternOptions)
  | ofConfig (config : RouterConfig)
  | ofEntries (entries : List RouteEntry) (shared : PatternOptions)

namespace TableOrigin

/-- The table that is made. -/
def table : TableOrigin → Except RouteTableError RouteTable
  | .standard => .ok {}
  | .empty shared => .ok (RouteTable.empty shared)
  | .ofConfig config => .ok (RouteTable.ofConfig config)
  | .ofEntries entries shared => RouteTable.ofEntries entries shared

/-- The routes that the table is made with, in the order in which they are given. -/
def routes : TableOrigin → List Route
  | .ofEntries entries shared => (RouteTable.empty shared).added (entries.map .addEntry)
  | _ => []

end TableOrigin

/-- The ways to make a router. -/
inductive RouterOrigin
  | standard
  | create (config : RouterConfig)
  | ofEntries (entries : List RouteEntry) (config : RouterConfig)

namespace RouterOrigin

/-- The router that is made. -/
def router : RouterOrigin → Except RouterError Router
  | .standard => .ok Router.standard
  | .create config => Router.create config
  | .ofEntries entries config => Router.ofEntries entries config

/-- The routes that the router is made with, in the order in which they are given. -/
def routes : RouterOrigin → List Route
  | .ofEntries entries config => Router.added ⟨RouteTable.ofConfig config⟩ [.addEntries entries]
  | _ => []

end RouterOrigin

namespace RouteTable

theorem addEntries_eq_ok {table table' : RouteTable} {entries : List RouteEntry}
    (h : table.addEntries entries = .ok table') :
    table' = table.serveAll (entries.map .addEntry) := by
  induction entries generalizing table with
  | nil => exact (Except.ok.inj h).symm
  | cons entry entries ih =>
    rw [addEntries] at h
    rcases hadd : table.addEntry entry with ⟨error | index, middle⟩
    · rw [hadd] at h
      cases h
    · rw [hadd] at h
      have hmiddle : table.serve (.addEntry entry) = middle := congrArg Prod.snd hadd
      rw [ih h, ← hmiddle]
      rfl

end RouteTable

/-- A table is ranked from the beginning. -/
theorem TableOrigin.ranks {origin : TableOrigin} {table : RouteTable} (h : origin.table = .ok table)
    (hscores : ∀ route ∈ origin.routes, route.score.isNaN = false) :
    table.Ranks origin.routes := by
  cases origin with
  | standard =>
    obtain rfl := Except.ok.inj h
    exact RouteTable.ranks_nil rfl
  | empty shared =>
    obtain rfl := Except.ok.inj h
    exact RouteTable.ranks_nil rfl
  | ofConfig config =>
    obtain rfl := Except.ok.inj h
    exact RouteTable.ranks_nil rfl
  | ofEntries entries shared =>
    rw [RouteTable.addEntries_eq_ok h]
    exact RouteTable.ranks_serveAll rfl _ hscores

theorem Router.create_eq_ok_iff {config : RouterConfig} {router : Router} :
    Router.create config = .ok router ↔
      config.validate = .ok () ∧ router = ⟨RouteTable.ofConfig config⟩ := by
  rw [Router.create]
  rcases config.validate with error | _
  · simp
  · simp [eq_comm]

/-- A router with entries is an empty one that has taken them all. -/
theorem Router.ofEntries_eq_ok_iff {entries : List RouteEntry} {config : RouterConfig}
    {router : Router} :
    Router.ofEntries entries config = .ok router ↔
      config.validate = .ok () ∧ ∃ indices,
        Router.addEntries ⟨RouteTable.ofConfig config⟩ entries = (.ok indices, router) := by
  rw [Router.ofEntries]
  rcases hcreate : Router.create config with error | first
  · have hconfig : config.validate ≠ .ok () := by
      intro hconfig
      rw [Router.create_eq_ok_iff.mpr ⟨hconfig, rfl⟩] at hcreate
      cases hcreate
    simp [hconfig]
  · obtain ⟨hconfig, rfl⟩ := Router.create_eq_ok_iff.mp hcreate
    rcases hadd : Router.addEntries ⟨RouteTable.ofConfig config⟩ entries with
      ⟨error | indices, last⟩
    · simp [hadd, Except.map]
    · simp [hadd, hconfig, Except.map]

/-- The table of a router is ranked from the beginning. -/
theorem RouterOrigin.ranks {origin : RouterOrigin} {router : Router}
    (h : origin.router = .ok router)
    (hscores : ∀ route ∈ origin.routes, route.score.isNaN = false) :
    router.table.Ranks origin.routes := by
  cases origin with
  | standard =>
    obtain rfl := Except.ok.inj h
    exact RouteTable.ranks_nil rfl
  | create config =>
    obtain ⟨-, rfl⟩ := Router.create_eq_ok_iff.mp h
    exact RouteTable.ranks_nil rfl
  | ofEntries entries config =>
    obtain ⟨-, indices, hadd⟩ := Router.ofEntries_eq_ok_iff.mp h
    have htable := Router.callAll_table ⟨RouteTable.ofConfig config⟩ [.addEntries entries]
    have hrouter : (Router.addEntries ⟨RouteTable.ofConfig config⟩ entries).2 = router :=
      congrArg Prod.snd hadd
    rw [← hrouter]
    change RouteTable.Ranks (Router.callAll _ [.addEntries entries]).table _
    rw [htable]
    exact RouteTable.ranks_serveAll rfl _ hscores

/-! ### Every run -/

namespace RouteTable

/-- Assumes: a ranked table and scores that are numbers. After any requests the table holds its
routes sorted, and further requests are answered with the places of the routes they add. -/
theorem Ranks.isRanking_areAdded {table : RouteTable} {front : List Route}
    (hranks : table.Ranks front) (requests more : List Request)
    (hscores : ∀ route ∈ front ++ table.added (requests ++ more), route.score.isNaN = false) :
    IsRanking (front ++ table.added requests) (table.serveAll requests).routes.toList ∧
      AreAdded (front ++ table.added requests) (table.serveAll requests).routes.toList
        (table.added more) ((table.serveAll requests).places more)
        (table.serveAll (requests ++ more)).routes.toList := by
  rw [added_append, ← List.append_assoc] at hscores
  have hbefore : ∀ route ∈ front ++ table.added requests, route.score.isNaN = false :=
    fun route hroute ↦ hscores route (List.mem_append_left _ hroute)
  have hserved := hranks.serveAll requests hbefore
  have hadded := hserved.areAdded more
  rw [added_serveAll] at hadded
  rw [serveAll_append]
  exact ⟨hserved.isRanking hbefore, hadded hscores⟩

/-- However a table or a router is made, and whatever it is asked to do: as long as no score is the
number that is none, its routes are the stable sort by falling score of the routes that were added,
and the next request or call puts its routes where the answer says. A call is answered with places
unless one of its patterns is refused. -/
theorem areAdded_of_requests_of_calls :
    (∀ (origin : TableOrigin) (table : RouteTable), origin.table = .ok table →
      ∀ (requests : List Request) (request : Request),
        (∀ route ∈ origin.routes ++ table.added (requests ++ [request]),
          route.score.isNaN = false) →
        IsRanking (origin.routes ++ table.added requests)
            (table.serveAll requests).routes.toList ∧
          AreAdded (origin.routes ++ table.added requests) (table.serveAll requests).routes.toList
            (table.route? request).toList ((table.serveAll requests).place? request).toList
            (table.serveAll (requests ++ [request])).routes.toList) ∧
      ∀ (origin : RouterOrigin) (router : Router), origin.router = .ok router →
        ∀ (calls : List Router.Call) (call : Router.Call),
          (∀ route ∈ origin.routes ++ router.added (calls ++ [call]),
            route.score.isNaN = false) →
          IsRanking (origin.routes ++ router.added calls)
              (router.callAll calls).table.routes.toList ∧
            ∃ places, AreAdded (origin.routes ++ router.added calls)
                (router.callAll calls).table.routes.toList (router.added [call]) places
                (router.callAll (calls ++ [call])).table.routes.toList ∧
              ((router.callAll calls).call call).1.toOption =
                Router.fullPlaces? call.size places := by
  constructor
  · intro origin table horigin requests request hscores
    have hranks := origin.ranks horigin fun route hroute ↦
      hscores route (List.mem_append_left _ hroute)
    have hrun := hranks.isRanking_areAdded requests [request] hscores
    rw [added_singleton, places, places, List.append_nil] at hrun
    exact hrun
  · intro origin router horigin calls call hscores
    have hranks := origin.ranks horigin fun route hroute ↦
      hscores route (List.mem_append_left _ hroute)
    have hone : router.added [call] = router.table.added (router.requests call) :=
      congrArg router.table.added (List.flatMap_singleton _ _)
    rw [Router.added, List.flatMap_append, List.flatMap_singleton] at hscores
    have hrun := hranks.isRanking_areAdded (calls.flatMap router.requests) (router.requests call)
      hscores
    have hanswer := ((router.callAll calls).call_eq call).2
    rw [Router.requests_callAll, Router.callAll_table] at hanswer
    rw [Router.callAll_table, Router.callAll_table, List.flatMap_append, List.flatMap_singleton,
      hone]
    exact ⟨hrun.1, _, hrun.2, hanswer⟩

/-- Two patterns, one of them refused, are followed by a third one, and two entries come to a router
that has a route. -/
theorem areAdded_files_list :
    AreAdded ((empty {}).added [.add "/files/:name" none, .add "/files(" none])
        ((empty {}).serveAll [.add "/files/:name" none, .add "/files(" none]).routes.toList
        ((empty {}).route? (.add "/files/list" none)).toList
        (((empty {}).serveAll [.add "/files/:name" none, .add "/files(" none]).place?
          (.add "/files/list" none)).toList
        ((empty {}).serveAll
          [.add "/files/:name" none, .add "/files(" none, .add "/files/list" none]).routes.toList ∧
      ∃ places, AreAdded (Router.standard.added [.add "/files/:name" none])
          (Router.standard.callAll [.add "/files/:name" none]).table.routes.toList
          (Router.standard.added [.addEntries [.ofPattern "/files/list", .ofPattern "/:id"]]) places
          (Router.standard.callAll [.add "/files/:name" none,
            .addEntries [.ofPattern "/files/list", .ofPattern "/:id"]]).table.routes.toList ∧
        ((Router.standard.callAll [.add "/files/:name" none]).call
            (.addEntries [.ofPattern "/files/list", .ofPattern "/:id"])).1.toOption =
          Router.fullPlaces? 2 places :=
  ⟨(areAdded_of_requests_of_calls.1 (.empty {}) _ rfl
      [.add "/files/:name" none, .add "/files(" none] (.add "/files/list" none)
      (by decide +kernel)).2,
    (areAdded_of_requests_of_calls.2 .standard _ rfl [.add "/files/:name" none]
      (.addEntries [.ofPattern "/files/list", .ofPattern "/:id"]) (by decide +kernel)).2⟩

end RouteTable

end RoutePatterns
