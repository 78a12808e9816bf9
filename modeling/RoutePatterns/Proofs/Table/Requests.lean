import Mathlib.Data.List.Induction
import RoutePatterns.Proofs.Table.Ranking

/-!
# What a table is asked to do

A table serves requests one after the other (`RouteTable.serveAll`). Its options and weights stay
what they were, so that the route which a request adds does not depend on the requests before it
(`RouteTable.route?`). A request that adds no route leaves the routes as they are
(`RouteTable.serve_eq`). After any requests an empty table holds the routes that were added, as
they are ranked (`RouteTable.ranks_serveAll`), provided that no score is the number that is none.
-/

set_option autoImplicit false
set_option relaxedAutoImplicit false

namespace RoutePatterns

/-- What a table can be asked to do. -/
inductive Request
  | add (pattern : String) (options : Option PatternOptions)
  | addEntry (entry : RouteEntry)
  | insert (route : Route)
  | lookup (path : String)

namespace RouteTable

/-- The table after a request. -/
def serve (table : RouteTable) : Request → RouteTable
  | .add pattern options => (table.add pattern options).2
  | .addEntry entry => (table.addEntry entry).2
  | .insert route => (table.insert route).2
  | .lookup path => (table.lookup path).2

/-- The table after several requests. -/
def serveAll (table : RouteTable) (requests : List Request) : RouteTable :=
  requests.foldl serve table

/-- The route that a request adds, if it adds one. -/
def route? (table : RouteTable) : Request → Option Route
  | .add pattern options =>
    (Route.create pattern (options.getD table.shared) table.weights).toOption
  | .addEntry entry =>
    (Route.create entry.pattern (entry.optionsInForce table.shared) table.weights).toOption
  | .insert route => some route
  | .lookup _ => none

/-- The routes that requests add, in the order in which they are added. -/
def added (table : RouteTable) (requests : List Request) : List Route :=
  requests.filterMap table.route?

variable {table : RouteTable}

/-! ### One request -/

/-- The route of a pattern is put in the table, or the pattern is refused and counted. -/
theorem add_cases (table : RouteTable) (pattern : String) (options : Option PatternOptions) :
    (∃ route, table.route? (.add pattern options) = some route ∧
        table.add pattern options = (.ok (table.insert route).1, (table.insert route).2)) ∨
      table.route? (.add pattern options) = none ∧
        ∃ error, Route.create pattern (options.getD table.shared) table.weights = .error error ∧
          table.add pattern options = (.error (.pattern error),
            { table with
              counters := { table.counters with rejected := table.counters.rejected + 1 } }) := by
  rw [route?, add]
  rcases Route.create pattern (options.getD table.shared) table.weights with error | route
  · exact .inr ⟨rfl, error, rfl, rfl⟩
  · exact .inl ⟨route, rfl, rfl⟩

theorem add_eq (table : RouteTable) (pattern : String) (options : Option PatternOptions) :
    (table.add pattern options).2 =
      { (table.route? (.add pattern options)).elim table fun route ↦ (table.insert route).2 with
        counters := (table.add pattern options).2.counters } := by
  rcases table.add_cases pattern options with ⟨route, hroute, hadd⟩ | ⟨hroute, error, -, hadd⟩
  · rw [hroute, hadd]
    rfl
  · rw [hroute, hadd]
    rfl

theorem lookup_eq (table : RouteTable) (path : String) :
    (table.lookup path).2 = { table with counters := (table.lookup path).2.counters } := by
  simp only [RouteTable.lookup]
  rcases table.find? path with _ | _
  · rfl
  · rfl

/-- Apart from the counters, a request changes a table by the route that it adds, if any. -/
theorem serve_eq (table : RouteTable) (request : Request) :
    table.serve request =
      { (table.route? request).elim table fun route ↦ (table.insert route).2 with
        counters := (table.serve request).counters } := by
  cases request with
  | add pattern options => exact table.add_eq pattern options
  | addEntry entry => exact table.add_eq entry.pattern (some (entry.optionsInForce table.shared))
  | insert route => rfl
  | lookup path => exact table.lookup_eq path

theorem routes_serve (table : RouteTable) (request : Request) :
    (table.serve request).routes =
      ((table.route? request).elim table fun route ↦ (table.insert route).2).routes := by
  rw [serve_eq]

theorem shared_serve (table : RouteTable) (request : Request) :
    (table.serve request).shared = table.shared := by
  rw [serve_eq]
  rcases table.route? request with _ | route <;> rfl

theorem weights_serve (table : RouteTable) (request : Request) :
    (table.serve request).weights = table.weights := by
  rw [serve_eq]
  rcases table.route? request with _ | route <;> rfl

/-- What a request would add does not change by a request. -/
theorem route?_serve (table : RouteTable) (request : Request) :
    (table.serve request).route? = table.route? := by
  ext1 other
  simp only [route?, shared_serve, weights_serve]

/-! ### Several requests -/

theorem serveAll_concat (requests : List Request) (request : Request) :
    table.serveAll (requests ++ [request]) = (table.serveAll requests).serve request :=
  List.foldl_concat _ _ _ _

theorem added_concat (requests : List Request) (request : Request) :
    table.added (requests ++ [request]) =
      table.added requests ++ (table.route? request).toList := by
  rw [added, List.filterMap_append]
  rcases hroute : table.route? request with _ | route
  · rw [List.filterMap_cons_none hroute]
    rfl
  · rw [List.filterMap_cons_some hroute]
    rfl

theorem shared_serveAll (requests : List Request) :
    (table.serveAll requests).shared = table.shared := by
  induction requests using List.reverseRecOn with
  | nil => rfl
  | append_singleton requests request ih => rw [serveAll_concat, shared_serve, ih]

theorem route?_serveAll (requests : List Request) :
    (table.serveAll requests).route? = table.route? := by
  induction requests using List.reverseRecOn with
  | nil => rfl
  | append_singleton requests request ih => rw [serveAll_concat, route?_serve, ih]

/-- Assumes: a ranked table and scores that are numbers. A request leaves the table ranked. -/
theorem Ranks.serve {added : List Route} (hranks : table.Ranks added) (request : Request)
    (hadded : ∀ route ∈ added, route.score.isNaN = false)
    (hroute : ∀ route ∈ table.route? request, route.score.isNaN = false) :
    (table.serve request).Ranks (added ++ (table.route? request).toList) := by
  have hroutes := table.routes_serve request
  rcases hcase : table.route? request with _ | route
  · rw [hcase] at hroutes
    rw [Option.toList_none, List.append_nil]
    exact hranks.congr hroutes.symm
  · rw [hcase] at hroutes
    exact (hranks.insert hadded (hroute route hcase)).congr hroutes.symm

/-- Assumes: a ranked table and scores that are numbers. Requests leave the table ranked. -/
theorem Ranks.serveAll {front : List Route} (hranks : table.Ranks front) (requests : List Request)
    (hscores : ∀ route ∈ front ++ table.added requests, route.score.isNaN = false) :
    (table.serveAll requests).Ranks (front ++ table.added requests) := by
  induction requests using List.reverseRecOn with
  | nil =>
    change table.Ranks (front ++ [])
    rwa [List.append_nil]
  | append_singleton requests request ih =>
    rw [added_concat, ← List.append_assoc, List.forall_mem_append] at hscores
    have hserve := (ih hscores.1).serve request hscores.1
    rw [route?_serveAll] at hserve
    rw [serveAll_concat, added_concat, ← List.append_assoc]
    exact hserve fun route hroute ↦ hscores.2 route (Option.mem_toList.mpr hroute)

/-- An empty table holds the routes that requests add, as they are ranked. -/
theorem ranks_serveAll (hempty : table.routes = #[]) (requests : List Request)
    (hscores : ∀ route ∈ table.added requests, route.score.isNaN = false) :
    (table.serveAll requests).Ranks (table.added requests) :=
  (ranks_nil hempty).serveAll requests hscores

end RouteTable

end RoutePatterns
