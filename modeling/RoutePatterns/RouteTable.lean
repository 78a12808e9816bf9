import RoutePatterns.BinarySearch
import RoutePatterns.Route
import RoutePatterns.RouteEntry
import RoutePatterns.RouterConfig

/-!
Route tables: routes in the order in which they are tried, by falling score and, where scores are
equal, in the order in which they were added. The place of a new route is found by binary search. A
table counts what was added, refused, looked up and missed.
-/

set_option autoImplicit false

namespace RoutePatterns

/-- What a table has been asked to do. -/
structure Counters where
  /-- Routes added. -/
  registered : Nat := 0
  /-- Patterns refused. -/
  rejected : Nat := 0
  /-- Paths looked up. -/
  lookups : Nat := 0
  /-- Paths looked up that belong to no route. -/
  misses : Nat := 0
  deriving DecidableEq, Repr

/-- A path with the route that it was found to belong to. -/
structure Hit where
  /-- The path. -/
  path : String
  /-- The values of the parameters. -/
  params : Params
  /-- The pattern of the route. -/
  pattern : String
  /-- The score of the route. -/
  score : Float

/-- A pattern with its score. -/
structure Ranking where
  /-- The pattern. -/
  pattern : String
  /-- Its score. -/
  score : Float

/-- Why a table refuses. -/
inductive RouteTableError
  /-- A pattern is refused. -/
  | pattern (error : PatternError)
  /-- The path belongs to no route. -/
  | noMatch (path : String)
  deriving DecidableEq, Repr

/-- The wording of a refusal. -/
def RouteTableError.message : RouteTableError → String
  | .pattern error => error.message
  | .noMatch path => s!"no registered pattern matches path '{path}'"

/-- Routes in the order in which they are tried. -/
structure RouteTable where
  /-- The routes. -/
  routes : Array Route := #[]
  /-- The options of patterns that are added without options. -/
  shared : PatternOptions := {}
  /-- The weights of scores. -/
  weights : Weights Float := .standard
  /-- What the table has been asked to do. -/
  counters : Counters := {}

namespace RouteTable

/-- An empty table with the standard weights. -/
def empty (shared : PatternOptions) : RouteTable :=
  { shared }

/-- An empty table. -/
def ofConfig (config : RouterConfig) : RouteTable :=
  { shared := config.shared, weights := config.weights }

/-- The number of routes. -/
def size (table : RouteTable) : Nat :=
  table.routes.size

/-- Where a route with `score` goes: before the first route of a lower score. -/
def place (table : RouteTable) (score : Float) : Nat :=
  passingCount (fun route => score ≤ route.score) table.routes

/-- Adds a route and gives its place. -/
def insert (table : RouteTable) (route : Route) : Nat × RouteTable :=
  let index := table.place route.score
  (index,
    { table with
      routes := table.routes.insertIdxIfInBounds index route
      counters := { table.counters with registered := table.counters.registered + 1 } })

/-- Adds a pattern, under the shared options if none are given. A refusal is counted and changes
nothing else. -/
def add (table : RouteTable) (pattern : String) (options : Option PatternOptions) :
    Except RouteTableError Nat × RouteTable :=
  match Route.create pattern (options.getD table.shared) table.weights with
  | .ok route =>
    let (index, table) := table.insert route
    (.ok index, table)
  | .error error =>
    (.error (.pattern error),
      { table with
        counters := { table.counters with rejected := table.counters.rejected + 1 } })

/-- Adds the pattern of an entry. -/
def addEntry (table : RouteTable) (entry : RouteEntry) :
    Except RouteTableError Nat × RouteTable :=
  table.add entry.pattern (some (entry.optionsInForce table.shared))

/-- Adds entries until one is refused. -/
def addEntries (table : RouteTable) : List RouteEntry → Except RouteTableError RouteTable
  | [] => .ok table
  | entry :: entries =>
    match table.addEntry entry with
    | (.ok _, table) => table.addEntries entries
    | (.error error, _) => .error error

/-- A table of entries with the standard weights. -/
def ofEntries (entries : List RouteEntry) (shared : PatternOptions) :
    Except RouteTableError RouteTable :=
  (empty shared).addEntries entries

/-- The first route that a path belongs to, with the values of its parameters. -/
def find? (table : RouteTable) (path : String) : Option (Route × Params) :=
  table.routes.toList.findSome? fun route =>
    (route.params? path).map fun params => (route, params)

/-- Looks a path up and counts it. -/
def lookup (table : RouteTable) (path : String) : Except RouteTableError Hit × RouteTable :=
  let counters := { table.counters with lookups := table.counters.lookups + 1 }
  match table.find? path with
  | some (route, params) =>
    (.ok ⟨path, params, route.pattern, route.score⟩, { table with counters })
  | none =>
    (.error (.noMatch path),
      { table with counters := { counters with misses := counters.misses + 1 } })

/-- The patterns with their scores, in the order in which they are tried. -/
def rankings (table : RouteTable) : List Ranking :=
  table.routes.toList.map fun route => ⟨route.pattern, route.score⟩

end RouteTable

end RoutePatterns
