import RoutePatterns.RouteTable

/-!
A router: a route table whose options are checked before they reach it. Options that are given
explicitly are refused without being counted; everything else is the work of the table.
-/

set_option autoImplicit false

namespace RoutePatterns

/-- Why a router refuses. -/
inductive RouterError
  /-- Options are refused. -/
  | options (error : OptionsError)
  /-- The table refuses. -/
  | table (error : RouteTableError)
  /-- Values do not make a path. -/
  | build (error : BuildError)
  /-- No route has the pattern. -/
  | unknownPattern (pattern : String)
  deriving DecidableEq, Repr

/-- The wording of a refusal. -/
def RouterError.message : RouterError → String
  | .options error => error.message
  | .table error => error.message
  | .build error => error.message
  | .unknownPattern pattern => s!"no registered pattern is spelled '{pattern}'"

/-- A route table with checked options. -/
structure Router where
  /-- The table. -/
  table : RouteTable

namespace Router

/-- An empty router with the default options. -/
def standard : Router :=
  ⟨{}⟩

/-- An empty router. -/
def create (config : RouterConfig) : Except RouterError Router :=
  match config.validate with
  | .error error => .error (.options error)
  | .ok _ => .ok ⟨RouteTable.ofConfig config⟩

/-- Adds a pattern, under the router's options if none are given. -/
def add (router : Router) (pattern : String) (options : Option PatternOptions) :
    Except RouterError Nat × Router :=
  match (options.map PatternOptions.validate).getD (.ok ()) with
  | .error error => (.error (.options error), router)
  | .ok _ =>
    let (result, table) := router.table.add pattern options
    (result.mapError .table, ⟨table⟩)

/-- Adds the pattern of an entry. -/
def addEntry (router : Router) (entry : RouteEntry) : Except RouterError Nat × Router :=
  match if entry.applyOptions then entry.options.validate else .ok () with
  | .error error => (.error (.options error), router)
  | .ok _ =>
    let (result, table) := router.table.addEntry entry
    (result.mapError .table, ⟨table⟩)

/-- Adds entries until one is refused and gives their places; entries before that one stay. -/
def addEntries (router : Router) : List RouteEntry → Except RouterError (List Nat) × Router
  | [] => (.ok [], router)
  | entry :: entries =>
    match if entry.applyOptions then entry.options.validate else .ok () with
    | .error error => (.error (.options error), router)
    | .ok _ =>
      match router.table.addEntry entry with
      | (.error error, table) => (.error (.table error), ⟨table⟩)
      | (.ok index, table) =>
        let (result, router) := addEntries ⟨table⟩ entries
        (result.map (index :: ·), router)

/-- A router with entries. -/
def ofEntries (entries : List RouteEntry) (config : RouterConfig) :
    Except RouterError Router :=
  match create config with
  | .error error => .error error
  | .ok router =>
    let (result, router) := router.addEntries entries
    result.map fun _ => router

/-- Looks a path up and counts it. -/
def lookup (router : Router) (path : String) : Except RouterError Hit × Router :=
  let (result, table) := router.table.lookup path
  (result.mapError .table, ⟨table⟩)

/-- The path that the first route of a pattern makes of the values of its parameters. -/
def build (router : Router) (pattern : String) (params : Params) :
    Except RouterError String :=
  match router.table.routes.find? fun route => route.pattern == pattern with
  | none => .error (.unknownPattern pattern)
  | some route => (route.build params).mapError .build

/-- The patterns with their scores, in the order in which they are tried. -/
def rankings (router : Router) : List Ranking :=
  router.table.rankings

/-- The number of routes. -/
def size (router : Router) : Nat :=
  router.table.size

/-- What the router has been asked to do. -/
def counters (router : Router) : Counters :=
  router.table.counters

end Router

end RoutePatterns
