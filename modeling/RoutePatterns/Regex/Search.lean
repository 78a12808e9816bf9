import RoutePatterns.Regex.Marks
import RoutePatterns.Regex.Reader

/-!
Searching a text for a regular expression. The search is leftmost-first: the match that begins
earliest is found, and of those that begin there the preferred one. It reads the text once.
-/

set_option autoImplicit false

namespace RoutePatterns.Regex

/-- The state of a search. -/
structure Search where
  /-- The best match so far. -/
  found : Option Thread
  /-- The threads that can still make a better one. -/
  marks : Marks
  /-- The rank of the next attempt, behind that of every thread. -/
  nextRank : Nat

namespace Search

/-- Nothing found and nothing begun. -/
def start : Search :=
  ⟨none, .idle, 0⟩

/-- Reads the character before a site. A new attempt begins at the site unless there is a match;
after a match only the threads preferred to it go on. -/
def advance (node : Node) (site : Site) (search : Search) : Search :=
  let entry := if search.found.isSome then none else some (Thread.fresh search.nextRank)
  match node.step site search.marks entry with
  | (marks, none) => ⟨search.found, marks, search.nextRank + 1⟩
  | (marks, some thread) =>
    ⟨some thread, marks.filter fun other => other.priority.precedes thread.priority,
      search.nextRank + 1⟩

/-- Whether nothing can change the result any more. -/
def isOver (search : Search) : Bool :=
  search.found.isSome && search.marks.isIdle

/-- The number of characters between two times that threads are renumbered. -/
def renumberPeriod : Nat := 8

/-- Renumbers the threads if it is time for that. -/
def tidy (position : Nat) (search : Search) : Search :=
  if position % renumberPeriod = renumberPeriod - 1 then
    let (marks, count) := search.marks.renumbered
    ⟨search.found, marks, count⟩
  else search

/-- Goes on with a search at a position, where `before` is the character before it. -/
def run (node : Node) (search : Search) (position : Nat) (before : Option Char) :
    List Char → Option Thread
  | [] => (search.advance node ⟨position, before, none⟩).found
  | char :: rest =>
    let search := search.advance node ⟨position, before, some char⟩
    if search.isOver then search.found
    else run node (search.tidy position) (position + 1) (some char) rest

end Search

/-- What the match in a text has recorded, if there is a match. -/
def Node.search? (node : Node) (text : List Char) : Option (List Recorded) :=
  (Search.start.run node 0 none text).map (·.recorded)

/-- A match in a text. -/
structure Match where
  /-- The text. -/
  text : List Char
  /-- The texts recorded by name, the latest first. -/
  recorded : List Recorded

/-- The latest text recorded under a name. -/
def Match.captured? (found : Match) (name : String) : Option (List Char) :=
  (found.recorded.find? fun entry => entry.1 == name).map fun (_, start, stop) =>
    (found.text.drop start).take (stop - start)

end RoutePatterns.Regex

namespace RoutePatterns

/-- A regular expression: its source and the tree read from it. -/
structure Regex where
  /-- The text of the expression. -/
  source : String
  /-- The tree of the expression. -/
  root : Regex.Node

namespace Regex

/-- Reads an expression that ignores case if so asked. Assumes an expression within the usual bounds
on resources, which are not checked: at most 10 MiB once compiled and groups at most 250 deep. Only
counted repetitions have a bound of their own, `sizeLimit`, so that on a huge expression the answer
may be another than under those bounds. -/
def compile? (ignoreCase : Bool) (source : String) : Option Regex :=
  (Node.read? { ignoreCase } source.toList).map fun root => ⟨source, root⟩

/-- The match in a text, if there is one. -/
def find? (regex : Regex) (text : String) : Option Match :=
  (regex.root.search? text.toList).map fun recorded => ⟨text.toList, recorded⟩

/-- Whether there is a match in a text. -/
def isMatch (regex : Regex) (text : String) : Bool :=
  (regex.find? text).isSome

end Regex

end RoutePatterns
