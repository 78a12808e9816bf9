/-!
Threads of a search. A thread is one way to read the text so far; of two threads at the same place
of an expression the preferred one is kept.
-/

set_option autoImplicit false

namespace RoutePatterns.Regex

/-- How much a thread is preferred: first by the rank it started from, then by the choices made
since, in dictionary order. -/
structure Priority where
  /-- The rank from which the choices count; a smaller one is preferred. -/
  rank : Nat
  /-- The number of choices. -/
  depth : Nat
  /-- The choices as binary digits, the first of them the most significant; zero is preferred. -/
  choices : Nat
  deriving DecidableEq, Repr

namespace Priority

/-- A priority without choices. -/
def ofRank (rank : Nat) : Priority :=
  ⟨rank, 0, 0⟩

/-- The priority after one more choice. -/
def choose (choice : Bool) (priority : Priority) : Priority :=
  ⟨priority.rank, priority.depth + 1, 2 * priority.choices + choice.toNat⟩

/-- Compares choices by their common number, then by their number. -/
def compareChoices (first second : Priority) : Ordering :=
  let common := min first.depth second.depth
  (compare (first.choices >>> (first.depth - common))
    (second.choices >>> (second.depth - common))).then (compare first.depth second.depth)

/-- Whether `first` is preferred to `second`. -/
def precedes (first second : Priority) : Bool :=
  ((compare first.rank second.rank).then (compareChoices first second)).isLT

/-- Puts a priority into an ascending list. -/
def insertSorted (priority : Priority) : List Priority → List Priority
  | [] => [priority]
  | other :: others =>
    if other.precedes priority then other :: insertSorted priority others
    else priority :: other :: others

end Priority

/-- A recorded text: the name, and the positions where the text begins and ends. -/
abbrev Recorded := String × Nat × Nat

/-- One way to read the text so far. -/
structure Thread where
  /-- How much the thread is preferred. -/
  priority : Priority
  /-- The positions where the captures that are being read begin, innermost first. -/
  opened : List Nat
  /-- The captures read so far, the latest first. -/
  recorded : List Recorded
  deriving DecidableEq, Repr

namespace Thread

/-- A thread that has read nothing. -/
def fresh (rank : Nat) : Thread :=
  ⟨.ofRank rank, [], []⟩

/-- Makes a choice. -/
def choose (choice : Bool) (thread : Thread) : Thread :=
  { thread with priority := thread.priority.choose choice }

/-- Begins a capture. -/
def openAt (position : Nat) (thread : Thread) : Thread :=
  { thread with opened := position :: thread.opened }

/-- Ends the innermost capture. -/
def close (name : String) (position : Nat) (thread : Thread) : Thread :=
  match thread.opened with
  | [] => thread
  | start :: opened =>
    { thread with opened, recorded := (name, start, position) :: thread.recorded }

/-- The preferred one of the threads that are there. -/
def prefer : Option Thread → Option Thread → Option Thread
  | none, second => second
  | first, none => first
  | some first, some second =>
    if second.priority.precedes first.priority then some second else some first

/-- The preferred thread is one of the two. -/
theorem prefer_eq_some {first second : Option Thread} {thread : Thread}
    (h : prefer first second = some thread) : first = some thread ∨ second = some thread := by
  unfold prefer at h
  split at h
  · exact Or.inr h
  · exact Or.inl h
  · split at h
    · exact Or.inr h
    · exact Or.inl h

theorem isSome_prefer (first second : Option Thread) :
    (prefer first second).isSome = (first.isSome || second.isSome) := by
  unfold prefer
  split
  · simp
  · simp
  · split <;> rfl

end Thread

end RoutePatterns.Regex
