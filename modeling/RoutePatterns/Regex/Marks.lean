import RoutePatterns.Regex.Node
import RoutePatterns.Regex.Thread
import RoutePatterns.BinarySearch

/-!
The state of a search: threads at the places of an expression that wait for a character. `Marks` has
the shape of the expression, with whole parts left out where nothing waits. `Node.step` moves all
threads over one character at once, so that the time for it is bounded by the size of the
expression. A thread in a repetition chooses between another round and leaving; what is preferred is
the choice `false`.
-/

set_option autoImplicit false

namespace RoutePatterns.Regex

/-- The threads that wait within an expression. -/
inductive Marks
  /-- Nothing waits. -/
  | idle
  /-- A thread waits for a character. -/
  | waiting (thread : Thread)
  /-- Threads wait within the body of a capture or of a repetition. -/
  | inner (body : Marks)
  /-- Threads wait within the parts of a sequence or of alternatives. -/
  | both (first second : Marks)

namespace Marks

/-- The marks of two parts. -/
def pair : Marks → Marks → Marks
  | idle, idle => idle
  | first, second => both first second

/-- The marks of a body. -/
def wrap : Marks → Marks
  | idle => idle
  | body => inner body

/-- The marks within the body of a capture or of a repetition. -/
def body : Marks → Marks
  | inner body => body
  | _ => idle

/-- The marks within the first part. -/
def first : Marks → Marks
  | both first _ => first
  | _ => idle

/-- The marks within the second part. -/
def second : Marks → Marks
  | both _ second => second
  | _ => idle

/-- The thread that waits at one character. -/
def thread? : Marks → Option Thread
  | waiting thread => some thread
  | _ => none

/-- Whether nothing waits. -/
def isIdle : Marks → Bool
  | idle => true
  | _ => false

/-- The priorities of the threads in ascending order, together with those in `rest`. -/
def priorities (rest : List Priority) : Marks → List Priority
  | idle => rest
  | waiting thread => thread.priority.insertSorted rest
  | inner body => body.priorities rest
  | both first second => first.priorities (second.priorities rest)

/-- Keeps the threads that pass a test. -/
def filter (keep : Thread → Bool) : Marks → Marks
  | idle => idle
  | waiting thread => if keep thread then waiting thread else idle
  | inner body => wrap (body.filter keep)
  | both first second => pair (first.filter keep) (second.filter keep)

/-- Gives every thread another priority. -/
def mapPriority (change : Priority → Priority) : Marks → Marks
  | idle => idle
  | waiting thread => waiting { thread with priority := change thread.priority }
  | inner body => inner (body.mapPriority change)
  | both first second => both (first.mapPriority change) (second.mapPriority change)

/-- Replaces the choices of every thread by its rank among the threads, which keeps priorities
small. Gives the number of threads too. -/
def renumbered (marks : Marks) : Marks × Nat :=
  let order := (marks.priorities []).toArray
  (marks.mapPriority fun priority =>
      .ofRank (passingCount (fun other => other.precedes priority) order),
    order.size)

@[simp]
theorem body_wrap (marks : Marks) : marks.wrap.body = marks := by
  cases marks <;> rfl

@[simp]
theorem first_pair (left right : Marks) : (left.pair right).first = left := by
  cases left <;> cases right <;> rfl

@[simp]
theorem second_pair (left right : Marks) : (left.pair right).second = right := by
  cases left <;> cases right <;> rfl

/-! Changing priorities and dropping threads work part by part. -/

theorem body_mapPriority (change : Priority → Priority) (marks : Marks) :
    (marks.mapPriority change).body = marks.body.mapPriority change := by
  cases marks <;> rfl

theorem first_mapPriority (change : Priority → Priority) (marks : Marks) :
    (marks.mapPriority change).first = marks.first.mapPriority change := by
  cases marks <;> rfl

theorem second_mapPriority (change : Priority → Priority) (marks : Marks) :
    (marks.mapPriority change).second = marks.second.mapPriority change := by
  cases marks <;> rfl

theorem thread?_mapPriority (change : Priority → Priority) (marks : Marks) :
    (marks.mapPriority change).thread? =
      marks.thread?.map fun thread => { thread with priority := change thread.priority } := by
  cases marks <;> rfl

theorem body_filter (keep : Thread → Bool) (marks : Marks) :
    (marks.filter keep).body = marks.body.filter keep := by
  cases marks with
  | waiting thread => simp only [filter]; split <;> rfl
  | inner body => exact body_wrap _
  | idle => rfl
  | both left right => simp only [filter, pair]; split <;> rfl

theorem first_filter (keep : Thread → Bool) (marks : Marks) :
    (marks.filter keep).first = marks.first.filter keep := by
  cases marks with
  | waiting thread => simp only [filter]; split <;> rfl
  | inner body => simp only [filter, wrap]; split <;> rfl
  | idle => rfl
  | both left right => exact first_pair _ _

theorem second_filter (keep : Thread → Bool) (marks : Marks) :
    (marks.filter keep).second = marks.second.filter keep := by
  cases marks with
  | waiting thread => simp only [filter]; split <;> rfl
  | inner body => simp only [filter, wrap]; split <;> rfl
  | idle => rfl
  | both left right => exact second_pair _ _

theorem thread?_filter (keep : Thread → Bool) (marks : Marks) :
    (marks.filter keep).thread? = marks.thread?.filter keep := by
  cases marks with
  | waiting thread => by_cases hkeep : keep thread <;> simp [filter, thread?, Option.filter, hkeep]
  | inner body => simp only [filter, wrap]; split <;> rfl
  | idle => rfl
  | both left right => simp only [filter, pair]; split <;> rfl

end Marks

namespace Node

/-- The thread that goes through an expression without reading anything. -/
def through (site : Site) : Node → Thread → Option Thread
  | empty, thread => some thread
  | one _, _ => none
  | look condition, thread => if condition.holds site then some thread else none
  | capture name body, thread =>
    (body.through site (thread.openAt site.position)).map (·.close name site.position)
  | seq first second, thread => (first.through site thread).bind (second.through site)
  | alt first second, thread =>
    Thread.prefer (first.through site (thread.choose false))
      (second.through site (thread.choose true))
  | plus greedy body, thread => (body.through site thread).map (·.choose greedy)
  | loop greedy _, thread => some (thread.choose greedy)

/-- The thread that leaves an expression after the threads in it have read the character before the
site. -/
def leave (site : Site) : Node → Marks → Option Thread
  | _, .idle => none
  | empty, _ => none
  | one set, marks => if site.before.any set then marks.thread? else none
  | look _, _ => none
  | capture name body, marks => (body.leave site marks.body).map (·.close name site.position)
  | seq first second, marks =>
    Thread.prefer ((first.leave site marks.first).bind (second.through site))
      (second.leave site marks.second)
  | alt first second, marks =>
    Thread.prefer (first.leave site marks.first) (second.leave site marks.second)
  | plus greedy body, marks => (body.leave site marks.body).map (·.choose greedy)
  | loop greedy body, marks => (body.leave site marks.body).map (·.choose greedy)

/-- Lets the threads read the character before the site, and lets `entry` in. Gives the threads that
wait at the site and the one that leaves. -/
def step (site : Site) : Node → Marks → Option Thread → Marks × Option Thread
  | _, .idle, none => (.idle, none)
  | empty, _, entry => (.idle, entry)
  | one set, marks, entry =>
    ((entry.map .waiting).getD .idle, if site.before.any set then marks.thread? else none)
  | look condition, _, entry => (.idle, if condition.holds site then entry else none)
  | capture name body, marks, entry =>
    let (inside, exit) := body.step site marks.body (entry.map (·.openAt site.position))
    (inside.wrap, exit.map (·.close name site.position))
  | seq first second, marks, entry =>
    let (left, middle) := first.step site marks.first entry
    let (right, exit) := second.step site marks.second middle
    (left.pair right, exit)
  | alt first second, marks, entry =>
    let (left, exit) := first.step site marks.first (entry.map (·.choose false))
    let (right, exit') := second.step site marks.second (entry.map (·.choose true))
    (left.pair right, Thread.prefer exit exit')
  | plus greedy body, marks, entry =>
    let again := (body.leave site marks.body).map (·.choose !greedy)
    let (inside, exit) := body.step site marks.body (Thread.prefer entry again)
    (inside.wrap, exit.map (·.choose greedy))
  | loop greedy body, marks, entry =>
    let here := Thread.prefer entry (body.leave site marks.body)
    let (inside, _) := body.step site marks.body (here.map (·.choose !greedy))
    (inside.wrap, here.map (·.choose greedy))

/-! ### The equations of a step, which hold of idle parts too -/

variable (site : Site) (marks : Marks) (entry : Option Thread)

theorem leave_idle (node : Node) : node.leave site .idle = none := by
  cases node <;> rfl

theorem leave_empty : empty.leave site marks = none := by
  cases marks <;> rfl

theorem leave_look (condition : Look) : (look condition).leave site marks = none := by
  cases marks <;> rfl

theorem leave_one (set : CharSet) :
    (one set).leave site marks = if site.before.any set then marks.thread? else none := by
  cases marks with
  | idle => exact (ite_self none).symm
  | _ => rfl

theorem leave_capture (name : String) (body : Node) :
    (capture name body).leave site marks =
      (body.leave site marks.body).map (·.close name site.position) := by
  cases marks with
  | idle =>
    change none = (body.leave site .idle).map _
    rw [leave_idle]
    rfl
  | _ => rfl

theorem leave_seq (first second : Node) :
    (seq first second).leave site marks =
      Thread.prefer ((first.leave site marks.first).bind (second.through site))
        (second.leave site marks.second) := by
  cases marks with
  | idle =>
    change none = Thread.prefer ((first.leave site .idle).bind _) (second.leave site .idle)
    rw [leave_idle, leave_idle]
    rfl
  | _ => rfl

theorem leave_alt (first second : Node) :
    (alt first second).leave site marks =
      Thread.prefer (first.leave site marks.first) (second.leave site marks.second) := by
  cases marks with
  | idle =>
    change none = Thread.prefer (first.leave site .idle) (second.leave site .idle)
    rw [leave_idle, leave_idle]
    rfl
  | _ => rfl

theorem leave_plus (greedy : Bool) (body : Node) :
    (plus greedy body).leave site marks = (body.leave site marks.body).map (·.choose greedy) := by
  cases marks with
  | idle =>
    change none = (body.leave site .idle).map _
    rw [leave_idle]
    rfl
  | _ => rfl

theorem leave_loop (greedy : Bool) (body : Node) :
    (loop greedy body).leave site marks = (body.leave site marks.body).map (·.choose greedy) := by
  cases marks with
  | idle =>
    change none = (body.leave site .idle).map _
    rw [leave_idle]
    rfl
  | _ => rfl

theorem step_idle_none (node : Node) : node.step site .idle none = (.idle, none) := by
  cases node <;> rfl

theorem step_empty : empty.step site marks entry = (.idle, entry) := by
  cases marks <;> cases entry <;> rfl

theorem step_one (set : CharSet) :
    (one set).step site marks entry =
      ((entry.map .waiting).getD .idle, if site.before.any set then marks.thread? else none) := by
  cases marks with
  | idle =>
    cases entry with
    | none =>
      change (Marks.idle, none) = (Marks.idle, if site.before.any set then none else none)
      rw [ite_self]
    | some thread => rfl
  | _ => rfl

theorem step_look (condition : Look) :
    (look condition).step site marks entry =
      (.idle, if condition.holds site then entry else none) := by
  cases marks with
  | idle =>
    cases entry with
    | none =>
      change (Marks.idle, none) = (Marks.idle, if condition.holds site then none else none)
      rw [ite_self]
    | some thread => rfl
  | _ => rfl

theorem step_capture (name : String) (body : Node) :
    (capture name body).step site marks entry =
      ((body.step site marks.body (entry.map (·.openAt site.position))).1.wrap,
        (body.step site marks.body (entry.map (·.openAt site.position))).2.map
          (·.close name site.position)) := by
  cases marks with
  | idle =>
    cases entry with
    | none =>
      change _ = ((body.step site .idle none).1.wrap, (body.step site .idle none).2.map _)
      rw [step_idle_none, step_idle_none]
      rfl
    | some thread => rfl
  | _ => rfl

theorem step_seq (first second : Node) :
    (seq first second).step site marks entry =
      ((first.step site marks.first entry).1.pair
          (second.step site marks.second (first.step site marks.first entry).2).1,
        (second.step site marks.second (first.step site marks.first entry).2).2) := by
  cases marks with
  | idle =>
    cases entry with
    | none =>
      have hfirst := step_idle_none site first
      change _ = ((first.step site .idle none).1.pair
          (second.step site .idle (first.step site .idle none).2).1,
        (second.step site .idle (first.step site .idle none).2).2)
      rw [hfirst, step_idle_none site second, step_idle_none]
      rfl
    | some thread => rfl
  | _ => rfl

theorem step_alt (first second : Node) :
    (alt first second).step site marks entry =
      ((first.step site marks.first (entry.map (·.choose false))).1.pair
          (second.step site marks.second (entry.map (·.choose true))).1,
        Thread.prefer (first.step site marks.first (entry.map (·.choose false))).2
          (second.step site marks.second (entry.map (·.choose true))).2) := by
  cases marks with
  | idle =>
    cases entry with
    | none =>
      change _ = ((first.step site .idle none).1.pair (second.step site .idle none).1,
        Thread.prefer (first.step site .idle none).2 (second.step site .idle none).2)
      rw [step_idle_none, step_idle_none, step_idle_none]
      rfl
    | some thread => rfl
  | _ => rfl

theorem step_plus (greedy : Bool) (body : Node) :
    (plus greedy body).step site marks entry =
      let entry := Thread.prefer entry ((body.leave site marks.body).map (·.choose !greedy))
      ((body.step site marks.body entry).1.wrap,
        (body.step site marks.body entry).2.map (·.choose greedy)) := by
  cases marks with
  | idle =>
    cases entry with
    | none =>
      have hentry : Thread.prefer none
          ((body.leave site Marks.idle.body).map (·.choose !greedy)) = none := by
        change Thread.prefer none ((body.leave site .idle).map _) = none
        rw [leave_idle]
        rfl
      change _ = ((body.step site .idle (Thread.prefer none _)).1.wrap,
        (body.step site .idle (Thread.prefer none _)).2.map _)
      rw [hentry, step_idle_none, step_idle_none]
      rfl
    | some thread => rfl
  | _ => rfl

theorem step_loop (greedy : Bool) (body : Node) :
    (loop greedy body).step site marks entry =
      let here := Thread.prefer entry (body.leave site marks.body)
      ((body.step site marks.body (here.map (·.choose !greedy))).1.wrap,
        here.map (·.choose greedy)) := by
  cases marks with
  | idle =>
    cases entry with
    | none =>
      have hhere : Thread.prefer none (body.leave site Marks.idle.body) = none := by
        change Thread.prefer none (body.leave site .idle) = none
        rw [leave_idle]
        rfl
      change _ = ((body.step site .idle ((Thread.prefer none _).map _)).1.wrap,
        (Thread.prefer none _).map _)
      rw [hhere, Option.map_none, step_idle_none, step_idle_none]
      rfl
    | some thread => rfl
  | _ => rfl

end Node

end RoutePatterns.Regex
