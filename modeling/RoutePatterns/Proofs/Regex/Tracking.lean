import Mathlib.Tactic.ByContra
import RoutePatterns.Proofs.Regex.Reads

/-!
# What the threads of a search stand for

A search moves threads through an expression and keeps one thread for each place, so it does not
try every reading. This module shows that it loses none that matters and invents none.

`Ways` are sets of ways to come to a place: the position, the captures that are being read and those
that are recorded. `Ways.after` are the ways to leave an expression that was entered in one of
given ways. A thread stands for a way apart from its priority, and `Picks full ways thread` says
that the thread, if there is one, stands for one of the ways and, if `full` holds, that there is one
as soon as there is a way.

`Tracks text full position ways node marks` says that the marks within an expression pick, at every
character that can come next, from the ways to wait there before `position`. The two main
statements are about one step: `picks_leave`, the thread that leaves picks from the ways to leave,
and `step_tracks`, a step keeps the marks in track and lets out a thread that picks from the ways to
leave. `full` is given up when a match is found and threads are dropped (`Tracks.filter`); what the
threads that stay stand for is kept.
-/

set_option autoImplicit false
set_option relaxedAutoImplicit false

namespace RoutePatterns.Regex

/-! ### Ways -/

/-- Ways to come to a place: the position, the positions where the captures that are being read
begin, and the captures recorded. -/
abbrev Ways := Nat → List Nat → List Recorded → Prop

namespace Ways

/-- The ways to leave an expression that was entered in one of the ways. -/
def after (text : List Char) (node : Node) (ways : Ways) : Ways :=
  fun stop opened recorded ↦ ∃ start earlier later,
    ways start opened earlier ∧ Reads text node start stop later ∧ recorded = later ++ earlier

/-- The ways with one more capture that begins at their position. -/
def opening (ways : Ways) : Ways :=
  fun position opened recorded ↦
    ∃ outer, opened = position :: outer ∧ ways position outer recorded

/-- The ways with a position before a limit. -/
def before (limit : Nat) (ways : Ways) : Ways :=
  fun position opened recorded ↦ position < limit ∧ ways position opened recorded

/-- The ways with a given position. -/
def only (place : Nat) (ways : Ways) : Ways :=
  fun position opened recorded ↦ position = place ∧ ways position opened recorded

/-- The ways in either set. -/
def union (first second : Ways) : Ways :=
  fun position opened recorded ↦
    first position opened recorded ∨ second position opened recorded

/-- The ways to be at the beginning of a round of a body that is repeated at least once. -/
def rounds (text : List Char) (greedy : Bool) (body : Node) (ways : Ways) : Ways :=
  ways.union (ways.after text (.plus greedy body))

/-- The ways to wait for the character before a position. -/
def due (ways : Ways) (position : Nat) (opened : List Nat) (recorded : List Recorded) : Prop :=
  ∃ previous, previous + 1 = position ∧ ways previous opened recorded

variable {text : List Char} {ways : Ways}

theorem after_seq (first second : Node) :
    ways.after text (.seq first second) = (ways.after text first).after text second := by
  ext stop opened recorded
  constructor
  · rintro ⟨start, base, later, hway, hreads, rfl⟩
    cases hreads with
    | seq hfirst hsecond =>
      exact ⟨_, _, _, ⟨start, base, _, hway, hfirst, rfl⟩, hsecond, by rw [List.append_assoc]⟩
  · rintro ⟨middle, _, last, ⟨start, base, inner, hway, hfirst, rfl⟩, hsecond, rfl⟩
    exact ⟨start, base, _, hway, .seq hfirst hsecond, by rw [List.append_assoc]⟩

theorem after_alt (first second : Node) :
    ways.after text (.alt first second) =
      (ways.after text first).union (ways.after text second) := by
  ext stop opened recorded
  constructor
  · rintro ⟨start, base, later, hway, hreads, rfl⟩
    cases hreads with
    | altFirst _ hfirst => exact Or.inl ⟨start, base, later, hway, hfirst, rfl⟩
    | altSecond _ hsecond => exact Or.inr ⟨start, base, later, hway, hsecond, rfl⟩
  · rintro (⟨start, base, later, hway, hreads, rfl⟩ | ⟨start, base, later, hway, hreads, rfl⟩)
    · exact ⟨start, base, later, hway, .altFirst _ hreads, rfl⟩
    · exact ⟨start, base, later, hway, .altSecond _ hreads, rfl⟩

/-- A body that is repeated at least once is left after a round. -/
theorem after_plus (greedy : Bool) (body : Node) :
    ways.after text (.plus greedy body) = (ways.rounds text greedy body).after text body := by
  ext stop opened recorded
  constructor
  · rintro ⟨start, base, later, hway, hreads, rfl⟩
    cases hreads with
    | plusOne hbody => exact ⟨start, base, later, Or.inl hway, hbody, rfl⟩
    | plusMore hrounds hbody =>
      exact ⟨_, _, _, Or.inr ⟨start, base, _, hway, hrounds, rfl⟩, hbody,
        by rw [List.append_assoc]⟩
  · rintro ⟨middle, inner, last, hround | ⟨start, base, later, hway, hrounds, rfl⟩, hbody, rfl⟩
    · exact ⟨middle, inner, last, hround, .plusOne hbody, rfl⟩
    · exact ⟨start, base, _, hway, .plusMore hrounds hbody, by rw [List.append_assoc]⟩

theorem opening_before (limit : Nat) :
    ways.opening.before limit = (ways.before limit).opening := by
  ext position opened recorded
  constructor
  · rintro ⟨hlt, outer, rfl, hway⟩
    exact ⟨outer, rfl, hlt, hway⟩
  · rintro ⟨outer, rfl, hlt, hway⟩
    exact ⟨hlt, outer, rfl, hway⟩

/-! Ways that end at a position and began before it are told apart by the place in between. -/

theorem after_seq_before_iff {position : Nat} {opened : List Nat} {recorded : List Recorded}
    (first second : Node) :
    (ways.before position).after text (.seq first second) position opened recorded ↔
      (((ways.before position).after text first).only position).after text second position opened
          recorded ∨
        ((ways.after text first).before position).after text second position opened recorded := by
  rw [after_seq]
  constructor
  · rintro ⟨middle, _, last, hfirst, hsecond, rfl⟩
    by_cases hmiddle : middle = position
    · exact Or.inl ⟨middle, _, last, ⟨hmiddle, hfirst⟩, hsecond, rfl⟩
    · obtain ⟨start, base, later, ⟨-, hway⟩, hreads, rfl⟩ := hfirst
      have hlt : middle < position := Nat.lt_of_le_of_ne hsecond.start_le_stop hmiddle
      exact Or.inr ⟨middle, _, last, ⟨hlt, start, base, later, hway, hreads, rfl⟩, hsecond, rfl⟩
  · rintro (⟨middle, _, last, ⟨-, hfirst⟩, hsecond, rfl⟩ |
      ⟨middle, _, last, ⟨hlt, start, base, later, hway, hreads, rfl⟩, hsecond, rfl⟩)
    · exact ⟨middle, _, last, hfirst, hsecond, rfl⟩
    · have hstart : start < position := Nat.lt_of_le_of_lt hreads.start_le_stop hlt
      exact ⟨middle, _, last, ⟨start, base, later, ⟨hstart, hway⟩, hreads, rfl⟩, hsecond, rfl⟩

theorem after_plus_of_round {position : Nat} {opened : List Nat} {recorded : List Recorded}
    {greedy : Bool} {body : Node}
    (h : ((ways.rounds text greedy body).before position).after text body position opened
      recorded) :
    (ways.before position).after text (.plus greedy body) position opened recorded := by
  obtain ⟨middle, _, last, ⟨hlt, hway | ⟨start, base, later, hway, hrounds, rfl⟩⟩, hbody, rfl⟩ := h
  · exact ⟨middle, _, last, ⟨hlt, hway⟩, .plusOne hbody, rfl⟩
  · have hstart : start < position := Nat.lt_of_le_of_lt hrounds.start_le_stop hlt
    exact ⟨start, base, _, ⟨hstart, hway⟩, .plusMore hrounds hbody, by rw [List.append_assoc]⟩

theorem exists_round_of_after_plus {position : Nat} {opened : List Nat} {recorded : List Recorded}
    {greedy : Bool} {body : Node}
    (h : (ways.before position).after text (.plus greedy body) position opened recorded) :
    ∃ recorded', ((ways.rounds text greedy body).before position).after text body position opened
      recorded' := by
  obtain ⟨start, base, later, ⟨hlt, hway⟩, hreads, rfl⟩ := h
  obtain ⟨middle, hmiddle, hrounds, last, hbody⟩ := hreads.exists_last_round hlt
  rcases hrounds with rfl | ⟨earlier, hrounds⟩
  · exact ⟨_, middle, base, last, ⟨hmiddle, Or.inl hway⟩, hbody, rfl⟩
  · exact ⟨_, middle, _, last, ⟨hmiddle, Or.inr ⟨start, base, earlier, hway, hrounds, rfl⟩⟩, hbody,
      rfl⟩

theorem after_loop_of_round {position : Nat} {opened : List Nat} {recorded : List Recorded}
    {greedy : Bool} {body : Node}
    (h : ((ways.after text (.loop greedy body)).before position).after text body position opened
      recorded) :
    (ways.before position).after text (.loop greedy body) position opened recorded := by
  obtain ⟨middle, _, last, ⟨hlt, start, base, later, hway, hrounds, rfl⟩, hbody, rfl⟩ := h
  have hstart : start < position := Nat.lt_of_le_of_lt hrounds.start_le_stop hlt
  exact ⟨start, base, _, ⟨hstart, hway⟩, .loopMore hrounds hbody, by rw [List.append_assoc]⟩

theorem exists_round_of_after_loop {position : Nat} {opened : List Nat} {recorded : List Recorded}
    {greedy : Bool} {body : Node}
    (h : (ways.before position).after text (.loop greedy body) position opened recorded) :
    ∃ recorded', ((ways.after text (.loop greedy body)).before position).after text body position
      opened recorded' := by
  obtain ⟨start, base, later, ⟨hlt, hway⟩, hreads, rfl⟩ := h
  obtain ⟨middle, hmiddle, ⟨earlier, hrounds⟩, last, hbody⟩ := hreads.exists_last_loop hlt
  exact ⟨_, middle, _, last, ⟨hmiddle, start, base, earlier, hway, hrounds, rfl⟩, hbody, rfl⟩

end Ways

/-! ### Threads that stand for ways -/

/-- The thread, if there is one, stands for one of the ways, and if `full` holds, there is one as
soon as there is a way. -/
structure Picks (full : Prop) (ways : List Nat → List Recorded → Prop) (thread : Option Thread) :
    Prop where
  /-- A thread stands for a way. -/
  way : ∀ found, thread = some found → ways found.opened found.recorded
  /-- Where there is a way, there is a thread. -/
  isSome : full → ∀ opened recorded, ways opened recorded → thread.isSome = true

namespace Picks

variable {full : Prop} {ways ways' : List Nat → List Recorded → Prop}
  {thread thread' : Option Thread}

theorem none_of_empty (h : ∀ opened recorded, ¬ ways opened recorded) :
    Picks full ways none where
  way _ hfound := nomatch hfound
  isSome _ opened recorded hway := absurd hway (h opened recorded)

/-- The ways can be replaced by more of them, as long as there are none if there were none. -/
theorem replace (h : Picks full ways thread)
    (hsub : ∀ opened recorded, ways opened recorded → ways' opened recorded)
    (hback : ∀ opened recorded, ways' opened recorded →
      ∃ opened' recorded', ways opened' recorded') : Picks full ways' thread where
  way found hfound := hsub _ _ (h.way found hfound)
  isSome hfull opened recorded hway := by
    obtain ⟨opened', recorded', hway'⟩ := hback opened recorded hway
    exact h.isSome hfull opened' recorded' hway'

/-- A change that keeps the captures of threads keeps what they stand for. -/
theorem map {change : Thread → Thread} (h : Picks full ways thread)
    (hopened : ∀ thread, (change thread).opened = thread.opened)
    (hrecorded : ∀ thread, (change thread).recorded = thread.recorded) :
    Picks full ways (thread.map change) where
  way found hfound := by
    obtain ⟨before, hbefore, rfl⟩ := Option.map_eq_some_iff.mp hfound
    rw [hopened, hrecorded]
    exact h.way before hbefore
  isSome hfull opened recorded hway := by
    rw [Option.isSome_map]
    exact h.isSome hfull opened recorded hway

theorem choose (h : Picks full ways thread) (choice : Bool) :
    Picks full ways (thread.map (·.choose choice)) :=
  h.map (fun _ ↦ rfl) (fun _ ↦ rfl)

theorem filter (h : Picks full ways thread) (keep : Thread → Bool) :
    Picks False ways (thread.filter keep) where
  way found hfound := h.way found (Option.eq_some_of_filter_eq_some hfound)
  isSome hfalse := hfalse.elim

theorem prefer (h : Picks full ways thread) (h' : Picks full ways' thread') :
    Picks full (fun opened recorded ↦ ways opened recorded ∨ ways' opened recorded)
      (Thread.prefer thread thread') where
  way found hfound := by
    rcases Thread.prefer_eq_some hfound with hfound | hfound
    · exact Or.inl (h.way found hfound)
    · exact Or.inr (h'.way found hfound)
  isSome hfull opened recorded hway := by
    rw [Thread.isSome_prefer, Bool.or_eq_true]
    rcases hway with hway | hway
    · exact Or.inl (h.isSome hfull opened recorded hway)
    · exact Or.inr (h'.isSome hfull opened recorded hway)

theorem openAt {ways : Ways} {position : Nat} (h : Picks full (ways position) thread) :
    Picks full (ways.opening position) (thread.map (·.openAt position)) where
  way found hfound := by
    obtain ⟨before, hbefore, rfl⟩ := Option.map_eq_some_iff.mp hfound
    exact ⟨before.opened, rfl, h.way before hbefore⟩
  isSome hfull opened recorded hway := by
    obtain ⟨outer, -, hway⟩ := hway
    rw [Option.isSome_map]
    exact h.isSome hfull outer recorded hway

/-- Ending a capture records the stretch that the thread read since it began. -/
theorem close {ways : Ways} {text : List Char} {body : Node} {position : Nat} (name : String)
    (h : Picks full (ways.opening.after text body position) thread) :
    Picks full (ways.after text (.capture name body) position)
      (thread.map (·.close name position)) where
  way found hfound := by
    obtain ⟨before, hbefore, rfl⟩ := Option.map_eq_some_iff.mp hfound
    obtain ⟨start, base, later, ⟨outer, hopened, hway⟩, hbody, hrecorded⟩ := h.way before hbefore
    refine ⟨start, base, (name, start, position) :: later, ?_, .capture name hbody, ?_⟩
    · simpa only [Thread.close, hopened] using hway
    · simp only [Thread.close, hopened, hrecorded, List.cons_append]
  isSome hfull opened recorded hway := by
    obtain ⟨start, base, later, hway, hreads, -⟩ := hway
    rw [Option.isSome_map]
    cases hreads with
    | capture _ hbody =>
      exact h.isSome hfull (start :: opened) _ ⟨start, base, _, ⟨opened, rfl, hway⟩, hbody, rfl⟩

end Picks

/-! ### Going through an expression without reading -/

variable {text : List Char} {full : Prop} {ways : Ways} {position : Nat}

theorem reads_of_through {node : Node} {thread found : Thread}
    (h : node.through (siteAt text position) thread = some found) :
    ∃ recorded, Reads text node position position recorded ∧ found.opened = thread.opened ∧
      found.recorded = recorded ++ thread.recorded := by
  induction node generalizing thread found with
  | empty =>
    obtain rfl := Option.some.inj h
    exact ⟨[], .empty _, rfl, rfl⟩
  | one set => cases h
  | look condition =>
    simp only [Node.through] at h
    split at h
    · next hholds =>
      obtain rfl := Option.some.inj h
      exact ⟨[], .look hholds, rfl, rfl⟩
    · cases h
  | capture name body ih =>
    obtain ⟨inner, hinner, rfl⟩ := Option.map_eq_some_iff.mp h
    obtain ⟨recorded, hbody, hopened, hrecorded⟩ := ih hinner
    have hopened' : inner.opened = position :: thread.opened := hopened
    refine ⟨(name, position, position) :: recorded, .capture name hbody, ?_, ?_⟩
    · simp only [Thread.close, hopened']
    · have hrecorded' : inner.recorded = recorded ++ thread.recorded := hrecorded
      simp only [Thread.close, hopened', hrecorded', List.cons_append]
      rfl
  | seq first second ihfirst ihsecond =>
    obtain ⟨middle, hfirst, hsecond⟩ := Option.bind_eq_some_iff.mp h
    obtain ⟨earlier, hreads, hopened, hrecorded⟩ := ihfirst hfirst
    obtain ⟨later, hreads', hopened', hrecorded'⟩ := ihsecond hsecond
    exact ⟨later ++ earlier, .seq hreads hreads', hopened'.trans hopened,
      by rw [hrecorded', hrecorded, List.append_assoc]⟩
  | alt first second ihfirst ihsecond =>
    rcases Thread.prefer_eq_some h with h | h
    · obtain ⟨recorded, hreads, hopened, hrecorded⟩ := ihfirst h
      exact ⟨recorded, .altFirst _ hreads, hopened, hrecorded⟩
    · obtain ⟨recorded, hreads, hopened, hrecorded⟩ := ihsecond h
      exact ⟨recorded, .altSecond _ hreads, hopened, hrecorded⟩
  | plus greedy body ih =>
    obtain ⟨inner, hinner, rfl⟩ := Option.map_eq_some_iff.mp h
    obtain ⟨recorded, hbody, hopened, hrecorded⟩ := ih hinner
    exact ⟨recorded, .plusOne hbody, hopened, hrecorded⟩
  | loop greedy body _ =>
    obtain rfl := Option.some.inj h
    exact ⟨[], .loopNone _ _ _, rfl, rfl⟩

theorem isSome_through {node : Node} {recorded : List Recorded} (thread : Thread)
    (h : Reads text node position position recorded) :
    (node.through (siteAt text position) thread).isSome = true := by
  induction node generalizing recorded thread with
  | empty => rfl
  | one set => cases h
  | look condition =>
    cases h with
    | look hholds => simp only [Node.through, hholds, if_true, Option.isSome_some]
  | capture name body ih =>
    cases h with
    | capture _ hbody =>
      simp only [Node.through, Option.isSome_map]
      exact ih _ hbody
  | seq first second ihfirst ihsecond =>
    cases h with
    | @seq _ _ _ middle _ _ _ hfirst hsecond =>
      obtain rfl : middle = position :=
        Nat.le_antisymm hsecond.start_le_stop hfirst.start_le_stop
      obtain ⟨inner, hinner⟩ := Option.isSome_iff_exists.mp (ihfirst thread hfirst)
      simp only [Node.through, hinner, Option.bind_some]
      exact ihsecond inner hsecond
  | alt first second ihfirst ihsecond =>
    simp only [Node.through, Thread.isSome_prefer, Bool.or_eq_true]
    cases h with
    | altFirst _ hfirst => exact Or.inl (ihfirst _ hfirst)
    | altSecond _ hsecond => exact Or.inr (ihsecond _ hsecond)
  | plus greedy body ih =>
    simp only [Node.through, Option.isSome_map]
    cases h with
    | plusOne hbody => exact ih _ hbody
    | @plusMore _ _ _ middle _ _ _ hrounds hbody =>
      obtain rfl : middle = position :=
        Nat.le_antisymm hbody.start_le_stop hrounds.start_le_stop
      exact ih _ hbody
  | loop greedy body _ => rfl

/-- A thread that goes through an expression picks from the readings of the empty text. -/
theorem picks_through {thread : Option Thread} (node : Node)
    (h : Picks full (ways position) thread) :
    Picks full ((ways.only position).after text node position)
      (thread.bind (node.through (siteAt text position))) where
  way found hfound := by
    obtain ⟨before, hbefore, hthrough⟩ := Option.bind_eq_some_iff.mp hfound
    obtain ⟨recorded, hreads, hopened, hrecorded⟩ := reads_of_through hthrough
    exact ⟨position, before.recorded, recorded, ⟨rfl, hopened ▸ h.way before hbefore⟩, hreads,
      hrecorded⟩
  isSome hfull opened recorded hway := by
    obtain ⟨_, base, later, ⟨rfl, hway⟩, hreads, -⟩ := hway
    obtain ⟨before, rfl⟩ := Option.isSome_iff_exists.mp (h.isSome hfull opened base hway)
    exact isSome_through before hreads

/-! ### Marks in track -/

/-- The marks within an expression that was entered in one of the ways pick, at every character that
can come next, from the ways to wait there for the character before `position`. -/
def Tracks (text : List Char) (full : Prop) (position : Nat) : Ways → Node → Marks → Prop
  | _, .empty, _ => True
  | ways, .one _, marks => Picks full (ways.due position) marks.thread?
  | _, .look _, _ => True
  | ways, .capture _ body, marks => Tracks text full position ways.opening body marks.body
  | ways, .seq first second, marks =>
    Tracks text full position ways first marks.first ∧
      Tracks text full position (ways.after text first) second marks.second
  | ways, .alt first second, marks =>
    Tracks text full position ways first marks.first ∧
      Tracks text full position ways second marks.second
  | ways, .plus greedy body, marks =>
    Tracks text full position (ways.rounds text greedy body) body marks.body
  | ways, .loop greedy body, marks =>
    Tracks text full position (ways.after text (.loop greedy body)) body marks.body

/-- Before the beginning of a text nothing can wait. -/
theorem tracks_idle (node : Node) : Tracks text full 0 ways node .idle := by
  induction node generalizing ways with
  | empty | look => trivial
  | one set => exact Picks.none_of_empty fun _ _ ⟨_, hprevious, _⟩ ↦ Nat.succ_ne_zero _ hprevious
  | capture _ _ ih | plus _ _ ih | loop _ _ ih => exact ih
  | seq _ _ ihfirst ihsecond | alt _ _ ihfirst ihsecond => exact ⟨ihfirst, ihsecond⟩

/-- Priorities do not matter for what threads stand for. -/
theorem Tracks.mapPriority {node : Node} {marks : Marks} (change : Priority → Priority)
    (h : Tracks text full position ways node marks) :
    Tracks text full position ways node (marks.mapPriority change) := by
  induction node generalizing ways marks with
  | empty | look => trivial
  | one set =>
    rw [Tracks, Marks.thread?_mapPriority]
    exact h.map (fun _ ↦ rfl) (fun _ ↦ rfl)
  | capture _ _ ih | plus _ _ ih | loop _ _ ih =>
    rw [Tracks, Marks.body_mapPriority]
    exact ih h
  | seq _ _ ihfirst ihsecond | alt _ _ ihfirst ihsecond =>
    rw [Tracks, Marks.first_mapPriority, Marks.second_mapPriority]
    exact ⟨ihfirst h.1, ihsecond h.2⟩

/-- The threads that stay when some are dropped still stand for ways. -/
theorem Tracks.filter {node : Node} {marks : Marks} (keep : Thread → Bool)
    (h : Tracks text full position ways node marks) :
    Tracks text False position ways node (marks.filter keep) := by
  induction node generalizing ways marks with
  | empty | look => trivial
  | one set =>
    rw [Tracks, Marks.thread?_filter]
    exact h.filter keep
  | capture _ _ ih | plus _ _ ih | loop _ _ ih =>
    rw [Tracks, Marks.body_filter]
    exact ih h
  | seq _ _ ihfirst ihsecond | alt _ _ ihfirst ihsecond =>
    rw [Tracks, Marks.first_filter, Marks.second_filter]
    exact ⟨ihfirst h.1, ihsecond h.2⟩

/-! ### One step -/

/-- A thread that waits at one character leaves if the character before the position is of the set.
-/
theorem picks_leave_one {set : CharSet} {marks : Marks}
    (h : Picks full (ways.due position) marks.thread?) :
    Picks full ((ways.before position).after text (.one set) position)
      ((Node.one set).leave (siteAt text position) marks) := by
  rw [Node.leave_one]
  constructor
  · intro found hfound
    split at hfound
    · next hset =>
      obtain ⟨previous, rfl, hway⟩ := h.way found hfound
      obtain ⟨char, hchar, hset⟩ := (Option.any_eq_true _ _).mp hset
      exact ⟨previous, found.recorded, [], ⟨Nat.lt_succ_self _, hway⟩, .one hchar hset, rfl⟩
    · cases hfound
  · rintro hfull opened recorded ⟨start, base, later, ⟨hlt, hway⟩, hreads, -⟩
    cases hreads with
    | one hchar hset =>
      have hany : (siteAt text (start + 1)).before.any set = true :=
        (Option.any_eq_true _ _).mpr ⟨_, hchar, hset⟩
      rw [if_pos hany]
      exact h.isSome hfull opened base ⟨start, rfl, hway⟩

/-- The thread that leaves an expression after reading a character picks from the ways to leave it
that entered it before. -/
theorem picks_leave {node : Node} {marks : Marks} (h : Tracks text full position ways node marks) :
    Picks full ((ways.before position).after text node position)
      (node.leave (siteAt text position) marks) := by
  induction node generalizing ways marks with
  | empty =>
    rw [Node.leave_empty]
    refine Picks.none_of_empty ?_
    rintro opened recorded ⟨start, base, later, ⟨hlt, -⟩, hreads, -⟩
    cases hreads
    exact Nat.lt_irrefl _ hlt
  | look condition =>
    rw [Node.leave_look]
    refine Picks.none_of_empty ?_
    rintro opened recorded ⟨start, base, later, ⟨hlt, -⟩, hreads, -⟩
    cases hreads
    exact Nat.lt_irrefl _ hlt
  | one set => exact picks_leave_one h
  | capture name body ih =>
    rw [Node.leave_capture]
    have hbody := ih h
    rw [Ways.opening_before] at hbody
    exact hbody.close name
  | seq first second ihfirst ihsecond =>
    rw [Node.leave_seq]
    refine ((picks_through second (ihfirst h.1)).prefer (ihsecond h.2)).replace ?_ ?_
    · intro opened recorded hway
      exact (Ways.after_seq_before_iff first second).mpr hway
    · intro opened recorded hway
      exact ⟨opened, recorded, (Ways.after_seq_before_iff first second).mp hway⟩
  | alt first second ihfirst ihsecond =>
    rw [Node.leave_alt, Ways.after_alt]
    exact (ihfirst h.1).prefer (ihsecond h.2)
  | plus greedy body ih =>
    rw [Node.leave_plus]
    refine ((ih h).choose greedy).replace ?_ ?_
    · exact fun _ _ ↦ Ways.after_plus_of_round
    · exact fun opened _ hway ↦ ⟨opened, Ways.exists_round_of_after_plus hway⟩
  | loop greedy body ih =>
    rw [Node.leave_loop]
    refine ((ih h).choose greedy).replace ?_ ?_
    · exact fun _ _ ↦ Ways.after_loop_of_round
    · exact fun opened _ hway ↦ ⟨opened, Ways.exists_round_of_after_loop hway⟩

/-- The threads that begin a round of a repeated body pick from the ways to begin one. -/
theorem picks_round {greedy : Bool} {body : Node} {entry again : Option Thread}
    (hentry : Picks full (ways position) entry)
    (hagain : Picks full (((ways.rounds text greedy body).before position).after text body position)
      again) : Picks full (ways.rounds text greedy body position) (Thread.prefer entry again) := by
  refine (hentry.prefer hagain).replace ?_ ?_
  · rintro opened recorded (hway | hway)
    · exact Or.inl hway
    · obtain ⟨start, base, later, ⟨-, hstart⟩, hreads, rfl⟩ := Ways.after_plus_of_round hway
      exact Or.inr ⟨start, base, later, hstart, hreads, rfl⟩
  · rintro opened recorded (hway | ⟨start, base, later, hway, hreads, rfl⟩)
    · exact ⟨opened, recorded, Or.inl hway⟩
    · rcases Nat.lt_or_eq_of_le hreads.start_le_stop with hlt | rfl
      · obtain ⟨recorded', hround⟩ :=
          Ways.exists_round_of_after_plus ⟨start, base, later, ⟨hlt, hway⟩, hreads, rfl⟩
        exact ⟨opened, recorded', Or.inr hround⟩
      · exact ⟨opened, base, Or.inl hway⟩

/-- The threads that come to the place of choice of a loop pick from the ways to leave it there. -/
theorem picks_loop {greedy : Bool} {body : Node} {entry again : Option Thread}
    (hentry : Picks full (ways position) entry)
    (hagain : Picks full
      (((ways.after text (.loop greedy body)).before position).after text body position) again) :
    Picks full (ways.after text (.loop greedy body) position) (Thread.prefer entry again) := by
  refine (hentry.prefer hagain).replace ?_ ?_
  · rintro opened recorded (hway | hway)
    · exact ⟨position, recorded, [], hway, .loopNone _ _ _, rfl⟩
    · obtain ⟨start, base, later, ⟨-, hstart⟩, hreads, rfl⟩ := Ways.after_loop_of_round hway
      exact ⟨start, base, later, hstart, hreads, rfl⟩
  · rintro opened recorded ⟨start, base, later, hway, hreads, rfl⟩
    rcases Nat.lt_or_eq_of_le hreads.start_le_stop with hlt | rfl
    · obtain ⟨recorded', hround⟩ :=
        Ways.exists_round_of_after_loop ⟨start, base, later, ⟨hlt, hway⟩, hreads, rfl⟩
      exact ⟨opened, recorded', Or.inr hround⟩
    · exact ⟨opened, base, Or.inl hway⟩

/-- A step keeps marks in track and lets a thread out that picks from the ways to leave. -/
theorem step_tracks {node : Node} {marks : Marks} {entry : Option Thread}
    (h : Tracks text full position ways node marks) (hentry : Picks full (ways position) entry) :
    Tracks text full (position + 1) ways node
        (node.step (siteAt text position) marks entry).1 ∧
      Picks full (ways.after text node position)
        (node.step (siteAt text position) marks entry).2 := by
  induction node generalizing ways marks entry with
  | empty =>
    rw [Node.step_empty]
    refine ⟨trivial, hentry.replace ?_ ?_⟩
    · exact fun opened recorded hway ↦ ⟨position, recorded, [], hway, .empty _, rfl⟩
    · rintro opened recorded ⟨start, base, later, hway, hreads, rfl⟩
      cases hreads
      exact ⟨opened, base, hway⟩
  | look condition =>
    rw [Node.step_look]
    refine ⟨trivial, ?_, ?_⟩
    · intro found hfound
      split at hfound
      · next hholds =>
        exact ⟨position, found.recorded, [], hentry.way found hfound, .look hholds, rfl⟩
      · cases hfound
    · rintro hfull opened recorded ⟨start, base, later, hway, hreads, rfl⟩
      cases hreads with
      | look hholds =>
        rw [if_pos hholds]
        exact hentry.isSome hfull opened base hway
  | one set =>
    constructor
    · rw [Node.step_one]
      have hthread : ((entry.map Marks.waiting).getD .idle).thread? = entry := by
        cases entry <;> rfl
      rw [Tracks, hthread]
      refine hentry.replace ?_ ?_
      · exact fun _ _ hway ↦ ⟨position, rfl, hway⟩
      · rintro opened recorded ⟨previous, hprevious, hway⟩
        obtain rfl := Nat.succ.inj hprevious
        exact ⟨opened, recorded, hway⟩
    · have hleave := picks_leave h
      rw [Node.leave_one] at hleave
      rw [Node.step_one]
      refine hleave.replace ?_ ?_
      · rintro opened recorded ⟨start, base, later, ⟨-, hway⟩, hreads, rfl⟩
        exact ⟨start, base, later, hway, hreads, rfl⟩
      · rintro opened recorded ⟨start, base, later, hway, hreads, rfl⟩
        have hlt : start < position := by
          cases hreads
          exact Nat.lt_succ_self _
        exact ⟨opened, _, start, base, later, ⟨hlt, hway⟩, hreads, rfl⟩
  | capture name body ih =>
    rw [Node.step_capture]
    obtain ⟨hinside, hexit⟩ := ih h hentry.openAt
    exact ⟨by rwa [Tracks, Marks.body_wrap], hexit.close name⟩
  | seq first second ihfirst ihsecond =>
    rw [Node.step_seq, Ways.after_seq]
    obtain ⟨hleft, hmiddle⟩ := ihfirst h.1 hentry
    obtain ⟨hright, hexit⟩ := ihsecond h.2 hmiddle
    exact ⟨by rw [Tracks, Marks.first_pair, Marks.second_pair]; exact ⟨hleft, hright⟩, hexit⟩
  | alt first second ihfirst ihsecond =>
    rw [Node.step_alt, Ways.after_alt]
    obtain ⟨hleft, hexit⟩ := ihfirst h.1 (hentry.choose false)
    obtain ⟨hright, hexit'⟩ := ihsecond h.2 (hentry.choose true)
    exact ⟨by rw [Tracks, Marks.first_pair, Marks.second_pair]; exact ⟨hleft, hright⟩,
      hexit.prefer hexit'⟩
  | plus greedy body ih =>
    rw [Node.step_plus, Ways.after_plus]
    have hleave : Picks full _ (body.leave (siteAt text position) marks.body) := picks_leave h
    obtain ⟨hinside, hexit⟩ := ih h (picks_round hentry (hleave.choose !greedy))
    exact ⟨by rwa [Tracks, Marks.body_wrap], hexit.choose greedy⟩
  | loop greedy body ih =>
    rw [Node.step_loop]
    have hleave : Picks full _ (body.leave (siteAt text position) marks.body) := picks_leave h
    have hhere := picks_loop hentry hleave
    obtain ⟨hinside, -⟩ := ih h (hhere.choose !greedy)
    exact ⟨by rwa [Tracks, Marks.body_wrap], hhere.choose greedy⟩

end RoutePatterns.Regex
