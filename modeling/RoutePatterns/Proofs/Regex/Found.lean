import RoutePatterns.Proofs.Regex.Tracking

/-!
# What a search finds

`InStep text node position search` is the invariant of a search that has yet to come to `position`:
its marks are in track for attempts that began at any place before, its match so far stands for a
reading, and if there is no match, no reading ends before the position. The search drops threads
only when there is a match, so `Tracks` holds with `full` as long as nothing is found.

`search?_eq_some` says that what is found was read somewhere, with its captures, and
`search?_eq_none_iff` that nothing is found exactly if nothing can be read. Which of several
readings is preferred is not part of it.

An expression between the two ends of a text is about the whole text: `isMatch_iff_of_anchored` and
`readsAll_of_find?` say what it matches and finds.
-/

set_option autoImplicit false
set_option relaxedAutoImplicit false

namespace RoutePatterns.Regex

variable {text : List Char} {node : Node}

/-- The ways of attempts: one may begin anywhere, and nothing is recorded when it does. -/
def attempts : Ways :=
  fun _ opened recorded ↦ opened = [] ∧ recorded = []

theorem picks_fresh {full : Prop} (rank position : Nat) :
    Picks full (attempts position) (some (Thread.fresh rank)) where
  way found hfound := by
    obtain rfl := Option.some.inj hfound
    exact ⟨rfl, rfl⟩
  isSome _ _ _ _ := rfl

theorem after_attempts_iff {stop : Nat} {opened : List Nat} {recorded : List Recorded} :
    attempts.after text node stop opened recorded ↔
      opened = [] ∧ ∃ start, Reads text node start stop recorded := by
  constructor
  · rintro ⟨start, _, later, ⟨rfl, rfl⟩, hreads, rfl⟩
    exact ⟨rfl, start, by rwa [List.append_nil]⟩
  · rintro ⟨rfl, start, hreads⟩
    exact ⟨start, [], recorded, ⟨rfl, rfl⟩, hreads, by rw [List.append_nil]⟩

/-- A search that has yet to come to a position stands for what can be read before it. -/
structure InStep (text : List Char) (node : Node) (position : Nat) (search : Search) : Prop where
  /-- The marks are in track, completely as long as there is no match. -/
  marks : Tracks text (search.found = none) position attempts node search.marks
  /-- The match stands for a reading. -/
  found : ∀ thread, search.found = some thread →
    ∃ start stop, stop ≤ text.length ∧ Reads text node start stop thread.recorded
  /-- Without a match, nothing can be read up to a place before the position. -/
  missed : search.found = none → ∀ start stop recorded, stop < position →
    ¬ Reads text node start stop recorded

theorem inStep_start (text : List Char) (node : Node) : InStep text node 0 Search.start where
  marks := tracks_idle node
  found _ hthread := nomatch hthread
  missed _ _ stop _ hstop := absurd hstop (Nat.not_lt_zero stop)

/-- Reading one character keeps a search in step. -/
theorem InStep.advance {position : Nat} {search : Search} (h : InStep text node position search)
    (hposition : position ≤ text.length) :
    InStep text node (position + 1) (search.advance node (siteAt text position)) := by
  have hentry : Picks (search.found = none) (attempts position)
      (if search.found.isSome then none else some (Thread.fresh search.nextRank)) := by
    cases hfound : search.found with
    | none => exact picks_fresh _ _
    | some thread =>
      constructor
      · rintro _ ⟨⟩
      · rintro ⟨⟩
  obtain ⟨hmarks, hexit⟩ := step_tracks h.marks hentry
  unfold Search.advance
  simp only
  split
  · next marks heq =>
    rw [heq] at hmarks hexit
    refine ⟨hmarks, h.found, ?_⟩
    intro hnone start stop recorded hstop hreads
    rcases Nat.lt_succ_iff_lt_or_eq.mp hstop with hlt | rfl
    · exact h.missed hnone start stop recorded hlt hreads
    · exact absurd (hexit.isSome hnone [] recorded (after_attempts_iff.mpr ⟨rfl, start, hreads⟩))
        (by simp)
  · next marks thread heq =>
    rw [heq] at hmarks hexit
    obtain ⟨-, start, hreads⟩ := after_attempts_iff.mp (hexit.way thread rfl)
    refine ⟨?_, ?_, ?_⟩
    · have hfalse : (some thread = none) = False := by simp
      simp only [hfalse]
      exact hmarks.filter _
    · intro other hother
      obtain rfl := Option.some.inj hother
      exact ⟨start, position, hposition, hreads⟩
    · intro hnone
      cases hnone

/-- Renumbering keeps a search in step. -/
theorem InStep.tidy {position : Nat} {search : Search} (place : Nat)
    (h : InStep text node position search) : InStep text node position (search.tidy place) := by
  unfold Search.tidy
  split
  · exact ⟨h.marks.mapPriority _, h.found, h.missed⟩
  · exact h

/-- A search in step ends with a match that stands for a reading, or with none if there is none. -/
theorem InStep.run {position : Nat} {search : Search} {rest : List Char}
    (h : InStep text node position search) (hrest : text.drop position = rest)
    (hposition : position ≤ text.length) :
    (∀ thread, search.run node position (charBefore text position) rest = some thread →
      ∃ start stop, stop ≤ text.length ∧ Reads text node start stop thread.recorded) ∧
    (search.run node position (charBefore text position) rest = none →
      ∀ start stop recorded, stop ≤ text.length → ¬ Reads text node start stop recorded) := by
  have hnext := h.advance hposition
  induction rest generalizing position search with
  | nil =>
    have hend : text.length = position :=
      Nat.le_antisymm (List.drop_eq_nil_iff.mp hrest) hposition
    have hsite : siteAt text position = ⟨position, charBefore text position, none⟩ := by
      rw [siteAt, List.getElem?_eq_none (Nat.le_of_eq hend)]
    rw [hsite] at hnext
    refine ⟨hnext.found, fun hnone start stop recorded hstop ↦ ?_⟩
    exact hnext.missed hnone start stop recorded (Nat.lt_succ_of_le (hend ▸ hstop))
  | cons char rest ih =>
    have hlt : position < text.length := by
      by_contra hge
      rw [List.drop_eq_nil_of_le (Nat.le_of_not_lt hge)] at hrest
      cases hrest
    have hdrop := List.drop_eq_getElem_cons hlt
    rw [hrest] at hdrop
    obtain ⟨hchar, hrest'⟩ := List.cons.inj hdrop
    have hget : text[position]? = some char := by
      rw [List.getElem?_eq_getElem hlt, hchar]
    have hsite : siteAt text position = ⟨position, charBefore text position, some char⟩ := by
      rw [siteAt, hget]
    rw [hsite] at hnext
    unfold Search.run
    simp only
    split
    · next hover =>
      have hsome : _ ∧ _ := (Bool.and_eq_true _ _).mp hover
      refine ⟨hnext.found, fun hnone ↦ ?_⟩
      rw [hnone] at hsome
      exact absurd hsome.1 (by simp)
    · have htidy := hnext.tidy position
      have hbefore : charBefore text (position + 1) = some char := hget
      have hrun := ih htidy hrest'.symm hlt (htidy.advance hlt)
      rwa [hbefore] at hrun

/-- What a search finds was read somewhere in the text, with its captures. -/
theorem search?_eq_some {recorded : List Recorded} (h : node.search? text = some recorded) :
    ∃ start stop, stop ≤ text.length ∧ Reads text node start stop recorded := by
  obtain ⟨thread, hrun, rfl⟩ := Option.map_eq_some_iff.mp h
  exact ((inStep_start text node).run rfl (Nat.zero_le _)).1 thread hrun

/-- A search finds nothing exactly if nothing can be read. -/
theorem search?_eq_none_iff : node.search? text = none ↔
    ∀ start stop recorded, stop ≤ text.length → ¬ Reads text node start stop recorded := by
  constructor
  · intro h
    exact ((inStep_start text node).run rfl (Nat.zero_le _)).2 (Option.map_eq_none_iff.mp h)
  · intro h
    cases hsearch : node.search? text with
    | none => rfl
    | some recorded =>
      obtain ⟨start, stop, hstop, hreads⟩ := search?_eq_some hsearch
      exact absurd hreads (h start stop recorded hstop)

/-! ### Expressions for whole texts -/

variable {nodes : List Node}

theorem isNone_getElem?_iff {position : Nat} :
    text[position]?.isNone = true ↔ text.length ≤ position := by
  rw [Option.isNone_iff_eq_none, List.getElem?_eq_none_iff]

/-- Between the two ends of a text, expressions read the whole of it. -/
theorem readsAll_anchored_iff {start stop : Nat} {recorded : List Recorded}
    (hstop : stop ≤ text.length) :
    ReadsAll text ([.look .textStart] ++ nodes ++ [.look .textEnd]) start stop recorded ↔
      start = 0 ∧ stop = text.length ∧ ReadsAll text nodes start stop recorded := by
  have hlook : ∀ condition start stop recorded,
      ReadsAll text [.look condition] start stop recorded ↔
      start = stop ∧ recorded = [] ∧ condition.holds (siteAt text start) = true := by
    intro condition start stop recorded
    rw [readsAll_singleton_iff]
    constructor
    · rintro ⟨⟩
      next hholds => exact ⟨rfl, rfl, hholds⟩
    · rintro ⟨rfl, rfl, hholds⟩
      exact .look hholds
  rw [List.append_assoc, readsAll_append_iff]
  simp only [readsAll_append_iff, hlook]
  constructor
  · rintro ⟨_, _, later, ⟨rfl, rfl, hbegin⟩, ⟨_, _, _, hnodes, ⟨rfl, rfl, hend⟩, rfl⟩, rfl⟩
    have hlength : text.length ≤ _ := isNone_getElem?_iff.mp hend
    have hzero : start = 0 := by
      cases start with
      | zero => rfl
      | succ before =>
        have hbefore : text.length ≤ before := isNone_getElem?_iff.mp hbegin
        have := hnodes.start_le_stop
        omega
    exact ⟨hzero, Nat.le_antisymm hstop hlength, by simpa using hnodes⟩
  · rintro ⟨rfl, rfl, hnodes⟩
    refine ⟨0, [], recorded, ⟨rfl, rfl, rfl⟩,
      ⟨text.length, recorded, [], hnodes, ⟨rfl, rfl, ?_⟩, rfl⟩,
      by simp⟩
    exact isNone_getElem?_iff.mpr (Nat.le_refl _)

/-- A match of an expression for whole texts is a reading of the whole text. -/
theorem readsAll_of_find? {regex : RoutePatterns.Regex} {path : String} {found : Match}
    (hroot : regex.root = .ofItems ([.look .textStart] ++ nodes ++ [.look .textEnd]))
    (h : regex.find? path = some found) :
    found.text = path.toList ∧
      ReadsAll path.toList nodes 0 path.toList.length found.recorded := by
  obtain ⟨recorded, hsearch, rfl⟩ := Option.map_eq_some_iff.mp h
  obtain ⟨start, stop, hstop, hreads⟩ := search?_eq_some hsearch
  rw [hroot, reads_ofItems_iff, readsAll_anchored_iff hstop] at hreads
  obtain ⟨rfl, rfl, hreads⟩ := hreads
  exact ⟨rfl, hreads⟩

/-- An expression for whole texts matches those that it can read. -/
theorem isMatch_iff_of_anchored {regex : RoutePatterns.Regex} {path : String}
    (hroot : regex.root = .ofItems ([.look .textStart] ++ nodes ++ [.look .textEnd])) :
    regex.isMatch path = true ↔
      ∃ recorded, ReadsAll path.toList nodes 0 path.toList.length recorded := by
  unfold RoutePatterns.Regex.isMatch
  constructor
  · intro h
    obtain ⟨found, hfound⟩ := Option.isSome_iff_exists.mp h
    exact ⟨_, (readsAll_of_find? hroot hfound).2⟩
  · rintro ⟨recorded, hreads⟩
    rw [← Option.ne_none_iff_isSome]
    intro hnone
    have hsearch := search?_eq_none_iff.mp (Option.map_eq_none_iff.mp hnone)
    refine hsearch 0 path.toList.length recorded (Nat.le_refl _) ?_
    rw [hroot, reads_ofItems_iff, readsAll_anchored_iff (Nat.le_refl _)]
    exact ⟨rfl, rfl, hreads⟩

end RoutePatterns.Regex
