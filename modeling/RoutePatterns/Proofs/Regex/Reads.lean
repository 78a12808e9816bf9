import RoutePatterns.Regex.Search

/-!
# What a regular expression reads

`Reads text node start stop recorded` says that an expression can read the text from one position
to another and record the given captures while it does, the latest first. It is the meaning of an
expression apart from which of several ways is preferred, and the search is measured against it.

`ReadsAll` reads a list of expressions one after the other. `reads_ofItems_iff` says that the tree
`Node.ofItems` makes of a list reads exactly what the list reads, however the tree is balanced.

`Covers text start stop part` says that the text from `start` to `stop` is `part`. Coverings of
neighbouring stretches compose (`Covers.append`) and come apart again (`Covers.split`), so that a
reading of a sequence can be told as a list of parts.
-/

set_option autoImplicit false
set_option relaxedAutoImplicit false

namespace RoutePatterns.Regex

/-! ### Places of a text -/

/-- The character before a position. -/
def charBefore (text : List Char) : Nat → Option Char
  | 0 => none
  | position + 1 => text[position]?

/-- The place at a position of a text. -/
def siteAt (text : List Char) (position : Nat) : Site :=
  ⟨position, charBefore text position, text[position]?⟩

/-! ### Readings -/

/-- The expression can read the text from `start` to `stop` and record the captures, the latest
first. -/
inductive Reads (text : List Char) : Node → Nat → Nat → List Recorded → Prop
  | empty (position : Nat) : Reads text .empty position position []
  | one {set : CharSet} {position : Nat} {char : Char} (hchar : text[position]? = some char)
      (hset : set char = true) : Reads text (.one set) position (position + 1) []
  | look {condition : Look} {position : Nat}
      (hholds : condition.holds (siteAt text position) = true) :
      Reads text (.look condition) position position []
  | capture {body : Node} {start stop : Nat} {recorded : List Recorded} (name : String)
      (hbody : Reads text body start stop recorded) :
      Reads text (.capture name body) start stop ((name, start, stop) :: recorded)
  | seq {first second : Node} {start middle stop : Nat} {earlier later : List Recorded}
      (hfirst : Reads text first start middle earlier)
      (hsecond : Reads text second middle stop later) :
      Reads text (.seq first second) start stop (later ++ earlier)
  | altFirst {first : Node} {start stop : Nat} {recorded : List Recorded} (second : Node)
      (hfirst : Reads text first start stop recorded) :
      Reads text (.alt first second) start stop recorded
  | altSecond {second : Node} {start stop : Nat} {recorded : List Recorded} (first : Node)
      (hsecond : Reads text second start stop recorded) :
      Reads text (.alt first second) start stop recorded
  | plusOne {greedy : Bool} {body : Node} {start stop : Nat} {recorded : List Recorded}
      (hbody : Reads text body start stop recorded) :
      Reads text (.plus greedy body) start stop recorded
  | plusMore {greedy : Bool} {body : Node} {start middle stop : Nat}
      {earlier later : List Recorded}
      (hrounds : Reads text (.plus greedy body) start middle earlier)
      (hbody : Reads text body middle stop later) :
      Reads text (.plus greedy body) start stop (later ++ earlier)
  | loopNone (greedy : Bool) (body : Node) (position : Nat) :
      Reads text (.loop greedy body) position position []
  | loopMore {greedy : Bool} {body : Node} {start middle stop : Nat}
      {earlier later : List Recorded}
      (hrounds : Reads text (.loop greedy body) start middle earlier)
      (hbody : Reads text body middle stop later) :
      Reads text (.loop greedy body) start stop (later ++ earlier)

variable {text : List Char}

/-- A reading goes forwards. -/
theorem Reads.start_le_stop {node : Node} {start stop : Nat} {recorded : List Recorded}
    (h : Reads text node start stop recorded) : start ≤ stop := by
  induction h with
  | empty | look | loopNone => exact Nat.le_refl _
  | one => exact Nat.le_succ _
  | capture _ _ ih | altFirst _ _ ih | altSecond _ _ ih | plusOne _ ih => exact ih
  | seq _ _ ihfirst ihsecond => exact Nat.le_trans ihfirst ihsecond
  | plusMore _ _ ihrounds ihbody => exact Nat.le_trans ihrounds ihbody
  | loopMore _ _ ihrounds ihbody => exact Nat.le_trans ihrounds ihbody

/-- Rounds that read some of the text have a last one that does. -/
theorem Reads.exists_last_round {greedy : Bool} {body : Node} {start stop : Nat}
    {recorded : List Recorded} (h : Reads text (.plus greedy body) start stop recorded)
    (hlt : start < stop) :
    ∃ middle < stop,
      (middle = start ∨ ∃ earlier, Reads text (.plus greedy body) start middle earlier) ∧
      ∃ later, Reads text body middle stop later := by
  generalize hnode : Node.plus greedy body = node at h
  induction h with
  | @plusOne _ _ start _ _ hbody =>
    cases hnode
    exact ⟨start, hlt, Or.inl rfl, _, hbody⟩
  | @plusMore _ _ _ middle stop _ _ hrounds hbody ih =>
    cases hnode
    rcases Nat.lt_or_eq_of_le hbody.start_le_stop with hmiddle | rfl
    · exact ⟨middle, hmiddle, Or.inr ⟨_, hrounds⟩, _, hbody⟩
    · exact ih hlt rfl
  | _ => cases hnode

/-- A loop that reads some of the text has a last round that does. -/
theorem Reads.exists_last_loop {greedy : Bool} {body : Node} {start stop : Nat}
    {recorded : List Recorded} (h : Reads text (.loop greedy body) start stop recorded)
    (hlt : start < stop) :
    ∃ middle < stop, (∃ earlier, Reads text (.loop greedy body) start middle earlier) ∧
      ∃ later, Reads text body middle stop later := by
  generalize hnode : Node.loop greedy body = node at h
  induction h with
  | loopNone => exact absurd hlt (Nat.lt_irrefl _)
  | @loopMore _ _ _ middle stop _ _ hrounds hbody ih =>
    cases hnode
    rcases Nat.lt_or_eq_of_le hbody.start_le_stop with hmiddle | rfl
    · exact ⟨middle, hmiddle, ⟨_, hrounds⟩, _, hbody⟩
    · exact ih hlt rfl
  | _ => cases hnode

/-! ### Lists of expressions -/

/-- The expressions can read the text one after the other. -/
inductive ReadsAll (text : List Char) : List Node → Nat → Nat → List Recorded → Prop
  | nil (position : Nat) : ReadsAll text [] position position []
  | cons {node : Node} {nodes : List Node} {start middle stop : Nat}
      {earlier later : List Recorded} (hnode : Reads text node start middle earlier)
      (hnodes : ReadsAll text nodes middle stop later) :
      ReadsAll text (node :: nodes) start stop (later ++ earlier)

theorem ReadsAll.start_le_stop {nodes : List Node} {start stop : Nat} {recorded : List Recorded}
    (h : ReadsAll text nodes start stop recorded) : start ≤ stop := by
  induction h with
  | nil => exact Nat.le_refl _
  | cons hnode _ ih => exact Nat.le_trans hnode.start_le_stop ih

theorem readsAll_nil_iff {start stop : Nat} {recorded : List Recorded} :
    ReadsAll text [] start stop recorded ↔ start = stop ∧ recorded = [] := by
  constructor
  · rintro ⟨⟩
    exact ⟨rfl, rfl⟩
  · rintro ⟨rfl, rfl⟩
    exact .nil _

theorem readsAll_cons_iff {node : Node} {nodes : List Node} {start stop : Nat}
    {recorded : List Recorded} :
    ReadsAll text (node :: nodes) start stop recorded ↔
      ∃ middle earlier later, Reads text node start middle earlier ∧
        ReadsAll text nodes middle stop later ∧ recorded = later ++ earlier := by
  constructor
  · rintro ⟨⟩
    next hnode hnodes => exact ⟨_, _, _, hnode, hnodes, rfl⟩
  · rintro ⟨_, _, _, hnode, hnodes, rfl⟩
    exact .cons hnode hnodes

theorem readsAll_singleton_iff {node : Node} {start stop : Nat} {recorded : List Recorded} :
    ReadsAll text [node] start stop recorded ↔ Reads text node start stop recorded := by
  rw [readsAll_cons_iff]
  constructor
  · rintro ⟨middle, earlier, later, hnode, hnil, rfl⟩
    obtain ⟨rfl, rfl⟩ := readsAll_nil_iff.mp hnil
    exact hnode
  · intro hnode
    exact ⟨stop, recorded, [], hnode, .nil _, rfl⟩

theorem readsAll_append_iff {front back : List Node} {start stop : Nat}
    {recorded : List Recorded} :
    ReadsAll text (front ++ back) start stop recorded ↔
      ∃ middle earlier later, ReadsAll text front start middle earlier ∧
        ReadsAll text back middle stop later ∧ recorded = later ++ earlier := by
  induction front generalizing start recorded with
  | nil =>
    constructor
    · intro hback
      exact ⟨start, [], recorded, .nil _, hback, by simp⟩
    · rintro ⟨middle, earlier, later, hfront, hback, rfl⟩
      obtain ⟨rfl, rfl⟩ := readsAll_nil_iff.mp hfront
      simpa using hback
  | cons node front ih =>
    rw [List.cons_append, readsAll_cons_iff]
    constructor
    · rintro ⟨first, earlier, later, hnode, hrest, rfl⟩
      obtain ⟨middle, inner, last, hfront, hback, rfl⟩ := ih.mp hrest
      exact ⟨middle, inner ++ earlier, last, .cons hnode hfront, hback, by simp⟩
    · rintro ⟨middle, earlier, later, hfront, hback, rfl⟩
      obtain ⟨first, inner, outer, hnode, hrest, rfl⟩ := readsAll_cons_iff.mp hfront
      exact ⟨first, inner, later ++ outer, hnode, ih.mpr ⟨middle, outer, later, hrest, hback, rfl⟩,
        by simp⟩

theorem reads_alt_iff {first second : Node} {start stop : Nat} {recorded : List Recorded} :
    Reads text (.alt first second) start stop recorded ↔
      Reads text first start stop recorded ∨ Reads text second start stop recorded := by
  constructor
  · intro h
    cases h with
    | altFirst _ hfirst => exact Or.inl hfirst
    | altSecond _ hsecond => exact Or.inr hsecond
  · rintro (hfirst | hsecond)
    · exact .altFirst _ hfirst
    · exact .altSecond _ hsecond

/-- A capture records its own stretch after what is recorded in it. -/
theorem reads_capture_iff {name : String} {body : Node} {start stop : Nat}
    {recorded : List Recorded} :
    Reads text (.capture name body) start stop recorded ↔
      ∃ later, Reads text body start stop later ∧ recorded = (name, start, stop) :: later := by
  constructor
  · rintro ⟨⟩
    next hbody => exact ⟨_, hbody, rfl⟩
  · rintro ⟨later, hbody, rfl⟩
    exact .capture _ hbody

/-- What may be absent reads nothing or what it reads when it is present. -/
theorem reads_optional_iff {greedy : Bool} {node : Node} {start stop : Nat}
    {recorded : List Recorded} :
    Reads text (.optional greedy node) start stop recorded ↔
      (start = stop ∧ recorded = []) ∨ Reads text node start stop recorded := by
  have hempty : Reads text .empty start stop recorded ↔ start = stop ∧ recorded = [] := by
    constructor
    · rintro ⟨⟩
      exact ⟨rfl, rfl⟩
    · rintro ⟨rfl, rfl⟩
      exact .empty _
  rw [← hempty]
  cases greedy with
  | true => exact reads_alt_iff.trans or_comm
  | false => exact reads_alt_iff

/-- One round or several are any number of rounds and one more. -/
theorem reads_plus_iff {greedy : Bool} {body : Node} {start stop : Nat}
    {recorded : List Recorded} :
    Reads text (.plus greedy body) start stop recorded ↔
      ReadsAll text [.loop greedy body, body] start stop recorded := by
  rw [readsAll_cons_iff]
  simp only [readsAll_singleton_iff]
  constructor
  · intro h
    generalize hplus : Node.plus greedy body = node at h
    induction h with
    | @plusOne _ _ start stop recorded hbody =>
      obtain ⟨rfl, rfl⟩ := Node.plus.inj hplus
      exact ⟨start, [], recorded, .loopNone _ _ _, hbody, by rw [List.append_nil]⟩
    | @plusMore _ _ _ middle _ _ later _ hbody ih =>
      obtain ⟨inner, earlier, last, hloop, hlast, rfl⟩ := ih hplus
      obtain ⟨rfl, rfl⟩ := Node.plus.inj hplus
      exact ⟨middle, last ++ earlier, later, .loopMore hloop hlast, hbody, rfl⟩
    | _ => cases hplus
  · rintro ⟨middle, earlier, later, hloop, hbody, rfl⟩
    generalize hnode : Node.loop greedy body = node at hloop
    induction hloop generalizing stop later with
    | loopNone =>
      obtain ⟨rfl, rfl⟩ := Node.loop.inj hnode
      rw [List.append_nil]
      exact .plusOne hbody
    | @loopMore _ _ _ _ _ _ _ _ hround ih =>
      obtain ⟨rfl, rfl⟩ := Node.loop.inj hnode
      exact .plusMore (ih _ hround rfl) hbody
    | _ => cases hnode

/-- The tree of a list of expressions reads what they read one after the other. -/
theorem reads_ofItems_iff {nodes : List Node} {start stop : Nat} {recorded : List Recorded} :
    Reads text (Node.ofItems nodes) start stop recorded ↔
      ReadsAll text nodes start stop recorded := by
  fun_induction Node.ofItems nodes generalizing start stop recorded with
  | case1 =>
    rw [readsAll_nil_iff]
    constructor
    · rintro ⟨⟩
      exact ⟨rfl, rfl⟩
    · rintro ⟨rfl, rfl⟩
      exact .empty _
  | case2 item => exact readsAll_singleton_iff.symm
  | case3 first second rest items ihfront =>
    rename_i ihback
    change _ ↔ ReadsAll text items start stop recorded
    rw [← List.take_append_drop (items.length / 2) items, readsAll_append_iff,
      List.take_append_drop]
    constructor
    · rintro ⟨⟩
      next hfront hback => exact ⟨_, _, _, ihfront.mp hfront, ihback.mp hback, rfl⟩
    · rintro ⟨middle, earlier, later, hfront, hback, rfl⟩
      exact .seq (ihfront.mpr hfront) (ihback.mpr hback)

/-! ### Stretches of a text -/

/-- The text from `start` to `stop` is `part`. -/
def Covers (text : List Char) (start stop : Nat) (part : List Char) : Prop :=
  text.drop start = part ++ text.drop stop ∧ stop = start + part.length

theorem Covers.nil (position : Nat) : Covers text position position [] :=
  ⟨rfl, rfl⟩

theorem covers_nil_iff {start stop : Nat} : Covers text start stop [] ↔ start = stop := by
  constructor
  · rintro ⟨-, rfl⟩
    rfl
  · rintro rfl
    exact .nil _

theorem Covers.append {start middle stop : Nat} {front back : List Char}
    (hfront : Covers text start middle front) (hback : Covers text middle stop back) :
    Covers text start stop (front ++ back) := by
  obtain ⟨hfront, rfl⟩ := hfront
  obtain ⟨hback, rfl⟩ := hback
  refine ⟨by rw [hfront, hback, List.append_assoc], ?_⟩
  rw [List.length_append, Nat.add_assoc]

theorem Covers.split {start stop : Nat} {front back : List Char}
    (h : Covers text start stop (front ++ back)) :
    Covers text start (start + front.length) front ∧
      Covers text (start + front.length) stop back := by
  obtain ⟨htext, rfl⟩ := h
  have hdrop : text.drop (start + front.length) =
      back ++ text.drop (start + (front ++ back).length) := by
    rw [← List.drop_drop, htext, List.append_assoc, List.drop_left]
  refine ⟨⟨by rw [hdrop, htext, List.append_assoc], rfl⟩, hdrop, ?_⟩
  rw [List.length_append, Nat.add_assoc]

theorem covers_append_iff {start stop : Nat} {front back : List Char} :
    Covers text start stop (front ++ back) ↔
      ∃ middle, Covers text start middle front ∧ Covers text middle stop back :=
  ⟨fun h ↦ ⟨_, h.split⟩, fun ⟨_, hfront, hback⟩ ↦ hfront.append hback⟩

theorem covers_singleton_iff {start stop : Nat} {char : Char} :
    Covers text start stop [char] ↔ text[start]? = some char ∧ stop = start + 1 := by
  constructor
  · rintro ⟨htext, hstop⟩
    refine ⟨?_, hstop⟩
    rw [← Nat.add_zero start, ← List.getElem?_drop, htext]
    rfl
  · rintro ⟨hchar, rfl⟩
    obtain ⟨hlt, rfl⟩ := List.getElem?_eq_some_iff.mp hchar
    exact ⟨List.drop_eq_getElem_cons hlt, rfl⟩

/-- The part that a stretch covers is the one that is cut out of the text. -/
theorem Covers.eq_take {start stop : Nat} {part : List Char} (h : Covers text start stop part) :
    (text.drop start).take (stop - start) = part := by
  obtain ⟨htext, rfl⟩ := h
  rw [htext, Nat.add_sub_cancel_left, List.take_left]

/-- A stretch that begins the text and ends it is the whole text. -/
theorem covers_text_iff {part : List Char} : Covers text 0 text.length part ↔ text = part := by
  constructor
  · rintro ⟨htext, -⟩
    rwa [List.drop_zero, List.drop_length, List.append_nil] at htext
  · rintro rfl
    exact ⟨by simp, by simp⟩

theorem reads_one_iff {set : CharSet} {start stop : Nat} {recorded : List Recorded} :
    Reads text (.one set) start stop recorded ↔
      ∃ char, set char = true ∧ Covers text start stop [char] ∧ recorded = [] := by
  constructor
  · intro h
    cases h with
    | one hchar hset => exact ⟨_, hset, covers_singleton_iff.mpr ⟨hchar, rfl⟩, rfl⟩
  · rintro ⟨char, hset, hcovers, rfl⟩
    obtain ⟨hchar, rfl⟩ := covers_singleton_iff.mp hcovers
    exact .one hchar hset

end RoutePatterns.Regex
