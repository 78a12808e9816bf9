import RoutePatterns.Proofs.Matcher.Groups
import RoutePatterns.Proofs.Matcher.Matches

/-!
# What slots capture

In a match of a matcher all of whose groups are expressions on their own, a slot has captured text
that its values can be read as, or nothing if it may be absent (`Slot.Captured`). Whatever groups
record is recorded under other names than the captures of slots, because the names of an expression
are different. So every slot finds what it captured itself (`Part.captured_of_readsAll`), and the
values of a path are those that the slots make of it (`Matcher.IsRead.exists_captured`).
-/

set_option autoImplicit false
set_option relaxedAutoImplicit false

namespace RoutePatterns

open Regex (Match Node Reads ReadsAll Recorded)

variable {options : PatternOptions} {text : List Char}

/-! ### Slots -/

namespace Slot

variable {slot : Slot} {start stop : Nat} {recorded : List Recorded}

/-- What a slot has captured in a text: nothing if it may be absent, or a stretch that can be read
as its values. -/
inductive Captured (options : PatternOptions) (slot : Slot) (text : List Char) :
    Option (List Char) → Prop
  | absent (hoptional : slot.isOptional = true) : Captured options slot text none
  | present {start stop : Nat} {recorded : List Recorded}
      (hreads : ReadsAll text (slot.valuesNodes options) start stop recorded) :
      Captured options slot text (some ((text.drop start).take (stop - start)))

/-- What is read for a slot is nothing if the slot may be absent, or its lead and its values. -/
theorem exists_readsAll_values (h : ReadsAll text (slot.nodes options) start stop recorded) :
    (slot.isOptional = true ∧ recorded = []) ∨
      ∃ middle later, ReadsAll text (slot.valuesNodes options) middle stop later ∧
        recorded = (slot.capture, middle, stop) :: later := by
  have hled (h : ReadsAll text (slot.ledNodes options) start stop recorded) :
      ∃ middle later, ReadsAll text (slot.valuesNodes options) middle stop later ∧
        recorded = (slot.capture, middle, stop) :: later := by
    obtain ⟨middle, earlier, later, hlead, hcapture, rfl⟩ := Regex.readsAll_append_iff.mp h
    obtain ⟨rfl, -⟩ := (hasLanguage_text _ _ _ _).mp hlead
    rw [Regex.readsAll_singleton_iff, Regex.reads_capture_iff] at hcapture
    obtain ⟨inner, hvalues, rfl⟩ := hcapture
    exact ⟨middle, inner, Regex.reads_ofItems_iff.mp hvalues, List.append_nil _⟩
  unfold nodes at h
  cases hoptional : slot.isOptional with
  | false =>
    rw [hoptional] at h
    exact Or.inr (hled h)
  | true =>
    rw [hoptional, if_pos rfl, Regex.readsAll_singleton_iff, Regex.reads_optional_iff] at h
    rcases h with ⟨-, rfl⟩ | h
    · exact Or.inl ⟨rfl, rfl⟩
    · exact Or.inr (hled (Regex.reads_ofItems_iff.mp h))

/-- What values record is recorded under names of the group. -/
theorem IsRead.mem_valueNames (hread : slot.IsRead options)
    (h : ReadsAll text (slot.valuesNodes options) start stop recorded) :
    ∀ entry ∈ recorded, entry.1 ∈ slot.valueNames options := by
  intro entry hentry
  obtain ⟨node, hnode, hname⟩ := h.mem_captures entry hentry
  refine Regex.mem_groupNames_of_mem_captures hread.group ?_
  unfold valuesNodes at hnode
  split_ifs at hnode
  · rcases List.mem_pair.mp hnode with rfl | rfl
    · exact hname
    · simpa [Node.captures, Node.mem_captures_ofItems, PatternOptions.charNode] using hname
  · rwa [List.mem_singleton.mp hnode] at hname

theorem IsRead.mem_names (hread : slot.IsRead options)
    (h : ReadsAll text (slot.nodes options) start stop recorded) :
    ∀ entry ∈ recorded, entry.1 ∈ slot.names options := by
  rcases exists_readsAll_values h with ⟨-, rfl⟩ | ⟨middle, later, hvalues, rfl⟩
  · exact List.forall_mem_nil _
  · refine List.forall_mem_cons.mpr ⟨List.mem_cons_self, fun entry hentry ↦ ?_⟩
    have hname := hread.mem_valueNames hvalues entry hentry
    exact List.mem_cons_of_mem _ (List.mem_append_left _ hname)

end Slot

/-! ### Parts -/

namespace Part

variable {parts : List Part} {start stop : Nat} {recorded : List Recorded}

theorem mem_names_of_readsAll (hslots : ∀ slot ∈ parts.filterMap slot?, slot.IsRead options)
    (h : ReadsAll text (parts.flatMap (nodes options)) start stop recorded) :
    ∀ entry ∈ recorded, entry.1 ∈ parts.flatMap (names options) := by
  induction parts generalizing start recorded with
  | nil =>
    obtain ⟨-, rfl⟩ := Regex.readsAll_nil_iff.mp h
    exact List.forall_mem_nil _
  | cons part parts ih =>
    obtain ⟨middle, earlier, later, hpart, hparts, rfl⟩ := Regex.readsAll_append_iff.mp h
    cases part with
    | literal chars =>
      obtain ⟨rfl, -⟩ := (hasLanguage_text _ _ _ _).mp hpart
      rw [filterMap_slot?_literal] at hslots
      rw [List.append_nil]
      exact ih hslots hparts
    | param slot =>
      rw [filterMap_slot?_param, List.forall_mem_cons] at hslots
      refine List.forall_mem_append.mpr ⟨fun entry hentry ↦ ?_, fun entry hentry ↦ ?_⟩
      · exact List.mem_append_right _ (ih hslots.2 hparts entry hentry)
      · exact List.mem_append_left _ (hslots.1.mem_names hpart entry hentry)

/-- Under different names, every slot has captured what was read for it. -/
theorem captured_of_readsAll (hslots : ∀ slot ∈ parts.filterMap slot?, slot.IsRead options)
    (hnames : (parts.flatMap (names options)).Nodup)
    (h : ReadsAll text (parts.flatMap (nodes options)) start stop recorded)
    {extra : List Recorded} (hextra : ∀ entry ∈ extra, entry.1 ∉ parts.flatMap (names options)) :
    ∀ slot ∈ parts.filterMap slot?,
      slot.Captured options text ((Match.mk text (recorded ++ extra)).captured? slot.capture) := by
  induction parts generalizing start recorded extra with
  | nil => exact List.forall_mem_nil _
  | cons part parts ih =>
    obtain ⟨middle, earlier, later, hpart, hparts, rfl⟩ := Regex.readsAll_append_iff.mp h
    rw [List.append_assoc]
    cases part with
    | literal chars =>
      obtain ⟨rfl, -⟩ := (hasLanguage_text _ _ _ _).mp hpart
      rw [filterMap_slot?_literal] at hslots ⊢
      exact ih hslots hnames hparts hextra
    | param slot =>
      rw [filterMap_slot?_param, List.forall_mem_cons] at hslots ⊢
      rw [List.flatMap_cons] at hnames hextra
      obtain ⟨-, hnames', hdisjoint⟩ := List.nodup_append'.mp hnames
      constructor
      · have hcapture : slot.capture ∈ slot.names options := List.mem_cons_self
        have hlater : (Match.mk text later).captured? slot.capture = none := by
          refine Match.captured?_eq_none fun entry hentry heq ↦ ?_
          have hmem := mem_names_of_readsAll hslots.2 hparts entry hentry
          exact hdisjoint hcapture (heq ▸ hmem)
        have hextra' : (Match.mk text extra).captured? slot.capture = none := by
          refine Match.captured?_eq_none fun entry hentry heq ↦ hextra entry hentry ?_
          exact List.mem_append_left _ (heq ▸ hcapture)
        rw [Match.captured?_append, hlater, Option.none_or, Match.captured?_append, hextra',
          Option.or_none]
        rcases Slot.exists_readsAll_values hpart with ⟨hoptional, rfl⟩ | ⟨_, _, hvalues, rfl⟩
        · exact .absent hoptional
        · simpa [Match.captured?] using Slot.Captured.present hvalues
      · refine ih hslots.2 hnames' hparts fun entry hentry hmem ↦ ?_
        rcases List.mem_append.mp hentry with hentry | hentry
        · exact hdisjoint (hslots.1.mem_names hpart entry hentry) hmem
        · exact hextra entry hentry (List.mem_append_right _ hmem)

end Part

/-! ### Matchers -/

/-- Recording the captures of all slots gives every slot the value that it makes of its capture. -/
theorem get?_foldl_record {found : Match} {slots : List Slot}
    (hnodup : (slots.map (·.name)).Nodup) {slot : Slot} (hslot : slot ∈ slots) {params : Params}
    (hfresh : params.get? slot.name = none) :
    (slots.foldl (Slot.record found) params).get? slot.name =
      (found.captured? slot.capture).map slot.valueOf := by
  induction slots generalizing params with
  | nil => cases hslot
  | cons first slots ih =>
    rw [List.map_cons, List.nodup_cons] at hnodup
    obtain ⟨hfirst, hnodup⟩ := hnodup
    rw [List.foldl_cons]
    rcases List.mem_cons.mp hslot with rfl | hslot
    · rw [get?_foldl_record_of_notMem hfirst]
      unfold Slot.record
      cases found.captured? slot.capture with
      | none => exact hfresh
      | some part => simp [Params.get?_insert]
    · refine ih hnodup hslot ?_
      have hne : first.name ≠ slot.name := by
        intro heq
        exact hfirst (heq ▸ List.mem_map_of_mem hslot)
      unfold Slot.record
      cases found.captured? first.capture with
      | none => exact hfresh
      | some part => rw [Params.get?_insert, if_neg hne, hfresh]

theorem recorded_eq_nil_of_readsAll_tailNodes {start stop : Nat} {recorded : List Recorded}
    (h : ReadsAll text (Token.tailNodes options) start stop recorded) : recorded = [] := by
  unfold Token.tailNodes at h
  split_ifs at h
  · exact (Regex.readsAll_nil_iff.mp h).2
  · exact (((hasLanguage_charNode options.delimiter).optional true _ _ _).mp h).1

/-- The values of a path are those that the slots make of what they captured. -/
theorem Matcher.IsRead.exists_captured {matcher : Matcher} (hread : matcher.IsRead options)
    {path : String} {params : Params} (h : matcher.params? path = some params) :
    (∀ slot ∈ matcher.slots, ∃ part, slot.Captured options path.toList part ∧
      params.get? slot.name = part.map slot.valueOf) ∧
    ∀ name ∉ matcher.paramNames, params.get? name = none := by
  obtain ⟨found, hfound, rfl⟩ := Option.map_eq_some_iff.mp h
  obtain ⟨htext, hreads⟩ := Regex.readsAll_of_find? hread.root hfound
  obtain ⟨middle, earlier, later, hparts, htail, hrecorded⟩ := Regex.readsAll_append_iff.mp hreads
  obtain rfl := recorded_eq_nil_of_readsAll_tailNodes htail
  have hnone : ∀ entry ∈ ([] : List Recorded),
      entry.1 ∉ matcher.parts.flatMap (Part.names options) := List.forall_mem_nil _
  have hcaptured := Part.captured_of_readsAll hread.slots hread.names hparts hnone
  have hmatch : found = ⟨path.toList, earlier ++ []⟩ := by
    rw [List.append_nil, ← htext, ← List.nil_append earlier, ← hrecorded]
  refine ⟨fun slot hslot ↦ ⟨found.captured? slot.capture, ?_, ?_⟩, fun name hname ↦ ?_⟩
  · rw [hmatch]
    exact hcaptured slot hslot
  · exact get?_foldl_record hread.paramNames hslot (Params.get?_nil _)
  · rw [get?_foldl_record_of_notMem hname, Params.get?_nil]

end RoutePatterns
