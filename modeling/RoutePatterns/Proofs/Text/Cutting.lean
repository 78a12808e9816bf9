import RoutePatterns.Text.Split

/-!
# Cutting before items

No piece of a cut is empty (`ne_nil_of_mem_cutBefore`) and every piece but the first begins with an
item that opens it (`opens_head_of_mem_tail`). So if every piece is a single item, every item but
the first opens a piece (`opens_of_length_cutBefore`). With the other items of a piece opening none,
this tells a cut from any other division (`eq_cutBefore_iff`). A list that goes on with an item that
opens a piece is cut in two parts apart (`cutBefore_append`). Whether an item opens a piece is all
that a cut depends on (`exists_cutBefore_exchange`).
-/

set_option autoImplicit false
set_option relaxedAutoImplicit false

namespace RoutePatterns.Text

variable {α : Type} {opens : α → Bool} {items piece : List α}

/-- An item becomes a piece of its own or goes to the beginning of the first piece. -/
theorem cutBefore_cons (opens : α → Bool) (item : α) (rest : List α) :
    (cutBefore opens rest = [] ∧ cutBefore opens (item :: rest) = [[item]]) ∨
      ∃ piece pieces, cutBefore opens rest = piece :: pieces ∧
        ((piece.head?.any opens = true ∧
            cutBefore opens (item :: rest) = [item] :: piece :: pieces) ∨
          (piece.head?.any opens = false ∧
            cutBefore opens (item :: rest) = (item :: piece) :: pieces)) := by
  rw [cutBefore]
  cases cutBefore opens rest with
  | nil => exact Or.inl ⟨rfl, rfl⟩
  | cons piece pieces =>
    refine Or.inr ⟨piece, pieces, rfl, ?_⟩
    by_cases hopens : piece.head?.any opens = true
    · exact Or.inl ⟨hopens, if_pos hopens⟩
    · exact Or.inr ⟨Bool.not_eq_true _ ▸ hopens, if_neg hopens⟩

/-- The first item begins the first piece. -/
theorem exists_cutBefore_cons (opens : α → Bool) (item : α) (rest : List α) :
    ∃ others pieces, cutBefore opens (item :: rest) = (item :: others) :: pieces := by
  rcases cutBefore_cons opens item rest with
    ⟨-, hcut⟩ | ⟨piece, pieces, -, ⟨-, hcut⟩ | ⟨-, hcut⟩⟩
  · exact ⟨[], [], hcut⟩
  · exact ⟨[], piece :: pieces, hcut⟩
  · exact ⟨piece, pieces, hcut⟩

theorem ne_nil_of_mem_cutBefore (h : piece ∈ cutBefore opens items) : piece ≠ [] := by
  induction items generalizing piece with
  | nil => cases h
  | cons item rest ih =>
    rcases cutBefore_cons opens item rest with
      ⟨-, hcut⟩ | ⟨first, pieces, hrest, ⟨-, hcut⟩ | ⟨-, hcut⟩⟩
    · rw [hcut, List.mem_singleton] at h
      simp [h]
    · rw [hcut, ← hrest] at h
      rcases List.mem_cons.mp h with rfl | h
      · simp
      · exact ih h
    · rw [hcut] at h
      rcases List.mem_cons.mp h with rfl | h
      · simp
      · exact ih (hrest ▸ List.mem_cons_of_mem _ h)

/-- Every piece but the first begins with an item that opens it. -/
theorem opens_head_of_mem_tail (h : piece ∈ (cutBefore opens items).tail) :
    piece.head?.any opens = true := by
  induction items generalizing piece with
  | nil => cases h
  | cons item rest ih =>
    rcases cutBefore_cons opens item rest with
      ⟨-, hcut⟩ | ⟨first, pieces, hrest, ⟨hopens, hcut⟩ | ⟨-, hcut⟩⟩
    · rw [hcut] at h
      cases h
    · rw [hcut, List.tail_cons] at h
      rcases List.mem_cons.mp h with rfl | h
      · exact hopens
      · exact ih (hrest ▸ h)
    · rw [hcut, List.tail_cons] at h
      exact ih (hrest ▸ h)

/-- If every piece is a single item, every item but the first opens a piece. -/
theorem opens_of_length_cutBefore (h : ∀ piece ∈ cutBefore opens items, piece.length = 1) :
    ∀ item ∈ items.tail, opens item = true := by
  intro item hitem
  have hflatten := flatten_cutBefore opens items
  cases hcut : cutBefore opens items with
  | nil =>
    rw [hcut] at hflatten
    rw [← hflatten] at hitem
    cases hitem
  | cons first pieces =>
    rw [hcut] at h hflatten
    obtain ⟨hfirst, hpieces⟩ := List.forall_mem_cons.mp h
    obtain ⟨only, rfl⟩ := List.length_eq_one_iff.mp hfirst
    rw [← hflatten, List.flatten_cons, List.singleton_append, List.tail_cons] at hitem
    obtain ⟨piece, hpiece, hitem⟩ := List.mem_flatten.mp hitem
    obtain ⟨single, rfl⟩ := List.length_eq_one_iff.mp (hpieces piece hpiece)
    obtain rfl := List.mem_singleton.mp hitem
    have hopens : [item].head?.any opens = true :=
      @opens_head_of_mem_tail _ _ items _ (by rwa [hcut])
    simpa using hopens

/-- The pieces of a list that is cut before every item that opens a piece: none is empty, all but
the first begin with such an item, and no piece has one in any other place. -/
structure IsCut (opens : α → Bool) (items : List α) (pieces : List (List α)) : Prop where
  flatten : pieces.flatten = items
  ne_nil : ∀ piece ∈ pieces, piece ≠ []
  inside : ∀ piece ∈ pieces, ∀ item ∈ piece.tail, opens item = false
  opens_head : ∀ piece ∈ pieces.tail, piece.head?.any opens = true

theorem opens_eq_false_of_mem_cutBefore (h : piece ∈ cutBefore opens items) :
    ∀ item ∈ piece.tail, opens item = false := by
  induction items generalizing piece with
  | nil => cases h
  | cons item rest ih =>
    rcases cutBefore_cons opens item rest with
      ⟨-, hcut⟩ | ⟨first, pieces, hrest, ⟨-, hcut⟩ | ⟨hclosed, hcut⟩⟩
    · rw [hcut, List.mem_singleton] at h
      rw [h]
      exact List.forall_mem_nil _
    · rw [hcut, ← hrest] at h
      rcases List.mem_cons.mp h with rfl | h
      · exact List.forall_mem_nil _
      · exact ih h
    · rw [hcut] at h
      rcases List.mem_cons.mp h with rfl | h
      · intro other hother
        have hfirst : first ∈ cutBefore opens rest := hrest ▸ List.mem_cons_self
        cases first with
        | nil => cases hother
        | cons head tail =>
          rcases List.mem_cons.mp hother with rfl | hother
          · simpa using hclosed
          · exact ih hfirst other hother
      · exact ih (hrest ▸ List.mem_cons_of_mem _ h)

theorem isCut_cutBefore (opens : α → Bool) (items : List α) :
    IsCut opens items (cutBefore opens items) where
  flatten := flatten_cutBefore opens items
  ne_nil _ := ne_nil_of_mem_cutBefore
  inside _ := opens_eq_false_of_mem_cutBefore
  opens_head _ := opens_head_of_mem_tail

/-- A list is cut in one way only. -/
theorem eq_cutBefore_iff {pieces : List (List α)} :
    pieces = cutBefore opens items ↔ IsCut opens items pieces := by
  constructor
  · rintro rfl
    exact isCut_cutBefore opens items
  · intro h
    induction items generalizing pieces with
    | nil =>
      cases pieces with
      | nil => rfl
      | cons piece pieces =>
        have hnil := (List.append_eq_nil_iff.mp h.flatten).1
        exact absurd hnil (h.ne_nil piece List.mem_cons_self)
    | cons item rest ih =>
      cases pieces with
      | nil => exact absurd h.flatten (List.cons_ne_nil _ _).symm
      | cons piece pieces =>
        obtain ⟨hflatten, hne, hinside, hopens⟩ := h
        obtain ⟨hpiece, hpieces⟩ := List.forall_mem_cons.mp hne
        obtain ⟨hfirst, hothers⟩ := List.forall_mem_cons.mp hinside
        cases piece with
        | nil => exact absurd rfl hpiece
        | cons head tail =>
          obtain ⟨rfl, hrest⟩ := List.cons.inj hflatten
          cases tail with
          | nil =>
            -- A piece of one item is cut off, since the piece after it is opened.
            have hcut := ih ⟨hrest, hpieces, hothers, fun piece hpiece ↦
              hopens piece (List.mem_of_mem_tail hpiece)⟩
            rw [cutBefore, ← hcut]
            cases pieces with
            | nil => rfl
            | cons next others => exact (if_pos (hopens next List.mem_cons_self)).symm
          | cons next others =>
            have hclosed := hfirst next List.mem_cons_self
            have hcut := @ih ((next :: others) :: pieces) ⟨hrest,
              List.forall_mem_cons.mpr ⟨List.cons_ne_nil _ _, hpieces⟩,
              List.forall_mem_cons.mpr ⟨fun item hitem ↦ hfirst item (List.mem_cons_of_mem _ hitem),
                hothers⟩, hopens⟩
            rw [cutBefore, ← hcut]
            simp [hclosed]

/-- Where an item opens a piece, a list is cut into the pieces before it and those after it. -/
theorem IsCut.append {others : List α} {pieces pieces' : List (List α)}
    (h : IsCut opens items pieces) (h' : IsCut opens others pieces')
    (hopens : others.head?.all opens = true) :
    IsCut opens (items ++ others) (pieces ++ pieces') := by
  have hall : ∀ piece ∈ pieces', piece.head?.any opens = true := by
    cases pieces' with
    | nil => exact List.forall_mem_nil _
    | cons first rest =>
      refine List.forall_mem_cons.mpr ⟨?_, h'.opens_head⟩
      obtain ⟨head, tail, rfl⟩ := List.exists_cons_of_ne_nil (h'.ne_nil first List.mem_cons_self)
      have hflatten := h'.flatten
      rw [List.flatten_cons, List.cons_append] at hflatten
      rw [← hflatten] at hopens
      exact hopens
  refine ⟨?_, List.forall_mem_append.mpr ⟨h.ne_nil, h'.ne_nil⟩,
    List.forall_mem_append.mpr ⟨h.inside, h'.inside⟩, ?_⟩
  · rw [List.flatten_append, h.flatten, h'.flatten]
  · intro piece hpiece
    cases pieces with
    | nil => exact hall piece (List.mem_of_mem_tail hpiece)
    | cons first rest =>
      rcases List.mem_append.mp hpiece with hrest | hother
      · exact h.opens_head piece hrest
      · exact hall piece hother

/-- An item that opens no piece goes to the last piece. -/
theorem IsCut.concat {item : α} {pieces : List (List α)} {last : List α}
    (h : IsCut opens items (pieces ++ [last])) (hitem : opens item = false) :
    IsCut opens (items ++ [item]) (pieces ++ [last ++ [item]]) := by
  obtain ⟨hflatten, hne, hinside, hhead⟩ := h
  rw [List.forall_mem_append, List.forall_mem_singleton] at hne hinside
  obtain ⟨head, tail, rfl⟩ := List.exists_cons_of_ne_nil hne.2
  refine ⟨?_, ?_, ?_, ?_⟩
  · rw [← hflatten]
    simp
  · rw [List.forall_mem_append, List.forall_mem_singleton]
    exact ⟨hne.1, by simp⟩
  · rw [List.forall_mem_append, List.forall_mem_singleton]
    refine ⟨hinside.1, ?_⟩
    rw [List.cons_append, List.tail_cons, List.forall_mem_append, List.forall_mem_singleton]
    exact ⟨hinside.2, hitem⟩
  · cases pieces with
    | nil => exact List.forall_mem_nil _
    | cons first rest =>
      rw [List.cons_append, List.tail_cons, List.forall_mem_append, List.forall_mem_singleton]
        at hhead ⊢
      exact hhead

theorem cutBefore_append {front back : List α} (hopens : back.head?.all opens = true) :
    cutBefore opens (front ++ back) = cutBefore opens front ++ cutBefore opens back :=
  (eq_cutBefore_iff.mpr
    ((isCut_cutBefore opens front).append (isCut_cutBefore opens back) hopens)).symm

theorem exists_eq_append_cons_of_flatten {pieces : List (List α)} {front back : List α} {item : α}
    (h : pieces.flatten = front ++ item :: back) :
    ∃ before left right after, pieces = before ++ (left ++ item :: right) :: after ∧
      front = before.flatten ++ left ∧ back = right ++ after.flatten := by
  rcases List.flatten_eq_append_iff.mp h with ⟨firsts, lasts, rfl, rfl, hlasts⟩ |
    ⟨before, left, head, right, after, rfl, hfront, hback⟩
  · obtain ⟨empties, right, after, rfl, hempties, hback⟩ := List.flatten_eq_cons_iff.mp hlasts.symm
    have hflatten : empties.flatten = [] := List.flatten_eq_nil_iff.mpr hempties
    refine ⟨firsts ++ empties, [], right, after, ?_, ?_, hback⟩
    · rw [List.append_assoc, List.nil_append]
    · rw [List.flatten_append, hflatten, List.append_nil, List.append_nil]
  · obtain ⟨rfl, hright⟩ := List.cons.inj hback
    exact ⟨before, left, right, after, rfl, hfront, hright⟩

/-- A cut stays one if an item makes way for another that opens a piece if the first one does. -/
theorem IsCut.exchange {before after : List (List α)} {left right : List α} {item other : α}
    (h : IsCut opens items (before ++ (left ++ item :: right) :: after))
    (hopens : opens item = opens other) :
    IsCut opens (before.flatten ++ left ++ other :: (right ++ after.flatten))
      (before ++ (left ++ other :: right) :: after) := by
  obtain ⟨-, hne, hinside, hhead⟩ := h
  simp only [List.forall_mem_append, List.forall_mem_cons] at hne hinside
  obtain ⟨hbefore, -, hafter⟩ := hne
  obtain ⟨hbeforeInside, hmiddle, hafterInside⟩ := hinside
  refine ⟨?_, ?_, ?_, ?_⟩
  · simp
  · simp only [List.forall_mem_append, List.forall_mem_cons]
    exact ⟨hbefore, by simp, hafter⟩
  · simp only [List.forall_mem_append, List.forall_mem_cons]
    refine ⟨hbeforeInside, ?_, hafterInside⟩
    cases left with
    | nil => exact hmiddle
    | cons head tail =>
      simp only [List.cons_append, List.tail_cons, List.forall_mem_append,
        List.forall_mem_cons] at hmiddle ⊢
      exact ⟨hmiddle.1, hopens ▸ hmiddle.2.1, hmiddle.2.2⟩
  · cases before with
    | nil => exact hhead
    | cons first others =>
      simp only [List.cons_append, List.tail_cons, List.forall_mem_append,
        List.forall_mem_cons] at hhead ⊢
      refine ⟨hhead.1, ?_, hhead.2.2⟩
      cases left with
      | nil =>
        rw [List.nil_append, List.head?_cons, Option.any_some] at hhead ⊢
        exact hopens ▸ hhead.2.1
      | cons head tail => exact hhead.2.1

/-- Two lists that differ in one item are cut alike if both items or none of them opens a piece. -/
theorem exists_cutBefore_exchange (front back : List α) {item other : α}
    (hopens : opens item = opens other) :
    ∃ before left right after, before.flatten ++ left = front ∧
      cutBefore opens (front ++ item :: back) = before ++ (left ++ item :: right) :: after ∧
      cutBefore opens (front ++ other :: back) = before ++ (left ++ other :: right) :: after := by
  obtain ⟨before, left, right, after, hcut, rfl, rfl⟩ :=
    exists_eq_append_cons_of_flatten (flatten_cutBefore opens (front ++ item :: back))
  have hisCut := isCut_cutBefore opens (before.flatten ++ left ++ item :: (right ++ after.flatten))
  rw [hcut] at hisCut
  have hcut' := eq_cutBefore_iff.mpr (hisCut.exchange hopens)
  exact ⟨before, left, right, after, rfl, hcut, hcut'.symm⟩

theorem cutBefore_map {β : Type} (change : β → α) (items : List β) :
    cutBefore opens (items.map change) =
      (cutBefore (fun item ↦ opens (change item)) items).map (List.map change) := by
  induction items with
  | nil => rfl
  | cons item rest ih =>
    rw [List.map_cons, cutBefore, cutBefore, ih]
    cases cutBefore (fun item ↦ opens (change item)) rest with
    | nil => rfl
    | cons first pieces =>
      simp only [List.map_cons, List.head?_map, Option.any_map]
      change (if (first.head?.any fun item ↦ opens (change item)) = true then _ else _) = _
      split <;> rfl

end RoutePatterns.Text
