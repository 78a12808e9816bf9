import RoutePatterns.Text.Split

/-!
# Joining texts and taking them apart

Texts without a mark are the fields of the text that they are joined to (`fields_joinWith`), and a
text without the mark is its only field (`fields_eq_singleton`). No field contains the mark
(`mark_notMem_of_mem_fields`), and what stands before the first mark does not contain it either
(`cutOnce_eq_some_iff`).
-/

set_option autoImplicit false
set_option relaxedAutoImplicit false

namespace RoutePatterns.Text

variable {mark : Char}

theorem joinWith_cons_cons (mark : Char) (first second : List Char) (others : List (List Char)) :
    joinWith mark (first :: second :: others) = first ++ mark :: joinWith mark (second :: others) :=
  rfl

theorem joinWith_cons (mark : Char) (first : List Char) (others : List (List Char)) :
    joinWith mark (first :: others) = first ++ (others.map (mark :: ·)).flatten := by
  induction others generalizing first with
  | nil => simp [joinWith]
  | cons second others ih =>
    rw [joinWith_cons_cons, ih, List.map_cons, List.flatten_cons, List.cons_append]

theorem joinWith_eq_intercalate (mark : Char) (texts : List (List Char)) :
    joinWith mark texts = [mark].intercalate texts := by
  induction texts with
  | nil => rfl
  | cons first others ih =>
    cases others with
    | nil => simp [joinWith, List.intercalate]
    | cons second others =>
      rw [joinWith_cons_cons, ih]
      simp [List.intercalate]

/-- Joined texts end with the last of them. -/
theorem exists_joinWith_eq_append {texts : List (List Char)} (hne : texts ≠ []) :
    ∃ front, ∃ last ∈ texts, joinWith mark texts = front ++ last := by
  induction texts with
  | nil => exact absurd rfl hne
  | cons first others ih =>
    cases others with
    | nil => exact ⟨[], first, List.mem_cons_self, rfl⟩
    | cons second others =>
      obtain ⟨front, last, hlast, hjoin⟩ := ih (by simp)
      refine ⟨first ++ mark :: front, last, List.mem_cons_of_mem _ hlast, ?_⟩
      rw [joinWith_cons_cons, hjoin, List.append_assoc, List.cons_append]

theorem fields_append_mark {front : List Char} (hfront : mark ∉ front) (back : List Char) :
    fields mark (front ++ mark :: back) = front :: fields mark back := by
  induction front with
  | nil => simp [fields]
  | cons char front ih =>
    have hchar : char ≠ mark := fun heq ↦ hfront (heq ▸ List.mem_cons_self)
    have hrest : mark ∉ front := fun hmem ↦ hfront (List.mem_cons_of_mem _ hmem)
    rw [List.cons_append, fields, if_neg hchar, ih hrest]

theorem fields_eq_singleton {text : List Char} (htext : mark ∉ text) :
    fields mark text = [text] := by
  induction text with
  | nil => rfl
  | cons char text ih =>
    have hchar : char ≠ mark := fun heq ↦ htext (heq ▸ List.mem_cons_self)
    have hrest : mark ∉ text := fun hmem ↦ htext (List.mem_cons_of_mem _ hmem)
    rw [fields, if_neg hchar, ih hrest]

/-- Joined texts come apart again where they were joined, if the mark is in none of them. -/
theorem fields_joinWith {texts : List (List Char)} (hne : texts ≠ [])
    (htexts : ∀ text ∈ texts, mark ∉ text) : fields mark (joinWith mark texts) = texts := by
  induction texts with
  | nil => exact absurd rfl hne
  | cons first others ih =>
    obtain ⟨hfirst, hothers⟩ := List.forall_mem_cons.mp htexts
    cases others with
    | nil => exact fields_eq_singleton hfirst
    | cons second others =>
      rw [joinWith_cons_cons, fields_append_mark hfirst, ih (by simp) hothers]

theorem mark_notMem_of_mem_fields {text field : List Char} (h : field ∈ fields mark text) :
    mark ∉ field := by
  induction text generalizing field with
  | nil =>
    obtain rfl := List.mem_singleton.mp h
    exact List.not_mem_nil
  | cons char rest ih =>
    rw [fields] at h
    by_cases hchar : char = mark
    · rw [if_pos hchar] at h
      rcases List.mem_cons.mp h with rfl | hmem
      · exact List.not_mem_nil
      · exact ih hmem
    · rw [if_neg hchar] at h
      cases hrest : fields mark rest with
      | nil => exact absurd hrest (fields_ne_nil mark rest)
      | cons first others =>
        rw [hrest] at h ih
        rcases List.mem_cons.mp h with rfl | hmem
        · exact List.not_mem_cons_of_ne_of_not_mem (Ne.symm hchar) (ih List.mem_cons_self)
        · exact ih (List.mem_cons_of_mem first hmem)

/-! ### Cutting once -/

variable {text before after : List Char}

theorem cutOnce_append_mark (hbefore : mark ∉ before) (after : List Char) :
    cutOnce mark (before ++ mark :: after) = some (before, after) := by
  induction before with
  | nil => simp [cutOnce]
  | cons char before ih =>
    rw [List.mem_cons, not_or] at hbefore
    rw [List.cons_append, cutOnce, if_neg (Ne.symm hbefore.1), ih hbefore.2]
    rfl

theorem cutOnce_eq_none_iff : cutOnce mark text = none ↔ mark ∉ text := by
  constructor
  · intro h hmem
    obtain ⟨before, after, rfl, hbefore⟩ := List.eq_append_cons_of_mem hmem
    rw [cutOnce_append_mark hbefore] at h
    cases h
  · intro hmem
    cases h : cutOnce mark text with
    | none => rfl
    | some parts => simp [cutOnce_eq_some h] at hmem

/-- A text is cut in two at the first mark. -/
theorem cutOnce_eq_some_iff :
    cutOnce mark text = some (before, after) ↔ mark ∉ before ∧ text = before ++ mark :: after := by
  constructor
  · intro h
    have htext := cutOnce_eq_some h
    have hmem : mark ∈ text := by simp [htext]
    obtain ⟨front, back, hcut, hfront⟩ := List.eq_append_cons_of_mem hmem
    rw [hcut, cutOnce_append_mark hfront] at h
    cases h
    exact ⟨hfront, htext⟩
  · rintro ⟨hbefore, rfl⟩
    exact cutOnce_append_mark hbefore after

end RoutePatterns.Text
