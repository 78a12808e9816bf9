/-!
Cutting lists into pieces. `cutBefore` cuts before every item that passes a test, so that such items
open a piece; `splitBefore` is its instance for text and a mark. `fields` cuts a text at every
occurrence of a mark and drops it; `cutOnce` cuts at the first occurrence. The lemmas say that
nothing is lost.
-/

set_option autoImplicit false

namespace RoutePatterns.Text

/-- Cuts before every item that passes `opens`, so no item but possibly the first of a piece passes.
No piece is empty. -/
def cutBefore {α : Type} (opens : α → Bool) : List α → List (List α)
  | [] => []
  | item :: rest =>
    match cutBefore opens rest with
    | [] => [[item]]
    | piece :: pieces =>
      if piece.head?.any opens then [item] :: piece :: pieces
      else (item :: piece) :: pieces

/-- Cuts before every occurrence of `mark`, so every piece but possibly the first starts with it. -/
def splitBefore (mark : Char) (text : List Char) : List (List Char) :=
  cutBefore (· == mark) text

/-- The pieces between the occurrences of `mark`; always at least one, possibly empty ones. -/
def fields (mark : Char) : List Char → List (List Char)
  | [] => [[]]
  | char :: rest =>
    if char = mark then [] :: fields mark rest
    else
      match fields mark rest with
      | [] => [[char]]
      | field :: others => (char :: field) :: others

/-- The text before and after the first occurrence of `mark`. -/
def cutOnce (mark : Char) : List Char → Option (List Char × List Char)
  | [] => none
  | char :: rest =>
    if char = mark then some ([], rest)
    else (cutOnce mark rest).map fun parts => (char :: parts.1, parts.2)

/-- The texts one after the other with `mark` between neighbours. -/
def joinWith (mark : Char) : List (List Char) → List Char
  | [] => []
  | [text] => text
  | text :: others => text ++ mark :: joinWith mark others

theorem flatten_cutBefore {α : Type} (opens : α → Bool) (items : List α) :
    (cutBefore opens items).flatten = items := by
  induction items with
  | nil => rfl
  | cons item rest ih =>
    unfold cutBefore
    split
    · next h => simp_all
    · next piece pieces h =>
      rw [h] at ih
      split <;> simpa using ih

theorem flatten_splitBefore (mark : Char) (text : List Char) :
    (splitBefore mark text).flatten = text :=
  flatten_cutBefore _ text

theorem fields_ne_nil (mark : Char) (text : List Char) : fields mark text ≠ [] := by
  cases text with
  | nil => simp [fields]
  | cons char rest =>
    unfold fields
    split
    · simp
    · split <;> simp

theorem joinWith_fields (mark : Char) (text : List Char) :
    joinWith mark (fields mark text) = text := by
  induction text with
  | nil => rfl
  | cons char rest ih =>
    unfold fields
    split
    · next h =>
      cases hf : fields mark rest with
      | nil => exact absurd hf (fields_ne_nil mark rest)
      | cons field others => rw [hf] at ih; simp [joinWith, ih, h]
    · split
      · next hf => exact absurd hf (fields_ne_nil mark rest)
      · next field others hf =>
        rw [hf] at ih
        cases others with
        | nil => simpa [joinWith] using ih
        | cons other others => simpa [joinWith] using ih

theorem cutOnce_eq_some {mark : Char} {text before after : List Char}
    (h : cutOnce mark text = some (before, after)) : text = before ++ mark :: after := by
  induction text generalizing before with
  | nil => simp [cutOnce] at h
  | cons char rest ih =>
    unfold cutOnce at h
    split at h
    · next hc => simp at h; obtain ⟨rfl, rfl⟩ := h; simp [hc]
    · obtain ⟨parts, hp, heq⟩ := Option.map_eq_some_iff.mp h
      simp only [Prod.mk.injEq] at heq
      obtain ⟨rfl, rfl⟩ := heq
      simp [ih hp]

end RoutePatterns.Text
