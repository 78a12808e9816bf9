import Mathlib.Tactic.Common
import RoutePatterns.Pattern.Segment
import RoutePatterns.Proofs.Text.ByteSearch

/-!
# Cutting a text before every delimiter

There is one way only to cut a text so that no piece is empty, every piece but the first begins with
the delimiter and no piece has it in any other place (`eq_splitText_iff_isSplit`). So a piece is not
cut again (`splitText_of_mem`). Cutting the bytes of the text wherever the bytes of the delimiter
are found comes to the same pieces. The main statement is `eq_splitText_iff`.
-/

set_option autoImplicit false
set_option relaxedAutoImplicit false

namespace RoutePatterns

open Text

variable {delimiter : Char} {text : String} {pieces : List String}

/-- The pieces of a text that is cut before every delimiter. -/
structure IsSplit (delimiter : Char) (text : String) (pieces : List String) : Prop where
  join : String.join pieces = text
  ne_empty : ∀ piece ∈ pieces, piece ≠ ""
  begins : ∀ piece ∈ pieces.tail, piece.toList.head? = some delimiter
  inside : ∀ piece ∈ pieces, delimiter ∉ piece.toList.tail

theorem isSplit_iff_isCut :
    IsSplit delimiter text pieces ↔
      IsCut (· == delimiter) text.toList (pieces.map String.toList) := by
  have hflatten : String.join pieces = text ↔ (pieces.map String.toList).flatten = text.toList := by
    rw [← String.toList_inj, String.toList_join, List.flatMap_def]
  have hhead (piece : String) :
      piece.toList.head?.any (· == delimiter) = true ↔ piece.toList.head? = some delimiter := by
    cases piece.toList.head? <;> simp
  have hinside (piece : String) :
      (∀ char ∈ piece.toList.tail, (char == delimiter) = false) ↔
        delimiter ∉ piece.toList.tail := by
    simp only [beq_eq_false_iff_ne]
    exact ⟨fun h hmem ↦ h delimiter hmem rfl, fun h char hmem heq ↦ h (heq ▸ hmem)⟩
  constructor
  · rintro ⟨hjoin, hne, hbegins, honce⟩
    refine ⟨hflatten.mp hjoin, ?_, ?_, ?_⟩
    · exact List.forall_mem_map.mpr fun piece hpiece ↦ by simpa using hne piece hpiece
    · exact List.forall_mem_map.mpr fun piece hpiece ↦ (hinside piece).mpr (honce piece hpiece)
    · rw [← List.map_tail]
      exact List.forall_mem_map.mpr fun piece hpiece ↦ (hhead piece).mpr (hbegins piece hpiece)
  · rintro ⟨hjoin, hne, honce, hbegins⟩
    rw [← List.map_tail] at hbegins
    rw [List.forall_mem_map] at hne honce hbegins
    exact ⟨hflatten.mpr hjoin, fun piece hpiece ↦ by simpa using hne piece hpiece,
      fun piece hpiece ↦ (hhead piece).mp (hbegins piece hpiece),
      fun piece hpiece ↦ (hinside piece).mp (honce piece hpiece)⟩

theorem map_toList_splitText (delimiter : Char) (text : String) :
    (splitText delimiter text).map String.toList = splitBefore delimiter text.toList := by
  simp [splitText, Function.comp_def]

/-- A text is cut in one way only. -/
theorem eq_splitText_iff_isSplit :
    pieces = splitText delimiter text ↔ IsSplit delimiter text pieces := by
  have hinjective : pieces.map String.toList = (splitText delimiter text).map String.toList ↔
      pieces = splitText delimiter text := List.map_inj_right fun _ _ ↦ String.toList_inj.mp
  rw [isSplit_iff_isCut, ← eq_cutBefore_iff, ← hinjective, map_toList_splitText, splitBefore]

theorem isSplit_splitText (delimiter : Char) (text : String) :
    IsSplit delimiter text (splitText delimiter text) :=
  eq_splitText_iff_isSplit.mp rfl

/-- A piece is not cut again. -/
theorem splitText_of_mem {piece : String} (h : piece ∈ splitText delimiter text) :
    splitText delimiter piece = [piece] := by
  have hsplit := isSplit_splitText delimiter text
  refine (eq_splitText_iff_isSplit.mpr ⟨?_, ?_, ?_, ?_⟩).symm
  · rw [String.join_cons, String.join_nil, String.append_empty]
  · exact List.forall_mem_singleton.mpr (hsplit.ne_empty piece h)
  · exact List.forall_mem_nil _
  · exact List.forall_mem_singleton.mpr (hsplit.inside piece h)

theorem isBoundary_of_mem_cuts {cut : ℕ}
    (h : cut ∈ Utf8.cuts delimiter (Utf8.encode text.toList)) :
    Utf8.isBoundary (Utf8.encode text.toList) cut = true := by
  rcases List.mem_append.mp h with hfound | hend
  · obtain ⟨front, back, htext, rfl⟩ :=
      Utf8.mem_occurrences_encode_iff.mp (List.mem_filter.mp hfound).1
    rw [htext]
    exact Utf8.isBoundary_encode front _
  · obtain rfl := List.mem_singleton.mp hend
    simp [Utf8.isBoundary]

/-- A text is cut into the only pieces that join to it of which none is empty, all but the first
begin with the delimiter, and none has the delimiter in any other place. The bytes of the delimiter
are found in those of the text exactly where the delimiter is, so no character is cut in two, and
the slices are the bytes of the pieces. A piece is not cut again. -/
theorem eq_splitText_iff (delimiter : Char) (text : String) :
    (∀ pieces, pieces = splitText delimiter text ↔ IsSplit delimiter text pieces) ∧
    (∀ place, place ∈ Utf8.occurrences (Utf8.encodeChar delimiter) (Utf8.encode text.toList) ↔
      ∃ front back, text.toList = front ++ delimiter :: back ∧ place = Utf8.byteLength front) ∧
    (∀ cut ∈ Utf8.cuts delimiter (Utf8.encode text.toList),
      Utf8.isBoundary (Utf8.encode text.toList) cut = true) ∧
    Utf8.splitBefore? delimiter (Utf8.encode text.toList) =
      some ((splitText delimiter text).map fun piece ↦ Utf8.encode piece.toList) ∧
    ∀ piece ∈ splitText delimiter text, splitText delimiter piece = [piece] := by
  refine ⟨fun _ ↦ eq_splitText_iff_isSplit, fun _ ↦ Utf8.mem_occurrences_encode_iff,
    fun _ ↦ isBoundary_of_mem_cuts, ?_, fun _ ↦ splitText_of_mem⟩
  rw [Utf8.splitBefore?_encode, ← map_toList_splitText, List.map_map]
  rfl

/-- A delimiter of three bytes. -/
theorem eq_splitText_iff_arrows :
    Utf8.splitBefore? '→' (Utf8.encode "→a→bé→".toList) =
        some (["→a", "→bé", "→"].map fun piece ↦ Utf8.encode piece.toList) ∧
      splitText '→' "→bé" = ["→bé"] := by
  obtain ⟨hpieces, -, -, hbytes, hagain⟩ := eq_splitText_iff '→' "→a→bé→"
  have hsplit : ["→a", "→bé", "→"] = splitText '→' "→a→bé→" :=
    (hpieces _).mpr ⟨by decide, by decide, by decide, by decide⟩
  rw [← hsplit] at hbytes hagain
  exact ⟨hbytes, hagain "→bé" (by decide)⟩

end RoutePatterns
