import Mathlib.Tactic.Common
import RoutePatterns.Proofs.Text.Cutting
import RoutePatterns.Text.Utf8

/-!
# Cutting text by its bytes

A text can be cut before a mark by searching its bytes for those of the mark. The first byte of a
character tells how many follow, and no byte that follows can be a first one
(`Utf8.exists_encodeChar_eq`). So the bytes of the mark are found exactly where the mark is
(`Utf8.mem_occurrences_encode_iff`), and the pieces between the places that are found are the bytes
of the pieces of the text (`Utf8.splitBefore?_encode`). All of them can be taken without cutting a
character in two.
-/

set_option autoImplicit false
set_option relaxedAutoImplicit false

namespace RoutePatterns.Text.Utf8

/-! ### The search -/

/-- The places at which a word begins, counted from `position`. The next `skip` bytes belong to the
occurrence before them, and the search goes on behind them. -/
def occurrencesFrom (word : List UInt8) (position : ℕ) : ℕ → List UInt8 → List ℕ
  | _, [] => []
  | skip + 1, _ :: rest => occurrencesFrom word (position + 1) skip rest
  | 0, byte :: rest =>
    if word.isPrefixOf (byte :: rest) then
      position :: occurrencesFrom word (position + 1) (word.length - 1) rest
    else occurrencesFrom word (position + 1) 0 rest

/-- The places at which a word begins, from left to right. No two occurrences overlap. -/
def occurrences (word bytes : List UInt8) : List ℕ :=
  occurrencesFrom word 0 0 bytes

/-- Whether no character is cut in two at a place: at both ends and before every byte that does not
continue a character. -/
def isBoundary (bytes : List UInt8) (place : ℕ) : Bool :=
  place == 0 || place == bytes.length || bytes[place]?.any fun byte ↦ !isTail byte

/-- The bytes between two places, if no character is cut in two at them. -/
def slice? (bytes : List UInt8) (start stop : ℕ) : Option (List UInt8) :=
  if start ≤ stop ∧ isBoundary bytes start ∧ isBoundary bytes stop then
    some ((bytes.take stop).drop start)
  else none

/-- The bytes from `start` to the first of the places, from there to the next one and so on, if no
character is cut in two. -/
def slices? (bytes : List UInt8) : ℕ → List ℕ → Option (List (List UInt8))
  | _, [] => some []
  | start, stop :: places => do
    let piece ← slice? bytes start stop
    let pieces ← slices? bytes stop places
    return piece :: pieces

/-- Where bytes are cut: at every occurrence of the mark but one at the very beginning, and at the
end. -/
def cuts (mark : Char) (bytes : List UInt8) : List ℕ :=
  (occurrences (encodeChar mark) bytes).filter (0 < ·) ++ [bytes.length]

/-- The pieces of bytes that are cut before every occurrence of the mark, if no character is cut in
two. -/
def splitBefore? (mark : Char) (bytes : List UInt8) : Option (List (List UInt8)) :=
  (slices? bytes 0 (cuts mark bytes)).map (List.filter fun piece ↦ !piece.isEmpty)

/-! ### The bytes of a character -/

/-- The number of bytes of the character that begins with a byte. -/
def sizeOfLead (lead : UInt8) : ℕ :=
  if lead.toNat < 0x80 then 1 else if lead.toNat < 0xE0 then 2 else if lead.toNat < 0xF0 then 3
  else 4

theorem isTail_lead {code : ℕ} (hbyte : code < 0x100) (hcode : code < 0x80 ∨ 0xC0 ≤ code) :
    isTail (.ofNat code) = false := by
  simp only [isTail, toNat_ofNat_of_lt hbyte, Bool.and_eq_false_iff, decide_eq_false_iff_not]
  omega

theorem sizeOfLead_ofNat {code : ℕ} (hbyte : code < 0x100) :
    sizeOfLead (.ofNat code) =
      if code < 0x80 then 1 else if code < 0xE0 then 2 else if code < 0xF0 then 3 else 4 := by
  rw [sizeOfLead, toNat_ofNat_of_lt hbyte]

/-- Only the first byte of a character does not continue one, and it tells how many follow. -/
theorem exists_encodeChar_eq (char : Char) :
    ∃ lead tails, encodeChar char = lead :: tails ∧ isTail lead = false ∧
      (∀ byte ∈ tails, isTail byte = true) ∧ sizeOfLead lead = tails.length + 1 := by
  have hrange := toNat_range char
  unfold encodeChar
  simp only
  split
  · next hone =>
    refine ⟨_, _, rfl, isTail_lead (by omega) (by omega), List.forall_mem_nil _, ?_⟩
    rw [sizeOfLead_ofNat (by omega), if_pos hone, List.length_nil]
  · split
    · refine ⟨_, _, rfl, isTail_lead (by omega) (by omega), ?_, ?_⟩
      · rw [List.forall_mem_singleton]
        exact isTail_ofNat _
      · rw [sizeOfLead_ofNat (by omega), if_neg (by omega), if_pos (by omega),
          List.length_singleton]
    · split
      · refine ⟨_, _, rfl, isTail_lead (by omega) (by omega), ?_, ?_⟩
        · rw [List.forall_mem_cons, List.forall_mem_singleton]
          exact ⟨isTail_ofNat _, isTail_ofNat _⟩
        · rw [sizeOfLead_ofNat (by omega), if_neg (by omega), if_neg (by omega),
            if_pos (by omega)]
          rfl
      · refine ⟨_, _, rfl, isTail_lead (by omega) (by omega), ?_, ?_⟩
        · rw [List.forall_mem_cons, List.forall_mem_cons, List.forall_mem_singleton]
          exact ⟨isTail_ofNat _, isTail_ofNat _, isTail_ofNat _⟩
        · rw [sizeOfLead_ofNat (by omega), if_neg (by omega), if_neg (by omega),
            if_neg (by omega)]
          rfl

theorem encodeChar_injective : Function.Injective encodeChar := by
  intro char other h
  have hencode : encode [char] = encode [other] := by
    rw [encode_cons, encode_cons, h]
  have hdecode := decode_encode [char]
  rw [hencode, decode_encode] at hdecode
  exact (List.singleton_inj.mp (Except.ok.inj hdecode)).symm

/-- The bytes of a character do not begin with those of another. -/
theorem eq_of_encodeChar_isPrefixOf {mark char : Char} {bytes : List UInt8}
    (h : encodeChar mark <+: encodeChar char ++ bytes) : mark = char := by
  obtain ⟨lead, tails, hmark, -, -, hsize⟩ := exists_encodeChar_eq mark
  obtain ⟨lead', tails', hchar, -, -, hsize'⟩ := exists_encodeChar_eq char
  obtain ⟨rest, hrest⟩ := h
  have hlead : lead = lead' := by
    rw [hmark, hchar] at hrest
    exact (List.cons.inj hrest).1
  have hlength : (encodeChar mark).length = (encodeChar char).length := by
    rw [hmark, hchar, List.length_cons, List.length_cons, ← hsize, ← hsize', hlead]
  exact encodeChar_injective (List.append_inj_left hrest hlength)

/-! ### What the search finds -/

/-- The search goes on behind an occurrence. -/
theorem occurrencesFrom_append (word : List UInt8) (position : ℕ) (passed bytes : List UInt8) :
    occurrencesFrom word position passed.length (passed ++ bytes) =
      occurrencesFrom word (position + passed.length) 0 bytes := by
  induction passed generalizing position with
  | nil => rfl
  | cons byte passed ih =>
    rw [List.length_cons, List.cons_append, occurrencesFrom, ih, Nat.add_right_comm, Nat.add_assoc]

/-- No occurrence of a character begins with a byte that continues one. -/
theorem occurrencesFrom_tails (mark : Char) (position : ℕ) {tails : List UInt8}
    (htails : ∀ byte ∈ tails, isTail byte = true) (bytes : List UInt8) :
    occurrencesFrom (encodeChar mark) position 0 (tails ++ bytes) =
      occurrencesFrom (encodeChar mark) (position + tails.length) 0 bytes := by
  obtain ⟨lead, rest, hmark, hlead, -, -⟩ := exists_encodeChar_eq mark
  induction tails generalizing position with
  | nil => rfl
  | cons byte tails ih =>
    obtain ⟨hbyte, htails⟩ := List.forall_mem_cons.mp htails
    have hne : ¬ (encodeChar mark).isPrefixOf (byte :: (tails ++ bytes)) = true := by
      rw [List.isPrefixOf_iff_prefix, hmark, List.cons_prefix_cons]
      rintro ⟨rfl, -⟩
      rw [hlead] at hbyte
      cases hbyte
    rw [List.cons_append, occurrencesFrom, if_neg hne, ih _ htails, List.length_cons,
      Nat.add_right_comm, Nat.add_assoc]

/-- The search passes a character as a whole and finds it if it is the mark. -/
theorem occurrencesFrom_encodeChar (mark char : Char) (position : ℕ) (bytes : List UInt8) :
    occurrencesFrom (encodeChar mark) position 0 (encodeChar char ++ bytes) =
      (if char = mark then [position] else []) ++
        occurrencesFrom (encodeChar mark) (position + char.utf8Size) 0 bytes := by
  obtain ⟨lead, tails, hchar, -, htails, -⟩ := exists_encodeChar_eq char
  have hsize : char.utf8Size = tails.length + 1 := by
    rw [← length_encodeChar, hchar, List.length_cons]
  have hstep : encodeChar char ++ bytes = lead :: (tails ++ bytes) := by
    rw [hchar, List.cons_append]
  have hposition : position + 1 + tails.length = position + char.utf8Size := by omega
  by_cases hmark : char = mark
  · subst hmark
    have hprefix : (encodeChar char).isPrefixOf (lead :: (tails ++ bytes)) = true := by
      rw [List.isPrefixOf_iff_prefix, ← hstep]
      exact List.prefix_append _ _
    have hlength : (encodeChar char).length - 1 = tails.length := by rw [length_encodeChar]; omega
    rw [hstep, occurrencesFrom, if_pos hprefix, hlength, occurrencesFrom_append, hposition,
      if_pos rfl, List.singleton_append]
  · have hprefix : ¬ (encodeChar mark).isPrefixOf (lead :: (tails ++ bytes)) = true := by
      rw [List.isPrefixOf_iff_prefix, ← hstep]
      exact fun h ↦ hmark (eq_of_encodeChar_isPrefixOf h).symm
    rw [hstep, occurrencesFrom, if_neg hprefix, occurrencesFrom_tails mark _ htails, hposition,
      if_neg hmark, List.nil_append]

/-- The numbers of bytes before each mark in a text, counted from `position`. -/
def placesFrom (mark : Char) (position : ℕ) : List Char → List ℕ
  | [] => []
  | char :: rest =>
    (if char = mark then [position] else []) ++ placesFrom mark (position + char.utf8Size) rest

theorem occurrencesFrom_encode (mark : Char) (position : ℕ) (text : List Char) :
    occurrencesFrom (encodeChar mark) position 0 (encode text) = placesFrom mark position text := by
  induction text generalizing position with
  | nil => rfl
  | cons char text ih => rw [encode_cons, occurrencesFrom_encodeChar, ih, placesFrom]

theorem mem_placesFrom_iff {mark : Char} {position place : ℕ} {text : List Char} :
    place ∈ placesFrom mark position text ↔
      ∃ front back, text = front ++ mark :: back ∧ place = position + byteLength front := by
  induction text generalizing position with
  | nil => simp [placesFrom]
  | cons char text ih =>
    rw [placesFrom, List.mem_append, ih]
    constructor
    · rintro (hplace | ⟨front, back, rfl, rfl⟩)
      · by_cases hchar : char = mark
        · rw [if_pos hchar, List.mem_singleton] at hplace
          exact ⟨[], text, by rw [hchar]; rfl, hplace⟩
        · rw [if_neg hchar] at hplace
          cases hplace
      · exact ⟨char :: front, back, rfl, by rw [byteLength_cons, Nat.add_assoc]⟩
    · rintro ⟨front, back, htext, rfl⟩
      cases front with
      | nil =>
        obtain ⟨rfl, -⟩ := List.cons.inj htext
        simp
      | cons first front =>
        obtain ⟨rfl, rfl⟩ := List.cons.inj htext
        exact Or.inr ⟨front, back, rfl, by rw [byteLength_cons, Nat.add_assoc]⟩

/-- The bytes of a mark are found exactly where the mark is in the text. -/
theorem mem_occurrences_encode_iff {mark : Char} {place : ℕ} {text : List Char} :
    place ∈ occurrences (encodeChar mark) (encode text) ↔
      ∃ front back, text = front ++ mark :: back ∧ place = byteLength front := by
  rw [occurrences, occurrencesFrom_encode, mem_placesFrom_iff]
  simp only [Nat.zero_add]

/-! ### Slices -/

theorem isBoundary_encode (front back : List Char) :
    isBoundary (encode (front ++ back)) (byteLength front) = true := by
  cases back with
  | nil => simp [isBoundary, length_encode]
  | cons char back =>
    obtain ⟨lead, tails, hchar, hlead, -, -⟩ := exists_encodeChar_eq char
    have hget : (encode (front ++ char :: back))[byteLength front]? = some lead := by
      rw [encode_append, ← length_encode, encode_cons, hchar]
      simp
    simp [isBoundary, hget, hlead]

/-- Part of a text can be taken by its bytes. -/
theorem slice?_encode (front piece back : List Char) :
    slice? (encode (front ++ piece ++ back)) (byteLength front) (byteLength (front ++ piece)) =
      some (encode piece) := by
  have hstart : isBoundary (encode (front ++ piece ++ back)) (byteLength front) = true := by
    rw [List.append_assoc]
    exact isBoundary_encode _ _
  have hstop := isBoundary_encode (front ++ piece) back
  have hle : byteLength front ≤ byteLength (front ++ piece) := by
    rw [byteLength_append]
    exact Nat.le_add_right _ _
  have htake : (encode (front ++ piece ++ back)).take (byteLength (front ++ piece)) =
      encode (front ++ piece) := by
    rw [encode_append, ← length_encode, List.take_left]
  rw [slice?, if_pos ⟨hle, hstart, hstop⟩, htake, encode_append, ← length_encode, List.drop_left]

/-- The numbers of bytes up to the end of each of the pieces, counted from `position`. -/
def endsFrom (position : ℕ) : List (List Char) → List ℕ
  | [] => []
  | piece :: pieces =>
    (position + byteLength piece) :: endsFrom (position + byteLength piece) pieces

theorem slices?_encode (front : List Char) (pieces : List (List Char)) :
    slices? (encode (front ++ pieces.flatten)) (byteLength front)
        (endsFrom (byteLength front) pieces) = some (pieces.map encode) := by
  induction pieces generalizing front with
  | nil => rfl
  | cons piece pieces ih =>
    have hpiece := slice?_encode front piece pieces.flatten
    have hpieces := ih (front ++ piece)
    rw [List.flatten_cons, ← List.append_assoc, endsFrom, slices?, ← byteLength_append, hpiece,
      hpieces]
    rfl

/-! ### Cuts -/

/-- The pieces of a text end at the marks behind its first character and at its end. -/
theorem endsFrom_splitBefore (mark : Char) (position : ℕ) (char : Char) (text : List Char) :
    endsFrom position (splitBefore mark (char :: text)) =
      placesFrom mark (position + char.utf8Size) text ++
        [position + byteLength (char :: text)] := by
  induction text generalizing position char with
  | nil => rfl
  | cons next text ih =>
    obtain ⟨others, pieces, hcut⟩ := exists_cutBefore_cons (· == mark) next text
    have hlater := ih (position + char.utf8Size) next
    have hlength : position + char.utf8Size + byteLength (next :: text) =
        position + byteLength (char :: next :: text) := by
      rw [byteLength_cons char, Nat.add_assoc]
    rw [splitBefore, hcut, hlength] at hlater
    rw [splitBefore, cutBefore, hcut, placesFrom, List.append_assoc, ← hlater]
    by_cases hnext : next = mark
    · -- The first piece is the character alone, and the next one begins with the mark.
      simp [hnext, endsFrom]
    · simp [hnext, endsFrom, Nat.add_assoc]

/-- Text is cut by its bytes where its pieces end. -/
theorem cuts_encode (mark : Char) {text : List Char} (htext : text ≠ []) :
    cuts mark (encode text) = endsFrom 0 (splitBefore mark text) := by
  obtain ⟨char, rest, rfl⟩ := List.exists_cons_of_ne_nil htext
  have hsize := char.utf8Size_pos
  have hfirst : (if char = mark then [0] else []).filter (0 < ·) = ([] : List ℕ) := by
    split <;> rfl
  have hlater : (placesFrom mark (0 + char.utf8Size) rest).filter (0 < ·) =
      placesFrom mark (0 + char.utf8Size) rest := by
    refine List.filter_eq_self.mpr fun place hplace ↦ ?_
    obtain ⟨front, -, -, rfl⟩ := mem_placesFrom_iff.mp hplace
    exact decide_eq_true (by omega)
  rw [cuts, occurrences, occurrencesFrom_encode, placesFrom, List.filter_append, hfirst, hlater,
    List.nil_append, length_encode, endsFrom_splitBefore, Nat.zero_add (byteLength _)]

/-- The pieces that are cut by bytes are the bytes of the pieces of the text. -/
theorem splitBefore?_encode (mark : Char) (text : List Char) :
    splitBefore? mark (encode text) = some ((splitBefore mark text).map encode) := by
  by_cases htext : text = []
  · subst htext
    rfl
  have hslices := slices?_encode [] (splitBefore mark text)
  rw [flatten_splitBefore, List.nil_append, byteLength_nil] at hslices
  have hfilter : ((splitBefore mark text).map encode).filter (fun piece ↦ !piece.isEmpty) =
      (splitBefore mark text).map encode := by
    refine List.filter_eq_self.mpr (List.forall_mem_map.mpr fun piece hpiece ↦ ?_)
    obtain ⟨char, rest, rfl⟩ := List.exists_cons_of_ne_nil (ne_nil_of_mem_cutBefore hpiece)
    obtain ⟨lead, tails, hchar, -⟩ := exists_encodeChar_eq char
    rw [encode_cons, hchar]
    rfl
  rw [splitBefore?, cuts_encode mark htext, hslices, Option.map_some, hfilter]

end RoutePatterns.Text.Utf8
