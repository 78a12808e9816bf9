import Mathlib.Data.List.Forall2
import RoutePatterns.Proofs.Text.UrlBase64
import RoutePatterns.Scenario.Token

/-!
# Spellings of a token

The text of bytes consists of letters, digits, hyphens and underscores in groups of four, and full
stops fill up the last group (`UrlBase64.isAddressText_encode`). A reader takes other spellings of
it as well: each of the three characters that standard base64 writes otherwise, and white space at
both ends. These are all the texts that are read as the bytes, and a scenario is read from any of
them as from its token. The main statement is `UrlBase64.decode?_iff_isRespelled`.
-/

set_option autoImplicit false
set_option relaxedAutoImplicit false

namespace RoutePatterns.Text.UrlBase64

/-! ### The form of an encoded text -/

/-- An ASCII letter or digit, a hyphen or an underscore. -/
def isSymbol (char : Char) : Bool :=
  char.isAlphanum || char == '-' || char == '_'

/-- A text of groups of four symbols, with at most two full stops at the end in place of symbols. -/
structure IsAddressText (text : List Char) : Prop where
  four_dvd_length : 4 ∣ text.length
  exists_symbols : ∃ symbols, ∃ stops ≤ 2, text = symbols ++ List.replicate stops '.' ∧
    ∀ char ∈ symbols, isSymbol char = true

theorem isSymbol_symbol {value : ℕ} (hvalue : value < 64) : isSymbol (symbol value) = true := by
  have hall : ∀ value < 64, isSymbol (symbol value) = true := by decide
  exact hall value hvalue

theorem isSymbol_of_mem_groupText {first second third : UInt8} {char : Char}
    (hchar : char ∈ groupText first second third) : isSymbol char = true := by
  obtain ⟨value, hvalue, rfl⟩ := mem_groupText hchar
  exact isSymbol_symbol hvalue

theorem isAddressText_encode (bytes : List UInt8) : IsAddressText (encode bytes) := by
  induction bytes using encode.induct with
  | case1 => exact ⟨Nat.dvd_zero 4, [], 0, by decide, rfl, List.forall_mem_nil _⟩
  | case2 first =>
    have hfirst := first.toNat_lt
    refine ⟨Nat.dvd_refl 4, [symbol (first.toNat / 4), symbol (first.toNat % 4 * 16)], 2,
      Nat.le_refl 2, rfl, ?_⟩
    rw [List.forall_mem_cons, List.forall_mem_singleton]
    exact ⟨isSymbol_symbol (by omega), isSymbol_symbol (by omega)⟩
  | case3 first second =>
    have hfirst := first.toNat_lt
    have hsecond := second.toNat_lt
    refine ⟨Nat.dvd_refl 4, [symbol (first.toNat / 4),
      symbol (first.toNat % 4 * 16 + second.toNat / 16), symbol (second.toNat % 16 * 4)], 1,
      by decide, rfl, ?_⟩
    rw [List.forall_mem_cons, List.forall_mem_cons, List.forall_mem_singleton]
    exact ⟨isSymbol_symbol (by omega), isSymbol_symbol (by omega), isSymbol_symbol (by omega)⟩
  | case4 first second third rest _ _ _ _ ih =>
    obtain ⟨hlength, symbols, stops, hstops, hrest, hsymbols⟩ := ih
    rw [encode_group]
    refine ⟨?_, groupText first second third ++ symbols, stops, hstops, ?_, ?_⟩
    · rw [List.length_append]
      exact Nat.dvd_add (Nat.dvd_refl 4) hlength
    · rw [hrest, List.append_assoc]
    · rw [List.forall_mem_append]
      exact ⟨fun _ ↦ isSymbol_of_mem_groupText, hsymbols⟩

/-! ### Other spellings -/

/-- The second character stands for the first one: it is the same or its spelling in standard
base64. -/
inductive IsSpelling : Char → Char → Prop
  | same (char : Char) : IsSpelling char char
  | plus : IsSpelling '-' '+'
  | slash : IsSpelling '_' '/'
  | equals : IsSpelling '.' '='

/-- The text is another spelling of the token: some characters are spelled as in standard base64,
and there may be white space at both ends. -/
def IsRespelled (token text : List Char) : Prop :=
  ∃ before spelled after, (∀ char ∈ before, isBlank char = true) ∧
    (∀ char ∈ after, isBlank char = true) ∧ List.Forall₂ IsSpelling token spelled ∧
    text = before ++ spelled ++ after

theorem safeChar_cases (char : Char) :
    char = '+' ∧ safeChar char = '-' ∨ char = '/' ∧ safeChar char = '_' ∨
      char = '=' ∧ safeChar char = '.' ∨ safeChar char = char := by
  unfold safeChar
  split <;> simp

theorem isSpelling_safeChar (char : Char) : IsSpelling (safeChar char) char := by
  rcases safeChar_cases char with ⟨rfl, -⟩ | ⟨rfl, -⟩ | ⟨rfl, -⟩ | hsame
  · exact .plus
  · exact .slash
  · exact .equals
  · rw [hsame]
    exact .same char

theorem isBlank_safeChar (char : Char) : isBlank (safeChar char) = isBlank char := by
  rcases safeChar_cases char with ⟨rfl, -⟩ | ⟨rfl, -⟩ | ⟨rfl, -⟩ | hsame
  · decide
  · decide
  · decide
  · rw [hsame]

theorem IsSpelling.safeChar_eq {char other : Char} (h : IsSpelling char other) :
    safeChar other = safeChar char := by
  cases h <;> rfl

theorem map_safeChar_of_forall₂ {token spelled : List Char}
    (h : List.Forall₂ IsSpelling token spelled) : spelled.map safeChar = token.map safeChar := by
  induction h with
  | nil => rfl
  | cons hchar _ ih => rw [List.map_cons, List.map_cons, hchar.safeChar_eq, ih]

/-- Another spelling of a token has the same normal form. -/
theorem IsRespelled.normalize_eq {token text : List Char} (h : IsRespelled token text) :
    normalize text = normalize token := by
  obtain ⟨before, spelled, after, hbefore, hafter, hspelled, rfl⟩ := h
  rw [normalize, trim_append hbefore hafter, ← trim_map isBlank_safeChar,
    map_safeChar_of_forall₂ hspelled, trim_map isBlank_safeChar, normalize]

/-- A text is another spelling of its normal form. -/
theorem isRespelled_normalize (text : List Char) : IsRespelled (normalize text) text := by
  obtain ⟨before, after, hbefore, hafter, htext⟩ := exists_eq_append_trim text
  refine ⟨before, trim text, after, hbefore, hafter, ?_, htext⟩
  rw [normalize, List.forall₂_map_left_iff, List.forall₂_same]
  exact fun char _ ↦ isSpelling_safeChar char

/-- The texts that are read as some bytes are the spellings of their text. -/
theorem decode?_eq_some_iff_isRespelled {text : List Char} {bytes : List UInt8} :
    decode? text = some bytes ↔ IsRespelled (encode bytes) text := by
  rw [decode?_eq_some_iff]
  constructor
  · intro h
    rw [h]
    exact isRespelled_normalize text
  · intro h
    rw [← normalize, h.normalize_eq, normalize_encode]

/-- The text of bytes has groups of four symbols and at most two full stops at its end, and it is
read as the bytes. The texts that are read as the bytes are its spellings, and each of them becomes
the text once it is trimmed and every character has its safe spelling. So two texts are read as the
same bytes exactly if they become equal in this way. From other spellings of a token the same bytes
and the same scenario are read as from the token, or none. -/
theorem decode?_iff_isRespelled :
    (∀ bytes, IsAddressText (encode bytes) ∧ decode? (encode bytes) = some bytes) ∧
    (∀ text bytes, decode? text = some bytes ↔ IsRespelled (encode bytes) text) ∧
    (∀ text bytes, decode? text = some bytes → encode bytes = (trim text).map safeChar) ∧
    (∀ text other bytes others, decode? text = some bytes → decode? other = some others →
      (bytes = others ↔ (trim text).map safeChar = (trim other).map safeChar)) ∧
    ∀ token text, IsRespelled token text →
      decode? text = decode? token ∧ Scenario.ofToken text = Scenario.ofToken token := by
  refine ⟨fun bytes ↦ ⟨isAddressText_encode bytes, decode?_encode bytes⟩,
    fun _ _ ↦ decode?_eq_some_iff_isRespelled, fun _ _ ↦ decode?_eq_some_iff.mp, ?_, ?_⟩
  · intro text other bytes others h hother
    rw [← decode?_eq_some_iff.mp h, ← decode?_eq_some_iff.mp hother]
    constructor
    · rintro rfl
      rfl
    · intro heq
      have hdecode := decode?_encode bytes
      rw [heq, decode?_encode] at hdecode
      exact (Option.some.inj hdecode).symm
  · intro token text h
    have hdecode : decode? text = decode? token := by rw [decode?, h.normalize_eq, decode?]
    refine ⟨hdecode, ?_⟩
    rw [Scenario.ofToken, hdecode, Scenario.ofToken]

/-- Both alphabets in one text, with white space around it. -/
theorem decode?_iff_isRespelled_mixed :
    encode [0xFB, 0xFF] = "-_8.".toList ∧ decode? " +_8=\t".toList = some [0xFB, 0xFF] ∧
      Scenario.ofToken " +_8=\t".toList = Scenario.ofToken "-_8.".toList := by
  obtain ⟨hencode, -, -, -, hrespelled⟩ := decode?_iff_isRespelled
  have hbytes : encode [0xFB, 0xFF] = "-_8.".toList := by decide
  have hspelled : List.Forall₂ IsSpelling "-_8.".toList "+_8=".toList :=
    .cons .plus (.cons (.same '_') (.cons (.same '8') (.cons .equals .nil)))
  obtain ⟨hdecode, hscenario⟩ := hrespelled "-_8.".toList " +_8=\t".toList
    ⟨[' '], "+_8=".toList, ['\t'], List.forall_mem_singleton.mpr (by decide),
      List.forall_mem_singleton.mpr (by decide), hspelled, rfl⟩
  rw [← hbytes, (hencode _).2] at hdecode
  exact ⟨hbytes, hdecode, hscenario⟩

end RoutePatterns.Text.UrlBase64
