import Mathlib.Tactic.Common
import RoutePatterns.Text.UrlBase64

/-!
# Bytes in addresses

The text of bytes consists of symbols and padding (`UrlBase64.mem_encode`), none of which is white
space or has another spelling, so that reading leaves it as it is (`UrlBase64.normalize_encode`).
Each group of four characters gives back the bytes that it was written for, so that the text of
bytes is read as those bytes (`UrlBase64.decode?_encode`). They are written in no other way: a text
is read as some bytes only if it is their text once it is trimmed and each character has its safe
spelling (`UrlBase64.decode?_eq_some_iff`).
-/

set_option autoImplicit false
set_option relaxedAutoImplicit false

namespace RoutePatterns.Text

/-! ### Trimming -/

/-- A text without white space stays as it is. -/
theorem trim_eq_self {text : List Char} (htext : ∀ char ∈ text, isBlank char = false) :
    trim text = text := by
  have hdrop (chars : List Char) (hchars : ∀ char ∈ chars, isBlank char = false) :
      chars.dropWhile isBlank = chars := by
    cases chars with
    | nil => rfl
    | cons char chars => rw [List.dropWhile_cons, hchars char List.mem_cons_self]; rfl
  have hreverse : ∀ char ∈ text.reverse, isBlank char = false :=
    fun char hchar ↦ htext char (List.mem_reverse.mp hchar)
  rw [trim, hdrop text htext, hdrop text.reverse hreverse, List.reverse_reverse]

/-- White space around a text is dropped. -/
theorem trim_append {before after : List Char} (hbefore : ∀ char ∈ before, isBlank char = true)
    (hafter : ∀ char ∈ after, isBlank char = true) (text : List Char) :
    trim (before ++ text ++ after) = trim text := by
  have hdrop (blanks chars : List Char) (hblanks : ∀ char ∈ blanks, isBlank char = true) :
      (blanks ++ chars).dropWhile isBlank = chars.dropWhile isBlank :=
    List.dropWhile_append_of_pos hblanks
  have hreverse : ∀ char ∈ after.reverse, isBlank char = true :=
    fun char hchar ↦ hafter char (List.mem_reverse.mp hchar)
  have hend : after.dropWhile isBlank = [] := by simpa using hdrop after [] hafter
  rw [trim, List.append_assoc, hdrop before _ hbefore, trim, List.dropWhile_append]
  split
  · next hblank =>
    rw [List.isEmpty_iff] at hblank
    rw [hblank, hend]
  · rw [List.reverse_append, hdrop after.reverse _ hreverse]

/-- A text is white space, the trimmed text and white space again. -/
theorem exists_eq_append_trim (text : List Char) :
    ∃ before after, (∀ char ∈ before, isBlank char = true) ∧
      (∀ char ∈ after, isBlank char = true) ∧ text = before ++ trim text ++ after := by
  refine ⟨text.takeWhile isBlank,
    ((text.dropWhile isBlank).reverse.takeWhile isBlank).reverse, ?_, ?_, ?_⟩
  · exact List.all_eq_true.mp List.all_takeWhile
  · intro char hchar
    exact List.all_eq_true.mp List.all_takeWhile char (List.mem_reverse.mp hchar)
  · rw [trim, List.append_assoc, ← List.reverse_append, List.takeWhile_append_dropWhile,
      List.reverse_reverse, List.takeWhile_append_dropWhile]

/-- Trimming looks only at which characters are white space. -/
theorem trim_map {change : Char → Char} (hchange : ∀ char, isBlank (change char) = isBlank char)
    (text : List Char) : trim (text.map change) = (trim text).map change := by
  have hblank : isBlank ∘ change = isBlank := funext hchange
  rw [trim, trim, List.dropWhile_map, hblank, ← List.map_reverse, List.dropWhile_map, hblank,
    List.map_reverse]

namespace UrlBase64

/-! ### Symbols -/

theorem value?_symbol {value : Nat} (hvalue : value < 64) : value? (symbol value) = some value := by
  have hall : ∀ value < 64, value? (symbol value) = some value := by decide
  exact hall value hvalue

/-- A value has one symbol only. -/
theorem symbol_of_value? {char : Char} {value : ℕ} (h : value? char = some value) :
    value < 64 ∧ symbol value = char := by
  have hcode {first : ℕ} (hle : first ≤ char.toNat) :
      Char.ofNat (first + (char.toNat - first)) = char := by
    rw [Nat.add_sub_cancel' hle, Char.ofNat_toNat]
  unfold value? at h
  simp only [Bool.and_eq_true, decide_eq_true_eq] at h
  split at h
  · next hupper =>
    obtain rfl := Option.some.inj h
    refine ⟨by omega, ?_⟩
    rw [symbol, if_pos (by omega), hcode hupper.1]
  · split at h
    · next hlower =>
      obtain rfl := Option.some.inj h
      refine ⟨by omega, ?_⟩
      rw [symbol, if_neg (by omega), if_pos (by omega), Nat.add_sub_cancel, hcode hlower.1]
    · split at h
      · next hdigit =>
        obtain rfl := Option.some.inj h
        refine ⟨by omega, ?_⟩
        rw [symbol, if_neg (by omega), if_neg (by omega), if_pos (by omega), Nat.add_sub_cancel,
          hcode hdigit.1]
      · split at h
        · next hchar =>
          cases h
          exact ⟨by decide, hchar.symm⟩
        · split at h
          · next hchar =>
            cases h
            exact ⟨by decide, hchar.symm⟩
          · cases h

theorem value?_padding : value? padding = none := by decide

/-- A symbol is no white space and has one spelling. -/
theorem isPlain_symbol {value : Nat} (hvalue : value < 64) :
    isBlank (symbol value) = false ∧ safeChar (symbol value) = symbol value := by
  have hall : ∀ value < 64,
      isBlank (symbol value) = false ∧ safeChar (symbol value) = symbol value := by decide
  exact hall value hvalue

/-! ### Groups -/

/-- The text of a group of three bytes. -/
def groupText (first second third : UInt8) : List Char :=
  [symbol (first.toNat / 4), symbol (first.toNat % 4 * 16 + second.toNat / 16),
    symbol (second.toNat % 16 * 4 + third.toNat / 64), symbol (third.toNat % 64)]

theorem encode_one (first : UInt8) :
    encode [first] =
      [symbol (first.toNat / 4), symbol (first.toNat % 4 * 16), padding, padding] :=
  rfl

theorem encode_two (first second : UInt8) :
    encode [first, second] =
      [symbol (first.toNat / 4), symbol (first.toNat % 4 * 16 + second.toNat / 16),
        symbol (second.toNat % 16 * 4), padding] :=
  rfl

theorem encode_group (first second third : UInt8) (rest : List UInt8) :
    encode (first :: second :: third :: rest) = groupText first second third ++ encode rest :=
  rfl

theorem ofNat_eq (byte : UInt8) {value : ℕ} (h : value = byte.toNat) :
    UInt8.ofNat value = byte := by
  rw [h, UInt8.ofNat_toNat]

/-- The values of the symbols of a group are below 64. -/
theorem mem_groupText {first second third : UInt8} {char : Char}
    (hchar : char ∈ groupText first second third) : ∃ value < 64, char = symbol value := by
  have hfirst := first.toNat_lt
  have hsecond := second.toNat_lt
  have hthird := third.toNat_lt
  simp only [groupText, List.mem_cons, List.not_mem_nil, or_false] at hchar
  rcases hchar with rfl | rfl | rfl | rfl
  · exact ⟨_, by omega, rfl⟩
  · exact ⟨_, by omega, rfl⟩
  · exact ⟨_, by omega, rfl⟩
  · exact ⟨_, by omega, rfl⟩

/-- The text of bytes consists of symbols and padding. -/
theorem mem_encode {bytes : List UInt8} {char : Char} (hchar : char ∈ encode bytes) :
    (∃ value < 64, char = symbol value) ∨ char = padding := by
  induction bytes using encode.induct with
  | case1 => cases hchar
  | case2 first =>
    have hfirst := first.toNat_lt
    simp only [encode_one, List.mem_cons, List.not_mem_nil, or_false] at hchar
    rcases hchar with rfl | rfl | hpadding
    · exact Or.inl ⟨_, by omega, rfl⟩
    · exact Or.inl ⟨_, by omega, rfl⟩
    · exact Or.inr (hpadding.elim id id)
  | case3 first second =>
    have hfirst := first.toNat_lt
    have hsecond := second.toNat_lt
    simp only [encode_two, List.mem_cons, List.not_mem_nil, or_false] at hchar
    rcases hchar with rfl | rfl | rfl | hpadding
    · exact Or.inl ⟨_, by omega, rfl⟩
    · exact Or.inl ⟨_, by omega, rfl⟩
    · exact Or.inl ⟨_, by omega, rfl⟩
    · exact Or.inr hpadding
  | case4 first second third rest _ _ _ _ ih =>
    rw [encode_group] at hchar
    rcases List.mem_append.mp hchar with hgroup | hrest
    · exact Or.inl (mem_groupText hgroup)
    · exact ih hrest

/-- Reading leaves the text of bytes as it is. -/
theorem normalize_encode (bytes : List UInt8) : normalize (encode bytes) = encode bytes := by
  have hplain : ∀ char ∈ encode bytes, isBlank char = false ∧ safeChar char = char := by
    intro char hchar
    rcases mem_encode hchar with ⟨value, hvalue, rfl⟩ | rfl
    · exact isPlain_symbol hvalue
    · decide
  have hsafe : (encode bytes).map safeChar = (encode bytes).map id :=
    List.map_congr_left fun char hchar ↦ (hplain char hchar).2
  rw [normalize, trim_eq_self fun char hchar ↦ (hplain char hchar).1, hsafe, List.map_id]

/-- Groups of four characters give back the bytes that they were written for. -/
theorem decodeGroups_encode (bytes : List UInt8) : decodeGroups (encode bytes) = some bytes := by
  induction bytes using encode.induct with
  | case1 => rfl
  | case2 first =>
    have hfirst := first.toNat_lt
    rw [encode_one, decodeGroups, value?_symbol (by omega), value?_symbol (by omega),
      value?_padding]
    change lastOne? _ _ = _
    rw [lastOne?, if_pos (by omega), ofNat_eq first (by omega)]
  | case3 first second =>
    have hfirst := first.toNat_lt
    have hsecond := second.toNat_lt
    rw [encode_two, decodeGroups, value?_symbol (by omega), value?_symbol (by omega),
      value?_symbol (by omega), value?_padding]
    change lastTwo? _ _ _ = _
    rw [lastTwo?, if_pos (by omega), ofNat_eq first (by omega), ofNat_eq second (by omega)]
  | case4 first second third rest _ _ _ _ ih =>
    have hfirst := first.toNat_lt
    have hsecond := second.toNat_lt
    have hthird := third.toNat_lt
    rw [encode_group]
    change decodeGroups (symbol _ :: symbol _ :: symbol _ :: symbol _ :: encode rest) = _
    rw [decodeGroups, value?_symbol (by omega), value?_symbol (by omega),
      value?_symbol (by omega), value?_symbol (by omega)]
    change (decodeGroups (encode rest)).map _ = _
    rw [ih, Option.map_some, group, ofNat_eq first (by omega), ofNat_eq second (by omega),
      ofNat_eq third (by omega)]
    rfl

/-- The text of bytes is read as those bytes. -/
theorem decode?_encode (bytes : List UInt8) : decode? (encode bytes) = some bytes := by
  rw [decode?, normalize_encode, decodeGroups_encode]

/-! ### Reading one text only -/

variable {a b c d : ℕ} {bytes : List UInt8}

theorem toNat_first (ha : a < 64) (hb : b < 64) :
    (UInt8.ofNat (a * 4 + b / 16)).toNat = a * 4 + b / 16 :=
  UInt8.toNat_ofNat_of_lt' (show _ < 256 by omega)

theorem toNat_second (b : ℕ) (hc : c < 64) :
    (UInt8.ofNat (b % 16 * 16 + c / 4)).toNat = b % 16 * 16 + c / 4 :=
  UInt8.toNat_ofNat_of_lt' (show _ < 256 by omega)

/-- The bytes of a group are written as its four symbols. -/
theorem encode_group_append (ha : a < 64) (hb : b < 64) (hc : c < 64) (hd : d < 64)
    (rest : List UInt8) :
    encode (group a b c d ++ rest) =
      symbol a :: symbol b :: symbol c :: symbol d :: encode rest := by
  have hthird : (UInt8.ofNat (c % 4 * 64 + d)).toNat = c % 4 * 64 + d :=
    UInt8.toNat_ofNat_of_lt' (show _ < 256 by omega)
  have ha' : (a * 4 + b / 16) / 4 = a := by omega
  have hb' : (a * 4 + b / 16) % 4 * 16 + (b % 16 * 16 + c / 4) / 16 = b := by omega
  have hc' : (b % 16 * 16 + c / 4) % 16 * 4 + (c % 4 * 64 + d) / 64 = c := by omega
  have hd' : (c % 4 * 64 + d) % 64 = d := by omega
  change encode (_ :: _ :: _ :: rest) = _
  rw [encode_group, groupText, toNat_first ha hb, toNat_second b hc, hthird, ha', hb', hc', hd']
  rfl

/-- The bytes of a last group of three symbols are written as them. -/
theorem encode_of_lastTwo? (ha : a < 64) (hb : b < 64) (hc : c < 64)
    (h : lastTwo? a b c = some bytes) :
    encode bytes = [symbol a, symbol b, symbol c, padding] := by
  rw [lastTwo?] at h
  split at h
  · next hunused =>
    obtain rfl := Option.some.inj h
    have ha' : (a * 4 + b / 16) / 4 = a := by omega
    have hb' : (a * 4 + b / 16) % 4 * 16 + (b % 16 * 16 + c / 4) / 16 = b := by omega
    have hc' : (b % 16 * 16 + c / 4) % 16 * 4 = c := by omega
    rw [encode_two, toNat_first ha hb, toNat_second b hc, ha', hb', hc']
  · cases h

/-- The byte of a last group of two symbols is written as them. -/
theorem encode_of_lastOne? (ha : a < 64) (hb : b < 64) (h : lastOne? a b = some bytes) :
    encode bytes = [symbol a, symbol b, padding, padding] := by
  rw [lastOne?] at h
  split at h
  · next hunused =>
    obtain rfl := Option.some.inj h
    have ha' : (a * 4 + b / 16) / 4 = a := by omega
    have hb' : (a * 4 + b / 16) % 4 * 16 = b := by omega
    rw [encode_one, toNat_first ha hb, ha', hb']
  · cases h

/-- Bytes are read from the text that they are written as and from no other. -/
theorem encode_of_decodeGroups {chars : List Char} (h : decodeGroups chars = some bytes) :
    encode bytes = chars := by
  fun_induction decodeGroups chars generalizing bytes with
  | case1 =>
    obtain rfl := Option.some.inj h
    rfl
  | case2 first second third fourth rest a b c d hfourth hthird hsecond hfirst ih =>
    obtain ⟨others, hothers, rfl⟩ := Option.map_eq_some_iff.mp h
    obtain ⟨ha, rfl⟩ := symbol_of_value? hfirst
    obtain ⟨hb, rfl⟩ := symbol_of_value? hsecond
    obtain ⟨hc, rfl⟩ := symbol_of_value? hthird
    obtain ⟨hd, rfl⟩ := symbol_of_value? hfourth
    rw [encode_group_append ha hb hc hd, ih hothers]
  | case3 first second third fourth rest a b c _ hthird hsecond hfirst hend =>
    simp only [Bool.and_eq_true, decide_eq_true_eq, List.isEmpty_iff] at hend
    obtain ⟨rfl, rfl⟩ := hend
    obtain ⟨ha, rfl⟩ := symbol_of_value? hfirst
    obtain ⟨hb, rfl⟩ := symbol_of_value? hsecond
    obtain ⟨hc, rfl⟩ := symbol_of_value? hthird
    exact encode_of_lastTwo? ha hb hc h
  | case5 first second third fourth rest a b _ _ hsecond hfirst hend =>
    simp only [Bool.and_eq_true, decide_eq_true_eq, List.isEmpty_iff] at hend
    obtain ⟨⟨rfl, rfl⟩, rfl⟩ := hend
    obtain ⟨ha, rfl⟩ := symbol_of_value? hfirst
    obtain ⟨hb, rfl⟩ := symbol_of_value? hsecond
    exact encode_of_lastOne? ha hb h
  | case4 => cases h
  | case6 => cases h
  | case7 => cases h
  | case8 => cases h

theorem decode?_eq_some_iff {text : List Char} :
    decode? text = some bytes ↔ encode bytes = (trim text).map safeChar := by
  constructor
  · exact encode_of_decodeGroups
  · intro h
    rw [decode?, normalize, ← h, decodeGroups_encode]

end UrlBase64

end RoutePatterns.Text
