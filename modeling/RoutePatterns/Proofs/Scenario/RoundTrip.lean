import RoutePatterns.Proofs.Deflate.Stored
import RoutePatterns.Proofs.Text.Joining
import RoutePatterns.Proofs.Text.UrlBase64
import RoutePatterns.Scenario.Token

/-!
# Scenarios come back from their tokens

A scenario can be written down exactly if all its delimiters are the default one and no pattern
contains a line feed (`Scenario.toText_of_isWritable`, `Scenario.isWritable_of_toText`). Its text
is then read as the scenario (`Scenario.ofText_text`): the first blank ends the header, every line
ends its digit with its first blank, and lines come apart where they were joined, since no pattern
contains a line feed.

So does a token, whatever compressed the text, as long as it is decompressed to the text
(`Scenario.ofToken_toToken`).
-/

set_option autoImplicit false
set_option relaxedAutoImplicit false

namespace RoutePatterns

open Text

namespace Scenario

/-! ### Digits -/

namespace OptionDigit

theorem ofText?_char (digit : OptionDigit) : ofText? [digit.char] = some digit := by
  obtain ⟨applyOptions, strict, sensitive⟩ := digit
  cases applyOptions <;> cases strict <;> cases sensitive <;> decide

/-- A digit is neither the mark after it nor the mark between entries. -/
theorem char_ne_marks (digit : OptionDigit) : digit.char ≠ digitMark ∧ digit.char ≠ entryMark := by
  obtain ⟨applyOptions, strict, sensitive⟩ := digit
  cases applyOptions <;> cases strict <;> cases sensitive <;> decide

/-- Options with the default delimiter are those of their digit. -/
theorem options_ofOptions {options : PatternOptions} (h : options.delimiter = defaultDelimiter)
    (applyOptions : Bool) : (ofOptions applyOptions options).options = options := by
  obtain ⟨strict, sensitive, delimiter⟩ := options
  subst h
  rfl

end OptionDigit

theorem cutOnce_digit (digit : OptionDigit) (text : List Char) :
    cutOnce digitMark (digit.char :: digitMark :: text) = some ([digit.char], text) := by
  rw [cutOnce, if_neg digit.char_ne_marks.1, cutOnce, if_pos rfl]
  rfl

theorem readDigit_char (digit : OptionDigit) : readDigit [digit.char] = .ok digit := by
  rw [readDigit, digit.ofText?_char]

/-! ### Entries -/

/-- The entry can be written down. -/
def EntryIsWritable (entry : RouteEntry) : Prop :=
  entry.options.delimiter = defaultDelimiter ∧ entryMark ∉ entry.pattern.toList

instance (entry : RouteEntry) : Decidable (EntryIsWritable entry) :=
  inferInstanceAs (Decidable (_ ∧ _))

/-- The scenario can be written down. -/
def IsWritable (scenario : Scenario) : Prop :=
  scenario.shared.delimiter = defaultDelimiter ∧ ∀ entry ∈ scenario.entries, EntryIsWritable entry

instance (scenario : Scenario) : Decidable scenario.IsWritable :=
  inferInstanceAs (Decidable (_ ∧ _))

variable {entry : RouteEntry} {entries : List RouteEntry} {scenario : Scenario}

theorem writeEntry_of_isWritable (h : EntryIsWritable entry) :
    writeEntry entry = .ok (entryText entry) := by
  have hmark : entry.pattern.toList.contains entryMark = false := by simpa using h.2
  have hdelimiter : (entry.options.delimiter != defaultDelimiter) = false := by simpa using h.1
  rw [writeEntry, hmark, hdelimiter, if_neg Bool.false_ne_true, if_neg Bool.false_ne_true]

theorem isWritable_of_writeEntry {text : List Char} (h : writeEntry entry = .ok text) :
    EntryIsWritable entry := by
  rw [writeEntry] at h
  split_ifs at h with hmark hdelimiter
  exact ⟨by simpa using hdelimiter, by simpa using hmark⟩

theorem writeEntries_of_isWritable (h : ∀ entry ∈ entries, EntryIsWritable entry) :
    writeEntries entries = .ok (entries.map entryText) := by
  induction entries with
  | nil => rfl
  | cons entry entries ih =>
    obtain ⟨hentry, hentries⟩ := List.forall_mem_cons.mp h
    rw [writeEntries, writeEntry_of_isWritable hentry, ih hentries]
    rfl

theorem isWritable_of_writeEntries {texts : List (List Char)}
    (h : writeEntries entries = .ok texts) : ∀ entry ∈ entries, EntryIsWritable entry := by
  induction entries generalizing texts with
  | nil => exact List.forall_mem_nil _
  | cons entry entries ih =>
    rw [writeEntries] at h
    rcases hentry : writeEntry entry with error | text
    · rw [hentry] at h
      cases h
    · rw [hentry] at h
      rcases hentries : writeEntries entries with error | texts'
      · simp only [hentries] at h
        cases h
      · exact List.forall_mem_cons.mpr ⟨isWritable_of_writeEntry hentry, ih hentries⟩

theorem readEntry_entryText (h : EntryIsWritable entry) (line : ℕ) :
    readEntry line (entryText entry) = .ok entry := by
  rw [readEntry, entryText, cutOnce_digit]
  simp only [readDigit_char]
  change Except.ok (RouteEntry.mk (String.ofList entry.pattern.toList) _ _) = _
  rw [OptionDigit.options_ofOptions h.1, String.ofList_toList]
  rfl

theorem readEntries_map_entryText (h : ∀ entry ∈ entries, EntryIsWritable entry) (line : ℕ) :
    readEntries line (entries.map entryText) = .ok entries := by
  induction entries generalizing line with
  | nil => rfl
  | cons entry entries ih =>
    obtain ⟨hentry, hentries⟩ := List.forall_mem_cons.mp h
    rw [List.map_cons, readEntries, readEntry_entryText hentry, ih hentries]
    rfl

theorem entryMark_notMem_entryText (h : EntryIsWritable entry) : entryMark ∉ entryText entry := by
  rw [entryText, List.mem_cons, List.mem_cons, not_or, not_or]
  exact ⟨(OptionDigit.char_ne_marks _).2.symm, by decide, h.2⟩

/-! ### Texts -/

/-- The text of a scenario that can be written down. -/
def text (scenario : Scenario) : List Char :=
  (OptionDigit.ofOptions false scenario.shared).char :: digitMark ::
    joinWith entryMark (scenario.entries.map entryText)

theorem toText_of_isWritable (h : scenario.IsWritable) : scenario.toText = .ok scenario.text := by
  have hdelimiter : (scenario.shared.delimiter != defaultDelimiter) = false := by simpa using h.1
  rw [toText, hdelimiter, if_neg Bool.false_ne_true, writeEntries_of_isWritable h.2]
  rfl

theorem isWritable_of_toText {written : List Char} (h : scenario.toText = .ok written) :
    scenario.IsWritable := by
  rw [toText] at h
  split_ifs at h with hdelimiter
  rcases hentries : writeEntries scenario.entries with error | texts
  · rw [hentries] at h
    cases h
  · exact ⟨by simpa using hdelimiter, isWritable_of_writeEntries hentries⟩

theorem joinWith_map_entryText_eq_nil_iff :
    joinWith entryMark (entries.map entryText) = [] ↔ entries = [] := by
  constructor
  · intro h
    cases entries with
    | nil => rfl
    | cons entry entries =>
      rw [List.map_cons, joinWith_cons, entryText, List.cons_append] at h
      cases h
  · rintro rfl
    rfl

/-- The text of a scenario is read as the scenario. -/
theorem ofText_text (h : scenario.IsWritable) : ofText scenario.text = .ok scenario := by
  obtain ⟨hshared, hentries⟩ := h
  rw [ofText, text, cutOnce_digit]
  simp only [readDigit_char, List.isEmpty_iff, joinWith_map_entryText_eq_nil_iff]
  rw [OptionDigit.options_ofOptions hshared]
  by_cases hnil : scenario.entries = []
  · rw [if_pos hnil, ← hnil]
  · have hmarks : ∀ text ∈ scenario.entries.map entryText, entryMark ∉ text :=
      List.forall_mem_map.mpr fun entry hentry ↦ entryMark_notMem_entryText (hentries entry hentry)
    have hne : scenario.entries.map entryText ≠ [] := fun h ↦ hnil (List.map_eq_nil_iff.mp h)
    rw [if_neg hnil, fields_joinWith hne hmarks, readEntries_map_entryText hentries]
    rfl

/-! ### Tokens -/

/-- Assumes: data that are decompressed to the text of a scenario. They are read as the scenario. -/
theorem ofToken_encode {packed : List UInt8} (h : scenario.IsWritable)
    (hpacked : Deflate.inflate? packed = some (Utf8.encode scenario.text)) :
    ofToken (UrlBase64.encode packed) = .ok scenario := by
  rw [ofToken, UrlBase64.decode?_encode]
  simp only [hpacked, Utf8.decode_encode, ofText_text h]

/-- A scenario has a token exactly if its delimiters are the default one and no pattern contains a
line feed. The token is read as the same scenario, and so is the token of any data that are
decompressed to the bytes of the text. -/
theorem ofToken_toToken (scenario : Scenario) :
    ((∃ token, scenario.toToken = .ok token) ↔
        scenario.shared.delimiter = '/' ∧ ∀ entry ∈ scenario.entries,
          entry.options.delimiter = '/' ∧ '\n' ∉ entry.pattern.toList) ∧
      (∀ token, scenario.toToken = .ok token → ofToken token = .ok scenario) ∧
      ∀ text packed, scenario.toText = .ok text →
        Deflate.inflate? packed = some (Utf8.encode text) →
          ofToken (UrlBase64.encode packed) = .ok scenario := by
  have htext : ∀ text, scenario.toText = .ok text → scenario.IsWritable ∧ text = scenario.text := by
    intro text h
    have hwritable := isWritable_of_toText h
    exact ⟨hwritable, Except.ok.inj (h.symm.trans (toText_of_isWritable hwritable))⟩
  have htoken : ∀ token, scenario.toToken = .ok token → ∃ text, scenario.toText = .ok text ∧
      token = UrlBase64.encode (Deflate.store (Utf8.encode text)) := by
    intro token h
    rw [toToken] at h
    rcases hcase : scenario.toText with error | text
    · rw [hcase] at h
      cases h
    · rw [hcase] at h
      exact ⟨text, rfl, (Except.ok.inj h).symm⟩
  refine ⟨⟨?_, ?_⟩, ?_, ?_⟩
  · rintro ⟨token, h⟩
    obtain ⟨text, hwritten, -⟩ := htoken token h
    exact (htext text hwritten).1
  · intro hwritable
    refine ⟨UrlBase64.encode (Deflate.store (Utf8.encode scenario.text)), ?_⟩
    rw [toToken, toText_of_isWritable hwritable]
    rfl
  · intro token h
    obtain ⟨text, hwritten, rfl⟩ := htoken token h
    obtain ⟨hwritable, rfl⟩ := htext text hwritten
    exact ofToken_encode hwritable (Deflate.inflate?_store _)
  · intro text packed h hpacked
    obtain ⟨hwritable, rfl⟩ := htext text h
    exact ofToken_encode hwritable hpacked

/-- Blanks, carriage returns, empty patterns and options that are not applied come back. -/
theorem ofToken_toToken_blanks :
    ∃ token, toToken ⟨[⟨"", { strict := true }, false⟩, ⟨" /a b\r/→", {}, true⟩],
        { sensitive := true }⟩ = .ok token ∧
      ofToken token = .ok ⟨[⟨"", { strict := true }, false⟩, ⟨" /a b\r/→", {}, true⟩],
        { sensitive := true }⟩ := by
  obtain ⟨hwritable, hread, -⟩ := ofToken_toToken
    ⟨[⟨"", { strict := true }, false⟩, ⟨" /a b\r/→", {}, true⟩], { sensitive := true }⟩
  obtain ⟨token, htoken⟩ := hwritable.mpr (by decide)
  exact ⟨token, htoken, hread token htoken⟩

end Scenario

end RoutePatterns
