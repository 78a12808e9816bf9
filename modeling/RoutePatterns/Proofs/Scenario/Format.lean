import RoutePatterns.Proofs.Scenario.RoundTrip

/-!
# Which texts are scenarios

A text is read as a scenario exactly if it has the written form (`IsScenarioText`): a digit from 0
to 7 and a blank, then nothing or lines of a digit, a blank and a pattern. What was read is written
as the same text again, but for the digit of the header, which loses the bit without a meaning there
(`Scenario.toText_of_ofText`). A text of any other form is refused for its first fault
(`Scenario.ofText_eq_error_iff`, with `FirstFault` and `LineFault`). `Scenario.ofText_trichotomy`
puts the three together.
-/

set_option autoImplicit false
set_option relaxedAutoImplicit false

namespace RoutePatterns

open Text

namespace Scenario

/-! ### The written form -/

/-- The character is a digit from 0 to 7. -/
def IsDigit (char : Char) : Prop :=
  '0' ≤ char ∧ char ≤ '7'

instance (char : Char) : Decidable (IsDigit char) :=
  inferInstanceAs (Decidable (_ ∧ _))

/-- The line is a digit, a blank and a pattern without line feeds. -/
inductive IsLine : List Char → Prop
  | intro {digit : Char} {pattern : List Char} (hdigit : IsDigit digit)
      (hpattern : '\n' ∉ pattern) : IsLine (digit :: ' ' :: pattern)

/-- The text is a digit and a blank, then nothing or lines with line feeds between them. -/
inductive IsScenarioText : List Char → Prop
  | intro {header : Char} {lines : List (List Char)} (hheader : IsDigit header)
      (hlines : ∀ line ∈ lines, IsLine line) :
      IsScenarioText (header :: ' ' :: joinWith '\n' lines)

/-- The fault of the line with the number `place`: it has no blank, or no digit before its first
blank. -/
inductive LineFault (place : ℕ) : List Char → ScenarioError → Prop
  | unmarked {line : List Char} (hline : ' ' ∉ line) :
      LineFault place line (.malformedEntry place (String.ofList line))
  | digit {before after : List Char} (hbefore : ' ' ∉ before)
      (hdigit : ∀ char, IsDigit char → before ≠ [char]) :
      LineFault place (before ++ ' ' :: after) (.invalidDigit (String.ofList before))

/-- The first fault of a text: it has no blank, or no digit before its first blank, or after its
header there is a faulty line, which only lines of the written form precede. -/
inductive FirstFault : List Char → ScenarioError → Prop
  | unmarked {text : List Char} (htext : ' ' ∉ text) : FirstFault text .missingHeader
  | digit {before after : List Char} (hbefore : ' ' ∉ before)
      (hdigit : ∀ char, IsDigit char → before ≠ [char]) :
      FirstFault (before ++ ' ' :: after) (.invalidDigit (String.ofList before))
  | line {header : Char} {lines later : List (List Char)} {line : List Char}
      {error : ScenarioError} (hheader : IsDigit header) (hlines : ∀ line ∈ lines, IsLine line)
      (hbody : joinWith '\n' (lines ++ line :: later) ≠ [])
      (hlater : ∀ other ∈ line :: later, '\n' ∉ other)
      (hline : LineFault lines.length line error) :
      FirstFault (header :: ' ' :: joinWith '\n' (lines ++ line :: later)) error

/-! ### Digits -/

namespace OptionDigit

theorem isDigit_char (digit : OptionDigit) : IsDigit digit.char := by
  obtain ⟨applyOptions, strict, sensitive⟩ := digit
  cases applyOptions <;> cases strict <;> cases sensitive <;> decide

/-- The header keeps the digit but for the bit of options that are applied. -/
theorem char_ofOptions_false (digit : OptionDigit) :
    (ofOptions false digit.options).char = Char.ofNat (0x30 + (digit.char.toNat - 0x30) % 4) := by
  obtain ⟨applyOptions, strict, sensitive⟩ := digit
  cases applyOptions <;> cases strict <;> cases sensitive <;> decide

private theorem char_ofText?_ofNat : ∀ code < 0x38, 0x30 ≤ code →
    (ofText? [Char.ofNat code]).map char = some (Char.ofNat code) := by
  decide

theorem exists_char_eq {char : Char} (h : IsDigit char) :
    ∃ digit : OptionDigit, digit.char = char := by
  have hcode := char_ofText?_ofNat char.toNat (Nat.lt_succ_of_le h.2) h.1
  rw [Char.ofNat_toNat] at hcode
  obtain ⟨digit, -, hdigit⟩ := Option.map_eq_some_iff.mp hcode
  exact ⟨digit, hdigit⟩

theorem ofText?_eq_none_iff {text : List Char} :
    ofText? text = none ↔ ∀ char, IsDigit char → text ≠ [char] := by
  constructor
  · rintro h char hchar rfl
    obtain ⟨digit, rfl⟩ := exists_char_eq hchar
    rw [ofText?_char] at h
    cases h
  · intro h
    unfold ofText?
    split
    · next char =>
      rw [if_neg]
      intro hchar
      simp only [Bool.and_eq_true, decide_eq_true_eq] at hchar
      exact h char hchar rfl
    · rfl

theorem ofText?_eq_some_iff {text : List Char} {digit : OptionDigit} :
    ofText? text = some digit ↔ text = [digit.char] := by
  constructor
  · intro h
    by_contra hother
    have hnone : ofText? text = none := by
      rw [ofText?_eq_none_iff]
      rintro char hchar rfl
      obtain ⟨other, rfl⟩ := exists_char_eq hchar
      rw [ofText?_char] at h
      exact hother (by rw [Option.some.inj h])
    rw [hnone] at h
    cases h
  · rintro rfl
    exact digit.ofText?_char

end OptionDigit

variable {text line : List Char} {place : ℕ} {error : ScenarioError}

theorem readDigit_eq_ok_iff {digit : OptionDigit} :
    readDigit text = .ok digit ↔ text = [digit.char] := by
  rw [← OptionDigit.ofText?_eq_some_iff, readDigit]
  cases OptionDigit.ofText? text <;> simp

theorem readDigit_eq_error_iff :
    readDigit text = .error error ↔
      (∀ char, IsDigit char → text ≠ [char]) ∧ error = .invalidDigit (String.ofList text) := by
  rw [← OptionDigit.ofText?_eq_none_iff, readDigit]
  cases OptionDigit.ofText? text <;> simp [eq_comm]

/-! ### Lines -/

/-- Lines of the written form are the texts of entries that can be written down. -/
theorem isLine_iff : IsLine line ↔ ∃ entry, EntryIsWritable entry ∧ line = entryText entry := by
  constructor
  · rintro ⟨hdigit, hpattern⟩
    rename_i char pattern
    obtain ⟨digit, rfl⟩ := OptionDigit.exists_char_eq hdigit
    refine ⟨⟨String.ofList pattern, digit.options, digit.applyOptions⟩, ⟨rfl, ?_⟩, ?_⟩
    · rwa [String.toList_ofList]
    · rw [entryText, String.toList_ofList]
      rfl
  · rintro ⟨entry, ⟨-, hpattern⟩, rfl⟩
    exact .intro (OptionDigit.isDigit_char _) hpattern

theorem readEntry_eq_ok_iff {entry : RouteEntry} :
    readEntry place line = .ok entry ↔
      entry.options.delimiter = defaultDelimiter ∧ line = entryText entry := by
  constructor
  · intro h
    rw [readEntry] at h
    cases hcut : cutOnce digitMark line with
    | none =>
      rw [hcut] at h
      cases h
    | some parts =>
      obtain ⟨before, pattern⟩ := parts
      rw [hcut] at h
      obtain ⟨-, rfl⟩ := cutOnce_eq_some_iff.mp hcut
      rcases hdigit : readDigit before with fault | digit
      · simp only [hdigit] at h
        cases h
      · simp only [hdigit] at h
        obtain rfl := Except.ok.inj h
        obtain rfl := readDigit_eq_ok_iff.mp hdigit
        refine ⟨rfl, ?_⟩
        rw [entryText, String.toList_ofList]
        rfl
  · rintro ⟨hdelimiter, rfl⟩
    rw [readEntry, entryText, cutOnce_digit]
    simp only [readDigit_char]
    change Except.ok (RouteEntry.mk (String.ofList entry.pattern.toList) _ _) = _
    rw [OptionDigit.options_ofOptions hdelimiter, String.ofList_toList]
    rfl

theorem readEntry_eq_error_iff :
    readEntry place line = .error error ↔ LineFault place line error := by
  constructor
  · intro h
    rw [readEntry] at h
    cases hcut : cutOnce digitMark line with
    | none =>
      rw [hcut] at h
      obtain rfl := Except.error.inj h
      exact .unmarked (cutOnce_eq_none_iff.mp hcut)
    | some parts =>
      obtain ⟨before, pattern⟩ := parts
      rw [hcut] at h
      obtain ⟨hbefore, rfl⟩ := cutOnce_eq_some_iff.mp hcut
      rcases hdigit : readDigit before with fault | digit
      · simp only [hdigit] at h
        obtain rfl := Except.error.inj h
        obtain ⟨hfault, rfl⟩ := readDigit_eq_error_iff.mp hdigit
        exact .digit hbefore hfault
      · simp only [hdigit] at h
        cases h
  · intro h
    cases h with
    | unmarked hline =>
      have hcut : cutOnce digitMark line = none := cutOnce_eq_none_iff.mpr hline
      rw [readEntry, hcut]
    | @digit before after hbefore hdigit =>
      have hcut : cutOnce digitMark (before ++ ' ' :: after) = some (before, after) :=
        cutOnce_append_mark hbefore after
      rw [readEntry, hcut]
      simp only [readDigit_eq_error_iff.mpr ⟨hdigit, rfl⟩]
      rfl

/-- Lines are read one after the other. -/
theorem readEntries_eq_ok_iff {lines : List (List Char)} {entries : List RouteEntry} :
    readEntries place lines = .ok entries ↔
      (∀ entry ∈ entries, entry.options.delimiter = defaultDelimiter) ∧
        lines = entries.map entryText := by
  induction lines generalizing place entries with
  | nil =>
    rw [readEntries, Except.ok.injEq]
    constructor
    · rintro rfl
      exact ⟨List.forall_mem_nil _, rfl⟩
    · rintro ⟨-, h⟩
      exact (List.map_eq_nil_iff.mp h.symm).symm
  | cons line lines ih =>
    constructor
    · intro h
      rw [readEntries] at h
      rcases hentry : readEntry place line with fault | entry
      · rw [hentry] at h
        cases h
      · rw [hentry] at h
        rcases hentries : readEntries (place + 1) lines with fault | entries'
        · simp only [hentries] at h
          cases h
        · simp only [hentries] at h
          obtain rfl := Except.ok.inj h
          obtain ⟨hfirst, rfl⟩ := readEntry_eq_ok_iff.mp hentry
          obtain ⟨hothers, rfl⟩ := ih.mp hentries
          exact ⟨List.forall_mem_cons.mpr ⟨hfirst, hothers⟩, rfl⟩
    · rintro ⟨hdelimiters, hlines⟩
      obtain ⟨entry, entries, rfl⟩ := List.exists_cons_of_ne_nil
        (show entries ≠ [] by rintro rfl; cases hlines)
      obtain ⟨hfirst, hothers⟩ := List.forall_mem_cons.mp hdelimiters
      obtain ⟨rfl, rfl⟩ := List.cons.inj hlines
      rw [readEntries, readEntry_eq_ok_iff.mpr ⟨hfirst, rfl⟩, ih.mpr ⟨hothers, rfl⟩]
      rfl

/-- Lines are refused for the first fault of any of them. -/
theorem exists_lineFault_of_readEntries {lines : List (List Char)}
    (h : readEntries place lines = .error error) :
    ∃ front line later, lines = front ++ line :: later ∧
      (∃ entries, readEntries place front = .ok entries) ∧
      LineFault (place + front.length) line error := by
  induction lines generalizing place with
  | nil => cases h
  | cons first lines ih =>
    rw [readEntries] at h
    rcases hfirst : readEntry place first with fault | entry
    · rw [hfirst] at h
      obtain rfl := Except.error.inj h
      exact ⟨[], first, lines, rfl, ⟨[], rfl⟩, readEntry_eq_error_iff.mp hfirst⟩
    · rw [hfirst] at h
      rcases hlines : readEntries (place + 1) lines with fault | entries
      · simp only [hlines] at h
        obtain rfl := Except.error.inj h
        obtain ⟨front, line, later, rfl, ⟨entries, hfront⟩, hline⟩ := ih hlines
        refine ⟨first :: front, line, later, rfl, ⟨entry :: entries, ?_⟩, ?_⟩
        · rw [readEntries, hfirst, hfront]
          rfl
        · rwa [List.length_cons, Nat.add_comm front.length, ← Nat.add_assoc]
      · simp only [hlines] at h
        cases h

theorem readEntries_of_lineFault {front later : List (List Char)} {entries : List RouteEntry}
    (hfront : readEntries place front = .ok entries)
    (hline : LineFault (place + front.length) line error) :
    readEntries place (front ++ line :: later) = .error error := by
  induction front generalizing place entries with
  | nil =>
    have hhere : readEntry place line = .error error := readEntry_eq_error_iff.mpr hline
    rw [List.nil_append, readEntries, hhere]
  | cons first front ih =>
    obtain ⟨hdelimiters, hlines⟩ := readEntries_eq_ok_iff.mp hfront
    cases entries with
    | nil => cases hlines
    | cons entry entries =>
      obtain ⟨hentry, hentries⟩ := List.forall_mem_cons.mp hdelimiters
      obtain ⟨rfl, rfl⟩ := List.cons.inj hlines
      rw [List.length_cons, Nat.add_comm (entries.map entryText).length, ← Nat.add_assoc] at hline
      rw [List.cons_append, readEntries, readEntry_eq_ok_iff.mpr ⟨hentry, rfl⟩,
        ih (readEntries_eq_ok_iff.mpr ⟨hentries, rfl⟩) hline]
      rfl

/-- Lines of the written form are the texts of entries that can be written down. -/
theorem exists_map_entryText_of_isLine {lines : List (List Char)}
    (h : ∀ line ∈ lines, IsLine line) :
    ∃ entries : List RouteEntry, (∀ entry ∈ entries, EntryIsWritable entry) ∧
      lines = entries.map entryText := by
  induction lines with
  | nil => exact ⟨[], List.forall_mem_nil _, rfl⟩
  | cons line lines ih =>
    obtain ⟨hline, hlines⟩ := List.forall_mem_cons.mp h
    obtain ⟨entry, hentry, rfl⟩ := isLine_iff.mp hline
    obtain ⟨entries, hentries, rfl⟩ := ih hlines
    exact ⟨entry :: entries, List.forall_mem_cons.mpr ⟨hentry, hentries⟩, rfl⟩

/-- Entries that are read from lines without line feeds can be written down. -/
theorem isWritable_of_readEntries {lines : List (List Char)} {entries : List RouteEntry}
    (h : readEntries place lines = .ok entries) (hlines : ∀ line ∈ lines, '\n' ∉ line) :
    (∀ entry ∈ entries, EntryIsWritable entry) ∧ lines = entries.map entryText := by
  obtain ⟨hdelimiters, rfl⟩ := readEntries_eq_ok_iff.mp h
  refine ⟨fun entry hentry ↦ ⟨hdelimiters entry hentry, fun hmem ↦ ?_⟩, rfl⟩
  refine hlines (entryText entry) (List.mem_map_of_mem hentry) ?_
  exact List.mem_cons_of_mem _ (List.mem_cons_of_mem _ hmem)

/-! ### Headers -/

/-- A text has no blank, no digit before its first blank, or a header. -/
theorem header_cases (text : List Char) :
    ' ' ∉ text ∨
      (∃ before after, ' ' ∉ before ∧ (∀ char, IsDigit char → before ≠ [char]) ∧
        text = before ++ ' ' :: after) ∨
      ∃ (digit : OptionDigit) (body : List Char), text = digit.char :: ' ' :: body := by
  cases hcut : cutOnce ' ' text with
  | none => exact Or.inl (cutOnce_eq_none_iff.mp hcut)
  | some parts =>
    obtain ⟨before, after⟩ := parts
    obtain ⟨hbefore, rfl⟩ := cutOnce_eq_some_iff.mp hcut
    right
    by_cases hdigit : ∀ char, IsDigit char → before ≠ [char]
    · exact Or.inl ⟨before, after, hbefore, hdigit, rfl⟩
    · push Not at hdigit
      obtain ⟨char, hchar, rfl⟩ := hdigit
      obtain ⟨digit, rfl⟩ := OptionDigit.exists_char_eq hchar
      exact Or.inr ⟨digit, after, rfl⟩

theorem ofText_of_notMem (h : ' ' ∉ text) : ofText text = .error .missingHeader := by
  have hcut : cutOnce digitMark text = none := cutOnce_eq_none_iff.mpr h
  rw [ofText, hcut]

theorem ofText_of_ne_digit {before : List Char} (hbefore : ' ' ∉ before)
    (hdigit : ∀ char, IsDigit char → before ≠ [char]) (after : List Char) :
    ofText (before ++ ' ' :: after) = .error (.invalidDigit (String.ofList before)) := by
  have hcut : cutOnce digitMark (before ++ ' ' :: after) = some (before, after) :=
    cutOnce_append_mark hbefore after
  rw [ofText, hcut]
  simp only [readDigit_eq_error_iff.mpr ⟨hdigit, rfl⟩]

theorem ofText_header (digit : OptionDigit) (body : List Char) :
    ofText (digit.char :: ' ' :: body) =
      if body = [] then .ok ⟨[], digit.options⟩
      else (readEntries 0 (fields '\n' body)).map fun entries ↦ ⟨entries, digit.options⟩ := by
  have hcut : cutOnce digitMark (digit.char :: ' ' :: body) = some ([digit.char], body) :=
    cutOnce_digit digit body
  rw [ofText, hcut]
  simp only [readDigit_char, List.isEmpty_iff]
  rfl

/-! ### Texts -/

/-- A text that is read has a header with a digit for the shared options, and after it the texts of
the entries. -/
theorem ofText_eq_ok_iff {scenario : Scenario} :
    ofText text = .ok scenario ↔
      ∃ digit : OptionDigit, scenario.shared = digit.options ∧
        (∀ entry ∈ scenario.entries, EntryIsWritable entry) ∧
        text = digit.char :: ' ' :: joinWith '\n' (scenario.entries.map entryText) := by
  constructor
  · intro h
    rcases header_cases text with hnone | ⟨before, after, hbefore, hdigit, rfl⟩ | ⟨digit, body, rfl⟩
    · rw [ofText_of_notMem hnone] at h
      cases h
    · rw [ofText_of_ne_digit hbefore hdigit] at h
      cases h
    · rw [ofText_header] at h
      refine ⟨digit, ?_⟩
      by_cases hbody : body = []
      · rw [if_pos hbody] at h
        obtain rfl := Except.ok.inj h
        exact ⟨rfl, List.forall_mem_nil _, by rw [hbody]; rfl⟩
      · rw [if_neg hbody] at h
        rcases hentries : readEntries 0 (fields '\n' body) with fault | entries
        · rw [hentries] at h
          cases h
        · rw [hentries] at h
          obtain rfl := Except.ok.inj h
          obtain ⟨hwritable, hfields⟩ :=
            isWritable_of_readEntries hentries fun _ ↦ mark_notMem_of_mem_fields
          exact ⟨rfl, hwritable, by rw [← hfields, joinWith_fields]⟩
  · rintro ⟨digit, hshared, hentries, rfl⟩
    obtain ⟨entries, shared⟩ := scenario
    subst hshared
    rw [ofText_header]
    dsimp only at hentries ⊢
    by_cases hnil : entries = []
    · subst hnil
      rfl
    · have hmarks : ∀ line ∈ entries.map entryText, '\n' ∉ line :=
        List.forall_mem_map.mpr fun entry hentry ↦
          entryMark_notMem_entryText (hentries entry hentry)
      have hne : entries.map entryText ≠ [] := fun h ↦ hnil (List.map_eq_nil_iff.mp h)
      have hbody : joinWith '\n' (entries.map entryText) ≠ [] :=
        fun h ↦ hnil (joinWith_map_entryText_eq_nil_iff.mp h)
      rw [if_neg hbody, fields_joinWith hne hmarks,
        readEntries_eq_ok_iff.mpr ⟨fun entry hentry ↦ (hentries entry hentry).1, rfl⟩]
      rfl

/-- A text that is not read is refused for its first fault. -/
theorem ofText_eq_error_iff : ofText text = .error error ↔ FirstFault text error := by
  constructor
  · intro h
    rcases header_cases text with hnone | ⟨before, after, hbefore, hdigit, rfl⟩ | ⟨digit, body, rfl⟩
    · rw [ofText_of_notMem hnone] at h
      obtain rfl := Except.error.inj h
      exact .unmarked hnone
    · rw [ofText_of_ne_digit hbefore hdigit] at h
      obtain rfl := Except.error.inj h
      exact .digit hbefore hdigit
    · rw [ofText_header] at h
      by_cases hbody : body = []
      · rw [if_pos hbody] at h
        cases h
      · rw [if_neg hbody] at h
        rcases hlines : readEntries 0 (fields '\n' body) with fault | entries
        · rw [hlines] at h
          obtain rfl := Except.error.inj h
          obtain ⟨front, line, later, hfields, ⟨entries, hfront⟩, hline⟩ :=
            exists_lineFault_of_readEntries hlines
          have hmarks : ∀ other ∈ front ++ line :: later, '\n' ∉ other :=
            hfields ▸ fun _ ↦ mark_notMem_of_mem_fields
          obtain ⟨hfrontMarks, hlater⟩ := List.forall_mem_append.mp hmarks
          obtain ⟨hwritable, rfl⟩ := isWritable_of_readEntries hfront hfrontMarks
          have hjoin : joinWith '\n' (entries.map entryText ++ line :: later) = body := by
            rw [← hfields, joinWith_fields]
          rw [Nat.zero_add] at hline
          rw [← hjoin]
          refine .line digit.isDigit_char ?_ (hjoin.trans_ne hbody) hlater hline
          exact List.forall_mem_map.mpr fun entry hentry ↦
            isLine_iff.mpr ⟨entry, hwritable entry hentry, rfl⟩
        · rw [hlines] at h
          cases h
  · intro h
    cases h with
    | unmarked htext => exact ofText_of_notMem htext
    | digit hbefore hdigit => exact ofText_of_ne_digit hbefore hdigit _
    | @line header lines later line error hheader hlines hbody hlater hline =>
      obtain ⟨digit, rfl⟩ := OptionDigit.exists_char_eq hheader
      obtain ⟨entries, hentries, rfl⟩ := exists_map_entryText_of_isLine hlines
      have hmarks : ∀ other ∈ entries.map entryText ++ line :: later, '\n' ∉ other :=
        List.forall_mem_append.mpr ⟨List.forall_mem_map.mpr fun entry hentry ↦
          entryMark_notMem_entryText (hentries entry hentry), hlater⟩
      have hfront : readEntries 0 (entries.map entryText) = .ok entries :=
        readEntries_map_entryText hentries 0
      rw [← Nat.zero_add (entries.map entryText).length] at hline
      rw [ofText_header, if_neg hbody, fields_joinWith (by simp) hmarks,
        readEntries_of_lineFault hfront hline]
      rfl

/-- What is read is written as the same text, but for the digit of its header. -/
theorem toText_of_ofText {scenario : Scenario} (h : ofText text = .ok scenario) :
    ∃ header body, IsDigit header ∧ text = header :: ' ' :: body ∧
      scenario.toText = .ok (Char.ofNat (0x30 + (header.toNat - 0x30) % 4) :: ' ' :: body) := by
  obtain ⟨digit, hshared, hentries, rfl⟩ := ofText_eq_ok_iff.mp h
  have hwritable : scenario.IsWritable := ⟨by rw [hshared]; rfl, hentries⟩
  refine ⟨digit.char, _, digit.isDigit_char, rfl, ?_⟩
  rw [toText_of_isWritable hwritable, Scenario.text, hshared, OptionDigit.char_ofOptions_false]
  rfl

theorem isScenarioText_iff : IsScenarioText text ↔ ∃ scenario, ofText text = .ok scenario := by
  constructor
  · rintro ⟨hheader, hlines⟩
    obtain ⟨digit, rfl⟩ := OptionDigit.exists_char_eq hheader
    obtain ⟨entries, hentries, rfl⟩ := exists_map_entryText_of_isLine hlines
    exact ⟨⟨entries, digit.options⟩, ofText_eq_ok_iff.mpr ⟨digit, rfl, hentries, rfl⟩⟩
  · rintro ⟨scenario, h⟩
    obtain ⟨digit, -, hentries, rfl⟩ := ofText_eq_ok_iff.mp h
    refine .intro digit.isDigit_char (List.forall_mem_map.mpr fun entry hentry ↦ ?_)
    exact isLine_iff.mpr ⟨entry, hentries entry hentry, rfl⟩

/-- A text is read as a scenario exactly if it has the written form. The scenario is then written as
the same text, but for the digit of the header, of which the remainder by four is kept. A text of
another form is refused for its first fault. -/
theorem ofText_trichotomy (text : List Char) :
    ((∃ scenario, ofText text = .ok scenario) ↔ IsScenarioText text) ∧
      (∀ scenario, ofText text = .ok scenario → ∃ header body, IsDigit header ∧
        text = header :: ' ' :: body ∧
        scenario.toText = .ok (Char.ofNat (0x30 + (header.toNat - 0x30) % 4) :: ' ' :: body)) ∧
      ∀ error, ofText text = .error error ↔ FirstFault text error :=
  ⟨isScenarioText_iff.symm, fun _ ↦ toText_of_ofText, fun _ ↦ ofText_eq_error_iff⟩

/-- A blank in a path and an empty last path do not disturb the reader, and of the header `7` the
digit `3` is written back. -/
theorem ofText_trichotomy_empty_path :
    ∃ scenario, ofText "7 5 /a b\n0 ".toList = .ok scenario ∧
      scenario.toText = .ok "3 5 /a b\n0 ".toList := by
  have hread : ∃ scenario, ofText "7 5 /a b\n0 ".toList = .ok scenario := ⟨_, rfl⟩
  obtain ⟨scenario, hscenario⟩ := hread
  obtain ⟨header, body, -, htext, hwritten⟩ :=
    (ofText_trichotomy "7 5 /a b\n0 ".toList).2.1 scenario hscenario
  obtain ⟨rfl, hbody⟩ := List.cons.inj htext
  obtain ⟨-, rfl⟩ := List.cons.inj hbody
  exact ⟨scenario, hscenario, hwritten⟩

end Scenario

end RoutePatterns
