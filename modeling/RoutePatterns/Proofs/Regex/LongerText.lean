import Mathlib.Data.List.Basic
import Mathlib.Tactic.SplitIfs
import RoutePatterns.Regex.Reader

/-!
# Readers of a text that goes on

The readers of regular expressions take what they need from the beginning of a text. What they read
is the same if the text goes on with a closing parenthesis, which is what happens to an expression
that is put into a group: skipping (`Flags.skip_append`), what a backslash introduces
(`readEscaped_append`), what an opening parenthesis introduces (`readOpening_append`) and the bounds
of a repetition (`readCounts_append`).

White space and comments can be skipped, and a comment at the end of the text takes in what follows
on its line. A reader that skips to the end of the text therefore reads either the same or up to the
end of that line (`Flags.skip_append_of_eq_nil`).
-/

set_option autoImplicit false
set_option relaxedAutoImplicit false

namespace RoutePatterns.Regex

open Text

variable {flags : Flags} {text rest : List Char}

theorem dropWhile_append_of_ne_nil {keep : Char → Bool} (h : text.dropWhile keep ≠ [])
    (more : List Char) : (text ++ more).dropWhile keep = text.dropWhile keep ++ more := by
  rw [List.dropWhile_append, if_neg]
  simpa using h

theorem takeWhile_append_of_ne_nil {keep : Char → Bool} (h : text.dropWhile keep ≠ [])
    (more : List Char) : (text ++ more).takeWhile keep = text.takeWhile keep := by
  rw [List.takeWhile_append, if_neg]
  intro hlength
  have hsplit := congrArg List.length (List.takeWhile_append_dropWhile (p := keep) (l := text))
  rw [List.length_append, hlength] at hsplit
  have hpos := List.length_pos_iff.mpr h
  omega

/-! ### Skipping -/

theorem skipBlanks_append {inComment : Bool} (h : skipBlanks inComment text ≠ [])
    (more : List Char) :
    skipBlanks inComment (text ++ more) = skipBlanks inComment text ++ more := by
  induction text generalizing inComment with
  | nil => exact absurd rfl h
  | cons char text ih =>
    rw [List.cons_append]
    unfold skipBlanks at h ⊢
    split_ifs at h ⊢
    · exact ih h
    · exact ih h
    · exact ih h
    · rfl

theorem skipBlanks_of_notMem {more : List Char} (hmore : '\n' ∉ more) :
    skipBlanks true more = [] := by
  induction more with
  | nil => rfl
  | cons char more ih =>
    obtain ⟨hchar, hmore⟩ := List.ne_and_not_mem_of_not_mem_cons hmore
    rw [skipBlanks, if_pos rfl, bne_iff_ne.mpr hchar.symm]
    exact ih hmore

theorem skipBlanks_closing (after : List Char) :
    skipBlanks false (')' :: after) = ')' :: after := by
  rfl

theorem skipBlanks_append_of_eq_nil {inComment : Bool} (h : skipBlanks inComment text = []) :
    (∀ after, skipBlanks inComment (text ++ ')' :: after) = ')' :: after) ∨
      ∀ more, '\n' ∉ more → skipBlanks inComment (text ++ more) = [] := by
  induction text generalizing inComment with
  | nil =>
    cases inComment with
    | false => exact Or.inl skipBlanks_closing
    | true => exact Or.inr fun more ↦ skipBlanks_of_notMem
  | cons char text ih =>
    simp only [List.cons_append]
    unfold skipBlanks at h ⊢
    split_ifs at h ⊢
    · exact ih h
    · exact ih h
    · exact ih h

theorem Flags.skip_append (h : flags.skip text ≠ []) (more : List Char) :
    flags.skip (text ++ more) = flags.skip text ++ more := by
  unfold Flags.skip at h ⊢
  split_ifs at h ⊢
  · exact skipBlanks_append h more
  · rfl

theorem Flags.skip_append_of_eq_nil (h : flags.skip text = []) :
    (∀ after, flags.skip (text ++ ')' :: after) = ')' :: after) ∨
      ∀ more, '\n' ∉ more → flags.skip (text ++ more) = [] := by
  unfold Flags.skip at h ⊢
  split_ifs at h ⊢
  · exact skipBlanks_append_of_eq_nil h
  · exact Or.inl fun after ↦ by rw [h, List.nil_append]

theorem Flags.skip_append_of_eq_cons {char : Char} (h : flags.skip text = char :: rest)
    (more : List Char) : flags.skip (text ++ more) = char :: (rest ++ more) := by
  rw [Flags.skip_append (by rw [h]; exact List.cons_ne_nil _ _), h, List.cons_append]

/-! ### Escapes -/

theorem readBraced_append {inComment : Bool} {done content : List Char}
    (h : readBraced flags inComment done text = some (content, rest)) (more : List Char) :
    readBraced flags inComment done (text ++ more) = some (content, rest ++ more) := by
  induction text generalizing inComment done with
  | nil => cases h
  | cons char text ih =>
    rw [List.cons_append]
    unfold readBraced at h ⊢
    split_ifs at h ⊢
    · exact ih h
    · exact ih h
    · exact ih h
    · cases h
      rfl
    · exact ih h

theorem readHexDigits_append {count value code : ℕ}
    (h : readHexDigits flags count value text = some (code, rest)) (more : List Char) :
    readHexDigits flags count value (text ++ more) = some (code, rest ++ more) := by
  induction count generalizing value text with
  | zero =>
    cases h
    rfl
  | succ count ih =>
    unfold readHexDigits at h ⊢
    split at h
    · cases h
    · next char after hafter =>
      rw [Flags.skip_append_of_eq_cons hafter]
      split at h
      · cases h
      · next digit hdigit =>
        simp only [hdigit]
        exact ih h

theorem readHex_append {byte : Bool} {width : ℕ} {escaped : Escaped}
    (h : readHex flags byte (width + 1) text = some (escaped, rest)) (more : List Char) :
    readHex flags byte (width + 1) (text ++ more) = some (escaped, rest ++ more) := by
  unfold readHex at h ⊢
  split at h
  · next after hafter =>
    rw [Flags.skip_append_of_eq_cons hafter]
    split at h
    · cases h
    · next digits after' hbraced =>
      simp only [readBraced_append hbraced]
      obtain ⟨char, hchar, heq⟩ := Option.map_eq_some_iff.mp h
      cases heq
      rw [hchar]
      rfl
  · next hbrace =>
    split at h
    · cases h
    · next code after hdigits =>
      have hne : flags.skip text ≠ [] := by
        intro hnil
        rw [readHexDigits, hnil] at hdigits
        cases hdigits
      rw [Flags.skip_append hne]
      split
      · next after' hafter' =>
        obtain ⟨char, tail, htext⟩ := List.exists_cons_of_ne_nil hne
        rw [htext, List.cons_append] at hafter'
        obtain ⟨rfl, -⟩ := List.cons.inj hafter'
        exact absurd htext (hbrace _)
      · rw [readHexDigits_append hdigits]
        obtain ⟨char, hchar, heq⟩ := Option.map_eq_some_iff.mp h
        cases heq
        simp only [hchar]
        rfl

theorem readProperty_append {negated : Bool} {escaped : Escaped}
    (h : readProperty flags negated text = some (escaped, rest)) (more : List Char) :
    readProperty flags negated (text ++ more) = some (escaped, rest ++ more) := by
  unfold readProperty at h ⊢
  split at h
  · cases h
  · cases h
  · next after hafter =>
    rw [Flags.skip_append_of_eq_cons hafter]
    split at h
    · cases h
    · next content after' hbraced =>
      simp only [readBraced_append hbraced]
      obtain ⟨found, hfound, heq⟩ := Option.map_eq_some_iff.mp h
      cases heq
      rw [hfound]
      rfl
  · next char after hbackslash hbrace hafter =>
    rw [Flags.skip_append_of_eq_cons hafter]
    obtain ⟨set, hset, heq⟩ := Option.map_eq_some_iff.mp h
    cases heq
    split
    · next heq => cases heq
    · next heq =>
      obtain ⟨rfl, -⟩ := List.cons.inj heq
      exact absurd rfl hbackslash
    · next heq =>
      obtain ⟨rfl, -⟩ := List.cons.inj heq
      exact absurd rfl hbrace
    · next heq =>
      obtain ⟨rfl, rfl⟩ := List.cons.inj heq
      rw [hset]
      rfl

theorem readBoundary_append {escaped : Escaped}
    (h : readBoundary flags text = some (escaped, rest)) (more : List Char)
    (hmore : more.head? = some ')') :
    readBoundary flags (text ++ more) = some (escaped, rest ++ more) := by
  unfold readBoundary at h
  split at h
  · next inner =>
    unfold readBoundary
    rw [List.cons_append]
    simp only
    split at h
    · cases h
    · next char after hafter =>
      rw [Flags.skip_append_of_eq_cons hafter]
      simp only
      split_ifs at h ⊢ with hletter
      · cases h
        rfl
      · split at h
        · cases h
        · next content after' hbraced =>
          simp only [readBraced_append hbraced]
          split at h <;> cases h <;> rfl
  · next hbrace =>
    cases h
    unfold readBoundary
    split
    · next inner heq =>
      cases text with
      | nil =>
        rw [List.nil_append] at heq
        rw [heq] at hmore
        simp at hmore
      | cons char text =>
        obtain ⟨rfl, -⟩ := List.cons.inj heq
        exact absurd rfl (hbrace _)
    · rfl

/-- What a backslash introduces is the same if the text goes on. -/
theorem readEscaped_append {escaped : Escaped} (h : readEscaped flags text = some (escaped, rest))
    (more : List Char) (hmore : more.head? = some ')') :
    readEscaped flags (text ++ more) = some (escaped, rest ++ more) := by
  cases text with
  | nil => cases h
  | cons char text =>
    rw [List.cons_append]
    unfold readEscaped at h ⊢
    simp only at h ⊢
    split at h
    case h_1 | h_2 | h_3 => exact readHex_append h more
    case h_4 | h_5 => exact readProperty_append h more
    case h_20 => exact readBoundary_append h more hmore
    case h_24 =>
      split_ifs at h ⊢
      cases h
      rfl
    all_goals
      cases h
      rfl

/-! ### Groups -/

theorem readGroupName_append {opening : Opening}
    (h : readGroupName text = some (opening, rest)) (more : List Char) :
    readGroupName (text ++ more) = some (opening, rest ++ more) := by
  unfold readGroupName at h ⊢
  split at h
  · next after hafter =>
    have hne : text.dropWhile (· != '>') ≠ [] := by
      rw [hafter]
      exact List.cons_ne_nil _ _
    rw [dropWhile_append_of_ne_nil hne, takeWhile_append_of_ne_nil hne, hafter, List.cons_append]
    simp only at h ⊢
    split_ifs at h ⊢
    cases h
    rfl
  · cases h

theorem readSwitches_append {opening : Opening}
    (h : readSwitches flags text = some (opening, rest)) (more : List Char) :
    readSwitches flags (text ++ more) = some (opening, rest ++ more) := by
  have hne : text.dropWhile (fun char ↦ char != ':' && char != ')') ≠ [] := by
    intro hnil
    unfold readSwitches at h
    simp only [hnil] at h
    split_ifs at h
  unfold readSwitches at h ⊢
  rw [dropWhile_append_of_ne_nil hne, takeWhile_append_of_ne_nil hne]
  simp only at h ⊢
  split at h
  · cases h
  · next hletters =>
    rw [if_neg hletters]
    split at h
    · next after hafter =>
      cases h
      rw [hafter]
      rfl
    · next after hafter =>
      rw [hafter]
      simp only [List.cons_append]
      split_ifs at h ⊢
      cases h
      rfl
    · cases h

/-- Reads what a question mark introduces after an opening parenthesis. -/
def readAfterQuestion (flags : Flags) : List Char → Option (Opening × List Char)
  | '=' :: _ | '!' :: _ | '<' :: '=' :: _ | '<' :: '!' :: _ => none
  | 'P' :: '<' :: rest => readGroupName rest
  | '<' :: rest => readGroupName rest
  | rest => readSwitches flags rest

theorem readOpening_question (hskip : flags.skip text = '?' :: rest) :
    readOpening flags text = readAfterQuestion flags rest := by
  unfold readOpening readAfterQuestion
  rw [hskip]
  split <;> simp_all

theorem readAfterQuestion_append {opening : Opening}
    (h : readAfterQuestion flags text = some (opening, rest)) (more : List Char) :
    readAfterQuestion flags (text ++ more) = some (opening, rest ++ more) := by
  unfold readAfterQuestion at h
  split at h
  case h_1 | h_2 | h_3 | h_4 => cases h
  case h_5 => exact readGroupName_append h more
  case h_6 after hequals hmark =>
    rcases after with _ | ⟨char, after⟩
    · cases h
    · have hname : readAfterQuestion flags ('<' :: char :: (after ++ more)) =
          readGroupName (char :: (after ++ more)) := by
        unfold readAfterQuestion
        split <;> simp_all
      exact hname.trans (readGroupName_append h more)
  case h_7 hnot heq hmark hangle hangle' hnamed =>
    rcases text with _ | ⟨first, _ | ⟨second, text⟩⟩
    · have hnone : readSwitches flags [] = none := rfl
      rw [hnone] at h
      cases h
    · have hsign : first = ':' ∨ first = ')' := by
        by_contra hother
        have hdrop : [first].dropWhile (fun char ↦ char != ':' && char != ')') = [] := by
          simp_all
        unfold readSwitches at h
        simp only [hdrop] at h
        split at h <;> cases h
      rcases hsign with rfl | rfl
      · exact readSwitches_append h more
      · exact readSwitches_append h more
    · have hswitches : readAfterQuestion flags (first :: second :: (text ++ more)) =
          readSwitches flags (first :: second :: (text ++ more)) := by
        unfold readAfterQuestion
        split <;> simp_all
      exact hswitches.trans (readSwitches_append h more)

/-- What an opening parenthesis introduces is the same if the text goes on, or the rest of the text
is a comment that goes on, too. -/
theorem readOpening_append {opening : Opening}
    (h : readOpening flags text = some (opening, rest)) :
    (∀ after, readOpening flags (text ++ ')' :: after) = some (opening, rest ++ ')' :: after)) ∨
      rest = [] ∧ ∀ more, '\n' ∉ more → readOpening flags (text ++ more) = some (opening, []) := by
  have hgroup (text : List Char) (hquestion : ∀ rest, flags.skip text ≠ '?' :: rest) :
      readOpening flags text = some (.group flags, flags.skip text) := by
    unfold readOpening
    split <;> simp_all
  rcases hskip : flags.skip text with _ | ⟨char, after⟩
  · have hquestion : ∀ rest, flags.skip text ≠ '?' :: rest := by simp [hskip]
    rw [hgroup text hquestion, hskip] at h
    cases h
    refine (Flags.skip_append_of_eq_nil hskip).imp (fun hsame after ↦ ?_) fun hcomment ↦ ?_
    · rw [hgroup _ (by simp [hsame]), hsame]
      rfl
    · refine ⟨rfl, fun more hmore ↦ ?_⟩
      rw [hgroup _ (by simp [hcomment more hmore]), hcomment more hmore]
  · left
    intro more
    have hskip' := Flags.skip_append_of_eq_cons hskip (')' :: more)
    by_cases hchar : char = '?'
    · subst hchar
      rw [readOpening_question hskip] at h
      rw [readOpening_question hskip']
      exact readAfterQuestion_append h _
    · rw [hgroup text (by simp [hskip, hchar]), hskip] at h
      cases h
      rw [hgroup _ (by simp [hskip', hchar]), hskip']
      rfl

/-! ### Repetitions -/

theorem readGreed_append (flags : Flags) (text after : List Char) :
    readGreed flags (text ++ ')' :: after) =
      ((readGreed flags text).1, (readGreed flags text).2 ++ ')' :: after) := by
  rcases text with _ | ⟨char, text⟩
  · rfl
  · by_cases hchar : char = '?'
    · subst hchar
      rfl
    · have hgreed (text : List Char) : readGreed flags (char :: text) =
          (!flags.swapGreed, char :: text) := by
        unfold readGreed
        split
        · next heq => exact absurd (List.cons.inj heq).1 hchar
        · rfl
      rw [List.cons_append, hgreed, hgreed, List.cons_append]

theorem readDigits_append {inComment : Bool} {value : Option ℕ}
    (h : (readDigits flags inComment value text).2 ≠ []) (more : List Char) :
    readDigits flags inComment value (text ++ more) =
      ((readDigits flags inComment value text).1,
        (readDigits flags inComment value text).2 ++ more) := by
  induction text generalizing inComment value with
  | nil => exact absurd rfl h
  | cons char text ih =>
    rw [List.cons_append]
    unfold readDigits at h ⊢
    split_ifs at h ⊢
    · exact ih h
    · exact ih h
    · exact ih h
    · exact ih h
    · rfl

theorem readDecimal_append (h : (readDecimal flags text).2 ≠ []) (more : List Char) :
    readDecimal flags (text ++ more) =
      ((readDecimal flags text).1, (readDecimal flags text).2 ++ more) := by
  have hdigits : (readDigits flags false none (text.dropWhile isBlank)).2 ≠ [] := by
    intro hnil
    refine h ?_
    unfold readDecimal
    simp only [hnil]
    rfl
  have hblanks : text.dropWhile isBlank ≠ [] := by
    intro hnil
    rw [hnil] at hdigits
    exact hdigits rfl
  unfold readDecimal at h ⊢
  simp only at h ⊢
  rw [dropWhile_append_of_ne_nil hblanks, readDigits_append hdigits,
    dropWhile_append_of_ne_nil h]

theorem readDecimal_append_of_eq_cons {value : Option ℕ} {char : Char}
    (h : readDecimal flags text = (value, char :: rest)) (more : List Char) :
    readDecimal flags (text ++ more) = (value, char :: (rest ++ more)) := by
  rw [readDecimal_append (by rw [h]; exact List.cons_ne_nil _ _), h, List.cons_append]

theorem readDecimal_nil : readDecimal flags [] = (none, []) := by
  rfl

/-- The bounds of a repetition are the same if the text goes on. -/
theorem readCounts_append {counts : ℕ × Option ℕ}
    (h : readCounts flags text = some (counts, rest)) (more : List Char) :
    readCounts flags (text ++ more) = some (counts, rest ++ more) := by
  have hskip : flags.skip text ≠ [] := by
    intro hnil
    rw [readCounts, hnil, readDecimal_nil] at h
    cases h
  unfold readCounts at h ⊢
  rw [Flags.skip_append hskip]
  split at h
  · next least after hleast =>
    cases h
    rw [readDecimal_append_of_eq_cons hleast]
    rfl
  · next least after hleast =>
    rw [readDecimal_append_of_eq_cons hleast]
    simp only
    split at h
    · next after' hafter =>
      cases h
      rw [Flags.skip_append_of_eq_cons hafter]
      rfl
    · next hbrace =>
      have hskip' : flags.skip after ≠ [] := by
        intro hnil
        rw [hnil, readDecimal_nil] at h
        cases h
      rw [Flags.skip_append hskip']
      split
      · next heq =>
        obtain ⟨char, tail, htail⟩ := List.exists_cons_of_ne_nil hskip'
        rw [htail, List.cons_append] at heq
        obtain ⟨rfl, -⟩ := List.cons.inj heq
        exact absurd htail (hbrace _)
      · split at h
        · next most after' hmost =>
          rw [readDecimal_append_of_eq_cons hmost]
          simp only
          split_ifs at h ⊢
          cases h
          rfl
        · cases h
  · cases h

end RoutePatterns.Regex
