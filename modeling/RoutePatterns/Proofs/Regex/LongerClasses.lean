import Mathlib.Data.List.TakeWhile
import RoutePatterns.Proofs.Regex.LongerText

/-!
# Classes in a text that goes on

A class in brackets is the same if the text after it goes on (`readBracket_append`). Within the
class, an item is read to its end only if something follows, as it does before the closing bracket
(`readRange_append`, `bracketStep_append`). Whether a bracket begins a named set does not depend on
what follows the text, because no set has a closing parenthesis in its name
(`readAsciiNamed_append`).
-/

set_option autoImplicit false
set_option relaxedAutoImplicit false

namespace RoutePatterns.Regex

open Text

variable {flags : Flags} {text rest : List Char}

/-! ### Items -/

theorem readAtom_append {char : Char} {atom : BracketAtom}
    (h : readAtom flags char text = some (atom, rest)) (more : List Char)
    (hmore : more.head? = some ')') :
    readAtom flags char (text ++ more) = some (atom, rest ++ more) := by
  unfold readAtom at h ⊢
  split_ifs at h ⊢
  · split at h
    · cases h
    · next escaped after hescaped =>
      simp only [readEscaped_append hescaped more hmore]
      obtain ⟨found, hfound, heq⟩ := Option.map_eq_some_iff.mp h
      cases heq
      rw [hfound]
      rfl
  · obtain ⟨found, hfound, heq⟩ := Option.map_eq_some_iff.mp h
    cases heq
    rw [hfound]
    rfl

/-- What stands after white space and the sign of a comment with white space after it. -/
def afterSign (text : List Char) : List Char :=
  match text.dropWhile isBlank with
  | '#' :: rest => rest.dropWhile isBlank
  | rest => rest

theorem peek_eq (hverbose : flags.verbose = true) (text : List Char) :
    peek flags text = (afterSign text).head?.or text.head? := by
  rw [peek, if_neg (by simp [hverbose])]
  rfl

theorem afterSign_append (h : afterSign text ≠ []) (more : List Char) :
    afterSign (text ++ more) = afterSign text ++ more := by
  unfold afterSign at h ⊢
  split at h
  · next after hafter =>
    rw [dropWhile_append_of_ne_nil (by rw [hafter]; exact List.cons_ne_nil _ _), hafter]
    exact dropWhile_append_of_ne_nil h more
  · next hsign =>
    rw [dropWhile_append_of_ne_nil h]
    split
    · next after hafter =>
      obtain ⟨char, tail, htext⟩ := List.exists_cons_of_ne_nil h
      rw [htext, List.cons_append] at hafter
      obtain ⟨rfl, -⟩ := List.cons.inj hafter
      exact absurd htext (hsign _)
    · rfl

theorem skipBlanks_of_isBlank {inComment : Bool} (h : ∀ char ∈ text, isBlank char = true) :
    skipBlanks inComment text = [] := by
  induction text generalizing inComment with
  | nil => rfl
  | cons char text ih =>
    obtain ⟨hchar, htext⟩ := List.forall_mem_cons.mp h
    unfold skipBlanks
    split_ifs
    · exact ih htext
    · exact ih htext

theorem skipBlanks_dropWhile (text : List Char) :
    skipBlanks false (text.dropWhile isBlank) = skipBlanks false text := by
  induction text with
  | nil => rfl
  | cons char text ih =>
    by_cases hchar : isBlank char = true
    · rw [List.dropWhile_cons_of_pos hchar, ih, skipBlanks, if_neg Bool.false_ne_true, if_pos hchar]
    · rw [List.dropWhile_cons_of_neg hchar]

/-- Where nothing stands after the sign of a comment, all is skipped. -/
theorem skipBlanks_of_afterSign (h : afterSign text = []) : skipBlanks false text = [] := by
  rw [← skipBlanks_dropWhile]
  unfold afterSign at h
  split at h
  · next after hafter =>
    have hblanks : ∀ char ∈ after, isBlank char = true := List.dropWhile_eq_nil_iff.mp h
    rw [hafter, skipBlanks, if_neg Bool.false_ne_true, if_neg (by decide), if_pos (by decide)]
    exact skipBlanks_of_isBlank hblanks
  · rw [h]
    rfl

theorem peek_append (hne : text ≠ []) (hsign : flags.verbose = true → afterSign text ≠ [])
    (more : List Char) : peek flags (text ++ more) = peek flags text := by
  by_cases hverbose : flags.verbose = true
  · rw [peek_eq hverbose, peek_eq hverbose, afterSign_append (hsign hverbose),
      List.head?_append_of_ne_nil _ (hsign hverbose), List.head?_append_of_ne_nil _ hne]
  · have hpeek (text : List Char) : peek flags text = text.head? := by
      rw [peek, if_pos (by simp [hverbose])]
    rw [hpeek, hpeek, List.head?_append_of_ne_nil _ hne]

theorem afterSign_ne_nil_of_peek {sign : Char} (hpeek : peek flags text = some sign)
    (hblank : isBlank sign = false) (hhash : sign ≠ '#') (hverbose : flags.verbose = true) :
    afterSign text ≠ [] := by
  intro hnil
  rw [peek_eq hverbose, hnil, List.head?_nil, Option.none_or] at hpeek
  obtain ⟨rest, rfl⟩ := List.head?_eq_some_iff.mp hpeek
  have hskip := skipBlanks_of_afterSign hnil
  rw [skipBlanks, if_neg Bool.false_ne_true, if_neg (by simp [hblank]), if_neg (by simp [hhash])]
    at hskip
  cases hskip

/-- A sign that is no blank and begins no comment is still the next one if the text goes on. -/
theorem peek_append_of_eq_some {sign : Char} (hpeek : peek flags text = some sign)
    (hblank : isBlank sign = false) (hhash : sign ≠ '#') (more : List Char) :
    peek flags (text ++ more) = peek flags text := by
  have hne : text ≠ [] := by
    rintro rfl
    cases hverbose : flags.verbose <;> simp [peek, hverbose] at hpeek
  exact peek_append hne (afterSign_ne_nil_of_peek hpeek hblank hhash) more

theorem afterSign_ne_nil_of_skip (hskip : flags.skip text ≠ []) (hverbose : flags.verbose = true) :
    afterSign text ≠ [] := by
  intro hnil
  rw [Flags.skip, if_pos hverbose] at hskip
  exact hskip (skipBlanks_of_afterSign hnil)

theorem ne_nil_of_skip (hskip : flags.skip text ≠ []) : text ≠ [] := by
  rintro rfl
  unfold Flags.skip at hskip
  split_ifs at hskip
  · exact hskip rfl
  · exact hskip rfl

/-- Assumes: something after the item. An item or range of a class is the same if the text goes
on. -/
theorem readRange_append {char : Char} {set : CharSet}
    (h : readRange flags char text = some (set, rest)) (hrest : rest ≠ []) (more : List Char)
    (hmore : more.head? = some ')') :
    readRange flags char (text ++ more) = some (set, rest ++ more) := by
  unfold readRange at h ⊢
  split at h
  · cases h
  · next first middle hfirst =>
    simp only [readAtom_append hfirst more hmore]
    split at h
    · next after hafter =>
      rw [Flags.skip_append_of_eq_cons hafter]
      simp only
      split_ifs at h with hpeek
      · have hsame : peek flags (after ++ more) = peek flags after := by
          rw [Bool.or_eq_true, decide_eq_true_iff, decide_eq_true_iff] at hpeek
          rcases hpeek with hpeek | hpeek
          · exact peek_append_of_eq_some hpeek (by decide) (by decide) more
          · exact peek_append_of_eq_some hpeek (by decide) (by decide) more
        rw [hsame, if_pos hpeek]
        cases h
        rfl
      · split at h
        · cases h
        · next char' after' hafter' =>
          have hskip : flags.skip after ≠ [] := by rw [hafter']; exact List.cons_ne_nil _ _
          rw [peek_append (ne_nil_of_skip hskip) (afterSign_ne_nil_of_skip hskip), if_neg hpeek,
            Flags.skip_append_of_eq_cons hafter']
          simp only
          split at h
          · next hsecond =>
            rw [readAtom_append hsecond more hmore]
            simp only
            split_ifs at h ⊢
            cases h
            rfl
          · cases h
    · next hhyphen =>
      cases h
      rw [Flags.skip_append hrest]
      split
      · next after hafter =>
        obtain ⟨char', tail, htail⟩ := List.exists_cons_of_ne_nil hrest
        rw [htail, List.cons_append] at hafter
        obtain ⟨rfl, -⟩ := List.cons.inj hafter
        exact absurd htail (hhyphen _)
      · rfl

/-! ### Opening brackets -/

theorem skipHyphens_append {hyphens : Bool} (h : skipHyphens flags text = (hyphens, rest))
    (hrest : rest ≠ []) (more : List Char) :
    skipHyphens flags (text ++ more) = (hyphens, rest ++ more) := by
  fun_induction skipHyphens flags text generalizing hyphens rest with
  | case1 text after hskip _ ih =>
    obtain ⟨rfl, rfl⟩ := Prod.mk.inj h
    rw [skipHyphens]
    split
    · next after' hskip' =>
      rw [Flags.skip_append_of_eq_cons hskip] at hskip'
      obtain ⟨-, rfl⟩ := List.cons.inj hskip'
      rw [ih rfl hrest]
    · next hskip' => exact absurd (Flags.skip_append_of_eq_cons hskip more) (hskip' _)
  | case2 text hskip =>
    obtain ⟨rfl, rfl⟩ := Prod.mk.inj h
    rw [skipHyphens]
    split
    · next after' hskip' =>
      rw [Flags.skip_append hrest] at hskip'
      obtain ⟨char, tail, htail⟩ := List.exists_cons_of_ne_nil hrest
      rw [htail, List.cons_append] at hskip'
      obtain ⟨rfl, -⟩ := List.cons.inj hskip'
      exact absurd htail (hskip _)
    · rw [Flags.skip_append hrest]

theorem skipHyphens_nil : skipHyphens flags [] = (false, []) := by
  have hskip : flags.skip [] = [] := by
    unfold Flags.skip
    split_ifs <;> rfl
  rw [skipHyphens]
  split
  · next heq =>
    rw [hskip] at heq
    cases heq
  · rw [hskip]

/-- Drops the caret of a complemented class. -/
def dropCaret (flags : Flags) (text : List Char) : Bool × List Char :=
  match flags.skip text with
  | '^' :: rest => (true, rest)
  | rest => (false, rest)

/-- The class that is opened after its caret. -/
def openedBracket (negated : Bool) : Bool × List Char → Bracket × List Char
  | (true, rest) => (⟨negated, none, .single '-'⟩, rest)
  | (false, ']' :: rest) => (⟨negated, none, .single ']'⟩, rest)
  | (false, rest) => (⟨negated, none, .none⟩, rest)

theorem openBracket_eq (flags : Flags) (text : List Char) :
    openBracket flags text =
      openedBracket (dropCaret flags text).1 (skipHyphens flags (dropCaret flags text).2) := by
  rfl

theorem dropCaret_append (h : (dropCaret flags text).2 ≠ []) (more : List Char) :
    dropCaret flags (text ++ more) =
      ((dropCaret flags text).1, (dropCaret flags text).2 ++ more) := by
  unfold dropCaret at h ⊢
  split at h
  · next after hafter =>
    simp only [Flags.skip_append_of_eq_cons hafter]
  · next hcaret =>
    replace h : flags.skip text ≠ [] := h
    have hcaret' : ∀ after, flags.skip text ++ more ≠ '^' :: after := by
      intro after heq
      obtain ⟨char, tail, htail⟩ := List.exists_cons_of_ne_nil h
      rw [htail, List.cons_append] at heq
      obtain ⟨rfl, -⟩ := List.cons.inj heq
      exact absurd htail (hcaret _)
    rw [Flags.skip_append h]
    split
    · next heq => exact absurd heq (hcaret' _)
    · rfl

theorem openedBracket_append {negated : Bool} {hyphens : Bool}
    (h : (openedBracket negated (hyphens, text)).2 ≠ []) (more : List Char) :
    openedBracket negated (hyphens, text ++ more) =
      ((openedBracket negated (hyphens, text)).1,
        (openedBracket negated (hyphens, text)).2 ++ more) := by
  cases hyphens with
  | true => rfl
  | false =>
    cases text with
    | nil => exact absurd rfl h
    | cons char text =>
      by_cases hchar : char = ']'
      · subst hchar
        rfl
      · have hopened (text : List Char) : openedBracket negated (false, char :: text) =
            (⟨negated, none, .none⟩, char :: text) := by
          unfold openedBracket
          split
          · next heq => cases heq
          · next heq => 
            obtain ⟨-, heq⟩ := Prod.mk.inj heq
            exact absurd (List.cons.inj heq).1 hchar
          · next heq =>
            obtain ⟨-, rfl⟩ := Prod.mk.inj heq
            rfl
        rw [List.cons_append, hopened, hopened, List.cons_append]

theorem openBracket_append (h : (openBracket flags text).2 ≠ []) (more : List Char) :
    openBracket flags (text ++ more) =
      ((openBracket flags text).1, (openBracket flags text).2 ++ more) := by
  rw [openBracket_eq] at h
  obtain ⟨hyphens, rest, hskip⟩ : ∃ hyphens rest,
      skipHyphens flags (dropCaret flags text).2 = (hyphens, rest) := ⟨_, _, rfl⟩
  rw [hskip] at h
  have hrest : rest ≠ [] := by
    rintro rfl
    cases hyphens <;> exact h rfl
  have hcaret : (dropCaret flags text).2 ≠ [] := by
    intro hnil
    rw [hnil, skipHyphens_nil] at hskip
    exact hrest (Prod.mk.inj hskip).2.symm
  rw [openBracket_eq, openBracket_eq, dropCaret_append hcaret, hskip,
    skipHyphens_append hskip hrest]
  exact openedBracket_append h more

/-! ### Named sets -/

/-- No set has a name with a closing parenthesis. -/
theorem asciiNamed?_eq_none {name : List Char} (hname : ')' ∈ name) :
    CharSet.asciiNamed? (String.ofList name) = none := by
  have hne : ∀ known : String, ')' ∉ known.toList → String.ofList name ≠ known := by
    rintro known hknown rfl
    rw [String.toList_ofList] at hknown
    exact hknown hname
  unfold CharSet.asciiNamed?
  split
  case h_15 => rfl
  all_goals
    next heq => exact absurd heq (hne _ (by decide))

/-- Reads the name of an ASCII set up to the colon and the bracket after it. -/
def readSetName (text : List Char) : Option (CharSet × List Char) :=
  match text.dropWhile (· != ':') with
  | ':' :: ']' :: after =>
    (CharSet.asciiNamed? (String.ofList (text.takeWhile (· != ':')))).map fun set ↦ (set, after)
  | _ => none

/-- Drops the caret of a complemented set. -/
def dropNegation : List Char → Bool × List Char
  | '^' :: rest => (true, rest)
  | rest => (false, rest)

theorem readAsciiNamed_cons (text : List Char) :
    readAsciiNamed (':' :: text) =
      (readSetName (dropNegation text).2).map fun named ↦
        (named.1, (dropNegation text).1, named.2) := by
  have hname (negated : Bool) (text : List Char) :
      (match text.dropWhile (· != ':') with
        | ':' :: ']' :: after =>
          (CharSet.asciiNamed? (String.ofList (text.takeWhile (· != ':')))).map fun set ↦
            (set, negated, after)
        | _ => none) =
      (readSetName text).map fun named ↦ (named.1, negated, named.2) := by
    unfold readSetName
    split
    · rw [Option.map_map]
      rfl
    · rfl
  exact hname _ _

theorem readSetName_of_notMem (hcolon : ':' ∉ text) (after : List Char) :
    readSetName (text ++ ')' :: after) = none := by
  have hletters : ∀ char ∈ text, (char != ':') = true := by
    intro char hchar
    exact bne_iff_ne.mpr fun heq ↦ hcolon (heq ▸ hchar)
  have hname : ')' ∈ (text ++ ')' :: after).takeWhile (· != ':') := by
    rw [List.takeWhile_append_of_pos hletters, List.takeWhile_cons_of_pos (by decide)]
    exact List.mem_append_right _ List.mem_cons_self
  unfold readSetName
  split
  · rw [asciiNamed?_eq_none hname]
    rfl
  · rfl

theorem readSetName_append (text after : List Char) :
    readSetName (text ++ ')' :: after) =
      (readSetName text).map fun named ↦ (named.1, named.2 ++ ')' :: after) := by
  rcases htail : text.dropWhile (· != ':') with _ | ⟨colon, tail⟩
  · have hcolon : ':' ∉ text := by
      intro hmem
      have hne := List.dropWhile_eq_nil_iff.mp htail ':' hmem
      exact absurd hne (by decide)
    have hnone : readSetName text = none := by rw [readSetName, htail]
    rw [readSetName_of_notMem hcolon, hnone]
    rfl
  · have hne : text.dropWhile (· != ':') ≠ [] := by
      rw [htail]
      exact List.cons_ne_nil _ _
    have hname := takeWhile_append_of_ne_nil hne (')' :: after)
    have hcolon := List.head?_dropWhile_not (· != ':') text
    rw [htail] at hcolon
    obtain rfl : colon = ':' := by simpa using hcolon
    unfold readSetName
    rw [dropWhile_append_of_ne_nil hne, htail, hname]
    rcases tail with _ | ⟨bracket, tail⟩
    · rfl
    · by_cases hbracket : bracket = ']'
      · subst hbracket
        change _ = ((CharSet.asciiNamed? _).map _).map _
        rw [Option.map_map]
        rfl
      · have hnone (tail : List Char) :
            (match ':' :: bracket :: tail with
              | ':' :: ']' :: after =>
                (CharSet.asciiNamed? (String.ofList (text.takeWhile (· != ':')))).map fun set ↦
                  (set, after)
              | _ => none) = none := by
          split
          · next heq => exact absurd (List.cons.inj (List.cons.inj heq).2).1 hbracket
          · rfl
        rw [List.cons_append, List.cons_append, hnone, hnone]
        rfl

theorem dropNegation_append (text after : List Char) :
    dropNegation (text ++ ')' :: after) =
      ((dropNegation text).1, (dropNegation text).2 ++ ')' :: after) := by
  rcases text with _ | ⟨char, text⟩
  · rfl
  · by_cases hchar : char = '^'
    · subst hchar
      rfl
    · have hnone (text : List Char) : dropNegation (char :: text) = (false, char :: text) := by
        unfold dropNegation
        split
        · next heq => exact absurd (List.cons.inj heq).1 hchar
        · rfl
      rw [List.cons_append, hnone, hnone, List.cons_append]

/-- Whether a set is named is the same if the text goes on. -/
theorem readAsciiNamed_append (text after : List Char) :
    readAsciiNamed (text ++ ')' :: after) =
      (readAsciiNamed text).map fun named ↦ (named.1, named.2.1, named.2.2 ++ ')' :: after) := by
  rcases text with _ | ⟨char, text⟩
  · rfl
  · by_cases hchar : char = ':'
    · subst hchar
      rw [List.cons_append, readAsciiNamed_cons, readAsciiNamed_cons, dropNegation_append,
        readSetName_append, Option.map_map, Option.map_map]
      rfl
    · have hnone (text : List Char) : readAsciiNamed (char :: text) = none := by
        unfold readAsciiNamed
        split
        · next heq => exact absurd (List.cons.inj heq).1 hchar
        · rfl
      rw [List.cons_append, hnone, hnone]
      rfl

/-! ### Steps -/

/-- A step within a class with more text after it. -/
def BracketStep.append (step : BracketStep) (more : List Char) : BracketStep :=
  match step with
  | .more current outer rest => .more current outer (rest ++ more)
  | .done set rest => .done set (rest ++ more)

theorem nestBracket_append {current : Bracket} {outer : List Bracket} {step : BracketStep}
    (h : nestBracket flags current outer text = some step) (hrest : step.rest ≠ [])
    (after : List Char) :
    nestBracket flags current outer (text ++ ')' :: after) =
      some (step.append (')' :: after)) := by
  unfold nestBracket at h ⊢
  rw [readAsciiNamed_append]
  split at h
  · next set negated rest hnamed =>
    obtain ⟨found, hfound, rfl⟩ := Option.map_eq_some_iff.mp h
    simp only [hnamed, Option.map_some, hfound]
    rfl
  · next hnamed =>
    obtain rfl := Option.some.inj h
    simp only [hnamed, Option.map_none, openBracket_append hrest]
    rfl

theorem closeBracket_append {current : Bracket} {outer : List Bracket} {step : BracketStep}
    (h : closeBracket flags current outer text = some step) (more : List Char) :
    closeBracket flags current outer (text ++ more) = some (step.append more) := by
  unfold closeBracket at h ⊢
  split at h
  · cases h
  · next set hset =>
    split at h
    · cases h
      rfl
    · cases h
      rfl

/-- Assumes: something after the step. A step within a class is the same if the text goes on. -/
theorem bracketStep_append {current : Bracket} {outer : List Bracket} {char : Char}
    {step : BracketStep} (h : bracketStep flags current outer char text = some step)
    (hrest : char = ']' ∨ step.rest ≠ []) (after : List Char) :
    bracketStep flags current outer char (text ++ ')' :: after) =
      some (step.append (')' :: after)) := by
  unfold bracketStep at h
  split at h
  · exact nestBracket_append h (hrest.resolve_left (by decide)) after
  · exact closeBracket_append h _
  · cases h
    rfl
  · cases h
    rfl
  · cases h
    rfl
  · next hopen hclose hand hhyphen htilde =>
    replace hrest := hrest.resolve_left hclose
    obtain ⟨⟨set, rest⟩, hrange, rfl⟩ := Option.map_eq_some_iff.mp h
    have hrange' := readRange_append hrange hrest (')' :: after) rfl
    -- No operation is made of a character and the closing parenthesis.
    have htwice {sign : Char} (hsign : sign ≠ ')')
        (hnot : ∀ rest, char = sign → text = sign :: rest → False) (rest : List Char)
        (hchar : char = sign) : text ++ ')' :: after ≠ sign :: rest := by
      intro heq
      rcases text with _ | ⟨first, text⟩
      · exact hsign (List.cons.inj heq).1.symm
      · obtain ⟨rfl, -⟩ := List.cons.inj heq
        exact hnot _ hchar rfl
    unfold bracketStep
    split
    · exact absurd rfl hopen
    · exact absurd rfl hclose
    · next heq => exact absurd heq (htwice (by decide) hand _ rfl)
    · next heq => exact absurd heq (htwice (by decide) hhyphen _ rfl)
    · next heq => exact absurd heq (htwice (by decide) htilde _ rfl)
    · rw [hrange']
      rfl

/-- Only a closing bracket completes a class. -/
theorem eq_of_bracketStep_done {current : Bracket} {outer : List Bracket} {char : Char}
    {set : CharSet} (h : bracketStep flags current outer char text = some (.done set rest)) :
    char = ']' := by
  unfold bracketStep at h
  split at h
  · unfold nestBracket at h
    split at h
    · obtain ⟨_, _, heq⟩ := Option.map_eq_some_iff.mp h
      cases heq
    · cases h
  · rfl
  · cases h
  · cases h
  · cases h
  · obtain ⟨_, _, heq⟩ := Option.map_eq_some_iff.mp h
    cases heq

theorem readBracketFrom_of_skip {current : Bracket} {outer : List Bracket} {char : Char}
    (hskip : flags.skip text = char :: rest) :
    readBracketFrom flags current outer text =
      (bracketStep flags current outer char rest).bind fun
        | .done set rest => some (set, rest)
        | .more current outer rest => readBracketFrom flags current outer rest := by
  rw [readBracketFrom]
  split
  · next hnil =>
    rw [hskip] at hnil
    cases hnil
  · next hcons =>
    rw [hskip] at hcons
    obtain ⟨rfl, rfl⟩ := List.cons.inj hcons
    split
    · next hstep =>
      rw [hstep]
      rfl
    · next hstep =>
      rw [hstep]
      rfl
    · next current' outer' rest' hstep =>
      change readBracketFrom flags current' outer' rest' = _
      rw [hstep]
      rfl

theorem readBracketFrom_nil (current : Bracket) (outer : List Bracket) :
    readBracketFrom flags current outer [] = none := by
  rw [readBracketFrom]
  split
  · rfl
  · next hcons =>
    have hlength := flags.skip_length []
    rw [hcons] at hlength
    cases hlength

theorem readBracketFrom_append {current : Bracket} {outer : List Bracket} {set : CharSet}
    (h : readBracketFrom flags current outer text = some (set, rest)) (after : List Char) :
    readBracketFrom flags current outer (text ++ ')' :: after) =
      some (set, rest ++ ')' :: after) := by
  fun_induction readBracketFrom flags current outer text with
  | case1 => cases h
  | case2 => cases h
  | case3 current outer text char middle hskip set' rest' hstep =>
    obtain ⟨rfl, rfl⟩ := Prod.mk.inj (Option.some.inj h)
    rw [readBracketFrom_of_skip (Flags.skip_append_of_eq_cons hskip _),
      bracketStep_append hstep (Or.inl (eq_of_bracketStep_done hstep))]
    rfl
  | case4 current outer text char middle hskip current' outer' rest' hstep _ ih =>
    have hrest : rest' ≠ [] := by
      rintro rfl
      rw [readBracketFrom_nil] at h
      cases h
    rw [readBracketFrom_of_skip (Flags.skip_append_of_eq_cons hskip _),
      bracketStep_append hstep (Or.inr hrest)]
    exact ih h

/-- A class is the same if the text goes on. -/
theorem readBracket_append {set : CharSet} (h : readBracket flags text = some (set, rest))
    (after : List Char) :
    readBracket flags (text ++ ')' :: after) = some (set, rest ++ ')' :: after) := by
  have hfrom : readBracketFrom flags (openBracket flags text).1 [] (openBracket flags text).2 =
      some (set, rest) := h
  have hne : (openBracket flags text).2 ≠ [] := by
    intro hnil
    rw [hnil, readBracketFrom_nil] at hfrom
    cases hfrom
  change readBracketFrom flags (openBracket flags (text ++ ')' :: after)).1 []
    (openBracket flags (text ++ ')' :: after)).2 = _
  rw [openBracket_append hne]
  exact readBracketFrom_append hfrom after

end RoutePatterns.Regex
