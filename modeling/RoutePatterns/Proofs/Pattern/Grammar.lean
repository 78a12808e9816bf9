import Mathlib.Data.List.Forall2
import RoutePatterns.Proofs.Pattern.Tokens
import RoutePatterns.Text.FoldCase

/-!
# The paths that tokens describe

A path of a token list is one text for each token, one after the other, and a tail. Static text
stands for the texts that are the same but possibly for case (`SameText`). A parameter stands for
its lead and the values it takes, joined by its separator (`Param.textOf`), where a value is any
non-empty text without the delimiter and the lead (`Param.IsValue`). The tail (`IsTail`) is the
delimiter or nothing.

`Token.Contributes` is the relation for one token. `Fills` relates a token list to its texts and to
the values that its parameters take, in pattern order.

Delimiters and leads are ASCII punctuation, which has no case: `sameChar_iff_of_punctuation`.
-/

set_option autoImplicit false
set_option relaxedAutoImplicit false

namespace RoutePatterns

open Text

/-! ### Characters that count as the same -/

/-- The characters are the same, or fold alike unless the options tell cases apart. -/
def SameChar (options : PatternOptions) (char other : Char) : Prop :=
  if options.sensitive then char = other else fold char = fold other

instance (options : PatternOptions) (char other : Char) : Decidable (SameChar options char other) :=
  inferInstanceAs (Decidable (if options.sensitive then char = other else fold char = fold other))

/-- The texts are the same character by character. -/
def SameText (options : PatternOptions) (text other : List Char) : Prop :=
  List.Forall₂ (SameChar options) text other

instance (options : PatternOptions) (text other : List Char) :
    Decidable (SameText options text other) :=
  inferInstanceAs (Decidable (List.Forall₂ _ _ _))

variable {options : PatternOptions}

theorem sameChar_refl (options : PatternOptions) (char : Char) : SameChar options char char := by
  unfold SameChar
  split <;> rfl

theorem sameText_refl (options : PatternOptions) (text : List Char) :
    SameText options text text :=
  List.forall₂_same.mpr fun char _ ↦ sameChar_refl options char

theorem SameText.length_eq {text other : List Char} (h : SameText options text other) :
    text.length = other.length :=
  List.Forall₂.length_eq h

theorem SameText.eq_of_sensitive (hsensitive : options.sensitive = true) {text other : List Char}
    (h : SameText options text other) : text = other := by
  have hchar : ∀ char other, SameChar options char other → char = other := by
    intro char other hsame
    rwa [SameChar, if_pos hsensitive] at hsame
  exact List.forall₂_eq_eq_eq ▸ h.imp hchar

/-- Punctuation has no case. -/
theorem eq_of_fold_eq_of_punctuation {char other : Char} (hother : isAsciiPunctuation other = true)
    (h : fold char = fold other) : char = other := by
  have hcode : other.toNat < 0x80 ∧ ¬ (0x41 ≤ other.toNat ∧ other.toNat ≤ 0x5A) ∧
      ¬ (0x61 ≤ other.toNat ∧ other.toNat ≤ 0x7A) := by
    simp only [isAsciiPunctuation, Bool.or_eq_true, Bool.and_eq_true, decide_eq_true_eq] at hother
    omega
  obtain ⟨hascii, hupper, hlower⟩ := hcode
  have hfold : fold other = other.toNat := by
    rw [fold, if_pos hascii, if_neg (by simpa using hupper)]
  have horbit : orbit other = [other].filter fun other' ↦ fold other' == fold other := by
    rw [orbit, hfold, foldOrigins, if_pos hascii, asciiOrigins, if_neg (by simpa using hlower)]
    simp
  have hmem : char ∈ orbit other := mem_orbit_iff.mpr h
  rw [horbit] at hmem
  simpa using (List.mem_filter.mp hmem).1

/-- Punctuation is the same as itself only, whether case counts or not. -/
theorem sameChar_iff_of_punctuation {char other : Char} (h : isAsciiPunctuation char = true) :
    SameChar options char other ↔ other = char := by
  unfold SameChar
  split
  · exact eq_comm
  · exact ⟨fun hfold ↦ eq_of_fold_eq_of_punctuation h hfold.symm, fun heq ↦ heq ▸ rfl⟩

theorem isAsciiPunctuation_of_isDelimiter {char : Char}
    (h : PatternOptions.isDelimiter char = true) : isAsciiPunctuation char = true :=
  ((Bool.and_eq_true _ _).mp h).1

theorem validate_eq_ok_iff :
    options.validate = .ok () ↔ PatternOptions.isDelimiter options.delimiter = true := by
  unfold PatternOptions.validate
  split <;> simp_all

/-! ### The texts of tokens -/

/-- The values that a parameter takes; nothing if it is absent. -/
abbrev Taken := Option (List (List Char))

namespace Param

/-- A text that a parameter takes as a value: any but the empty text and those with the delimiter
or the lead. -/
def IsValue (delimiter : Char) (parameter : Param) (value : List Char) : Prop :=
  value ≠ [] ∧ delimiter ∉ value ∧ ∀ lead ∈ parameter.lead, lead ∉ value

instance (delimiter : Char) (parameter : Param) (value : List Char) :
    Decidable (parameter.IsValue delimiter value) :=
  decidable_of_iff
    (value ≠ [] ∧ delimiter ∉ value ∧ parameter.lead.all (fun lead ↦ decide (lead ∉ value)) = true)
    (by simp only [IsValue, Option.all_eq_true, Option.mem_def, decide_eq_true_eq])

theorem IsValue.separator_notMem {delimiter : Char} {parameter : Param} {value : List Char}
    (h : parameter.IsValue delimiter value) : parameter.separator delimiter ∉ value := by
  obtain ⟨-, hdelimiter, hlead⟩ := h
  unfold separator
  cases hcase : parameter.lead with
  | none => exact hdelimiter
  | some lead => exact hlead lead hcase

/-- The parameter may be absent if it is optional; otherwise it takes one value, or any number of
them if it repeats. -/
def Takes (delimiter : Char) (parameter : Param) : Taken → Prop
  | none => parameter.isOptional = true
  | some values =>
    values ≠ [] ∧ (parameter.isRepeating = false → values.length = 1) ∧
      ∀ value ∈ values, parameter.IsValue delimiter value

instance (delimiter : Char) (parameter : Param) (taken : Taken) :
    Decidable (parameter.Takes delimiter taken) :=
  match taken with
  | none => inferInstanceAs (Decidable (_ = true))
  | some _ => inferInstanceAs (Decidable (_ ∧ (_ → _) ∧ _))

/-- The text of values: the lead and the values with the separator between them. -/
def textOf (delimiter : Char) (parameter : Param) : Taken → List Char
  | none => []
  | some values => parameter.lead.toList ++ joinWith (parameter.separator delimiter) values

end Param

/-- The text is one of those that the token stands for. -/
def Token.Contributes (options : PatternOptions) : Token → List Char → Prop
  | .literal text, part => SameText options text.toList part
  | .param parameter, part =>
    ∃ taken, parameter.Takes options.delimiter taken ∧
      part = parameter.textOf options.delimiter taken

/-- What may follow the last token: nothing, or the delimiter unless the options are strict. -/
def IsTail (options : PatternOptions) (tail : List Char) : Prop :=
  tail = [] ∨ options.strict = false ∧ tail = [options.delimiter]

/-- The parts are texts of the tokens, and the parameters take the values taken. -/
inductive Fills (options : PatternOptions) : List Token → List (List Char) → List Taken → Prop
  | nil : Fills options [] [] []
  | literal {text : String} {part : List Char} {tokens : List Token} {parts : List (List Char)}
      {takens : List Taken} (hpart : SameText options text.toList part)
      (hrest : Fills options tokens parts takens) :
      Fills options (.literal text :: tokens) (part :: parts) takens
  | param {parameter : Param} {taken : Taken} {tokens : List Token} {parts : List (List Char)}
      {takens : List Taken} (htaken : parameter.Takes options.delimiter taken)
      (hrest : Fills options tokens parts takens) :
      Fills options (.param parameter :: tokens)
        (parameter.textOf options.delimiter taken :: parts) (taken :: takens)

/-- Parts are texts of the tokens exactly if the parameters take values for which they are. -/
theorem forall₂_contributes_iff {tokens : List Token} {parts : List (List Char)} :
    List.Forall₂ (Token.Contributes options) tokens parts ↔
      ∃ takens, Fills options tokens parts takens := by
  constructor
  · intro h
    induction h with
    | nil => exact ⟨[], .nil⟩
    | @cons token part _ _ hpart _ ih =>
      obtain ⟨takens, hrest⟩ := ih
      cases token with
      | literal text => exact ⟨takens, .literal hpart hrest⟩
      | param parameter =>
        obtain ⟨taken, htaken, rfl⟩ := hpart
        exact ⟨taken :: takens, .param htaken hrest⟩
  · rintro ⟨takens, h⟩
    induction h with
    | nil => exact .nil
    | literal hpart _ ih => exact .cons hpart ih
    | param htaken _ ih => exact .cons ⟨_, htaken, rfl⟩ ih

end RoutePatterns
