import RoutePatterns.Pattern.Segment
import RoutePatterns.Proofs.Pattern.Grammar
import RoutePatterns.Proofs.Text.Cutting
import RoutePatterns.Proofs.Text.Joining

/-!
# Paths that can be divided in one way only

If every segment of a token list is a single piece, each token after a parameter begins with the
delimiter (`Token.spaced_of_segments`). If then only the last token is optional or repeats, a path
is divided into texts of the tokens and a tail in one way at most (`Fills.takens_eq`): static text
is told by its length, a single value ends before the next delimiter, and the text of the last
parameter cannot end with the delimiter that the tail may be.
-/

set_option autoImplicit false
set_option relaxedAutoImplicit false

namespace RoutePatterns

open Text

variable {options : PatternOptions}

/-! ### Texts that are empty or begin with a mark -/

/-- The text is empty or begins with the mark. -/
def OpensWith (mark : Char) (text : List Char) : Prop :=
  ∀ char ∈ text.head?, char = mark

theorem opensWith_nil (mark : Char) : OpensWith mark [] := by
  rintro _ ⟨⟩

theorem opensWith_cons_iff {mark char : Char} {text : List Char} :
    OpensWith mark (char :: text) ↔ char = mark := by
  simp [OpensWith]

theorem OpensWith.append {mark : Char} {front back : List Char} (hfront : OpensWith mark front)
    (hback : OpensWith mark back) : OpensWith mark (front ++ back) := by
  cases front with
  | nil => exact hback
  | cons char front => exact opensWith_cons_iff.mpr (opensWith_cons_iff.mp hfront)

/-- A text without the mark is told from what follows it, if that begins with the mark. -/
theorem OpensWith.cancel {mark : Char} {front front' back back' : List Char}
    (hfront : mark ∉ front) (hfront' : mark ∉ front') (hback : OpensWith mark back)
    (hback' : OpensWith mark back') (h : front ++ back = front' ++ back') :
    front = front' ∧ back = back' := by
  induction front generalizing front' with
  | nil =>
    cases front' with
    | nil => exact ⟨rfl, h⟩
    | cons char' front' =>
      rw [List.nil_append] at h
      rw [h] at hback
      exact absurd (opensWith_cons_iff.mp hback ▸ List.mem_cons_self) hfront'
  | cons char front ih =>
    cases front' with
    | nil =>
      rw [List.nil_append] at h
      rw [← h] at hback'
      exact absurd (opensWith_cons_iff.mp hback' ▸ List.mem_cons_self) hfront
    | cons char' front' =>
      obtain ⟨rfl, hrest⟩ := List.cons.inj h
      rw [List.mem_cons, not_or] at hfront hfront'
      obtain ⟨rfl, hback⟩ := ih hfront.2 hfront'.2 hrest
      exact ⟨rfl, hback⟩

/-! ### Tokens that begin with the delimiter -/

namespace Token

/-- All pieces of the token begin with the delimiter. -/
def Opens (delimiter : Char) (token : Token) : Prop :=
  ∀ piece ∈ token.pieces delimiter, piece.startsSegment delimiter = true

theorem head?_of_opens_literal {delimiter : Char} {text : String}
    (h : Opens delimiter (.literal text)) : OpensWith delimiter text.toList := by
  intro char hchar
  have hflatten := flatten_splitBefore delimiter text.toList
  cases hcut : splitBefore delimiter text.toList with
  | nil =>
    rw [hcut] at hflatten
    rw [← hflatten] at hchar
    cases hchar
  | cons first others =>
    have hmem : first ∈ splitBefore delimiter text.toList := hcut ▸ List.mem_cons_self
    have hopens := h (.literal (String.ofList first))
      (List.mem_map.mpr ⟨_, List.mem_map.mpr ⟨first, hmem, rfl⟩, rfl⟩)
    rw [Piece.startsSegment, String.toList_ofList, beq_iff_eq] at hopens
    rw [hcut, List.flatten_cons] at hflatten
    rw [← hflatten, List.head?_append, hopens, Option.some_or] at hchar
    exact (Option.some.inj hchar).symm

/-- A token that begins with the delimiter stands for texts that do. -/
theorem opensWith_of_contributes {token : Token} {part : List Char}
    (hdelimiter : isAsciiPunctuation options.delimiter = true)
    (hopens : token.Opens options.delimiter) (h : token.Contributes options part) :
    OpensWith options.delimiter part := by
  cases token with
  | literal text =>
    have htext := head?_of_opens_literal hopens
    cases part with
    | nil => exact opensWith_nil _
    | cons char part =>
      obtain ⟨first, rest, hchar, -, hlist⟩ := List.forall₂_cons_right_iff.mp h
      rw [hlist, opensWith_cons_iff] at htext
      rw [htext, sameChar_iff_of_punctuation hdelimiter] at hchar
      exact opensWith_cons_iff.mpr hchar
  | param parameter =>
    obtain ⟨taken, -, rfl⟩ := h
    have hlead : parameter.lead = some options.delimiter :=
      beq_iff_eq.mp (hopens _ List.mem_cons_self)
    cases taken with
    | none => exact opensWith_nil _
    | some values =>
      rw [Param.textOf, hlead]
      exact opensWith_cons_iff.mpr rfl

/-- After a parameter every token begins with the delimiter, and a parameter that is not the last
token takes one value. -/
def Spaced (delimiter : Char) : List Token → Prop
  | [] => True
  | .literal _ :: tokens => Spaced delimiter tokens
  | .param parameter :: tokens =>
    (∀ token ∈ tokens, token.Opens delimiter) ∧ (tokens ≠ [] → parameter.quantifier = .one) ∧
      Spaced delimiter tokens

theorem spaced_of_opens {delimiter : Char} {tokens : List Token}
    (hopens : ∀ piece ∈ (tokens.flatMap (pieces delimiter)).tail,
      piece.startsSegment delimiter = true)
    (hone : ∀ parameter, .param parameter ∈ tokens.dropLast → parameter.quantifier = .one) :
    Spaced delimiter tokens := by
  induction tokens with
  | nil => trivial
  | cons token tokens ih =>
    have hrest : ∀ parameter, .param parameter ∈ tokens.dropLast → parameter.quantifier = .one := by
      intro parameter hmem
      refine hone parameter ?_
      rw [List.dropLast_cons_of_ne_nil (by rintro rfl; cases hmem)]
      exact List.mem_cons_of_mem _ hmem
    cases token with
    | literal text =>
      refine ih (fun piece hpiece ↦ hopens piece ?_) hrest
      rw [List.flatMap_cons]
      cases (Token.literal text).pieces delimiter with
      | nil => exact hpiece
      | cons first others => exact List.mem_append_right _ (List.mem_of_mem_tail hpiece)
    | param parameter =>
      have hall : ∀ piece ∈ tokens.flatMap (pieces delimiter),
          piece.startsSegment delimiter = true := hopens
      refine ⟨fun token htoken piece hpiece ↦ ?_, fun hne ↦ hone parameter ?_, ih ?_ hrest⟩
      · exact hall piece (List.mem_flatMap.mpr ⟨token, htoken, hpiece⟩)
      · rw [List.dropLast_cons_of_ne_nil hne]
        exact List.mem_cons_self
      · exact fun piece hpiece ↦ hall piece (List.mem_of_mem_tail hpiece)

/-- Segments of one piece each are spaced, if only the last token is optional or repeats. -/
theorem spaced_of_segments {delimiter : Char} {tokens : List Token}
    (hsegments : ∀ segment ∈ segments delimiter tokens, segment.length = 1)
    (hone : ∀ parameter, .param parameter ∈ tokens.dropLast → parameter.quantifier = .one) :
    Spaced delimiter tokens :=
  spaced_of_opens (opens_of_length_cutBefore hsegments) hone

end Token

/-! ### The division of a path -/

namespace Param

variable {delimiter : Char} {parameter : Param} {taken taken' : Taken}

/-- The text of values does not end with the delimiter. -/
theorem getLast?_textOf_ne (htaken : parameter.Takes delimiter taken) :
    (parameter.textOf delimiter taken).getLast? ≠ some delimiter := by
  cases taken with
  | none => simp [textOf]
  | some values =>
    obtain ⟨hne, -, hvalues⟩ := htaken
    obtain ⟨front, last, hlast, hjoin⟩ :=
      @exists_joinWith_eq_append (parameter.separator delimiter) values hne
    obtain ⟨hlastNe, hdelimiter, -⟩ := hvalues last hlast
    rw [textOf, hjoin, ← List.append_assoc, List.getLast?_append_of_ne_nil _ hlastNe]
    exact fun heq ↦ hdelimiter (List.mem_of_getLast? heq)

/-- The values are told by their text. -/
theorem taken_eq_of_textOf_eq (htaken : parameter.Takes delimiter taken)
    (htaken' : parameter.Takes delimiter taken')
    (h : parameter.textOf delimiter taken = parameter.textOf delimiter taken') :
    taken = taken' := by
  have hne : ∀ values, parameter.Takes delimiter (some values) →
      parameter.textOf delimiter (some values) ≠ [] := by
    rintro values ⟨hne, -, hvalues⟩ hnil
    obtain ⟨front, last, hlast, hjoin⟩ :=
      @exists_joinWith_eq_append (parameter.separator delimiter) values hne
    rw [textOf, hjoin, ← List.append_assoc] at hnil
    exact (hvalues last hlast).1 (List.append_eq_nil_iff.mp hnil).2
  cases taken with
  | none =>
    cases taken' with
    | none => rfl
    | some values => exact absurd h.symm (hne values htaken')
  | some values =>
    cases taken' with
    | none => exact absurd h (hne values htaken)
    | some values' =>
      have hjoin := congrArg (fields (parameter.separator delimiter)) (List.append_cancel_left h)
      rw [fields_joinWith htaken.1 fun value hvalue ↦ (htaken.2.2 value hvalue).separator_notMem,
        fields_joinWith htaken'.1 fun value hvalue ↦ (htaken'.2.2 value hvalue).separator_notMem]
        at hjoin
      rw [hjoin]

theorem exists_value_of_one (hone : parameter.quantifier = .one)
    (htaken : parameter.Takes delimiter taken) :
    ∃ value, parameter.IsValue delimiter value ∧ taken = some [value] ∧
      parameter.textOf delimiter taken = parameter.lead.toList ++ value := by
  cases taken with
  | none =>
    rw [Takes, isOptional, hone] at htaken
    cases htaken
  | some values =>
    obtain ⟨-, hlength, hvalues⟩ := htaken
    rw [isRepeating, hone] at hlength
    obtain ⟨value, rfl⟩ := List.length_eq_one_iff.mp (hlength rfl)
    exact ⟨value, hvalues value List.mem_cons_self, rfl, rfl⟩

end Param

theorem IsTail.opensWith {tail : List Char} (h : IsTail options tail) :
    OpensWith options.delimiter tail := by
  rcases h with rfl | ⟨-, rfl⟩
  · exact opensWith_nil _
  · exact opensWith_cons_iff.mpr rfl

theorem Fills.opensWith {tokens : List Token} {parts : List (List Char)} {takens : List Taken}
    (h : Fills options tokens parts takens)
    (hdelimiter : isAsciiPunctuation options.delimiter = true)
    (hopens : ∀ token ∈ tokens, token.Opens options.delimiter) :
    OpensWith options.delimiter parts.flatten := by
  induction h with
  | nil => exact opensWith_nil _
  | literal hpart _ ih =>
    obtain ⟨htoken, htokens⟩ := List.forall_mem_cons.mp hopens
    exact (Token.opensWith_of_contributes hdelimiter htoken hpart).append (ih htokens)
  | param htaken _ ih =>
    obtain ⟨htoken, htokens⟩ := List.forall_mem_cons.mp hopens
    exact (Token.opensWith_of_contributes hdelimiter htoken ⟨_, htaken, rfl⟩).append (ih htokens)

/-- Spaced tokens take the same values wherever a path is divided, with a tail or without. -/
theorem Fills.takens_eq {tokens : List Token} {parts parts' : List (List Char)}
    {takens takens' : List Taken} {tail : List Char} (h : Fills options tokens parts takens)
    (h' : Fills options tokens parts' takens') (htail : IsTail options tail)
    (hdelimiter : isAsciiPunctuation options.delimiter = true)
    (hspaced : Token.Spaced options.delimiter tokens)
    (hpath : parts.flatten = parts'.flatten ++ tail) : takens = takens' := by
  induction h generalizing parts' takens' with
  | nil =>
    cases h'
    rfl
  | literal hpart _ ih =>
    cases h' with
    | literal hpart' hrest' =>
      rw [List.flatten_cons, List.flatten_cons, List.append_assoc] at hpath
      have hlength := hpart.length_eq.symm.trans hpart'.length_eq
      exact ih hrest' hspaced (List.append_inj_right hpath hlength)
  | @param parameter taken tokens parts takens htaken hrest ih =>
    cases h' with
    | @param _ taken' _ parts' takens' htaken' hrest' =>
      obtain ⟨hopens, hone, hspaced⟩ := hspaced
      rw [List.flatten_cons, List.flatten_cons, List.append_assoc] at hpath
      cases htokens : tokens with
      | nil =>
        subst htokens
        cases hrest
        cases hrest'
        rw [List.flatten_nil, List.append_nil, List.nil_append] at hpath
        rcases htail with rfl | ⟨-, rfl⟩
        · rw [List.append_nil] at hpath
          rw [Param.taken_eq_of_textOf_eq htaken htaken' hpath]
        · have hlast := Param.getLast?_textOf_ne htaken
          rw [hpath, List.getLast?_concat] at hlast
          exact absurd rfl hlast
      | cons token others =>
        have hquantifier := hone (by rw [htokens]; simp)
        obtain ⟨value, hvalue, rfl, htext⟩ := Param.exists_value_of_one hquantifier htaken
        obtain ⟨value', hvalue', rfl, htext'⟩ := Param.exists_value_of_one hquantifier htaken'
        rw [htext, htext', List.append_assoc, List.append_assoc] at hpath
        obtain ⟨rfl, hflatten⟩ := OpensWith.cancel hvalue.2.1 hvalue'.2.1
          (hrest.opensWith hdelimiter hopens)
          ((hrest'.opensWith hdelimiter hopens).append htail.opensWith)
          (List.append_cancel_left hpath)
        rw [ih hrest' hspaced hflatten]

end RoutePatterns
