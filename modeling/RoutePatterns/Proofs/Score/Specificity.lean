import RoutePatterns.Proofs.Score.Exact
import RoutePatterns.Proofs.Text.Cutting

/-!
# One token more specific

Two token lists that differ in one token of a single piece have the same segments but for that piece
(`exists_segments_exchange`), if both pieces begin a segment or none does. So their scores compare
as the two pieces do, as whole segments or within a longer one (`segmentValue_exchange`). A more
specific token (`Token.IsMoreSpecific`) counts more in every place, and a parameter that repeats
counts less than one that does not if it is a whole segment, and the same within a longer one
(`exactScore_exchange`).
-/

set_option autoImplicit false
set_option relaxedAutoImplicit false

namespace RoutePatterns

open Text

/-- The segment that holds the piece at a position. -/
def segmentAt : List (List Piece) → ℕ → List Piece
  | [], _ => []
  | segment :: others, position =>
    if position < segment.length then segment
    else segmentAt others (position - segment.length)

theorem segmentAt_append (front back : List (List Piece)) (left right : List Piece)
    (piece : Piece) :
    segmentAt (front ++ (left ++ piece :: right) :: back) (front.flatten ++ left).length =
      left ++ piece :: right := by
  induction front with
  | nil =>
    have hlt : left.length < (left ++ piece :: right).length := by simp
    exact if_pos hlt
  | cons segment front ih =>
    rw [List.cons_append, segmentAt, List.flatten_cons, List.append_assoc, List.length_append,
      if_neg (by omega), Nat.add_sub_cancel_left, ih]

namespace Token

/-- The first token is more specific than the second: it is text other than the delimiter alone and
the second a parameter, or both are parameters, of which the first has a higher kind or alone is
required. -/
inductive IsMoreSpecific (delimiter : Char) : Token → Token → Prop
  | literal {text : String} (htext : isDelimiterAlone delimiter text = false) (other : Param) :
      IsMoreSpecific delimiter (.literal text) (.param other)
  | kind {parameter other : Param} (hquantifier : parameter.quantifier = other.quantifier)
      (hkind : other.kind.rank < parameter.kind.rank) :
      IsMoreSpecific delimiter (.param parameter) (.param other)
  | required {parameter other : Param} (hkind : parameter.kind = other.kind)
      (hrepeating : parameter.isRepeating = other.isRepeating)
      (hrequired : parameter.isOptional = false) (hoptional : other.isOptional = true) :
      IsMoreSpecific delimiter (.param parameter) (.param other)

/-- The tokens are parameters of one kind, both optional or none, of which the second alone takes a
list of values. -/
inductive IsRepeatedBy : Token → Token → Prop
  | param {parameter other : Param} (hkind : parameter.kind = other.kind)
      (hoptional : parameter.isOptional = other.isOptional)
      (hsingle : parameter.isRepeating = false) (hrepeating : other.isRepeating = true) :
      IsRepeatedBy (.param parameter) (.param other)

/-- The piece that the token is if it is a single one. -/
def toPiece : Token → Piece
  | .literal text => .literal text
  | .param parameter => .param parameter

theorem eq_toPiece_of_pieces {delimiter : Char} {token : Token} {piece : Piece}
    (h : token.pieces delimiter = [piece]) : piece = token.toPiece := by
  cases token with
  | literal text =>
    rw [pieces, splitText, List.map_map] at h
    obtain ⟨chars, hsplit, rfl⟩ := List.map_eq_singleton_iff.mp h
    have hflatten := flatten_splitBefore delimiter text.toList
    rw [hsplit, List.flatten_singleton] at hflatten
    rw [hflatten, Function.comp, String.ofList_toList, toPiece]
  | param parameter => exact (List.singleton_inj.mp h).symm

end Token

variable {delimiter : Char} {token other : Token}

namespace Token

theorem IsMoreSpecific.share_lt (h : token.IsMoreSpecific delimiter other) :
    other.toPiece.share < token.toPiece.share := by
  cases h with
  | @literal text htext parameter =>
    have hrank : (Piece.param parameter).rank < (Piece.literal text).rank :=
      Piece.rank_lt_three parameter
    have hadd := Piece.share_add_le hrank
    rw [toPiece, toPiece]
    linarith
  | @kind parameter other hquantifier hkind =>
    have hrank : (Piece.param other).rank < (Piece.param parameter).rank := hkind
    have hadd := Piece.share_add_le hrank
    rw [toPiece, toPiece]
    linarith
  | required hkind hrepeating hrequired hoptional =>
    simp only [toPiece, Piece.share_eq, Piece.rank, Piece.isOptional, hkind, hrequired, hoptional]
    norm_num

theorem IsMoreSpecific.segmentValue_lt (h : token.IsMoreSpecific delimiter other) :
    segmentValue delimiter [other.toPiece] < segmentValue delimiter [token.toPiece] := by
  cases h with
  | literal htext parameter =>
    rw [toPiece, toPiece, segmentValue_literal htext]
    linarith [segmentValue_param_le delimiter parameter]
  | @kind parameter other hquantifier hkind =>
    have hvalue := ParamKind.value_lt_of_rank_lt hkind
    have hoptional : parameter.isOptional = other.isOptional :=
      congrArg Quantifier.isOptional hquantifier
    have hrepeating : parameter.isRepeating = other.isRepeating :=
      congrArg Quantifier.isRepeating hquantifier
    rw [toPiece, toPiece, segmentValue_param, segmentValue_param, hoptional, hrepeating]
    linarith
  | required hkind hrepeating hrequired hoptional =>
    rw [toPiece, toPiece, segmentValue_param, segmentValue_param, hkind, hrepeating, hrequired,
      hoptional]
    norm_num

theorem IsMoreSpecific.ne_root (h : token.IsMoreSpecific delimiter other) :
    token ≠ .literal (String.singleton delimiter) ∧
      other ≠ .literal (String.singleton delimiter) := by
  cases h with
  | literal htext parameter =>
    exact ⟨fun heq ↦ isDelimiterAlone_eq_false_iff.mp htext (literal.inj heq), Token.noConfusion⟩
  | kind hquantifier hkind => exact ⟨Token.noConfusion, Token.noConfusion⟩
  | required hkind hrepeating hrequired hoptional => exact ⟨Token.noConfusion, Token.noConfusion⟩

theorem IsRepeatedBy.share_eq (h : token.IsRepeatedBy other) :
    token.toPiece.share = other.toPiece.share := by
  obtain ⟨hkind, hoptional, -, -⟩ := h
  exact Piece.share_congr (congrArg ParamKind.rank hkind) hoptional

theorem IsRepeatedBy.segmentValue_lt (h : token.IsRepeatedBy other) :
    segmentValue delimiter [other.toPiece] < segmentValue delimiter [token.toPiece] := by
  obtain ⟨hkind, hoptional, hsingle, hrepeating⟩ := h
  rw [toPiece, toPiece, segmentValue_param, segmentValue_param, hkind, hoptional, hsingle,
    hrepeating]
  norm_num

theorem IsRepeatedBy.ne_root (h : token.IsRepeatedBy other) :
    token ≠ .literal (String.singleton delimiter) ∧
      other ≠ .literal (String.singleton delimiter) := by
  obtain ⟨-, -, -, -⟩ := h
  exact ⟨Token.noConfusion, Token.noConfusion⟩

end Token

/-! ### A piece among others -/

theorem decayedSum_exchange (left right : List Piece) (piece piece' : Piece) :
    decayedSum (left ++ piece :: right) - decayedSum (left ++ piece' :: right) =
      (piece.share - piece'.share) / 10 ^ left.length := by
  induction left with
  | nil =>
    simp only [List.nil_append, decayedSum, List.length_nil, pow_zero]
    ring
  | cons head left ih =>
    rw [List.cons_append, List.cons_append, decayedSum, decayedSum, List.length_cons, pow_succ,
      ← div_div, ← ih]
    ring

theorem two_le_length_append_cons {left right : List Piece} (piece : Piece)
    (h : left ≠ [] ∨ right ≠ []) : 2 ≤ (left ++ piece :: right).length := by
  have hpos : 0 < left.length ∨ 0 < right.length :=
    h.imp List.length_pos_of_ne_nil List.length_pos_of_ne_nil
  rw [List.length_append, List.length_cons]
  omega

theorem segmentValue_exchange {left right : List Piece} (piece piece' : Piece)
    (h : left ≠ [] ∨ right ≠ []) :
    segmentValue delimiter (left ++ piece :: right) -
        segmentValue delimiter (left ++ piece' :: right) =
      (piece.share - piece'.share) / 10 ^ (left.length + 1) := by
  rw [segmentValue_of_two_le (two_le_length_append_cons piece h),
    segmentValue_of_two_le (two_le_length_append_cons piece' h), pow_succ, ← div_div,
    ← decayedSum_exchange left right piece piece']
  ring

namespace Token

theorem IsMoreSpecific.segmentValue_append_lt (h : token.IsMoreSpecific delimiter other)
    (left right : List Piece) :
    segmentValue delimiter (left ++ other.toPiece :: right) <
      segmentValue delimiter (left ++ token.toPiece :: right) := by
  by_cases halone : left = [] ∧ right = []
  · obtain ⟨rfl, rfl⟩ := halone
    exact h.segmentValue_lt
  · have hsub := @segmentValue_exchange delimiter left right token.toPiece other.toPiece
      (not_and_or.mp halone)
    have hpos := div_pos (sub_pos.mpr h.share_lt) (pow_pos (by norm_num : (0 : ℚ) < 10)
      (left.length + 1))
    linarith

theorem IsRepeatedBy.segmentValue_append_le (h : token.IsRepeatedBy other)
    (left right : List Piece) :
    segmentValue delimiter (left ++ other.toPiece :: right) ≤
        segmentValue delimiter (left ++ token.toPiece :: right) ∧
      (segmentValue delimiter (left ++ other.toPiece :: right) =
          segmentValue delimiter (left ++ token.toPiece :: right) ↔
        1 < (left ++ token.toPiece :: right).length) := by
  by_cases halone : left = [] ∧ right = []
  · obtain ⟨rfl, rfl⟩ := halone
    have hlt := @h.segmentValue_lt delimiter
    exact ⟨hlt.le, by simp [hlt.ne]⟩
  · have hothers := not_and_or.mp halone
    have hsub := @segmentValue_exchange delimiter left right token.toPiece other.toPiece hothers
    rw [h.share_eq, sub_self, zero_div, sub_eq_zero] at hsub
    exact ⟨hsub.ge, iff_of_true hsub.symm (two_le_length_append_cons _ hothers)⟩

end Token

/-! ### A token among others -/

/-- Token lists that differ in one token of a single piece have the same segments but for that
piece. -/
theorem exists_segments_exchange {piece piece' : Piece} (before after : List Token)
    (hpiece : token.pieces delimiter = [piece]) (hpiece' : other.pieces delimiter = [piece'])
    (hstarts : piece.startsSegment delimiter = piece'.startsSegment delimiter) :
    ∃ front left right back, front.flatten ++ left = before.flatMap (Token.pieces delimiter) ∧
      segments delimiter (before ++ token :: after) = front ++ (left ++ piece :: right) :: back ∧
      segments delimiter (before ++ other :: after) =
        front ++ (left ++ piece' :: right) :: back := by
  obtain ⟨front, left, right, back, hfront, hcut, hcut'⟩ :=
    exists_cutBefore_exchange (before.flatMap (Token.pieces delimiter))
      (after.flatMap (Token.pieces delimiter)) hstarts
  refine ⟨front, left, right, back, hfront, ?_, ?_⟩
  · rw [segments, List.flatMap_append, List.flatMap_cons, hpiece, List.singleton_append, hcut]
  · rw [segments, List.flatMap_append, List.flatMap_cons, hpiece', List.singleton_append, hcut']

theorem isRoot_append_cons_eq_false (before after : List Token)
    (h : token ≠ .literal (String.singleton delimiter)) :
    isRoot delimiter (before ++ token :: after) = false := by
  by_contra hroot
  have heq := isRoot_iff.mp (Bool.eq_true_of_not_eq_false hroot)
  have hmem : token ∈ before ++ token :: after := by simp
  rw [heq, List.mem_singleton] at hmem
  exact h hmem

/-- Among the same tokens before and after it, a more specific token gives the higher score. A
parameter that repeats gives a lower score than one that does not if it is a whole segment, and the
same score if it shares its segment. -/
theorem exactScore_exchange {piece piece' : Piece} (options : PatternOptions)
    (before after : List Token) (hpiece : token.pieces options.delimiter = [piece])
    (hpiece' : other.pieces options.delimiter = [piece'])
    (hstarts : piece.startsSegment options.delimiter = piece'.startsSegment options.delimiter) :
    (token.IsMoreSpecific options.delimiter other →
      exactScore options (before ++ other :: after) <
        exactScore options (before ++ token :: after)) ∧
    (token.IsRepeatedBy other →
      exactScore options (before ++ other :: after) ≤
          exactScore options (before ++ token :: after) ∧
        (exactScore options (before ++ other :: after) =
            exactScore options (before ++ token :: after) ↔
          1 < (segmentAt (segments options.delimiter (before ++ token :: after))
            (before.flatMap (Token.pieces options.delimiter)).length).length)) := by
  obtain ⟨front, left, right, back, hfront, hsegments, hsegments'⟩ :=
    exists_segments_exchange before after hpiece hpiece' hstarts
  have hsub (hroot : token ≠ .literal (String.singleton options.delimiter) ∧
      other ≠ .literal (String.singleton options.delimiter)) :=
    exactScore_sub_exactScore (isRoot_append_cons_eq_false before after hroot.1)
      (isRoot_append_cons_eq_false before after hroot.2) hsegments hsegments'
  obtain rfl := Token.eq_toPiece_of_pieces hpiece
  obtain rfl := Token.eq_toPiece_of_pieces hpiece'
  constructor
  · intro hspecific
    linarith [hsub hspecific.ne_root, hspecific.segmentValue_append_lt left right]
  · intro hrepeated
    obtain ⟨hle, heq⟩ := @hrepeated.segmentValue_append_le options.delimiter _ _ left right
    have hsub := hsub hrepeated.ne_root
    rw [← hfront, hsegments, segmentAt_append, ← heq]
    refine ⟨by linarith, fun hscore ↦ ?_, fun hvalue ↦ ?_⟩ <;> linarith

/-- A required parameter counts more than an optional one, also with text behind it. Behind text it
does not count that the parameter repeats. -/
theorem exactScore_exchange_optional_repeated :
    exactScore {} [.param ⟨.named "a", "[^/]+?", some '/', .zeroOrOne⟩, .literal "-b"] <
        exactScore {} [.param ⟨.named "a", "[^/]+?", some '/', .one⟩, .literal "-b"] ∧
      exactScore {} [.literal "/a-", .param ⟨.named "b", "[^/]+?", none, .oneOrMore⟩] =
        exactScore {} [.literal "/a-", .param ⟨.named "b", "[^/]+?", none, .one⟩] := by
  let optional : Param := ⟨.named "a", "[^/]+?", some '/', .zeroOrOne⟩
  let required : Param := ⟨.named "a", "[^/]+?", some '/', .one⟩
  let repeating : Param := ⟨.named "b", "[^/]+?", none, .oneOrMore⟩
  let single : Param := ⟨.named "b", "[^/]+?", none, .one⟩
  have hrequired : (Token.param required).IsMoreSpecific '/' (.param optional) :=
    .required (by decide) rfl rfl rfl
  have hrepeated : (Token.param single).IsRepeatedBy (.param repeating) :=
    .param (by decide) rfl rfl rfl
  constructor
  · exact (@exactScore_exchange (.param required) (.param optional) _ _ {} [] [.literal "-b"] rfl
      rfl rfl).1 hrequired
  · exact ((@exactScore_exchange (.param single) (.param repeating) _ _ {} [.literal "/a-"] [] rfl
      rfl rfl).2 hrepeated).2.mpr (by decide)

end RoutePatterns
