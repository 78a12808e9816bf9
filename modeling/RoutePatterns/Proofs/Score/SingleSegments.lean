import RoutePatterns.Proofs.Score.Exact
import RoutePatterns.Proofs.Score.Kinds
import RoutePatterns.Proofs.Text.Cutting

/-!
# Token lists of one segment

A segment of several pieces counts more than six and less than six and a third, however many pieces
there are and whatever they are (`segmentValue_mem_Ioo`). That is between a plain parameter and one
with a group of its own. No segment counts more than seven (`segmentValue_le_seven`), which the root
exceeds by more than the options can add (`exactScore_lt_root`). `exactScore_of_one_segment` puts
the token lists of one segment in this order.

A plain parameter of which no value has the closing bracket in it passes for one with a group of its
own, so that it comes out above every segment of several pieces
(`exactScore_lt_bracket_parameter`).
-/

set_option autoImplicit false
set_option relaxedAutoImplicit false

namespace RoutePatterns

variable {options other : PatternOptions} {delimiter : Char} {tokens : List Token}
  {segment : List Piece}

theorem segmentValue_mem_Ioo (delimiter : Char) (h : 2 ≤ segment.length) :
    segmentValue delimiter segment ∈ Set.Ioo 6 (19 / 3) := by
  obtain ⟨piece, pieces, rfl⟩ := List.exists_cons_of_length_pos (by omega : 0 < segment.length)
  have hpos := decayedSum_cons_pos piece pieces
  have hlt := decayedSum_lt (piece :: pieces)
  rw [segmentValue_of_two_le h]
  constructor <;> linarith

theorem segmentValue_literal_le (delimiter : Char) (text : String) :
    segmentValue delimiter [.literal text] ≤ 7 := by
  cases halone : isDelimiterAlone delimiter text with
  | false => exact (segmentValue_literal halone).le
  | true => norm_num [segmentValue_singleton, Piece.segmentScore, Weights.standard, halone]

theorem segmentValue_le_seven (delimiter : Char) (h : segment ≠ []) :
    segmentValue delimiter segment ≤ 7 := by
  match segment with
  | [.literal text] => exact segmentValue_literal_le delimiter text
  | [.param parameter] => linarith [segmentValue_param_le delimiter parameter]
  | first :: second :: rest =>
    have hlength : 2 ≤ (first :: second :: rest).length := by simp
    linarith [(segmentValue_mem_Ioo delimiter hlength).2]

theorem segmentValue_of_required {parameter : Param} (delimiter : Char)
    (h : parameter.isOptional = false) :
    segmentValue delimiter [.param parameter] =
      4 + parameter.kind.value - if parameter.isRepeating then 1 / 2 else 0 := by
  rw [segmentValue_param, h, if_neg Bool.false_ne_true, sub_zero]

theorem exactScore_of_segments_eq_singleton (hroot : isRoot options.delimiter tokens = false)
    (h : segments options.delimiter tokens = [segment]) :
    exactScore options tokens = bonus options + segmentValue options.delimiter segment := by
  rw [exactScore_of_not_isRoot hroot, h, List.map_singleton, List.sum_singleton]

theorem exactScore_mem_Ioo (h : segments options.delimiter tokens = [segment])
    (hlength : 2 ≤ segment.length) :
    exactScore options tokens ∈ Set.Ioo (bonus options + 6) (bonus options + 19 / 3) := by
  have hmem : segment ∈ segments options.delimiter tokens := by simp [h]
  obtain ⟨hlower, hupper⟩ := segmentValue_mem_Ioo options.delimiter hlength
  rw [exactScore_of_segments_eq_singleton (isRoot_eq_false_of_two_le hmem hlength) h]
  constructor <;> linarith

theorem exactScore_of_required {parameter : Param}
    (h : segments options.delimiter tokens = [[.param parameter]])
    (hrequired : parameter.isOptional = false) :
    exactScore options tokens = bonus options +
      (4 + parameter.kind.value - if parameter.isRepeating then 1 / 2 else 0) := by
  have hmem : [.param parameter] ∈ segments options.delimiter tokens := by simp [h]
  have hroot := isRoot_eq_false_of_mem hmem (by simp)
  rw [exactScore_of_segments_eq_singleton hroot h, segmentValue_of_required _ hrequired]

theorem exactScore_of_literal {text : String}
    (h : segments options.delimiter tokens = [[.literal text]])
    (htext : isDelimiterAlone options.delimiter text = false) :
    exactScore options tokens = bonus options + 7 := by
  have hmem : [.literal text] ∈ segments options.delimiter tokens := by simp [h]
  have hroot := isRoot_eq_false_of_mem hmem (by simpa using isDelimiterAlone_eq_false_iff.mp htext)
  rw [exactScore_of_segments_eq_singleton hroot h, segmentValue_literal htext]

theorem exactScore_root (options : PatternOptions) :
    exactScore options [.literal (String.singleton options.delimiter)] = bonus options + 8 :=
  exactScore_of_isRoot (isRoot_iff.mpr rfl)

/-- The root is above every other token list of one segment, whatever the options are. -/
theorem exactScore_lt_root (hdelimiter : other.delimiter = options.delimiter)
    (h : segments options.delimiter tokens = [segment])
    (hne : tokens ≠ [.literal (String.singleton options.delimiter)]) :
    exactScore options tokens <
      exactScore other [.literal (String.singleton options.delimiter)] := by
  have hroot : isRoot options.delimiter tokens = false :=
    Bool.eq_false_iff.mpr fun hroot ↦ hne (isRoot_iff.mp hroot)
  have hmem : segment ∈ segments options.delimiter tokens := by simp [h]
  have hle := segmentValue_le_seven options.delimiter (Text.ne_nil_of_mem_cutBefore hmem)
  rw [exactScore_of_segments_eq_singleton hroot h, ← hdelimiter, exactScore_root, hdelimiter]
  linarith [bonus_lt_one options, bonus_nonneg other]

/-- A segment of several pieces is above a required parameter without a group of its own, unless the
closing bracket is excluded from the values of that one. It is below a required parameter with a
group of its own that does not repeat, and below static text. The root is above all of them, also
under other options. -/
theorem exactScore_of_one_segment (hdelimiter : other.delimiter = options.delimiter)
    (h : segments options.delimiter tokens = [segment]) :
    (2 ≤ segment.length →
      (∀ alone parameter, segments options.delimiter alone = [[.param parameter]] →
        parameter.isOptional = false →
          (Token.IsPlain options.delimiter (.param parameter) →
            ']' ∉ parameter.excluded options.delimiter →
              exactScore options alone < exactScore options tokens) ∧
          (parameter.kind = .segment → exactScore options alone < exactScore options tokens) ∧
          (parameter.kind = .custom → parameter.isRepeating = false →
            exactScore options tokens < exactScore options alone)) ∧
      ∀ static text, segments options.delimiter static = [[.literal text]] →
        static = [.literal text] ∨ isDelimiterAlone options.delimiter text = false →
          exactScore options tokens < exactScore options static) ∧
    (tokens ≠ [.literal (String.singleton options.delimiter)] →
      exactScore options tokens <
        exactScore other [.literal (String.singleton options.delimiter)]) := by
  refine ⟨fun hlength ↦ ?_, exactScore_lt_root hdelimiter h⟩
  obtain ⟨hlower, hupper⟩ := exactScore_mem_Ioo h hlength
  constructor
  · intro alone parameter halone hrequired
    rw [exactScore_of_required halone hrequired]
    have hsegment (hkind : parameter.kind = .segment) :
        bonus options + (4 + parameter.kind.value - if parameter.isRepeating then 1 / 2 else 0) <
          exactScore options tokens := by
      rw [hkind, ParamKind.value]
      split_ifs <;> linarith
    refine ⟨fun hplain hbracket ↦ ?_, hsegment, fun hkind hsingle ↦ ?_⟩
    · have hkind := Param.kind_of_isPlain hplain
      rw [if_neg hbracket] at hkind
      exact hsegment hkind
    · rw [hkind, ParamKind.value, hsingle, if_neg Bool.false_ne_true]
      linarith
  · intro static text hstatic htext
    cases halone : isDelimiterAlone options.delimiter text with
    | false =>
      rw [exactScore_of_literal hstatic halone]
      linarith
    | true =>
      obtain rfl := htext.resolve_right (by simp [halone])
      have hroot : isRoot options.delimiter [.literal text] = true := halone
      rw [exactScore_of_isRoot hroot]
      linarith

/-- A segment of two pieces against a plain parameter, digits, static text and the root. -/
theorem exactScore_of_one_segment_hyphenated :
    let plain : Param := ⟨.named "a", "[^/]+?", some '/', .one⟩
    let digits : Param := ⟨.named "a", "\\d+", some '/', .one⟩
    let hyphenated : List Token := [.literal "/a-", .param ⟨.named "b", "[^/]+?", none, .one⟩]
    exactScore {} [.param plain] < exactScore {} hyphenated ∧
      exactScore {} hyphenated < exactScore {} [.param digits] ∧
      exactScore {} hyphenated < exactScore {} [.literal "/a"] ∧
      exactScore { strict := true, sensitive := true } hyphenated <
        exactScore {} [.literal (String.singleton '/')] := by
  intro plain digits hyphenated
  have hsegments : segments '/' hyphenated =
      [[.literal "/a-", .param ⟨.named "b", "[^/]+?", none, .one⟩]] := by decide
  obtain ⟨hmany, -⟩ := @exactScore_of_one_segment {} {} hyphenated _ rfl hsegments
  obtain ⟨hparams, hstatics⟩ := hmany (by decide)
  obtain ⟨hplain, -, -⟩ := hparams [.param plain] plain (by decide) rfl
  obtain ⟨-, -, hdigits⟩ := hparams [.param digits] digits (by decide) rfl
  obtain ⟨-, hroot⟩ := @exactScore_of_one_segment { strict := true, sensitive := true } {}
    hyphenated _ rfl hsegments
  exact ⟨hplain (by decide) (by decide), hdigits (by decide) rfl,
    hstatics [.literal "/a"] "/a" (by decide) (Or.inl rfl), hroot (by decide)⟩

/-- Under the closing bracket as delimiter a plain parameter is above a segment of two pieces. -/
theorem exactScore_lt_bracket_parameter :
    PatternOptions.isDelimiter ']' = true ∧
      ∃ parameter tokens first second, tokenize ']' "]:a" = .ok [.param parameter] ∧
        Token.IsPlain ']' (.param parameter) ∧ parameter.quantifier = .one ∧
        tokenize ']' "]a-:b" = .ok tokens ∧ segments ']' tokens = [[first, second]] ∧
        exactScore { delimiter := ']' } tokens <
          exactScore { delimiter := ']' } [.param parameter] := by
  let parameter : Param := ⟨.named "a", "[^\\]]+?", some ']', .one⟩
  let second : Param := ⟨.named "b", "[^\\]]+?", none, .one⟩
  refine ⟨by decide, parameter, [.literal "]a-", .param second], .literal "]a-", .param second, ?_,
    ?_, rfl, ?_, ?_, ?_⟩ <;> decide +kernel

end RoutePatterns
