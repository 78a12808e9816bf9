import RoutePatterns.Proofs.Pattern.Meaning
import RoutePatterns.Proofs.Pattern.Segments
import RoutePatterns.Pattern.Score
import RoutePatterns.Proofs.Score.Kinds

/-!
# What a parameter without a group counts

The parameters of a pattern come from its parameter items, one by one and in order
(`forall₂_readsAs`). One that is written without a group has the default group, which is recognised
unless its class has the closing bracket in it (`Param.isDefaultGroup_defaultGroup_iff`). This
happens under the closing bracket as delimiter and under no other (`Item.ReadsAs.kind`).

So under every other delimiter the parameters without a group count the weight of plain ones, as a
whole segment and within a longer one, and the score of a pattern without groups does not depend on
the weight of groups (`score_congr`). Under the closing bracket they count as if they had groups of
their own.
-/

set_option autoImplicit false
set_option relaxedAutoImplicit false

namespace RoutePatterns

variable {delimiter : Char} {items : List Item} {tokens : List Token}

/-- The default group is recognised unless its class has the closing bracket in it. -/
theorem Param.isDefaultGroup_defaultGroup_iff (lead : Option Char) (delimiter : Char) :
    isDefaultGroup (defaultGroup lead delimiter) = true ↔ delimiter ≠ ']' ∧ lead ≠ some ']' := by
  have hrecognised := isDefaultGroup_defaultGroup delimiter ⟨.index 0, wildcardGroup, lead, .one⟩
  rw [hrecognised, Bool.not_eq_true', ← Bool.not_eq_true, List.contains_iff_mem, mem_excluded_iff,
    not_or, Option.mem_def, ne_comm]

/-! ### Parameters and their items -/

/-- The item is a parameter and not a character. -/
def Item.isParam : Item → Bool
  | .literal _ _ => false
  | .param _ _ _ => true

/-- The item gives the parameter. How many unnamed parameters are before it and whether a character
leads it are not the item's to say, but a lead is the delimiter or a full stop. -/
inductive Item.ReadsAs (delimiter : Char) : Item → Param → Prop
  | param {unnamed : ℕ} {lead : Option Char} (name group : Option String)
      (modifier : Option Quantifier)
      (hlead : ∀ char ∈ lead, char = delimiter ∨ char = Token.extensionMark) :
      ReadsAs delimiter (.param name group modifier)
        (.ofWritten delimiter unnamed lead name group modifier)

theorem Token.filterMap_param?_ofRun (delimiter : Char) (run : List (Char × Bool)) :
    (ofRun delimiter run).filterMap param? = [] := by
  rw [List.filterMap_eq_nil_iff]
  intro token htoken
  cases token with
  | literal text => rfl
  | param parameter => exact absurd htoken not_param_mem_ofRun

theorem Token.forall₂_readsAs_ofItemsFrom (delimiter : Char) (unnamed : ℕ)
    (run : List (Char × Bool)) (items : List Item) :
    List.Forall₂ (Item.ReadsAs delimiter) (items.filter Item.isParam)
      ((ofItemsFrom delimiter unnamed run items).filterMap param?) := by
  induction items generalizing unnamed run with
  | nil =>
    rw [ofItemsFrom, filterMap_param?_ofRun]
    exact .nil
  | cons item items ih =>
    cases item with
    | literal char escaped => exact ih unnamed ((char, escaped) :: run)
    | param name group modifier =>
      rw [ofItemsFrom_param, List.filterMap_append, filterMap_param?_ofRun]
      exact .cons (.param name group modifier (takeLead_lead delimiter run))
        (ih (unnamedAfter unnamed name) [])

/-- Each parameter of a pattern comes from one parameter item, in order. -/
theorem forall₂_readsAs {pattern : String} (hscan : Item.scan pattern = .ok items)
    (h : tokenize delimiter pattern = .ok tokens) :
    List.Forall₂ (Item.ReadsAs delimiter) (items.filter Item.isParam)
      (tokens.filterMap Token.param?) := by
  obtain ⟨items', hscan', rfl, -⟩ := tokenize_eq_ok_iff.mp h
  obtain rfl := Except.ok.inj (hscan.symm.trans hscan')
  exact Token.forall₂_readsAs_ofItemsFrom delimiter 0 [] items

/-- A plain parameter that is led by the delimiter, a full stop or nothing is taken for one with a
group of its own under the closing bracket as delimiter, and under no other. -/
theorem Param.kind_of_lead {parameter : Param}
    (hplain : Token.IsPlain delimiter (.param parameter))
    (hlead : ∀ char ∈ parameter.lead, char = delimiter ∨ char = Token.extensionMark) :
    parameter.kind = if delimiter = ']' then .custom else .segment := by
  rw [kind_of_isPlain hplain]
  refine if_congr ?_ rfl rfl
  rw [mem_excluded_iff]
  constructor
  · rintro (hdelimiter | hmem)
    · exact hdelimiter.symm
    · exact ((hlead _ hmem).resolve_right (by decide)).symm
  · exact fun hdelimiter ↦ Or.inl hdelimiter.symm

theorem Item.ReadsAs.kind {item : Item} {parameter : Param} (h : item.ReadsAs delimiter parameter)
    (hgroup : item.group? = none) :
    parameter.kind = if delimiter = ']' then .custom else .segment := by
  obtain @⟨unnamed, lead, name, group, modifier, hlead⟩ := h
  obtain rfl : group = none := hgroup
  have hplain : Token.IsPlain delimiter
      (.param (.ofWritten delimiter unnamed lead name none modifier)) := rfl
  exact Param.kind_of_lead hplain hlead

/-! ### What they count -/

theorem Param.kindWeight_of_kind {α : Type} {parameter : Param}
    (hkind : parameter.kind = if delimiter = ']' then .custom else .segment) (weights : Weights α)
    (wildcard : α) :
    parameter.kindWeight weights wildcard =
      if delimiter = ']' then weights.customGroup else weights.dynamic := by
  rw [kindWeight, hkind]
  by_cases hdelimiter : delimiter = ']' <;> simp [hdelimiter]

section Counts

variable {α : Type} [Add α]

/-- The parameter counts `weight` for its kind, as a whole segment and within a longer one. -/
structure Param.Counts (weights : Weights α) (weight : α) (parameter : Param) : Prop where
  segment (delimiter : Char) : (Piece.param parameter).segmentScore weights delimiter =
    let total := weights.segment + weight
    let total := if parameter.isOptional then total + weights.optional else total
    if parameter.isRepeating then total + weights.repeatable else total
  sub : (Piece.param parameter).subScore weights =
    if parameter.isOptional then weight + weights.subOptional else weight

theorem Param.Counts.of_kindWeight {weights : Weights α} {weight : α} {parameter : Param}
    (h : ∀ wildcard, parameter.kindWeight weights wildcard = weight) :
    parameter.Counts weights weight where
  segment delimiter := by rw [Piece.segmentScore, h]
  sub := by rw [Piece.subScore, h]

end Counts

/-! ### Scores that do not depend on a weight -/

section Congruence

variable {α : Type} [Add α] {weights : Weights α} {dynamic customGroup : α}

/-- What a piece counts depends on the weights of plain parameters and of groups by what its kind
counts. -/
theorem Piece.scores_congr {piece : Piece}
    (h : ∀ parameter, piece = .param parameter → ∀ wildcard,
      parameter.kindWeight { weights with dynamic, customGroup } wildcard =
        parameter.kindWeight weights wildcard) :
    piece.segmentScore { weights with dynamic, customGroup } delimiter =
        piece.segmentScore weights delimiter ∧
      piece.subScore { weights with dynamic, customGroup } = piece.subScore weights := by
  cases piece with
  | literal text => exact ⟨rfl, rfl⟩
  | param parameter =>
    have hkind := h parameter rfl
    constructor
    · rw [segmentScore, segmentScore, hkind]
    · rw [subScore, subScore, hkind]

variable [Mul α] [Div α] [OfScientific α]

theorem addPieces_congr {weights' : Weights α} {pieces : List Piece}
    (h : ∀ piece ∈ pieces, piece.subScore weights' = piece.subScore weights) (total scale : α) :
    addPieces weights' total scale pieces = addPieces weights total scale pieces := by
  induction pieces generalizing total scale with
  | nil => rfl
  | cons piece pieces ih =>
    rw [addPieces, addPieces, h piece List.mem_cons_self]
    exact ih (fun other hother ↦ h other (List.mem_cons_of_mem _ hother)) _ _

/-- A score stays the same if the weights of plain parameters and of groups change to ones that
count the same for every parameter of the tokens. -/
theorem score_congr (options : PatternOptions)
    (h : ∀ parameter, .param parameter ∈ tokens → ∀ wildcard,
      parameter.kindWeight { weights with dynamic, customGroup } wildcard =
        parameter.kindWeight weights wildcard) :
    score options { weights with dynamic, customGroup } tokens = score options weights tokens := by
  have hpiece : ∀ segment ∈ segments options.delimiter tokens, ∀ piece ∈ segment, ∀ parameter,
      piece = .param parameter → .param parameter ∈ tokens := by
    rintro segment hsegment piece hpiece parameter rfl
    exact param_mem_of_mem_segments hsegment hpiece
  have hsegments : (segments options.delimiter tokens).foldl
      (addSegment { weights with dynamic, customGroup } options.delimiter)
      (optionsScore options weights) =
      (segments options.delimiter tokens).foldl (addSegment weights options.delimiter)
        (optionsScore options weights) := by
    refine List.foldl_ext _ _ _ fun total segment hsegment ↦ ?_
    have hscores (piece : Piece) (hmem : piece ∈ segment) := @Piece.scores_congr
      options.delimiter α _ weights dynamic customGroup piece fun parameter hparameter ↦
        h parameter (hpiece segment hsegment piece hmem parameter hparameter)
    match segment, hscores with
    | [piece], hscores => exact congrArg (total + ·) (hscores piece List.mem_cons_self).1
    | [], hscores => rfl
    | first :: second :: rest, hscores =>
      exact addPieces_congr (fun piece hmem ↦ (hscores piece hmem).2) _ _
  rw [score, score]
  exact if_congr Iff.rfl rfl hsegments

/-- A default group is recognised unless the closing bracket is the delimiter or the lead. So under
every delimiter but the closing bracket, each parameter that is written without a group is of the
kind of plain ones and counts their weight, as a whole segment and within a longer one, and the
score of a pattern without groups is the same whatever groups weigh. Under the closing bracket such
parameters count what groups do, and the score is the same whatever plain parameters weigh. -/
theorem plain_parameters_of_tokenize (delimiter : Char) (weights : Weights α) :
    (∀ lead, Param.isDefaultGroup (Param.defaultGroup lead delimiter) = true ↔
      delimiter ≠ ']' ∧ lead ≠ some ']') ∧
    ∀ pattern items tokens, Item.scan pattern = .ok items →
      tokenize delimiter pattern = .ok tokens →
      List.Forall₂ (fun item parameter ↦ item.ReadsAs delimiter parameter ∧
          (item.group? = none →
            parameter.kind = (if delimiter = ']' then .custom else .segment) ∧
            parameter.Counts weights
              (if delimiter = ']' then weights.customGroup else weights.dynamic)))
        (items.filter Item.isParam) (tokens.filterMap Token.param?) ∧
      ((∀ item ∈ items, item.group? = none) → ∀ options : PatternOptions,
        (delimiter ≠ ']' → ∀ customGroup,
          score options { weights with customGroup } tokens = score options weights tokens) ∧
        (delimiter = ']' → ∀ dynamic,
          score options { weights with dynamic } tokens = score options weights tokens)) := by
  refine ⟨fun lead ↦ Param.isDefaultGroup_defaultGroup_iff lead delimiter, ?_⟩
  intro pattern items tokens hscan htokens
  constructor
  · refine (forall₂_readsAs hscan htokens).imp fun item parameter hreads ↦ ⟨hreads, fun hgroup ↦ ?_⟩
    have hkind := hreads.kind hgroup
    exact ⟨hkind, .of_kindWeight (Param.kindWeight_of_kind hkind weights)⟩
  · intro hgroups options
    have hplain := isPlain_of_mem_tokenize hscan hgroups htokens
    have hweight (weights : Weights α) (parameter : Param) (hmem : .param parameter ∈ tokens) :=
      Param.kindWeight_of_kind
        (Param.kind_of_lead (hplain _ hmem) (lead_of_mem_tokenize htokens hmem)) weights
    constructor
    · intro hbracket customGroup
      refine score_congr options fun parameter hmem wildcard ↦ ?_
      rw [hweight _ parameter hmem, hweight _ parameter hmem, if_neg hbracket, if_neg hbracket]
    · intro hbracket dynamic
      refine score_congr options fun parameter hmem wildcard ↦ ?_
      rw [hweight _ parameter hmem, hweight _ parameter hmem, if_pos hbracket, if_pos hbracket]

end Congruence

theorem plain_parameters_of_tokenize_hyphenated :
    let first : Param := ⟨.named "a", "[^/]+?", some '/', .one⟩
    let second : Param := ⟨.named "b", "[^/]+?", none, .zeroOrOne⟩
    let items : List Item := [.literal '/' false, .param (some "a") none none, .literal '-' false,
      .param (some "b") none (some .zeroOrOne)]
    let tokens : List Token := [.param first, .literal "-", .param second]
    Item.scan "/:a-:b?" = .ok items ∧ tokenize '/' "/:a-:b?" = .ok tokens ∧
      first.kind = .segment ∧ second.kind = .segment ∧
      ∀ customGroup : Float, score {} { Weights.standard with customGroup } tokens =
        score {} Weights.standard tokens := by
  intro first second items tokens
  have hscan : Item.scan "/:a-:b?" = .ok items := by decide +kernel
  have htokens : tokenize '/' "/:a-:b?" = .ok tokens := by decide +kernel
  obtain ⟨-, hpattern⟩ := plain_parameters_of_tokenize '/' (Weights.standard : Weights Float)
  obtain ⟨hparams, hscore⟩ := hpattern _ _ _ hscan htokens
  obtain ⟨⟨-, hfirst⟩, hrest⟩ := List.forall₂_cons.mp hparams
  obtain ⟨⟨-, hsecond⟩, -⟩ := List.forall₂_cons.mp hrest
  obtain ⟨hscore, -⟩ := hscore (by decide) {}
  exact ⟨hscan, htokens, (hfirst rfl).1, (hsecond rfl).1, hscore (by decide)⟩

/-- The closing bracket may be the delimiter, and then a parameter without a group passes for one
with a group of its own. -/
theorem kind_bracket_parameter :
    PatternOptions.validate { delimiter := ']' } = .ok () ∧
      Param.isDefaultGroup (Param.defaultGroup none ']') = false ∧
      ∃ parameter : Param,
        Item.scan "]:a" = .ok [.literal ']' false, .param (some "a") none none] ∧
        tokenize ']' "]:a" = .ok [.param parameter] ∧ parameter.kind = .custom ∧
        ∀ weights : Weights Float, (Piece.param parameter).segmentScore weights ']' =
          weights.segment + weights.customGroup := by
  refine ⟨rfl, by decide, ⟨.named "a", "[^\\]]+?", some ']', .one⟩, ?_, ?_, ?_,
    fun weights ↦ rfl⟩ <;> decide +kernel

end RoutePatterns
