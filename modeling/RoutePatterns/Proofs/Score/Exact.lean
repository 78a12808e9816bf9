import Mathlib.Algebra.BigOperators.Group.List.Basic
import Mathlib.Tactic.IntervalCases
import Mathlib.Tactic.Linarith
import Mathlib.Tactic.NormNum
import Mathlib.Tactic.Ring
import RoutePatterns.Pattern.Score

/-!
# Scores without rounding

`exactScore` is the score under the standard weights in rational numbers. Without rounding the order
of additions does not matter, so that a score is the sum of what the options and the segments add
(`exactScore_of_not_isRoot`), the root apart.

The pieces of a segment of several are like the digits of a decimal number (`decayedSum`). What a
piece adds depends on its rank and on whether it is optional (`Piece.share_eq`), and pieces of
different ranks are at least two fifths apart (`Piece.share_add_le`). All that comes after a piece
adds less than a third in the same unit (`decayedSum_lt`).
-/

set_option autoImplicit false
set_option relaxedAutoImplicit false

namespace RoutePatterns

open Text

/-- The score of tokens under the standard weights, worked out without rounding. -/
def exactScore (options : PatternOptions) (tokens : List Token) : ℚ :=
  score options .standard tokens

/-! ### Pieces -/

namespace ParamKind

/-- How specific a kind is: a group of one's own, then a plain value, then a wildcard. -/
def rank : ParamKind → ℕ
  | .wildcard => 0
  | .segment => 1
  | .custom => 2

/-- What a kind adds as a whole segment. -/
def value : ParamKind → ℚ
  | .wildcard => -1
  | .segment => 2
  | .custom => 5 / 2

theorem value_le (kind : ParamKind) : kind.value ≤ 5 / 2 := by
  cases kind <;> norm_num [value]

theorem value_lt_of_rank_lt {kind other : ParamKind} (h : other.rank < kind.rank) :
    other.value < kind.value := by
  cases kind <;> cases other <;> first | exact absurd h (by decide) | norm_num [value]

end ParamKind

namespace Piece

/-- How specific a piece is: static text, then parameters by their kind. -/
def rank : Piece → ℕ
  | .literal _ => 3
  | .param parameter => parameter.kind.rank

/-- Whether the piece may be absent. -/
def isOptional : Piece → Bool
  | .literal _ => false
  | .param parameter => parameter.isOptional

theorem rank_lt_three (parameter : Param) : (param parameter).rank < 3 := by
  rw [rank]
  cases parameter.kind <;> decide

theorem rank_le_three (piece : Piece) : piece.rank ≤ 3 := by
  cases piece with
  | literal text => exact le_rfl
  | param parameter => exact (rank_lt_three parameter).le

/-- What a piece adds within a segment, before it is scaled by its place. -/
def share (piece : Piece) : ℚ :=
  piece.subScore .standard

/-- What a piece of the rank adds within a segment unless it is optional. -/
def rankShare : ℕ → ℚ
  | 0 => 1
  | 1 => 2
  | 2 => 5 / 2
  | _ => 3

theorem share_eq (piece : Piece) :
    piece.share = rankShare piece.rank - if piece.isOptional then 1 / 10 else 0 := by
  cases piece with
  | literal text => norm_num [share, subScore, Weights.standard, rank, isOptional, rankShare]
  | param parameter =>
    cases hkind : parameter.kind <;> cases hoptional : parameter.isOptional <;>
      norm_num [share, subScore, Param.kindWeight, Weights.standard, rank, isOptional, rankShare,
        ParamKind.rank, hkind, hoptional]

theorem share_congr {piece other : Piece} (hrank : piece.rank = other.rank)
    (hoptional : piece.isOptional = other.isOptional) : piece.share = other.share := by
  rw [share_eq, share_eq, hrank, hoptional]

theorem share_le_rankShare (piece : Piece) : piece.share ≤ rankShare piece.rank := by
  rw [share_eq]
  split <;> norm_num

theorem rankShare_le_share_add (piece : Piece) : rankShare piece.rank ≤ piece.share + 1 / 10 := by
  rw [share_eq]
  split <;> norm_num

theorem one_le_rankShare (rank : ℕ) : 1 ≤ rankShare rank := by
  unfold rankShare
  split <;> norm_num

theorem rankShare_le (rank : ℕ) : rankShare rank ≤ 3 := by
  unfold rankShare
  split <;> norm_num

theorem rankShare_add_le {rank rank' : ℕ} (hlt : rank < rank') (hle : rank' ≤ 3) :
    rankShare rank + 1 / 2 ≤ rankShare rank' := by
  interval_cases rank' <;> interval_cases rank <;> norm_num [rankShare]

theorem share_pos (piece : Piece) : 0 < piece.share := by
  linarith [one_le_rankShare piece.rank, piece.rankShare_le_share_add]

theorem share_le (piece : Piece) : piece.share ≤ 3 :=
  piece.share_le_rankShare.trans (rankShare_le _)

/-- Whether pieces are optional weighs less than their rank. -/
theorem share_add_le {piece other : Piece} (h : other.rank < piece.rank) :
    other.share + 2 / 5 ≤ piece.share := by
  linarith [other.share_le_rankShare, rankShare_add_le h piece.rank_le_three,
    piece.rankShare_le_share_add]

end Piece

/-- What pieces add one after the other, where each counts a tenth of the one before it. -/
def decayedSum : List Piece → ℚ
  | [] => 0
  | piece :: pieces => piece.share + decayedSum pieces / 10

theorem decayedSum_nonneg (pieces : List Piece) : 0 ≤ decayedSum pieces := by
  induction pieces with
  | nil => exact le_rfl
  | cons piece pieces ih =>
    rw [decayedSum]
    linarith [piece.share_pos]

theorem decayedSum_cons_pos (piece : Piece) (pieces : List Piece) :
    0 < decayedSum (piece :: pieces) := by
  rw [decayedSum]
  linarith [piece.share_pos, decayedSum_nonneg pieces]

/-- However many pieces there are, they add less than three and a third. -/
theorem decayedSum_lt (pieces : List Piece) : decayedSum pieces < 10 / 3 := by
  induction pieces with
  | nil => norm_num [decayedSum]
  | cons piece pieces ih =>
    rw [decayedSum]
    linarith [piece.share_le]

theorem addPieces_eq (total scale : ℚ) (pieces : List Piece) :
    addPieces .standard total scale pieces = total + scale * decayedSum pieces := by
  induction pieces generalizing total scale with
  | nil => rw [addPieces, decayedSum, mul_zero, add_zero]
  | cons piece pieces ih =>
    have hten : (10.0 : ℚ) = 10 := by norm_num
    rw [addPieces, ih, decayedSum, Piece.share, hten]
    ring

/-! ### Segments -/

/-- What a segment adds to a score. -/
def segmentValue (delimiter : Char) (segment : List Piece) : ℚ :=
  addSegment .standard delimiter 0 segment

theorem segmentValue_singleton (delimiter : Char) (piece : Piece) :
    segmentValue delimiter [piece] = piece.segmentScore .standard delimiter :=
  zero_add _

theorem segmentValue_literal {delimiter : Char} {text : String}
    (h : isDelimiterAlone delimiter text = false) :
    segmentValue delimiter [.literal text] = 7 := by
  norm_num [segmentValue_singleton, Piece.segmentScore, Weights.standard, h]

theorem segmentValue_param (delimiter : Char) (parameter : Param) :
    segmentValue delimiter [.param parameter] = 4 + parameter.kind.value -
      (if parameter.isOptional then 4 else 0) - (if parameter.isRepeating then 1 / 2 else 0) := by
  rw [segmentValue_singleton]
  cases hkind : parameter.kind <;> cases hoptional : parameter.isOptional <;>
    cases hrepeating : parameter.isRepeating <;>
      norm_num [Piece.segmentScore, Param.kindWeight, Weights.standard, ParamKind.value, hkind,
        hoptional, hrepeating]

theorem segmentValue_param_le (delimiter : Char) (parameter : Param) :
    segmentValue delimiter [.param parameter] ≤ 13 / 2 := by
  have hvalue := parameter.kind.value_le
  rw [segmentValue_param]
  split_ifs <;> linarith

theorem segmentValue_of_two_le {segment : List Piece} (h : 2 ≤ segment.length)
    (delimiter : Char) : segmentValue delimiter segment = 6 + decayedSum segment / 10 := by
  have hmany (piece : Piece) (hone : segment = [piece]) : False := by
    rw [hone, List.length_singleton] at h
    omega
  have htenth : (0.1 : ℚ) = 1 / 10 := by norm_num
  have hbase : (Weights.standard : Weights ℚ).segment + Weights.standard.subSegment = 6 := by
    norm_num [Weights.standard]
  rw [segmentValue, addSegment, addPieces_eq, hbase, htenth]
  · ring
  · exact hmany

theorem addSegment_eq (delimiter : Char) (total : ℚ) (segment : List Piece) :
    addSegment .standard delimiter total segment = total + segmentValue delimiter segment := by
  unfold segmentValue addSegment
  split
  · rw [zero_add]
  · rw [addPieces_eq, addPieces_eq]
    ring

theorem foldl_addSegment (delimiter : Char) (total : ℚ) (segments : List (List Piece)) :
    segments.foldl (addSegment .standard delimiter) total =
      total + (segments.map (segmentValue delimiter)).sum := by
  induction segments generalizing total with
  | nil => rw [List.foldl_nil, List.map_nil, List.sum_nil, add_zero]
  | cons segment segments ih =>
    rw [List.foldl_cons, ih, addSegment_eq, List.map_cons, List.sum_cons, add_assoc]

/-! ### Token lists -/

variable {options : PatternOptions} {tokens : List Token}

/-- What the options add to a score. -/
def bonus (options : PatternOptions) : ℚ :=
  optionsScore options .standard

theorem bonus_nonneg (options : PatternOptions) : 0 ≤ bonus options := by
  unfold bonus optionsScore
  cases options.strict <;> cases options.sensitive <;> norm_num [Weights.standard]

theorem bonus_lt_one (options : PatternOptions) : bonus options < 1 := by
  unfold bonus optionsScore
  cases options.strict <;> cases options.sensitive <;> norm_num [Weights.standard]

theorem isDelimiterAlone_iff {delimiter : Char} {text : String} :
    isDelimiterAlone delimiter text = true ↔ text = String.singleton delimiter := by
  rw [isDelimiterAlone, beq_iff_eq, ← String.toList_singleton, String.toList_inj]

theorem isDelimiterAlone_eq_false_iff {delimiter : Char} {text : String} :
    isDelimiterAlone delimiter text = false ↔ text ≠ String.singleton delimiter := by
  rw [← Bool.not_eq_true, isDelimiterAlone_iff]

theorem isRoot_iff {delimiter : Char} :
    isRoot delimiter tokens = true ↔ tokens = [.literal (String.singleton delimiter)] := by
  unfold isRoot
  split
  · rw [isDelimiterAlone_iff]
    simp
  · next hother =>
    constructor
    · rintro ⟨⟩
    · intro heq
      exact absurd heq (hother _)

theorem exactScore_of_isRoot (h : isRoot options.delimiter tokens = true) :
    exactScore options tokens = bonus options + 8 := by
  have hroot : (Weights.standard : Weights ℚ).rootScore = 8 := by
    norm_num [Weights.rootScore, Weights.standard]
  rw [exactScore, score, if_pos h, hroot, bonus]

/-- But for the root, the score is what the options and the segments add. -/
theorem exactScore_of_not_isRoot (h : isRoot options.delimiter tokens = false) :
    exactScore options tokens = bonus options +
      ((segments options.delimiter tokens).map (segmentValue options.delimiter)).sum := by
  rw [exactScore, score, if_neg (by simp [h]), foldl_addSegment, bonus]

theorem segments_root (delimiter : Char) :
    segments delimiter [.literal (String.singleton delimiter)] =
      [[.literal (String.singleton delimiter)]] := by
  simp [segments, Token.pieces, splitText, splitBefore, cutBefore]

/-- The only segment of the root is the delimiter. -/
theorem isRoot_eq_false_of_mem {delimiter : Char} {segment : List Piece}
    (hsegment : segment ∈ segments delimiter tokens)
    (hne : segment ≠ [.literal (String.singleton delimiter)]) :
    isRoot delimiter tokens = false := by
  by_contra h
  obtain rfl := isRoot_iff.mp (Bool.eq_true_of_not_eq_false h)
  rw [segments_root, List.mem_singleton] at hsegment
  exact hne hsegment

theorem isRoot_eq_false_of_two_le {delimiter : Char} {segment : List Piece}
    (hsegment : segment ∈ segments delimiter tokens) (hlength : 2 ≤ segment.length) :
    isRoot delimiter tokens = false := by
  refine isRoot_eq_false_of_mem hsegment fun heq ↦ ?_
  rw [heq, List.length_singleton] at hlength
  omega

/-- Scores of token lists that differ in one segment differ by what it adds. -/
theorem exactScore_sub_exactScore {tokens' : List Token} {front back : List (List Piece)}
    {segment segment' : List Piece} (hroot : isRoot options.delimiter tokens = false)
    (hroot' : isRoot options.delimiter tokens' = false)
    (h : segments options.delimiter tokens = front ++ segment :: back)
    (h' : segments options.delimiter tokens' = front ++ segment' :: back) :
    exactScore options tokens - exactScore options tokens' =
      segmentValue options.delimiter segment - segmentValue options.delimiter segment' := by
  rw [exactScore_of_not_isRoot hroot, exactScore_of_not_isRoot hroot', h, h']
  simp only [List.map_append, List.map_cons, List.sum_append, List.sum_cons]
  ring

end RoutePatterns
