import RoutePatterns.Proofs.Score.Exact

/-!
# Segments of several pieces

Of two segments of several pieces that agree up to some place, the one with the piece of a higher
rank there counts more (`Outranks`). What comes after that place never makes up for it
(`Outranks.decayedSum_lt`), so that it decides between token lists that are the same elsewhere
(`exactScore_lt_of_outranks`).
-/

set_option autoImplicit false
set_option relaxedAutoImplicit false

namespace RoutePatterns

/-- The pieces agree in rank and in being optional up to a place where the first list has a piece of
a higher rank, or where the second list has ended and the first goes on. -/
inductive Outranks : List Piece → List Piece → Prop
  | longer (piece : Piece) (pieces : List Piece) : Outranks (piece :: pieces) []
  | higher {piece other : Piece} (hrank : other.rank < piece.rank) (pieces others : List Piece) :
      Outranks (piece :: pieces) (other :: others)
  | later {piece other : Piece} {pieces others : List Piece} (hrank : piece.rank = other.rank)
      (hoptional : piece.isOptional = other.isOptional) (hrest : Outranks pieces others) :
      Outranks (piece :: pieces) (other :: others)

theorem Outranks.decayedSum_lt {pieces others : List Piece} (h : Outranks pieces others) :
    decayedSum others < decayedSum pieces := by
  induction h with
  | longer piece pieces => exact decayedSum_cons_pos piece pieces
  | @higher piece other hrank pieces others =>
    -- The others add less than a third from here on, the first two differ by two fifths.
    have hothers := RoutePatterns.decayedSum_lt others
    have hpieces := decayedSum_nonneg pieces
    have hshare := Piece.share_add_le hrank
    rw [decayedSum, decayedSum]
    linarith
  | later hrank hoptional _ ih =>
    rw [decayedSum, decayedSum, Piece.share_congr hrank hoptional]
    linarith

variable {options : PatternOptions} {tokens tokens' : List Token} {segment segment' : List Piece}

/-- Two token lists have the same segments but for one, which is of several pieces in both. The one
whose pieces are more specific at the first place where they differ has the higher score. -/
theorem exactScore_lt_of_outranks {front back : List (List Piece)}
    (h : segments options.delimiter tokens = front ++ segment :: back)
    (h' : segments options.delimiter tokens' = front ++ segment' :: back)
    (hlength : 2 ≤ segment.length) (hlength' : 2 ≤ segment'.length)
    (houtranks : Outranks segment segment') :
    exactScore options tokens' < exactScore options tokens := by
  have hmem : segment ∈ segments options.delimiter tokens := by simp [h]
  have hmem' : segment' ∈ segments options.delimiter tokens' := by simp [h']
  have hsub := exactScore_sub_exactScore (isRoot_eq_false_of_two_le hmem hlength)
    (isRoot_eq_false_of_two_le hmem' hlength') h h'
  rw [segmentValue_of_two_le hlength, segmentValue_of_two_le hlength'] at hsub
  linarith [houtranks.decayedSum_lt]

/-- An optional parameter with a group of its own counts more than a plain one with more text
behind it. -/
theorem exactScore_lt_optional_digits :
    exactScore {} [.literal "/v/a-", .param ⟨.named "x", "[^/]+?", none, .one⟩, .literal "-b"] <
      exactScore {} [.literal "/v/a-", .param ⟨.named "x", "\\d+", none, .zeroOrOne⟩] := by
  let plain : Param := ⟨.named "x", "[^/]+?", none, .one⟩
  let digits : Param := ⟨.named "x", "\\d+", none, .zeroOrOne⟩
  have hplain : segments '/' [.literal "/v/a-", .param plain, .literal "-b"] =
      [[.literal "/v"]] ++ [.literal "/a-", .param plain, .literal "-b"] :: [] := by decide
  have hdigits : segments '/' [.literal "/v/a-", .param digits] =
      [[.literal "/v"]] ++ [.literal "/a-", .param digits] :: [] := by decide
  have houtranks : Outranks [.literal "/a-", .param digits]
      [.literal "/a-", .param plain, .literal "-b"] :=
    .later rfl rfl (.higher (by decide) _ _)
  exact @exactScore_lt_of_outranks {} _ _ _ _ _ _ hdigits hplain (by decide) (by decide) houtranks

end RoutePatterns
