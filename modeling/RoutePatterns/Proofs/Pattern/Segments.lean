import Mathlib.Tactic.Common
import RoutePatterns.Pattern.Segment
import RoutePatterns.Proofs.Text.Cutting

/-!
# The segments of a token list

There is one way only to divide the pieces of tokens into groups that begin exactly where a piece
starts a segment. So tokens whose first piece starts a segment have their own segments, whatever is
before them (`segments_append`). The segments can also be gathered piece by piece, where a piece
that starts a segment closes the one before it (`segments_eq_close_gather`). The main statement is
`eq_segments_iff`.
-/

set_option autoImplicit false
set_option relaxedAutoImplicit false

namespace RoutePatterns

open Text

variable {delimiter : Char} {tokens others : List Token}

/-- A parameter in a segment is one of the tokens. -/
theorem param_mem_of_mem_segments {segment : List Piece} {parameter : Param}
    (hsegment : segment ∈ segments delimiter tokens) (hmem : .param parameter ∈ segment) :
    .param parameter ∈ tokens := by
  have hpieces := List.mem_flatten_of_mem hsegment hmem
  rw [segments, flatten_cutBefore] at hpieces
  obtain ⟨token, htoken, hpiece⟩ := List.mem_flatMap.mp hpieces
  cases token with
  | literal text => simp [Token.pieces] at hpiece
  | param other =>
    obtain rfl := Piece.param.inj (List.mem_singleton.mp hpiece)
    exact htoken

/-- Tokens the first piece of which starts a segment have their own segments. -/
theorem segments_append (hopens : (others.flatMap (Token.pieces delimiter)).head?.all
      (Piece.startsSegment delimiter) = true) :
    segments delimiter (tokens ++ others) =
      segments delimiter tokens ++ segments delimiter others := by
  rw [segments, List.flatMap_append, cutBefore_append hopens]
  rfl

/-! ### Gathering segments -/

/-- Segments that are gathered piece by piece. -/
structure Gathering where
  /-- The segments that are closed. -/
  closed : List (List Piece)
  /-- The pieces since then. -/
  current : List Piece

namespace Gathering

/-- Takes in a piece. If it starts a segment, the pieces before it are closed. -/
def add (delimiter : Char) (gathering : Gathering) (piece : Piece) : Gathering :=
  if piece.startsSegment delimiter && !gathering.current.isEmpty then
    ⟨gathering.closed ++ [gathering.current], [piece]⟩
  else ⟨gathering.closed, gathering.current ++ [piece]⟩

/-- Takes in the pieces of a token. -/
def addToken (delimiter : Char) (gathering : Gathering) (token : Token) : Gathering :=
  (token.pieces delimiter).foldl (add delimiter) gathering

/-- All segments, once there are no more pieces. -/
def close (gathering : Gathering) : List (List Piece) :=
  if gathering.current.isEmpty then gathering.closed
  else gathering.closed ++ [gathering.current]

/-- The pieces have been gathered: closing divides them, and no segment is closed before the first
piece. -/
structure Holds (delimiter : Char) (pieces : List Piece) (gathering : Gathering) : Prop where
  isCut : IsCut (Piece.startsSegment delimiter) pieces gathering.close
  closed : gathering.current = [] → gathering.closed = []

variable {pieces : List Piece} {gathering : Gathering}

theorem holds_nil (delimiter : Char) : Holds delimiter [] ⟨[], []⟩ where
  isCut := isCut_cutBefore _ []
  closed _ := rfl

theorem isCut_singleton (delimiter : Char) (piece : Piece) :
    IsCut (Piece.startsSegment delimiter) [piece] [[piece]] :=
  isCut_cutBefore _ [piece]

/-- A piece that is taken in is gathered with those before it. -/
theorem Holds.add (h : Holds delimiter pieces gathering) (piece : Piece) :
    Holds delimiter (pieces ++ [piece]) (gathering.add delimiter piece) := by
  obtain ⟨closed, current⟩ := gathering
  obtain ⟨hcut, hclosed⟩ := h
  cases current with
  | nil =>
    obtain rfl := hclosed rfl
    have hadd : Gathering.add delimiter ⟨[], []⟩ piece = ⟨[], [piece]⟩ := by simp [Gathering.add]
    obtain rfl : [] = pieces := hcut.flatten
    rw [hadd]
    exact ⟨isCut_singleton delimiter piece, by rintro ⟨⟩⟩
  | cons first rest =>
    cases hopens : piece.startsSegment delimiter with
    | true =>
      have hadd : Gathering.add delimiter ⟨closed, first :: rest⟩ piece =
          ⟨closed ++ [first :: rest], [piece]⟩ := by simp [Gathering.add, hopens]
      rw [hadd]
      exact ⟨hcut.append (isCut_singleton delimiter piece) hopens, by rintro ⟨⟩⟩
    | false =>
      have hadd : Gathering.add delimiter ⟨closed, first :: rest⟩ piece =
          ⟨closed, first :: rest ++ [piece]⟩ := by simp [Gathering.add, hopens]
      rw [hadd]
      exact ⟨hcut.concat hopens, by rintro ⟨⟩⟩

theorem Holds.foldl_add (h : Holds delimiter pieces gathering) (more : List Piece) :
    Holds delimiter (pieces ++ more) (more.foldl (Gathering.add delimiter) gathering) := by
  induction more generalizing pieces gathering with
  | nil => rwa [List.append_nil]
  | cons piece more ih =>
    rw [List.foldl_cons, List.append_cons]
    exact ih (h.add piece)

theorem Holds.foldl_addToken (h : Holds delimiter pieces gathering) (tokens : List Token) :
    Holds delimiter (pieces ++ tokens.flatMap (Token.pieces delimiter))
      (tokens.foldl (addToken delimiter) gathering) := by
  induction tokens generalizing pieces gathering with
  | nil => rwa [List.flatMap_nil, List.append_nil]
  | cons token tokens ih =>
    rw [List.flatMap_cons, ← List.append_assoc, List.foldl_cons]
    exact ih (h.foldl_add _)

end Gathering

/-- Gathering the pieces of all tokens gives the segments. -/
theorem segments_eq_close_gather (delimiter : Char) (tokens : List Token) :
    segments delimiter tokens = (tokens.foldl (Gathering.addToken delimiter) ⟨[], []⟩).close := by
  have hholds := (Gathering.holds_nil delimiter).foldl_addToken tokens
  rw [List.nil_append] at hholds
  exact (eq_cutBefore_iff.mpr hholds.isCut).symm

/-- The segments are the only groups of pieces that begin exactly where a piece starts a segment.
They are the ones that gathering gives, and those of tokens the first piece of which starts a
segment come after those of the tokens before. -/
theorem eq_segments_iff (delimiter : Char) (tokens : List Token) :
    (∀ groups, groups = segments delimiter tokens ↔
      IsCut (Piece.startsSegment delimiter) (tokens.flatMap (Token.pieces delimiter)) groups) ∧
    segments delimiter tokens = (tokens.foldl (Gathering.addToken delimiter) ⟨[], []⟩).close ∧
    ∀ others, (others.flatMap (Token.pieces delimiter)).head?.all
        (Piece.startsSegment delimiter) = true →
      segments delimiter (tokens ++ others) =
        segments delimiter tokens ++ segments delimiter others :=
  ⟨fun _ ↦ eq_cutBefore_iff, segments_eq_close_gather delimiter tokens, fun _ ↦ segments_append⟩

/-- Static text that is cut in two, with a parameter after it that joins its segment. -/
theorem eq_segments_iff_extension :
    let extension : Param := ⟨.named "ext", "[^\\./]+?", some '.', .one⟩
    segments '/' ([.literal "", .literal "a/b"] ++ [.literal "/c", .param extension]) =
      [[.literal "a"], [.literal "/b"], [.literal "/c", .param extension]] := by
  intro extension
  obtain ⟨-, -, happend⟩ := eq_segments_iff '/' [.literal "", .literal "a/b"]
  rw [happend _ (by decide)]
  decide

end RoutePatterns
