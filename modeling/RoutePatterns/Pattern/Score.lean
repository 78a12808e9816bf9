import RoutePatterns.Options
import RoutePatterns.Pattern.Segment
import RoutePatterns.Pattern.Weights

/-!
The specificity of a token list. Each segment adds to the score; the pieces of a segment of several
pieces count a tenth, a hundredth and so on from left to right. Additions are made in pattern order,
so that the floating-point score is determined to the last bit.
-/

set_option autoImplicit false

namespace RoutePatterns

variable {α : Type} [Add α]

/-- Whether a text is the delimiter alone. -/
def isDelimiterAlone (delimiter : Char) (text : String) : Bool :=
  text.toList == [delimiter]

/-- What a parameter adds by its kind, where a wildcard adds `wildcard`. -/
def Param.kindWeight (weights : Weights α) (wildcard : α) (parameter : Param) : α :=
  match parameter.kind with
  | .wildcard => wildcard
  | .segment => weights.dynamic
  | .custom => weights.customGroup

namespace Piece

/-- What a piece adds as a whole segment. -/
def segmentScore (weights : Weights α) (delimiter : Char) : Piece → α
  | .literal text =>
    weights.segment +
      (if isDelimiterAlone delimiter text then weights.root else weights.staticText)
  | .param parameter =>
    let score := weights.segment + parameter.kindWeight weights weights.wildcard
    let score := if parameter.isOptional then score + weights.optional else score
    if parameter.isRepeating then score + weights.repeatable else score

/-- What a piece adds within a segment, before it is scaled by its place. -/
def subScore (weights : Weights α) : Piece → α
  | .literal _ => weights.staticText
  | .param parameter =>
    let score := parameter.kindWeight weights weights.subWildcard
    if parameter.isOptional then score + weights.subOptional else score

end Piece

variable [Mul α] [Div α] [OfScientific α]

/-- Adds pieces to `total`, the first of them scaled by `scale`, each next one by a tenth of that.
-/
def addPieces (weights : Weights α) (total scale : α) : List Piece → α
  | [] => total
  | piece :: pieces =>
    addPieces weights (total + piece.subScore weights * scale) (scale / 10.0) pieces

/-- Adds a segment to `total`. -/
def addSegment (weights : Weights α) (delimiter : Char) (total : α) : List Piece → α
  | [piece] => total + piece.segmentScore weights delimiter
  | pieces => addPieces weights (total + (weights.segment + weights.subSegment)) 0.1 pieces

/-- What the options add. -/
def optionsScore (options : PatternOptions) (weights : Weights α) : α :=
  let total := 0.0
  let total := if options.strict then total + weights.strict else total
  if options.sensitive then total + weights.sensitive else total

/-- Whether tokens are those of the root: one static token, the delimiter alone. -/
def isRoot (delimiter : Char) : List Token → Bool
  | [.literal text] => isDelimiterAlone delimiter text
  | _ => false

/-- The score of tokens. -/
def score (options : PatternOptions) (weights : Weights α) (tokens : List Token) : α :=
  let base := optionsScore options weights
  if isRoot options.delimiter tokens then base + weights.rootScore
  else
    (segments options.delimiter tokens).foldl (addSegment weights options.delimiter) base

end RoutePatterns
