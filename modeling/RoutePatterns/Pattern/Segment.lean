import RoutePatterns.Pattern.Token
import RoutePatterns.Text.Split

/-!
The segments of a token list. Static text is cut before each delimiter, and a segment begins with
each piece that starts with the delimiter.
-/

set_option autoImplicit false

namespace RoutePatterns

open Text

/-- A part of a segment. -/
inductive Piece
  /-- Static text with the delimiter at most at its beginning. -/
  | literal (text : String)
  /-- A parameter. -/
  | param (parameter : Param)
  deriving DecidableEq, Repr

/-- Whether the piece starts with the delimiter. -/
def Piece.startsSegment (delimiter : Char) : Piece → Bool
  | .literal text => text.toList.head? == some delimiter
  | .param parameter => parameter.lead == some delimiter

/-- Cuts a text before every delimiter. -/
def splitText (delimiter : Char) (text : String) : List String :=
  (splitBefore delimiter text.toList).map String.ofList

/-- The pieces of one token. -/
def Token.pieces (delimiter : Char) : Token → List Piece
  | .literal text => (splitText delimiter text).map .literal
  | .param parameter => [.param parameter]

/-- The segments of a token list, each a non-empty list of pieces. -/
def segments (delimiter : Char) (tokens : List Token) : List (List Piece) :=
  cutBefore (Piece.startsSegment delimiter) (tokens.flatMap (Token.pieces delimiter))

end RoutePatterns
