import RoutePatterns.Pattern.Item
import RoutePatterns.Pattern.Segment

/-!
From the items of a pattern to its tokens. A run of literal items becomes static text, cut before
each delimiter; its last character goes to a following parameter as its lead if it was written raw
and is the delimiter or a full stop. `tokenize` refuses two parameters of one name and an unnamed
group that shares its segment.
-/

set_option autoImplicit false

namespace RoutePatterns

namespace Token

/-- The character besides the delimiter that becomes the lead of a parameter, as in `/file.:ext`. -/
def extensionMark : Char := '.'

/-- Static tokens for a run of characters, the last of which comes first. -/
def ofRun (delimiter : Char) (run : List (Char × Bool)) : List Token :=
  (Text.splitBefore delimiter (run.reverse.map (·.1))).map fun piece =>
    .literal (String.ofList piece)

/-- Splits off the last character of a run if it can lead a parameter. The last character of the run
comes first; the flags tell which characters were escaped. -/
def takeLead (delimiter : Char) : List (Char × Bool) → Option Char × List (Char × Bool)
  | [] => (none, [])
  | (char, escaped) :: run =>
    if !escaped && (char == delimiter || char == extensionMark) then (some char, run)
    else (none, (char, escaped) :: run)

/-- The tokens of items that follow `unnamed` unnamed groups and the pending run `run`, the last
character of which comes first. -/
def ofItemsFrom (delimiter : Char) (unnamed : Nat) (run : List (Char × Bool)) :
    List Item → List Token
  | [] => ofRun delimiter run
  | .literal char escaped :: items =>
    ofItemsFrom delimiter unnamed ((char, escaped) :: run) items
  | .param name group modifier :: items =>
    let (lead, run) := takeLead delimiter run
    let parameter : Param :=
      { name := match name with
          | some text => .named text
          | none => .index unnamed
        group := group.getD (Param.defaultGroup lead delimiter)
        lead
        quantifier := modifier.getD .one }
    let unnamed := if name.isSome then unnamed else unnamed + 1
    ofRun delimiter run ++ .param parameter :: ofItemsFrom delimiter unnamed [] items

/-- The tokens of items. -/
def ofItems (delimiter : Char) (items : List Item) : List Token :=
  ofItemsFrom delimiter 0 [] items

/-- The names of the parameters among tokens, as they are displayed. -/
def paramNames (tokens : List Token) : List String :=
  tokens.filterMap fun token => token.param?.map fun parameter => parameter.name.display

end Token

/-- The first element that occurs before in the list or among `seen`. -/
def firstRepeated? (seen : List String) : List String → Option String
  | [] => none
  | name :: names =>
    if seen.contains name then some name else firstRepeated? (name :: seen) names

/-- The position of an unnamed group, if the piece is one. -/
def Piece.unnamed? : Piece → Option Nat
  | .literal _ => none
  | .param parameter =>
    match parameter.name with
    | .named _ => none
    | .index position => some position

/-- The first unnamed group that shares its segment with other pieces. -/
def firstCrowded? (segments : List (List Piece)) : Option Nat :=
  (segments.filter fun segment => 1 < segment.length).flatten.findSome? Piece.unnamed?

/-- Refuses tokens with two parameters of one name or with an unnamed group that shares its
segment. -/
def checkTokens (pattern : String) (delimiter : Char) (tokens : List Token) :
    Except PatternError Unit :=
  match firstRepeated? [] (Token.paramNames tokens) with
  | some name => .error (.duplicateName pattern name)
  | none =>
    match firstCrowded? (segments delimiter tokens) with
    | some position => .error (.unnamedInSegment pattern position)
    | none => .ok ()

/-- The tokens of a pattern. -/
def tokenize (delimiter : Char) (pattern : String) : Except PatternError (List Token) :=
  match Item.scan pattern with
  | .error fault => .error (.spelling pattern fault)
  | .ok items =>
    let tokens := Token.ofItems delimiter items
    (checkTokens pattern delimiter tokens).map fun _ => tokens

end RoutePatterns
