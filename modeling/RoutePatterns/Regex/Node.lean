import RoutePatterns.Regex.CharSet

/-!
Regular expressions as trees. Every repetition is made of `plus`, `loop`, `alt` and `seq`; of two
alternatives the first is preferred, so a lazy repetition is one whose empty alternative comes
first. Whether there is another round is decided at the end of a round in `plus`, and at its
beginning in `loop`.
-/

set_option autoImplicit false

namespace RoutePatterns.Regex

/-- A condition on a place between two characters. The flag of a word condition tells whether words
are those of Unicode or of ASCII. -/
inductive Look
  | textStart | textEnd
  | lineStart | lineEnd
  | crlfLineStart | crlfLineEnd
  | boundary (unicode : Bool) | noBoundary (unicode : Bool)
  | wordStart (unicode : Bool) | wordEnd (unicode : Bool)
  | wordStartHalf (unicode : Bool) | wordEndHalf (unicode : Bool)
  deriving DecidableEq, Repr

/-- A place in a text: its position and the characters on both sides. -/
structure Site where
  /-- The number of characters before the place. -/
  position : Nat
  /-- The character before the place. -/
  before : Option Char
  /-- The character after the place. -/
  after : Option Char
  deriving DecidableEq, Repr

namespace Look

/-- Whether there is a character and it belongs to a word. -/
def isWord (unicode : Bool) (char : Option Char) : Bool :=
  char.any (if unicode then CharSet.word else CharSet.asciiWord)

/-- Whether the condition holds at a place. -/
def holds (site : Site) : Look → Bool
  | textStart => site.before.isNone
  | textEnd => site.after.isNone
  | lineStart => site.before.isNone || site.before == some '\n'
  | lineEnd => site.after.isNone || site.after == some '\n'
  | crlfLineStart =>
    site.before.isNone || site.before == some '\n' ||
      (site.before == some '\r' && site.after != some '\n')
  | crlfLineEnd =>
    site.after.isNone || site.after == some '\r' ||
      (site.after == some '\n' && site.before != some '\r')
  | boundary unicode => isWord unicode site.before != isWord unicode site.after
  | noBoundary unicode => isWord unicode site.before == isWord unicode site.after
  | wordStart unicode => !isWord unicode site.before && isWord unicode site.after
  | wordEnd unicode => isWord unicode site.before && !isWord unicode site.after
  | wordStartHalf unicode => !isWord unicode site.before
  | wordEndHalf unicode => !isWord unicode site.after

end Look

/-- A regular expression. -/
inductive Node
  /-- The empty text. -/
  | empty
  /-- One character of a set. -/
  | one (set : CharSet)
  /-- The empty text at a place with a condition. -/
  | look (condition : Look)
  /-- A text that is recorded under a name. -/
  | capture (name : String) (body : Node)
  /-- One text after another. -/
  | seq (first second : Node)
  /-- Either text, the first preferred. -/
  | alt (first second : Node)
  /-- One text or several, more of them preferred if greedy. -/
  | plus (greedy : Bool) (body : Node)
  /-- Any number of texts, more of them preferred if greedy. -/
  | loop (greedy : Bool) (body : Node)

namespace Node

/-- The nodes one after the other, as a tree of logarithmic depth. -/
def ofItems : List Node → Node
  | [] => .empty
  | [item] => item
  | first :: second :: rest =>
    let items := first :: second :: rest
    .seq (ofItems (items.take (items.length / 2))) (ofItems (items.drop (items.length / 2)))
termination_by items => items.length
decreasing_by
  all_goals
    simp only [List.length_take, List.length_drop, List.length_cons]
    omega

/-- Any of the nodes, earlier ones preferred; the last comes first in the list. -/
def ofBranches (last : Node) (earlier : List Node) : Node :=
  earlier.foldl (fun tail branch => .alt branch tail) last

/-- The node or the empty text, the node preferred if greedy. -/
def optional (greedy : Bool) (node : Node) : Node :=
  if greedy then .alt node .empty else .alt .empty node

/-- Whether the empty text can match, conditions aside. -/
def isNullable : Node → Bool
  | empty | look _ | loop _ _ => true
  | one _ => false
  | capture _ body | plus _ body => body.isNullable
  | seq first second => first.isNullable && second.isNullable
  | alt first second => first.isNullable || second.isNullable

/-- The node any number of times. Where the node can match the empty text, one round that does so is
told apart from no round at all. -/
def star (greedy : Bool) (node : Node) : Node :=
  if node.isNullable then optional greedy (.plus greedy node) else .loop greedy node

/-- The node `count` times. -/
def copies (node : Node) : Nat → Node
  | 0 => .empty
  | count + 1 => .seq node (copies node count)

/-- The node up to `count` times. -/
def upTo (greedy : Bool) (node : Node) : Nat → Node
  | 0 => .empty
  | count + 1 => optional greedy (.seq node (upTo greedy node count))

/-- The node at least `least` times and, if there is a bound, at most `most` times. -/
def repeated (greedy : Bool) (node : Node) (least : Nat) : Option Nat → Node
  | some most => .seq (copies node least) (upTo greedy node (most - least))
  | none =>
    if least = 0 then star greedy node else .seq (copies node (least - 1)) (.plus greedy node)

/-- The number of nodes of a tree. -/
def size : Node → Nat
  | empty | one _ | look _ => 1
  | capture _ body | plus _ body | loop _ body => body.size + 1
  | seq first second | alt first second => first.size + second.size + 1

end Node

end RoutePatterns.Regex
