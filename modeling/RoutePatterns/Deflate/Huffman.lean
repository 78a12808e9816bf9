import RoutePatterns.Deflate.Bits

/-!
Canonical Huffman codes. A code is given by the length of each symbol's code word; code words of one
length are consecutive numbers in symbol order, and shorter ones come first.
-/

set_option autoImplicit false

namespace RoutePatterns.Deflate

/-- A code as a binary tree. -/
inductive CodeTree
  /-- No code word goes this way. -/
  | vacant
  /-- The end of the code word of a symbol. -/
  | symbol (value : Nat)
  /-- The next bit decides. -/
  | branch (zero one : CodeTree)
  deriving Repr

namespace CodeTree

/-- Adds the code word `bits` of a symbol. -/
def insert (value : Nat) : List Bool → CodeTree → CodeTree
  | [], _ => symbol value
  | bit :: bits, tree =>
    let (zero, one) :=
      match tree with
      | branch zero one => (zero, one)
      | _ => (vacant, vacant)
    if bit then branch zero (one.insert value bits) else branch (zero.insert value bits) one

/-- Reads a symbol. -/
def read? : CodeTree → BitReader → Option (Nat × BitReader)
  | vacant, _ => none
  | symbol value, reader => some (value, reader)
  | branch zero one, reader =>
    match reader.bit? with
    | none => none
    | some (true, reader) => one.read? reader
    | some (false, reader) => zero.read? reader

/-- The longest code word there can be. -/
def maxLength : Nat := 15

/-- The bits of a code word, the most significant first. -/
def wordBits (word length : Nat) : List Bool :=
  (List.range length).reverse.map word.testBit

/-- The symbols, with numbers from `value` on, whose code words have a length. -/
def symbolsOfLength (length value : Nat) : List Nat → List Nat
  | [] => []
  | other :: lengths =>
    let rest := symbolsOfLength length (value + 1) lengths
    if other = length then value :: rest else rest

/-- Adds the code words from `length` on, where `word` is the next free number of that length. -/
def addLengths (lengths : List Nat) (word : Nat) : List Nat → CodeTree → CodeTree
  | [], tree => tree
  | length :: others, tree =>
    let values := symbolsOfLength length 0 lengths
    let tree :=
      (values.zipIdx word).foldl (fun tree entry => tree.insert entry.1 (wordBits entry.2 length))
        tree
    addLengths lengths (2 * (word + values.length)) others tree

/-- The space that code words take up, where a word of the greatest length takes one. -/
def spaceOf (lengths : List Nat) : Nat :=
  lengths.foldr (fun length space =>
    if length = 0 then space else 1 <<< (maxLength - length) + space) 0

/-- The tree of a code. The code words must fill the space, unless `loose` holds and there is at
most one of them. -/
def ofLengths? (loose : Bool) (lengths : List Nat) : Option CodeTree :=
  let used := lengths.countP (· != 0)
  if spaceOf lengths = 1 <<< maxLength || (loose && used ≤ 1) then
    some (addLengths lengths 0 ((List.range maxLength).map (· + 1)) vacant)
  else none

end CodeTree

end RoutePatterns.Deflate
