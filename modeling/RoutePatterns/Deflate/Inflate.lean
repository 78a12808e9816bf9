import RoutePatterns.Deflate.Huffman

/-!
Decompressing raw DEFLATE data: blocks that are stored, or coded with the fixed code or with a code
of their own. Bytes after the final block are ignored. A copy from before the beginning of the data
gives zero bytes.
-/

set_option autoImplicit false

namespace RoutePatterns.Deflate

/-- The fixed code for literals and lengths, as lengths of code words. -/
def fixedLiteralLengths : List Nat :=
  List.replicate 144 8 ++ List.replicate 112 9 ++ List.replicate 24 7 ++ List.replicate 8 8

/-- The fixed code for distances, as lengths of code words. -/
def fixedDistanceLengths : List Nat :=
  List.replicate 32 5

/-- The least copy length of each length symbol and the number of extra bits after it. -/
def copyLengths : Array (Nat × Nat) := #[
  (3, 0), (4, 0), (5, 0), (6, 0), (7, 0), (8, 0), (9, 0), (10, 0), (11, 1), (13, 1), (15, 1),
  (17, 1), (19, 2), (23, 2), (27, 2), (31, 2), (35, 3), (43, 3), (51, 3), (59, 3), (67, 4),
  (83, 4), (99, 4), (115, 4), (131, 5), (163, 5), (195, 5), (227, 5), (258, 0)]

/-- The least distance of each distance symbol and the number of extra bits after it. -/
def copyDistances : Array (Nat × Nat) := #[
  (1, 0), (2, 0), (3, 0), (4, 0), (5, 1), (7, 1), (9, 2), (13, 2), (17, 3), (25, 3), (33, 4),
  (49, 4), (65, 5), (97, 5), (129, 6), (193, 6), (257, 7), (385, 7), (513, 8), (769, 8),
  (1025, 9), (1537, 9), (2049, 10), (3073, 10), (4097, 11), (6145, 11), (8193, 12), (12289, 12),
  (16385, 13), (24577, 13)]

/-- The order in which the lengths of the code for code lengths are written. -/
def codeLengthOrder : List Nat :=
  [16, 17, 18, 0, 8, 7, 9, 6, 10, 5, 11, 4, 12, 3, 13, 2, 14, 1, 15]

/-- The codes of a block. -/
structure BlockCode where
  /-- The code for literals, copy lengths and the end of the block. -/
  literals : CodeTree
  /-- The code for copy distances. -/
  distances : CodeTree

/-- The fixed code. -/
def BlockCode.fixed? : Option BlockCode :=
  match CodeTree.ofLengths? true fixedLiteralLengths,
    CodeTree.ofLengths? true fixedDistanceLengths with
  | some literals, some distances => some ⟨literals, distances⟩
  | _, _ => none

/-! ### Copies -/

/-- The byte `distance` before the end of the output; zero before its beginning. -/
def byteBack (output : Array UInt8) (distance : Nat) : UInt8 :=
  if distance ≤ output.size then output[output.size - distance]?.getD 0 else 0

/-- Copies `count` bytes from `distance` before the end. -/
def copyBack (distance : Nat) : Nat → Array UInt8 → Array UInt8
  | 0, output => output
  | count + 1, output => copyBack distance count (output.push (byteBack output distance))

/-- Reads the number that a symbol of a table stands for. -/
def readScaled (table : Array (Nat × Nat)) (symbol : Nat) (reader : BitReader) :
    Option (Nat × BitReader) :=
  match table[symbol]? with
  | none => none
  | some (least, extra) =>
    (reader.number? extra).map fun (value, reader) => (least + value, reader)

/-! ### Blocks -/

/-- Reads the symbols of a coded block up to its end; `fuel` bounds their number. -/
def readSymbols (code : BlockCode) :
    Nat → Array UInt8 → BitReader → Option (Array UInt8 × BitReader)
  | 0, _, _ => none
  | fuel + 1, output, reader =>
    match code.literals.read? reader with
    | none => none
    | some (symbol, reader) =>
      if symbol < 256 then readSymbols code fuel (output.push (.ofNat symbol)) reader
      else if symbol = 256 then some (output, reader)
      else
        match readScaled copyLengths (symbol - 257) reader with
        | none => none
        | some (count, reader) =>
          match code.distances.read? reader with
          | none => none
          | some (symbol, reader) =>
            match readScaled copyDistances symbol reader with
            | none => none
            | some (distance, reader) =>
              readSymbols code fuel (copyBack distance count output) reader

/-- Reads `count` numbers of three bits. -/
def readTriples : Nat → BitReader → Option (List Nat × BitReader)
  | 0, reader => some ([], reader)
  | count + 1, reader =>
    match reader.number? 3 with
    | none => none
    | some (value, reader) =>
      (readTriples count reader).map fun (values, reader) => (value :: values, reader)

/-- Reads code lengths until there are `count`; `done` holds those read so far, the last first.
`fuel` bounds the number of symbols. -/
def readLengths (code : CodeTree) (count : Nat) :
    Nat → List Nat → BitReader → Option (List Nat × BitReader)
  | 0, _, _ => none
  | fuel + 1, done, reader =>
    if count ≤ done.length then
      if done.length = count then some (done.reverse, reader) else none
    else
      match code.read? reader with
      | none => none
      | some (symbol, reader) =>
        if symbol < 16 then readLengths code count fuel (symbol :: done) reader
        else
          let again? : Option (Nat × Nat × Nat) :=
            if symbol = 16 then done.head?.map fun length => (length, 3, 2)
            else if symbol = 17 then some (0, 3, 3)
            else some (0, 11, 7)
          match again? with
          | none => none
          | some (length, least, extra) =>
            match reader.number? extra with
            | none => none
            | some (value, reader) =>
              readLengths code count fuel (List.replicate (least + value) length ++ done) reader

/-- Reads the code of a block that has one of its own. -/
def readBlockCode (reader : BitReader) : Option (BlockCode × BitReader) := do
  let (literals, reader) ← reader.number? 5
  let (distances, reader) ← reader.number? 5
  let (lengths, reader) ← reader.number? 4
  let literalCount := literals + 257
  let distanceCount := distances + 1
  if 286 < literalCount || 30 < distanceCount then none
  else
    let (triples, reader) ← readTriples (lengths + 4) reader
    let written := codeLengthOrder.zip triples
    let tree ← CodeTree.ofLengths? false
      ((List.range 19).map fun symbol => (written.lookup symbol).getD 0)
    let total := literalCount + distanceCount
    let (all, reader) ← readLengths tree total (total + 1) [] reader
    let literalTree ← CodeTree.ofLengths? true (all.take literalCount)
    let distanceTree ← CodeTree.ofLengths? true (all.drop literalCount)
    some (⟨literalTree, distanceTree⟩, reader)

/-- A number of two bytes, the less significant first. -/
def pairValue (low high : UInt8) : Nat :=
  low.toNat + 256 * high.toNat

/-- Reads a stored block: its length, the complement of its length and its bytes. -/
def readStored (output : Array UInt8) (bytes : List UInt8) :
    Option (Array UInt8 × BitReader) :=
  match bytes with
  | low :: high :: lowComplement :: highComplement :: rest =>
    let length := pairValue low high
    if pairValue lowComplement highComplement != 0xFFFF - length || rest.length < length then none
    else some (output ++ rest.take length, .ofBytes (rest.drop length))
  | _ => none

/-- Reads a block after the bit that tells whether it is the final one. -/
def readBlock (output : Array UInt8) (reader : BitReader) : Option (Array UInt8 × BitReader) :=
  match reader.number? 2 with
  | some (0, reader) => readStored output reader.wholeBytes
  | some (1, reader) =>
    BlockCode.fixed?.bind fun code => readSymbols code (reader.size + 1) output reader
  | some (2, reader) =>
    (readBlockCode reader).bind fun (code, reader) =>
      readSymbols code (reader.size + 1) output reader
  | _ => none

/-- Reads blocks up to the final one; `fuel` bounds their number. -/
def readBlocks : Nat → Array UInt8 → BitReader → Option (Array UInt8)
  | 0, _, _ => none
  | fuel + 1, output, reader =>
    match reader.bit? with
    | none => none
    | some (isFinal, reader) =>
      match readBlock output reader with
      | none => none
      | some (output, reader) =>
        if isFinal then some output else readBlocks fuel output reader

/-- Decompresses data; `none` if it is damaged or ends too early. -/
def inflate? (data : List UInt8) : Option (List UInt8) :=
  (readBlocks (8 * data.length + 1) #[] (.ofBytes data)).map Array.toList

end RoutePatterns.Deflate
