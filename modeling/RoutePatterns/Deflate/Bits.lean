/-!
Reading bytes bit by bit, the least significant bit of each byte first.
-/

set_option autoImplicit false

namespace RoutePatterns.Deflate

/-- The bits that are left of the byte being read, and the bytes after it. -/
structure BitReader where
  /-- The bits left of the current byte. -/
  pending : List Bool
  /-- The bytes after it. -/
  bytes : List UInt8
  deriving DecidableEq, Repr

/-- The bits of a byte, the least significant first. -/
def bitsOf (byte : UInt8) : List Bool :=
  (List.range 8).map byte.toNat.testBit

namespace BitReader

/-- A reader at the beginning of bytes. -/
def ofBytes (bytes : List UInt8) : BitReader :=
  ⟨[], bytes⟩

/-- Reads a bit. -/
def bit? (reader : BitReader) : Option (Bool × BitReader) :=
  match reader.pending, reader.bytes with
  | bit :: pending, bytes => some (bit, ⟨pending, bytes⟩)
  | [], byte :: bytes =>
    match bitsOf byte with
    | bit :: pending => some (bit, ⟨pending, bytes⟩)
    | [] => none
  | [], [] => none

/-- Reads a number of `count` bits, the least significant first. -/
def number? : Nat → BitReader → Option (Nat × BitReader)
  | 0, reader => some (0, reader)
  | count + 1, reader =>
    match reader.bit? with
    | none => none
    | some (bit, reader) =>
      match number? count reader with
      | none => none
      | some (value, reader) => some (bit.toNat + 2 * value, reader)

/-- The bytes from the next whole byte on. -/
def wholeBytes (reader : BitReader) : List UInt8 :=
  reader.bytes

/-- The number of bits that are left. -/
def size (reader : BitReader) : Nat :=
  reader.pending.length + 8 * reader.bytes.length

end BitReader

end RoutePatterns.Deflate
