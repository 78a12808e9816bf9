/-!
Compressing data without making it smaller: as stored blocks.
-/

set_option autoImplicit false

namespace RoutePatterns.Deflate

/-- The greatest number of bytes in a stored block. -/
def storedLimit : Nat := 0xFFFF

/-- A number of two bytes, the less significant first. -/
def pairBytes (value : Nat) : List UInt8 :=
  [.ofNat (value % 256), .ofNat (value / 256)]

/-- A stored block. -/
def storedBlock (isFinal : Bool) (content : List UInt8) : List UInt8 :=
  (if isFinal then 1 else 0) ::
    (pairBytes content.length ++ pairBytes (0xFFFF - content.length) ++ content)

/-- Data as stored blocks. -/
def store (data : List UInt8) : List UInt8 :=
  if data.length ≤ storedLimit then storedBlock true data
  else storedBlock false (data.take storedLimit) ++ store (data.drop storedLimit)
termination_by data.length
decreasing_by
  simp only [storedLimit, List.length_drop] at *
  omega

end RoutePatterns.Deflate
