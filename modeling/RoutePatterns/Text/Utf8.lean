/-!
UTF-8: the bytes of a text, and reading bytes back with the place and the kind of the first fault.
Main statements: `length_encode`, the bytes of a text are as many as its characters take, and
`decode_encode`, reading the bytes of a text gives the text.
-/

set_option autoImplicit false

namespace RoutePatterns.Text

/-- Why bytes are not UTF-8. Every fault comes with the length of the well-formed part before it. -/
inductive Utf8Fault
  /-- The `length` bytes at `index` begin no character. -/
  | invalid (length index : Nat)
  /-- The bytes end inside the character that begins at `index`. -/
  | incomplete (index : Nat)
  deriving DecidableEq, Repr

namespace Utf8Fault

/-- The wording of a fault. -/
def message : Utf8Fault → String
  | .invalid length index =>
    s!"invalid utf-8 sequence of {length} bytes from index {index}"
  | .incomplete index => s!"incomplete utf-8 byte sequence from index {index}"

end Utf8Fault

namespace Utf8

/-- The bytes of one character. -/
def encodeChar (char : Char) : List UInt8 :=
  let code := char.toNat
  if code < 0x80 then [.ofNat code]
  else if code < 0x800 then [.ofNat (0xC0 + code / 64), .ofNat (0x80 + code % 64)]
  else if code < 0x10000 then
    [.ofNat (0xE0 + code / 4096), .ofNat (0x80 + code / 64 % 64), .ofNat (0x80 + code % 64)]
  else
    [.ofNat (0xF0 + code / 262144), .ofNat (0x80 + code / 4096 % 64),
      .ofNat (0x80 + code / 64 % 64), .ofNat (0x80 + code % 64)]

/-- The bytes of a text. -/
def encode (text : List Char) : List UInt8 :=
  text.flatMap encodeChar

theorem encode_cons (char : Char) (text : List Char) :
    encode (char :: text) = encodeChar char ++ encode text :=
  List.flatMap_cons

theorem encode_append (text other : List Char) :
    encode (text ++ other) = encode text ++ encode other :=
  List.flatMap_append

/-- The number of bytes of a text. -/
def byteLength (text : List Char) : Nat :=
  text.foldr (fun char size => char.utf8Size + size) 0

/-- Whether a byte continues a character. -/
def isTail (byte : UInt8) : Bool :=
  0x80 ≤ byte.toNat && byte.toNat < 0xC0

/-- Whether `second` may follow the first byte `lead` of a character of three or four bytes: the
bounds leave out overlong forms, surrogates and code points above U+10FFFF. -/
def admitsSecond (lead second : Nat) : Bool :=
  (if lead = 0xE0 then 0xA0 else if lead = 0xF0 then 0x90 else 0x80) ≤ second &&
    second < (if lead = 0xED then 0xA0 else if lead = 0xF4 then 0x90 else 0xC0)

/-- Reads characters from `index` on, after those in `done`, the last of which comes first. -/
def decodeFrom (index : Nat) (done : List Char) : List UInt8 → Except Utf8Fault (List Char)
  | [] => .ok done.reverse
  | first :: rest =>
    let lead := first.toNat
    if lead < 0x80 then decodeFrom (index + 1) (Char.ofNat lead :: done) rest
    else if lead < 0xC2 || 0xF4 < lead then .error (.invalid 1 index)
    else if lead < 0xE0 then
      match rest with
      | [] => .error (.incomplete index)
      | second :: rest =>
        if !isTail second then .error (.invalid 1 index)
        else
          let code := (lead - 0xC0) * 64 + (second.toNat - 0x80)
          decodeFrom (index + 2) (Char.ofNat code :: done) rest
    else if lead < 0xF0 then
      match rest with
      | [] => .error (.incomplete index)
      | [second] =>
        if !admitsSecond lead second.toNat then .error (.invalid 1 index)
        else .error (.incomplete index)
      | second :: third :: rest =>
        if !admitsSecond lead second.toNat then .error (.invalid 1 index)
        else if !isTail third then .error (.invalid 2 index)
        else
          let code := (lead - 0xE0) * 4096 + (second.toNat - 0x80) * 64 + (third.toNat - 0x80)
          decodeFrom (index + 3) (Char.ofNat code :: done) rest
    else
      match rest with
      | [] => .error (.incomplete index)
      | [second] =>
        if !admitsSecond lead second.toNat then .error (.invalid 1 index)
        else .error (.incomplete index)
      | [second, third] =>
        if !admitsSecond lead second.toNat then .error (.invalid 1 index)
        else if !isTail third then .error (.invalid 2 index)
        else .error (.incomplete index)
      | second :: third :: fourth :: rest =>
        if !admitsSecond lead second.toNat then .error (.invalid 1 index)
        else if !isTail third then .error (.invalid 2 index)
        else if !isTail fourth then .error (.invalid 3 index)
        else
          let code := (lead - 0xF0) * 262144 + (second.toNat - 0x80) * 4096 +
            (third.toNat - 0x80) * 64 + (fourth.toNat - 0x80)
          decodeFrom (index + 4) (Char.ofNat code :: done) rest

/-- Reads bytes as text, or gives the first fault. -/
def decode (bytes : List UInt8) : Except Utf8Fault (List Char) :=
  decodeFrom 0 [] bytes

/-! ### Numbers of bytes -/

theorem utf8Size_eq (char : Char) :
    char.utf8Size = if char.toNat < 0x80 then 1 else if char.toNat < 0x800 then 2
      else if char.toNat < 0x10000 then 3 else 4 := by
  have hle (bound : UInt32) : (char.val ≤ bound) = (char.toNat ≤ bound.toNat) :=
    propext UInt32.le_iff_toNat_le
  simp only [Char.utf8Size, hle, UInt32.toNat_ofNatLT, ← Nat.lt_succ_iff]

theorem length_encodeChar (char : Char) : (encodeChar char).length = char.utf8Size := by
  rw [utf8Size_eq, encodeChar]
  simp only [apply_ite List.length]
  rfl

@[simp]
theorem byteLength_nil : byteLength [] = 0 :=
  rfl

@[simp]
theorem byteLength_cons (char : Char) (text : List Char) :
    byteLength (char :: text) = char.utf8Size + byteLength text :=
  rfl

@[simp]
theorem byteLength_append (text other : List Char) :
    byteLength (text ++ other) = byteLength text + byteLength other := by
  induction text with
  | nil => simp
  | cons char text ih => rw [List.cons_append, byteLength_cons, byteLength_cons, ih, Nat.add_assoc]

/-- A text has as many bytes as its characters together. -/
theorem length_encode (text : List Char) : (encode text).length = byteLength text := by
  induction text with
  | nil => rfl
  | cons char rest ih =>
    rw [encode_cons, List.length_append, length_encodeChar, ih, byteLength_cons]

/-! ### Reading bytes back -/

theorem toNat_range (char : Char) :
    char.toNat < 0xD800 ∨ 0xDFFF < char.toNat ∧ char.toNat < 0x110000 := by
  have h := char.valid
  simp only [UInt32.isValidChar, Nat.isValidChar] at h
  exact h

theorem toNat_ofNat_of_lt {byte : Nat} (h : byte < 256) :
    (UInt8.ofNat byte).toNat = byte := by
  simp [UInt8.toNat_ofNat', Nat.mod_eq_of_lt h]

theorem isTail_ofNat (digit : Nat) : isTail (UInt8.ofNat (0x80 + digit % 64)) = true := by
  simp only [isTail, Bool.and_eq_true, decide_eq_true_eq]
  rw [toNat_ofNat_of_lt (by omega)]
  omega

private theorem decodeFrom_one {index : Nat} {done : List Char} {code : Nat} {rest : List UInt8}
    (hhigh : code < 0x80) :
    decodeFrom index done (.ofNat code :: rest) =
      decodeFrom (index + 1) (Char.ofNat code :: done) rest := by
  conv => lhs; unfold decodeFrom
  simp only
  rw [toNat_ofNat_of_lt (by omega), if_pos hhigh]

private theorem decodeFrom_two {index : Nat} {done : List Char} {code : Nat} {rest : List UInt8}
    (hlow : 0x80 ≤ code) (hhigh : code < 0x800) :
    decodeFrom index done (.ofNat (0xC0 + code / 64) :: .ofNat (0x80 + code % 64) :: rest) =
      decodeFrom (index + 2) (Char.ofNat code :: done) rest := by
  have hcode : (0xC0 + code / 64 - 0xC0) * 64 + (0x80 + code % 64 - 0x80) = code := by omega
  rw [decodeFrom]
  simp only [isTail_ofNat]
  rw [toNat_ofNat_of_lt (by omega), toNat_ofNat_of_lt (by omega), hcode, if_neg (by omega),
    if_neg (by simp; omega), if_pos (by omega)]
  rfl

private theorem decodeFrom_three {index : Nat} {done : List Char} {code : Nat}
    {rest : List UInt8} (hlow : 0x800 ≤ code) (hhigh : code < 0x10000)
    (hscalar : code < 0xD800 ∨ 0xDFFF < code) :
    decodeFrom index done (.ofNat (0xE0 + code / 4096) :: .ofNat (0x80 + code / 64 % 64) ::
        .ofNat (0x80 + code % 64) :: rest) =
      decodeFrom (index + 3) (Char.ofNat code :: done) rest := by
  have hcode : (0xE0 + code / 4096 - 0xE0) * 4096 + (0x80 + code / 64 % 64 - 0x80) * 64 +
      (0x80 + code % 64 - 0x80) = code := by omega
  have hadmits : admitsSecond (0xE0 + code / 4096) (0x80 + code / 64 % 64) = true := by
    simp only [admitsSecond, Bool.and_eq_true, decide_eq_true_eq]
    constructor
    · split
      · omega
      · split <;> omega
    · split
      · omega
      · split <;> omega
  rw [decodeFrom]
  simp only [isTail_ofNat]
  rw [toNat_ofNat_of_lt (by omega), toNat_ofNat_of_lt (by omega), toNat_ofNat_of_lt (by omega),
    hcode, hadmits, if_neg (by omega), if_neg (by simp; omega), if_neg (by omega),
    if_pos (by omega)]
  rfl

private theorem decodeFrom_four {index : Nat} {done : List Char} {code : Nat}
    {rest : List UInt8} (hlow : 0x10000 ≤ code) (hhigh : code < 0x110000) :
    decodeFrom index done (.ofNat (0xF0 + code / 262144) :: .ofNat (0x80 + code / 4096 % 64) ::
        .ofNat (0x80 + code / 64 % 64) :: .ofNat (0x80 + code % 64) :: rest) =
      decodeFrom (index + 4) (Char.ofNat code :: done) rest := by
  have hcode : (0xF0 + code / 262144 - 0xF0) * 262144 + (0x80 + code / 4096 % 64 - 0x80) * 4096 +
      (0x80 + code / 64 % 64 - 0x80) * 64 + (0x80 + code % 64 - 0x80) = code := by omega
  have hadmits : admitsSecond (0xF0 + code / 262144) (0x80 + code / 4096 % 64) = true := by
    simp only [admitsSecond, Bool.and_eq_true, decide_eq_true_eq]
    constructor
    · split
      · omega
      · split <;> omega
    · split
      · omega
      · split <;> omega
  rw [decodeFrom]
  simp only [isTail_ofNat]
  rw [toNat_ofNat_of_lt (by omega), toNat_ofNat_of_lt (by omega), toNat_ofNat_of_lt (by omega),
    toNat_ofNat_of_lt (by omega), hcode, hadmits, if_neg (by omega), if_neg (by simp; omega),
    if_neg (by omega), if_neg (by omega)]
  rfl

private theorem decodeFrom_encodeChar (index : Nat) (done : List Char) (char : Char)
    (rest : List UInt8) :
    decodeFrom index done (encodeChar char ++ rest) =
      decodeFrom (index + (encodeChar char).length) (char :: done) rest := by
  have hrange := toNat_range char
  have hchar : Char.ofNat char.toNat = char := by simp
  unfold encodeChar
  simp only
  split
  · next h => simpa [hchar] using decodeFrom_one h
  · split
    · next h => simpa [hchar] using decodeFrom_two (by omega) h
    · split
      · next h => simpa [hchar] using decodeFrom_three (by omega) h (by omega)
      · have hlow : 0x10000 ≤ char.toNat := by omega
        simpa [hchar] using decodeFrom_four hlow (by omega)

private theorem decodeFrom_encode (index : Nat) (done text : List Char) :
    decodeFrom index done (encode text) = .ok (done.reverse ++ text) := by
  induction text generalizing index done with
  | nil => simp [encode, decodeFrom]
  | cons char rest ih =>
    rw [encode_cons, decodeFrom_encodeChar, ih]
    simp

/-- Reading the bytes of a text gives the text. -/
theorem decode_encode (text : List Char) : decode (encode text) = .ok text := by
  simpa [decode] using decodeFrom_encode 0 [] text

end Utf8

end RoutePatterns.Text
