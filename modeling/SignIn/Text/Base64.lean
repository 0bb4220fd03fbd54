import SignIn.Text.Decimal

/-!
# Base64

Three bytes in four symbols of six bits. There are two alphabets, which differ in the symbols for
62 and 63, and two rules about padding. In either, the last quad must leave no unused bit set, so a
byte string has one text for each alphabet, up to its padding.

Symbols are checked in order of their offset, except that a text whose length leaves one symbol
over is first tested for a stray last byte (a line feed, say).
-/

namespace SignIn.Base64

/-- The symbols for 62 and 63 are `+` and `/`, or `-` and `_`. -/
inductive Alphabet where
  | standard
  | urlSafe
  deriving DecidableEq, Repr

/-- What is required of the padding at the end. -/
inductive Padding where
  /-- As many pads as complete the last quad. -/
  | canonical
  /-- Any number of pads that the last quad has room for. -/
  | indifferent
  deriving DecidableEq, Repr

/-- The padding byte, `=`. -/
def pad : UInt8 := 0x3D

def Alphabet.symbol62 : Alphabet → UInt8
  | .standard => 0x2B
  | .urlSafe => 0x2D

def Alphabet.symbol63 : Alphabet → UInt8
  | .standard => 0x2F
  | .urlSafe => 0x5F

def Alphabet.symbol (α : Alphabet) (n : Nat) : UInt8 :=
  if n < 26 then UInt8.ofNat (0x41 + n)
  else if n < 52 then UInt8.ofNat (0x61 + (n - 26))
  else if n < 62 then UInt8.ofNat (0x30 + (n - 52))
  else if n = 62 then α.symbol62
  else α.symbol63

def Alphabet.value? (α : Alphabet) (b : UInt8) : Option Nat :=
  let n := b.toNat
  if 0x41 ≤ n ∧ n ≤ 0x5A then some (n - 0x41)
  else if 0x61 ≤ n ∧ n ≤ 0x7A then some (n - 0x61 + 26)
  else if 0x30 ≤ n ∧ n ≤ 0x39 then some (n - 0x30 + 52)
  else if b = α.symbol62 then some 62
  else if b = α.symbol63 then some 63
  else none

/-- Why a text is not base64. -/
inductive Error where
  /-- A byte outside the alphabet, or padding where there can be none. -/
  | invalidByte (offset : Nat) (byte : UInt8)
  /-- One symbol is left over. -/
  | invalidLength (length : Nat)
  /-- The last symbol sets bits that belong to no byte. -/
  | invalidLastSymbol (offset : Nat) (byte : UInt8)
  /-- The padding does not complete the last quad. -/
  | invalidPadding
  deriving DecidableEq, Repr

def Error.message : Error → String
  | .invalidByte offset byte =>
    "Invalid symbol " ++ Decimal.ofNat byte.toNat ++ ", offset " ++ Decimal.ofNat offset ++ "."
  | .invalidLength length => "Invalid input length: " ++ Decimal.ofNat length
  | .invalidLastSymbol offset byte =>
    "Invalid last symbol " ++ Decimal.ofNat byte.toNat ++ ", offset "
      ++ Decimal.ofNat offset ++ "."
  | .invalidPadding => "Invalid padding"

/-! ## Writing -/

/-- The symbols of a byte string after those in `acc` (last first), without padding. -/
def bodyFrom (α : Alphabet) (acc : Bytes) : Bytes → Bytes
  | [] => acc.reverse
  | [x] => (α.symbol (x.toNat % 4 * 16) :: α.symbol (x.toNat / 4) :: acc).reverse
  | [x, y] =>
    (α.symbol (y.toNat % 16 * 4) :: α.symbol (x.toNat % 4 * 16 + y.toNat / 16) ::
      α.symbol (x.toNat / 4) :: acc).reverse
  | x :: y :: z :: r =>
    bodyFrom α (α.symbol (z.toNat % 64) :: α.symbol (y.toNat % 16 * 4 + z.toNat / 64) ::
      α.symbol (x.toNat % 4 * 16 + y.toNat / 16) :: α.symbol (x.toNat / 4) :: acc) r

/-- The symbols of a byte string, without padding. -/
def body (α : Alphabet) (s : Bytes) : Bytes := bodyFrom α [] s

/-- The number of pads that complete the last quad of a text of `n` bytes. -/
def padCount (n : Nat) : Nat := (3 - n % 3) % 3

/-- The text of a byte string, padded. -/
def encode (α : Alphabet) (s : Bytes) : Bytes := body α s ++ List.replicate (padCount s.length) pad

/-! ## Reading -/

/-- The values of four symbols at `offset`, or the first byte that is none. -/
def quad (α : Alphabet) (offset : Nat) (a b c d : UInt8) : Except Error (Nat × Nat × Nat × Nat) :=
  match α.value? a, α.value? b, α.value? c, α.value? d with
  | some a, some b, some c, some d => .ok (a, b, c, d)
  | none, _, _, _ => .error (.invalidByte offset a)
  | _, none, _, _ => .error (.invalidByte (offset + 1) b)
  | _, _, none, _ => .error (.invalidByte (offset + 2) c)
  | _, _, _, none => .error (.invalidByte (offset + 3) d)

/-- The last quad as far as it has been read. -/
structure Tail where
  /-- The values of its symbols, last first. -/
  values : List Nat
  last : UInt8
  pads : Nat
  deriving DecidableEq, Repr

/-- Reads the rest of the last quad, which begins at `offset`. -/
def readTail (α : Alphabet) (offset : Nat) (t : Tail) : Bytes → Except Error Tail
  | [] => .ok t
  | b :: r =>
    let i := t.values.length + t.pads
    if b = pad then
      if i < 2 then .error (.invalidByte (offset + i) b)
      else readTail α offset { t with pads := t.pads + 1 } r
    else if t.pads ≠ 0 then .error (.invalidByte (offset + t.values.length) pad)
    else match α.value? b with
      | none => .error (.invalidByte (offset + i) b)
      | some v => readTail α offset { t with values := v :: t.values, last := b } r

/-- The bytes of the last quad. -/
def Tail.bytes (p : Padding) (offset : Nat) (t : Tail) : Except Error Bytes :=
  if t.values.length < 2 then .error (.invalidLength (offset + t.values.length))
  else if p = .canonical ∧ (t.values.length + t.pads) % 4 ≠ 0 then .error .invalidPadding
  else
    let unused := Error.invalidLastSymbol (offset + t.values.length - 1) t.last
    match t.values with
    | [b, a] =>
      if b % 16 ≠ 0 then .error unused else .ok [UInt8.ofNat (a * 4 + b / 16)]
    | [c, b, a] =>
      if c % 4 ≠ 0 then .error unused
      else .ok [UInt8.ofNat (a * 4 + b / 16), UInt8.ofNat (b % 16 * 16 + c / 4)]
    | [d, c, b, a] =>
      .ok [UInt8.ofNat (a * 4 + b / 16), UInt8.ofNat (b % 16 * 16 + c / 4),
        UInt8.ofNat (c % 4 * 64 + d)]
    | _ => .ok []

/-- Reads quads from `offset` on, after the bytes in `acc` (last first). -/
def decodeFrom (α : Alphabet) (p : Padding) (offset : Nat) (acc : Bytes) :
    Bytes → Except Error Bytes
  | [] => .ok acc.reverse
  | a :: b :: c :: d :: e :: r =>
    match quad α offset a b c d with
    | .error e => .error e
    | .ok (a, b, c, d) =>
      decodeFrom α p (offset + 4)
        (UInt8.ofNat (c % 4 * 64 + d) :: UInt8.ofNat (b % 16 * 16 + c / 4) ::
          UInt8.ofNat (a * 4 + b / 16) :: acc) (e :: r)
  | s =>
    match readTail α offset ⟨[], 0, 0⟩ s with
    | .error e => .error e
    | .ok t => match t.bytes p offset with
      | .error e => .error e
      | .ok bytes => .ok (acc.reverse ++ bytes)

/-- The byte at the end of a text with one symbol over, if it is neither a symbol nor a pad. -/
def stray? (α : Alphabet) (s : Bytes) : Option UInt8 :=
  if s.length % 4 = 1 then
    s.getLast?.filter fun b => b ≠ pad && (α.value? b).isNone
  else none

/-- The bytes that a text stands for. -/
def decode (α : Alphabet) (p : Padding) (s : Bytes) : Except Error Bytes :=
  match stray? α s with
  | some b => .error (.invalidByte (s.length - 1) b)
  | none => decodeFrom α p 0 [] s

theorem Alphabet.value?_symbol (α : Alphabet) : ∀ n < 64, α.value? (α.symbol n) = some n := by
  cases α <;> decide

example : encode .standard [0x7B, 0x7D] = [0x65, 0x33, 0x30, 0x3D] := by decide
example : decode .standard .indifferent [0x65, 0x33, 0x30] = .ok [0x7B, 0x7D] := rfl
example : decode .standard .canonical [0x65, 0x33, 0x30] = .error .invalidPadding := rfl
example : decode .urlSafe .indifferent [0x65, 0x33, 0x31] =
    .error (.invalidLastSymbol 2 0x31) := rfl

end SignIn.Base64
