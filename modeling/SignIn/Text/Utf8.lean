/-!
# UTF-8

Byte strings and the text they stand for. A header, a body or a cookie is a list of bytes; it
becomes text only where it is well-formed UTF-8: no byte sequence is overlong, none stands for a
surrogate, and none goes past U+10FFFF, so each text has exactly one encoding.
-/

namespace SignIn

/-- A string of bytes, as it arrives and leaves. -/
abbrev Bytes := List UInt8

namespace Utf8

/-- The one to four bytes of a character. -/
def encodeChar (c : Char) : Bytes := String.utf8EncodeChar c

/-- The bytes of a list of characters. -/
def encodeChars (cs : List Char) : Bytes := cs.flatMap encodeChar

def encode (s : String) : Bytes := encodeChars s.toList

/-- The value of a continuation byte, `10xxxxxx`. -/
def continuation? (b : UInt8) : Option Nat :=
  if 0x80 ≤ b.toNat ∧ b.toNat < 0xC0 then some (b.toNat - 0x80) else none

/-- A code point, if it is at least `least` and belongs to a character. -/
def charFrom? (least n : Nat) : Option Char :=
  if least ≤ n ∧ n.isValidChar then some (Char.ofNat n) else none

def two? (b b₁ : UInt8) : Option Char := do
  let c₁ ← continuation? b₁
  charFrom? 0x80 ((b.toNat - 0xC0) * 64 + c₁)

def three? (b b₁ b₂ : UInt8) : Option Char := do
  let c₁ ← continuation? b₁
  let c₂ ← continuation? b₂
  charFrom? 0x800 ((b.toNat - 0xE0) * 4096 + c₁ * 64 + c₂)

def four? (b b₁ b₂ b₃ : UInt8) : Option Char := do
  let c₁ ← continuation? b₁
  let c₂ ← continuation? b₂
  let c₃ ← continuation? b₃
  charFrom? 0x10000 ((b.toNat - 0xF0) * 262144 + c₁ * 4096 + c₂ * 64 + c₃)

/-- Reads characters to the end, after those in `acc` (last first). -/
def decodeFrom (acc : List Char) : Bytes → Option (List Char)
  | [] => some acc.reverse
  | b :: r =>
    if b.toNat < 0x80 then decodeFrom (Char.ofNat b.toNat :: acc) r
    else if b.toNat < 0xC0 then none
    else if b.toNat < 0xE0 then
      match r with
      | b₁ :: r => match two? b b₁ with
        | some c => decodeFrom (c :: acc) r
        | none => none
      | _ => none
    else if b.toNat < 0xF0 then
      match r with
      | b₁ :: b₂ :: r => match three? b b₁ b₂ with
        | some c => decodeFrom (c :: acc) r
        | none => none
      | _ => none
    else if b.toNat < 0xF8 then
      match r with
      | b₁ :: b₂ :: b₃ :: r => match four? b b₁ b₂ b₃ with
        | some c => decodeFrom (c :: acc) r
        | none => none
      | _ => none
    else none

/-- The characters that a byte string encodes, if it is well-formed. -/
def decodeChars? (s : Bytes) : Option (List Char) := decodeFrom [] s

/-- The text that a byte string encodes, if it is well-formed. -/
def decode? (s : Bytes) : Option String := (decodeChars? s).map String.ofList

@[simp] theorem encode_append (s t : String) : encode (s ++ t) = encode s ++ encode t := by
  simp [encode, encodeChars]

@[simp] theorem encodeChars_cons (c : Char) (cs : List Char) :
    encodeChars (c :: cs) = encodeChar c ++ encodeChars cs := rfl

end Utf8

end SignIn
