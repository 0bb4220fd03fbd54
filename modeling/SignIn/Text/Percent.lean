import SignIn.Text.Hex

/-!
# Percent encoding

A byte outside a chosen set is written as `%` and two upper-case hexadecimal digits. Which bytes
are kept as they are depends on the place: a cookie, a path, a query or a form. Reading turns every
well-formed escape into its byte and leaves a malformed one as it stands.
-/

namespace SignIn.Percent

def sign : UInt8 := 0x25

def escape (b : UInt8) : Bytes :=
  [sign, Hex.upperDigit (b.toNat / 16), Hex.upperDigit (b.toNat % 16)]

/-- Writes the bytes that are not kept as escapes. -/
def encode (keep : UInt8 → Bool) (s : Bytes) : Bytes :=
  s.flatMap fun b => if keep b then [b] else escape b

/-- Reads escapes to the end, after the bytes in `acc` (last first). -/
def decodeFrom (acc : Bytes) : Bytes → Bytes
  | [] => acc.reverse
  | [b] => (b :: acc).reverse
  | [b, c] => (c :: b :: acc).reverse
  | b :: c :: d :: r =>
    if b = sign then
      match Hex.value? c, Hex.value? d with
      | some h, some l => decodeFrom (UInt8.ofNat (h * 16 + l) :: acc) r
      | _, _ => decodeFrom (b :: acc) (c :: d :: r)
    else decodeFrom (b :: acc) (c :: d :: r)

/-- The bytes that a text stands for. -/
def decode (s : Bytes) : Bytes := decodeFrom [] s

def isAlphanumeric (b : UInt8) : Bool :=
  (0x30 ≤ b && b ≤ 0x39) || (0x41 ≤ b && b ≤ 0x5A) || (0x61 ≤ b && b ≤ 0x7A)

/-- The printable bytes of ASCII, without the space. -/
def isGraphic (b : UInt8) : Bool := 0x21 ≤ b && b ≤ 0x7E

/-- A graphic byte that is not one of `marks`. -/
def graphicBut (marks : String) (b : UInt8) : Bool :=
  isGraphic b && !(Utf8.encode marks).contains b

/-- The bytes that a name or a value in a cookie keeps. -/
def keptInCookie : UInt8 → Bool := graphicBut "\"<>`#?\x7b\x7d/:;=@[\\]^|%(),"

/-- The bytes that a path keeps. -/
def keptInPath : UInt8 → Bool := graphicBut "\"<>`#?\x7b\x7d"

/-- The bytes that a query keeps. -/
def keptInQuery : UInt8 → Bool := graphicBut "\"<>#'"

/-- The bytes that a fragment keeps. -/
def keptInFragment : UInt8 → Bool := graphicBut "\"<>`"

/-- The bytes that a form field keeps. -/
def keptInForm (b : UInt8) : Bool :=
  isAlphanumeric b || b == 0x2A || b == 0x2D || b == 0x2E || b == 0x5F

end SignIn.Percent
