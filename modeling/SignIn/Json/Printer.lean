import SignIn.Text.Decimal
import SignIn.Text.Hex

/-!
# Writing JSON

Compact text: no blanks, and in strings only what must be escaped is escaped, with the short form
where there is one.
-/

namespace SignIn.Json

/-- The bytes of a character inside a string. -/
def printChar (c : Char) : Bytes :=
  let n := c.toNat
  if n = 0x22 then [0x5C, 0x22]
  else if n = 0x5C then [0x5C, 0x5C]
  else if n = 0x08 then [0x5C, 0x62]
  else if n = 0x0C then [0x5C, 0x66]
  else if n = 0x0A then [0x5C, 0x6E]
  else if n = 0x0D then [0x5C, 0x72]
  else if n = 0x09 then [0x5C, 0x74]
  else if n < 0x20 then [0x5C, 0x75, 0x30, 0x30, Hex.digit (n / 16), Hex.digit (n % 16)]
  else Utf8.encodeChar c

/-- A string in quotes. -/
def printString (s : String) : Bytes := 0x22 :: s.toList.flatMap printChar ++ [0x22]

def printBool (b : Bool) : Bytes := Utf8.encode (if b then "true" else "false")

def printInt (n : Int) : Bytes := Utf8.encode (Decimal.ofInt n)

/-- The members of an object, whose values are already printed, with commas between them. -/
def printMembers : List (String × Bytes) → Bytes
  | [] => []
  | [(key, v)] => printString key ++ 0x3A :: v
  | (key, v) :: m :: ms => printString key ++ 0x3A :: v ++ 0x2C :: printMembers (m :: ms)

/-- An object whose values are already printed. -/
def printObject (members : List (String × Bytes)) : Bytes :=
  0x7B :: printMembers members ++ [0x7D]

end SignIn.Json
