import SignIn.Text.Decimal
import SignIn.Text.Percent

/-!
# Cookies in a response

A response asks the browser to keep a cookie, for all paths and out of reach of scripts, or, with
an age of zero and an empty value, to drop it.
-/

namespace SignIn

/-- A cookie that a response sets. -/
structure CookieChange where
  name : Bytes
  value : Bytes
  /-- Whether it may only be sent back over a secure connection. -/
  secure : Bool
  /-- The number of seconds that it is kept. -/
  maxAge : Nat
  deriving DecidableEq, Repr

namespace CookieChange

/-- The name and the value as they are spelled. -/
def pair (c : CookieChange) : Bytes :=
  Percent.encode Percent.keptInCookie c.name ++ 0x3D :: Percent.encode Percent.keptInCookie c.value

/-- What follows the name and the value. -/
def attributes (c : CookieChange) : Bytes :=
  Utf8.encode ("; HttpOnly" ++ (if c.secure then "; Secure" else "") ++ "; Path=/; Max-Age=" ++
    Decimal.ofNat c.maxAge)

/-- The value of the `Set-Cookie` header. -/
def header (c : CookieChange) : Bytes := c.pair ++ c.attributes

/-- Whether it sets the cookie of the given name, going by how its header begins. -/
def sets (c : CookieChange) (name : Bytes) : Bool := (name ++ [0x3D]).isPrefixOf c.header

example : (CookieChange.mk (Utf8.encode "_id") [] true 0).header =
    Utf8.encode "_id=; HttpOnly; Secure; Path=/; Max-Age=0" := by decide +kernel

end CookieChange

end SignIn
