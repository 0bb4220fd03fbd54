import SignIn.Cookie.Header
import SignIn.Crypto.Gcm
import SignIn.Crypto.Hkdf
import SignIn.Text.Base64

/-!
# Sealed cookies

A sealed value is the base64 text of a nonce and an encrypted text, bound to the cookie's name.
Both of the service's secrets enter the key, so a change of either makes every cookie sealed before
it unreadable.
-/

namespace SignIn

structure Secret where
  bytes : Bytes
  length_bytes : bytes.length = 32
  deriving DecidableEq, Repr

/-- The secret that a byte string is, if it is long enough and no longer. -/
def Secret.ofBytes? (b : Bytes) : Option Secret :=
  if h : b.length = 32 then some ⟨b, h⟩ else none

/-- The two secrets that cookies are sealed with. -/
structure Secrets where
  sign : Secret
  encrypt : Secret
  deriving DecidableEq, Repr

/-- What the derived bytes are for: 32 to sign cookies, then 32 to encrypt them. -/
def Secrets.purpose : Bytes :=
  Utf8.encode "COOKIE;SIGNED:HMAC-SHA256;PRIVATE:AEAD-AES-256-GCM"

/-- The key that cookies are sealed with. -/
def Secrets.key (s : Secrets) : Gcm.Key :=
  .ofBytes ((Hkdf.expand (s.sign.bytes ++ s.encrypt.bytes) Secrets.purpose 64).drop 32)

abbrev Nonce := Vector UInt8 12

namespace Cookie

/-- The sealed value of a text in the cookie of the given name. -/
def sealed (k : Gcm.Key) (nonce : Nonce) (name text : Bytes) : Bytes :=
  Base64.encode .standard (nonce.toList ++ Gcm.encrypt k nonce.toList name text)

/-- The text that was sealed into a cookie, if it opens with the key. -/
def open? (k : Gcm.Key) (c : Cookie) : Option Bytes :=
  match Base64.decode .standard .canonical c.value with
  | .error _ => none
  | .ok data =>
    if data.length ≤ Gcm.nonceLength then none
    else
      let nonce := data.take Gcm.nonceLength
      (Gcm.decrypt? k nonce c.name (data.drop Gcm.nonceLength)).filter fun text =>
        (Utf8.decodeChars? text).isSome

end Cookie

end SignIn
