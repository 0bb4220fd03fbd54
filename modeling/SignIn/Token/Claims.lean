import SignIn.Json.Value
import SignIn.Text.Base64

/-!
# What a token claims

An identity token is a header, a payload and a signature with points between them. The payload is
the base64 text of a JSON object, whose members are the claims. Nothing is checked here: the claims
of a token may be relied on only after the provider has vouched for it.
-/

namespace SignIn.Token

/-- The claims of a token by their names, in the order of the names. -/
abbrev Claims := List (String × Json.Value)

/-- Why a claim cannot be read from a token. -/
inductive ClaimError where
  /-- The token has a number of segments other than three. -/
  | segments (count : Nat)
  | payloadNotBase64 (e : Base64.Error)
  | payloadNotObject (e : Json.Error)
  | missing (name : String)
  | notString (name : String)
  deriving DecidableEq, Repr

def ClaimError.message : ClaimError → String
  | .segments count => "malformed token: expected 3 segments, found " ++ Decimal.ofNat count
  | .payloadNotBase64 e => "token payload is not valid base64: " ++ e.message
  | .payloadNotObject e => "token payload is not a JSON object: " ++ e.message
  | .missing name => "claim " ++ Quoted.text name ++ " is missing"
  | .notString name => "claim " ++ Quoted.text name ++ " is not a string"

/-- What stands between the segments of a token. -/
def point : UInt8 := 0x2E

def segments (token : String) : List Bytes := (Utf8.encode token).splitOn point

/-- The alphabet of a payload, going by the symbols that only one of them has. -/
def alphabetOf (payload : Bytes) : Base64.Alphabet :=
  if payload.any fun b => b == Base64.Alphabet.urlSafe.symbol62 ||
      b == Base64.Alphabet.urlSafe.symbol63 then .urlSafe
  else .standard

/-- The bytes of a payload. Padding may be left out. -/
def payloadBytes (payload : Bytes) : Except Base64.Error Bytes :=
  Base64.decode (alphabetOf payload) .indifferent payload

def payloadClaims (payload : Bytes) : Except ClaimError Claims :=
  match payloadBytes payload with
  | .error e => .error (.payloadNotBase64 e)
  | .ok text =>
    match Json.parseObject text with
    | .error e => .error (.payloadNotObject e)
    | .ok claims => .ok claims

def claims (token : String) : Except ClaimError Claims :=
  match segments token with
  | [_, payload, _] => payloadClaims payload
  | ss => .error (.segments ss.length)

/-- The claim of the given name, which must be a string. -/
def Claims.string (c : Claims) (name : String) : Except ClaimError String :=
  match Json.member? c name with
  | none => .error (.missing name)
  | some (.string s) => .ok s
  | some _ => .error (.notString name)

end SignIn.Token
