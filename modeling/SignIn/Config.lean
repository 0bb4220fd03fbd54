import SignIn.Cookie.Sealed
import SignIn.Net.Address
import SignIn.Text.Blank

/-!
# Configuration

The service is configured by the variables of its environment. Blanks around a value do not count,
and a value of blanks only is as good as none. The variables are checked in a fixed order, and the
first that is wrong is reported.
-/

namespace SignIn

/-- A variable that the configuration is read from. -/
inductive Variable where
  | databaseUrl
  | clientId
  | webUri
  | port
  | bindAddress
  | maxConnections
  | signKey
  | encryptKey
  | cookieSecure
  | tokeninfoUrl
  deriving DecidableEq, Repr

def Variable.name : Variable → String
  | .databaseUrl => "DATABASE_URL"
  | .clientId => "GOOGLE_CLIENT_ID"
  | .webUri => "WEB_URI"
  | .port => "PORT"
  | .bindAddress => "BIND_ADDR"
  | .maxConnections => "DB_MAX_CONNECTIONS"
  | .signKey => "SESSION_SIGN_KEY"
  | .encryptKey => "SESSION_ENCRYPT_KEY"
  | .cookieSecure => "COOKIE_SECURE"
  | .tokeninfoUrl => "GOOGLE_TOKENINFO_URL"

/-- The values of the variables that are set. -/
abbrev Environment := Variable → Option String

/-- The configuration of the service. -/
structure Config where
  databaseUrl : String
  /-- What tokens have to be issued for. -/
  clientId : String
  /-- The origin that may send requests with credentials. -/
  origin : String
  address : Address
  port : UInt16
  /-- The secrets that cookies are sealed with; without them they are drawn at the start. -/
  secrets : Option Secrets
  secureCookies : Bool
  maxConnections : UInt32
  tokeninfoUrl : String
  deriving DecidableEq, Repr

namespace Config

/-- What is wrong with a value. -/
inductive Reason where
  | notHeaderText
  | number (e : Decimal.Error)
  | notAddress
  | notHex (e : Hex.Error)
  | keyLength (bytes : Nat)
  | notBoolean (value : String)
  deriving DecidableEq, Repr

def Reason.message : Reason → String
  | .notHeaderText => "failed to parse header value"
  | .number e => e.message
  | .notAddress => "invalid IP address syntax"
  | .notHex e => e.message
  | .keyLength bytes => "expected 32 bytes (64 hex chars), got " ++ Decimal.ofNat bytes
  | .notBoolean value => "not a boolean: " ++ value

/-- Why an environment is not a configuration. -/
inductive Error where
  | missing (v : Variable)
  | invalid (v : Variable) (reason : Reason)
  | oneSecret
  deriving DecidableEq, Repr

def Error.message : Error → String
  | .missing v => v.name ++ " is required"
  | .invalid v reason => "invalid " ++ v.name ++ ": " ++ reason.message
  | .oneSecret =>
    Variable.signKey.name ++ " and " ++ Variable.encryptKey.name ++ " must be set together"

/-! ## Defaults -/

def defaultOrigin : String := "http://localhost:3000"

def defaultPort : UInt16 := 8080

def defaultMaxConnections : UInt32 := 5

/-- Where the provider is asked, if nothing is set. -/
def defaultTokeninfoUrl : String := "https://oauth2.googleapis.com/tokeninfo"

/-! ## Values -/

/-- The value of a variable without the blanks around it, if there is one. -/
def value? (env : Environment) (v : Variable) : Option String :=
  ((env v).map Blank.trim).filter (· ≠ "")

def required (env : Environment) (v : Variable) : Except Error String :=
  match value? env v with
  | some s => .ok s
  | none => .error (.missing v)

/-- The value of a variable as `read` makes it out, or `default` if it is not set. -/
def valueOr {α : Type} (env : Environment) (v : Variable) (default : α)
    (read : String → Except Reason α) : Except Error α :=
  match value? env v with
  | none => .ok default
  | some s =>
    match read s with
    | .ok a => .ok a
    | .error reason => .error (.invalid v reason)

/-- A byte that may stand in a header. -/
def isHeaderByte (b : UInt8) : Bool := (0x20 ≤ b && b != 0x7F) || b == 0x09

/-- A text without the slashes at its end. -/
def withoutSlashes (s : String) : String :=
  String.ofList (s.toList.reverse.dropWhile (· == '/')).reverse

/-- Reads the origin, which is sent in a header. Slashes at its end do not count. -/
def readOrigin (s : String) : Except Reason String :=
  let origin := withoutSlashes s
  if (Utf8.encode origin).all isHeaderByte then .ok origin else .error .notHeaderText

def readPort (s : String) : Except Reason UInt16 :=
  match Decimal.read 65535 s with
  | .ok n => .ok (UInt16.ofNat n)
  | .error e => .error (.number e)

def readAddress (s : String) : Except Reason Address :=
  match Address.parse? (Utf8.encode s) with
  | some a => .ok a
  | none => .error .notAddress

def readConnections (s : String) : Except Reason UInt32 :=
  match Decimal.read 4294967295 s with
  | .ok n => .ok (UInt32.ofNat n)
  | .error e => .error (.number e)

def readSecret (s : String) : Except Reason Secret :=
  match Hex.decode (Utf8.encode s) with
  | .error e => .error (.notHex e)
  | .ok bytes =>
    match Secret.ofBytes? bytes with
    | some secret => .ok secret
    | none => .error (.keyLength bytes.length)

def yes : List String := ["1", "true", "yes", "on"]

def no : List String := ["0", "false", "no", "off"]

/-- Reads a word for yes or no, in any letter case. -/
def readBool (s : String) : Except Reason Bool :=
  let word := s.map Char.toLower
  if word ∈ yes then .ok true else if word ∈ no then .ok false else .error (.notBoolean s)

def secret (v : Variable) (s : String) : Except Error Secret :=
  match readSecret s with
  | .ok secret => .ok secret
  | .error reason => .error (.invalid v reason)

/-- The two secrets, of which both or none have to be set. -/
def readSecrets (env : Environment) : Except Error (Option Secrets) :=
  match value? env .signKey, value? env .encryptKey with
  | none, none => .ok none
  | some sign, some encrypt => do
    let sign ← secret .signKey sign
    let encrypt ← secret .encryptKey encrypt
    pure (some ⟨sign, encrypt⟩)
  | _, _ => .error .oneSecret

def isSecureOrigin (origin : String) : Bool := "https://".toList.isPrefixOf origin.toList

def ofEnvironment (env : Environment) : Except Error Config := do
  let databaseUrl ← required env .databaseUrl
  let clientId ← required env .clientId
  let origin ← valueOr env .webUri defaultOrigin readOrigin
  let port ← valueOr env .port defaultPort readPort
  let address ← valueOr env .bindAddress .loopback readAddress
  let maxConnections ← valueOr env .maxConnections defaultMaxConnections readConnections
  let secrets ← readSecrets env
  let secureCookies ← valueOr env .cookieSecure (isSecureOrigin origin) readBool
  let tokeninfoUrl := (value? env .tokeninfoUrl).getD defaultTokeninfoUrl
  pure ⟨databaseUrl, clientId, origin, address, port, secrets, secureCookies, maxConnections,
    tokeninfoUrl⟩

end Config

end SignIn
