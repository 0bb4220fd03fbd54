import SignIn.Json.Record
import SignIn.Session.Manager
import SignIn.Token.Claims
import SignIn.User.Identity

/-!
# Logging in and out

A login names a token. The provider is asked about it first; only what it vouches for is read for
an email and a name, which lead to a user; and only then is a session begun. The first step that
fails is what the login fails with, and nothing has been changed by then.
-/

namespace SignIn.Login

/-- Why a request to log in or out fails. -/
inductive Error where
  | invalidBody (e : Json.Error)
  | verification (e : Token.Refusal)
  | claims (e : Token.ClaimError)
  | identity (e : Identity.Error)
  | session (e : Session.Error)
  | unauthorized
  deriving DecidableEq, Repr

def Error.message : Error → String
  | .invalidBody e => "invalid login request body: " ++ e.message
  | .verification e => "id token verification failed: " ++ e.message
  | .claims e => "id token claims rejected: " ++ e.message
  | .identity e => e.message
  | .session e => "failed to set session: " ++ e.message
  | .unauthorized => "not logged in"

/-- The status that reports an error: whether it lies with the request or with the service. -/
def Error.status : Error → Nat
  | .invalidBody _ => 400
  | .verification _ => 400
  | .claims _ => 400
  | .identity .missingName => 400
  | .identity _ => 500
  | .session _ => 500
  | .unauthorized => 401

/-! ## From a body to an identity -/

/-- The field of a login request, which is its token. -/
def requestSchema : Json.Schema String where
  name := "LoginRequest"
  blank := ""
  fields := [.of "idToken" Json.stringField fun token _ => token]

def token (body : Bytes) : Except Json.Error String := requestSchema.parse body

/-- What a login reads from a token. -/
structure Claimed where
  email : String
  /-- The name, if there is one; it is needed only for a user who is not there yet. -/
  name : Option String
  deriving DecidableEq, Repr

/-- Reads the email and the name that a token claims. -/
def claimed (token : String) : Except Token.ClaimError Claimed :=
  match Token.claims token with
  | .error e => .error e
  | .ok claims =>
    match claims.string "email" with
    | .error e => .error e
    | .ok email => .ok ⟨email, (claims.string "name").toOption⟩

/-- The identity of a token that the provider vouches for. -/
def resolve (token : String) : Dialogue (Except Error Identity) :=
  match claimed token with
  | .error e => .done (.error (.claims e))
  | .ok c => (Identity.resolve c.email c.name).bind fun r => .done (r.mapError .identity)

/-- The identity of a token. -/
def identifyToken (audience token : String) : Dialogue (Except Error Identity) :=
  .ask (.verify token audience) fun answer =>
    match (answer : Except Token.Refusal Unit) with
    | .error e => .done (.error (.verification e))
    | .ok () => resolve token

/-- The identity that a login request leads to. -/
def identify (audience : String) (body : Bytes) : Dialogue (Except Error Identity) :=
  match token body with
  | .error e => .done (.error (.invalidBody e))
  | .ok token => identifyToken audience token

/-! ## From an identity to a session -/

/-- What a login gives. -/
structure Grant where
  name : String
  /-- The cookies that carry the session. -/
  cookies : List CookieChange
  deriving DecidableEq, Repr

variable {τ : Type}

/-- Begins a session for an identity. -/
def grant (keeper : Session.Keeper τ) (now : Moment) (fresh : Session.Fresh) (who : Identity)
    (sessions : τ) : Except Error Grant × τ :=
  match keeper.set now fresh.nonce (.loggedIn who.userId who.name fresh.id) sessions with
  | (.error e, sessions) => (.error (.session e), sessions)
  | (.ok cookies, sessions) => (.ok ⟨who.name, cookies⟩, sessions)

/-- Begins a session, if a login has led to an identity. -/
def grantIf (keeper : Session.Keeper τ) (now : Moment) (fresh : Session.Fresh)
    (who : Except Error Identity) (sessions : τ) : Except Error Grant × τ :=
  match who with
  | .error e => (.error e, sessions)
  | .ok who => grant keeper now fresh who sessions

def whoAmI : Option Session → Except Error String
  | some s => if s.isLoggedIn then .ok s.name else .error .unauthorized
  | none => .error .unauthorized

/-- Ends a session: gives the cookies that carry it as logged out, or nothing if it was not logged
in. -/
def logout (keeper : Session.Keeper τ) (now : Moment) (nonce : Nonce) (session : Option Session)
    (sessions : τ) : Except Error (Option (List CookieChange)) × τ :=
  match session.filter (·.isLoggedIn) with
  | none => (.ok none, sessions)
  | some s =>
    match keeper.set now nonce s.loggedOut sessions with
    | (.error e, sessions) => (.error (.session e), sessions)
    | (.ok cookies, sessions) => (.ok (some cookies), sessions)

end SignIn.Login
