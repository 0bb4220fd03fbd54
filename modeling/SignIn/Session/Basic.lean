import SignIn.Cookie.Sealed
import SignIn.Json.Error
import SignIn.Moment
import SignIn.Uuid

/-!
# Sessions

A session says who a browser is logged in as. There is no table of sessions: the session itself,
with the second it was written in, travels in a sealed cookie, and is refused when it is older than
`maxAge`.
-/

namespace SignIn

structure Session where
  userId : Int64
  name : String
  isLoggedIn : Bool
  /-- The id that the login gave to it, by which it can be revoked. -/
  id : Uuid
  deriving DecidableEq, Repr

namespace Session

/-- The session that a login begins. -/
def loggedIn (userId : Int64) (name : String) (id : Uuid) : Session := ⟨userId, name, true, id⟩

def loggedOut (s : Session) : Session := { s with isLoggedIn := false }

def cookieName : Bytes := Utf8.encode "_id"

/-- The number of seconds that a session lasts after it was last written. -/
def maxAge : Nat := 900

/-- How many seconds lie between the one in which a session was written and another, if 64 bits can
tell. -/
def age? (issuedAt now : Int64) : Option Int :=
  let age := now.toInt - issuedAt.toInt
  if Int64.minValue.toInt ≤ age ∧ age ≤ Int64.maxValue.toInt then some age else none

/-- Why a session cannot be read or written. -/
inductive Error where
  /-- None of the cookies opens. -/
  | undecryptable
  /-- The cookie opens to something else than a session. -/
  | malformed (e : Json.Error)
  | expired
  /-- The session cannot be written down. -/
  | unwritable (e : Json.Error)
  deriving DecidableEq, Repr

def Error.message : Error → String
  | .undecryptable => "session cookie failed to decrypt"
  | .malformed e => "session cookie payload is malformed: " ++ e.message
  | .expired => "session cookie expired"
  | .unwritable e => "failed to encode session: " ++ e.message

/-- How reading a session ends. -/
inductive Attempt (α : Type) where
  | ok (a : α)
  | error (e : Error)
  /-- An age overflows. Then nothing comes of the request that it was taken for. -/
  | overflow
  deriving DecidableEq, Repr

def Attempt.map {α β : Type} (f : α → β) : Attempt α → Attempt β
  | .ok a => .ok (f a)
  | .error e => .error e
  | .overflow => .overflow

end Session

end SignIn
