import SignIn.Cookie.Change
import SignIn.Session.Payload
import SignIn.Session.Revocations

/-!
# Keeping sessions in cookies

The manager writes a session into a sealed cookie and reads it back. A session that was logged out
is remembered by its id, so that a browser that goes on sending an older cookie is logged out too.
A revocation has to outlive every cookie it applies to. A cookie is accepted up to the end of the
second in which its age reaches `maxAge`, so it is kept for one second longer than that.
-/

namespace SignIn.Session

/-- What is drawn at random for one request: the id of the session that it may begin, and the nonce
of the cookie that it may set. -/
structure Fresh where
  id : Uuid
  nonce : Nonce
  deriving DecidableEq, Repr

/-- What keeps sessions: its state is a `σ`. -/
structure Keeper (σ : Type) where
  /-- Reads the session from the `Cookie` headers of a request, if they carry one. -/
  load : Moment → List Bytes → σ → Attempt (Option Session) × σ
  /-- The cookies that carry a session. -/
  set : Moment → Nonce → Session → σ → Except Error (List CookieChange) × σ
  /-- The cookies that drop the session. -/
  clear : σ → List CookieChange

/-- A manager of sealed cookies. -/
structure Manager where
  key : Gcm.Key
  /-- Whether cookies may only be sent back over a secure connection. -/
  secure : Bool
  revocations : Revocations
  deriving DecidableEq, Repr

namespace Manager

/-- The number of milliseconds that a revocation is kept. -/
def revocationWindow : Nat := (maxAge + 1) * 1000

/-- A manager that has revoked nothing yet. -/
def ofSecrets (secrets : Secrets) (secure : Bool) : Manager :=
  ⟨secrets.key, secure, .empty revocationWindow⟩

/-- The cookies of a request that should carry the session. -/
def candidates (headers : List Bytes) : List Cookie :=
  (Cookie.ofHeaders headers).filter (·.name == cookieName)

/-- What the last of the cookies that opens was sealed over. -/
def lastOpened? (key : Gcm.Key) (cookies : List Cookie) : Option Bytes :=
  cookies.reverse.findSome? (Cookie.open? key)

/-- The session of a payload's text, in the second `now`. -/
def accept (now : Int64) (text : Bytes) : Attempt Session :=
  match Payload.parse text with
  | .error e => .error (.malformed e)
  | .ok p => p.sessionAt now

/-- The session that the headers carry, whether or not it was revoked. -/
def read (m : Manager) (now : Moment) (headers : List Bytes) : Attempt (Option Session) :=
  let cookies := candidates headers
  if cookies.isEmpty then .ok none
  else match lastOpened? m.key cookies with
    | none => .error .undecryptable
    | some text => (accept now.second text).map some

/-- Logs a session out that was revoked. -/
def downgrade (m : Manager) (now : Moment) (s : Session) : Session × Manager :=
  if s.isLoggedIn then
    let (revoked, revocations) := m.revocations.contains s.id now.uptime
    (if revoked then s.loggedOut else s, { m with revocations })
  else (s, m)

/-- The session that the headers carry. -/
def load (m : Manager) (now : Moment) (headers : List Bytes) :
    Attempt (Option Session) × Manager :=
  match m.read now headers with
  | .error e => (.error e, m)
  | .overflow => (.overflow, m)
  | .ok none => (.ok none, m)
  | .ok (some s) =>
    let (s, m) := m.downgrade now s
    (.ok (some s), m)

/-- The cookie that carries a payload. -/
def cookie (m : Manager) (nonce : Nonce) (p : Payload) : CookieChange :=
  ⟨cookieName, Cookie.sealed m.key nonce cookieName p.print, m.secure, maxAge⟩

/-- Writes a session into a cookie; one that is logged out is revoked. -/
def set (m : Manager) (now : Moment) (nonce : Nonce) (s : Session) : CookieChange × Manager :=
  (m.cookie nonce ⟨s, now.second⟩,
    if s.isLoggedIn then m
    else { m with revocations := m.revocations.revoke s.id now.uptime })

/-- The cookie that drops the session. -/
def clear (m : Manager) : CookieChange := ⟨cookieName, [], m.secure, 0⟩

/-- The manager as a keeper of sessions. Writing always succeeds. -/
def keeper : Keeper Manager where
  load now headers m := m.load now headers
  set now nonce s m := ((.ok [(m.set now nonce s).1]), (m.set now nonce s).2)
  clear m := [m.clear]

end Manager

end SignIn.Session
