import SignIn.Http.CrossOrigin
import SignIn.Http.Route
import SignIn.Login

/-!
# The service

A request is served in three steps. On its way in its session is loaded; a cookie that cannot be
trusted ends the request there. Then its route handles it. On its way out the session is written
again, so that it lasts from this request on, unless the route has set the cookie itself. Each step
is one transaction on the sessions; steps of other requests may come in between. A request whose
session is so old, or so far ahead, that its age overflows is given up: its connection is closed
without an answer.
-/

namespace SignIn.Http

open Session (Keeper Fresh)

/-- A service, and those it relies on. -/
structure Service (σ τ : Type) where
  /-- What tokens have to be issued for. -/
  audience : String
  /-- The origin that may send requests with credentials. -/
  origin : Bytes
  answer : Answerer σ
  keeper : Keeper τ

/-- The states of those that the service relies on. -/
structure State (σ τ : Type) where
  outside : σ
  sessions : τ
  deriving DecidableEq, Repr

/-- How a request was handled. -/
structure Answered (σ τ : Type) where
  response : Response
  /-- The questions that were asked for it, in order. -/
  asked : List Question
  state : State σ τ

/-- How a request was served. -/
structure Served (σ τ : Type) where
  /-- What was answered, unless the request was given up. -/
  response : Option Response
  asked : List Question
  state : State σ τ

def Answered.served {σ τ : Type} (o : Answered σ τ) : Served σ τ :=
  ⟨some o.response, o.asked, o.state⟩

namespace Service

variable {σ τ : Type}

/-! ## Handling -/

/-- The name of a user as a response. -/
def nameResponse (name : String) : Response :=
  .json 200 (Json.printObject [("name", Json.printString name)])

/-- A body that says that nobody is logged in. -/
def unauthorizedBody : Bytes := Json.printObject [("error", Json.printString "unauthorized")]

/-- The number of bytes that the body of a login may have. -/
def maxBody : Nat := 2097152

def loginResponse : Except Login.Error Login.Grant → Response
  | .ok g => (nameResponse g.name).withCookies g.cookies
  | .error e => .ofStatus e.status

def signIn (v : Service σ τ) (now : Moment) (fresh : Fresh) (body : Bytes) (st : State σ τ) :
    Answered σ τ :=
  if maxBody < body.length then
    ⟨.text 413 "Failed to buffer the request body: length limit exceeded", [], st⟩
  else
    let o := (Login.identify v.audience body).run v.answer st.outside
    let (granted, sessions) := Login.grantIf v.keeper now fresh o.value st.sessions
    ⟨loginResponse granted, o.asked, ⟨o.state, sessions⟩⟩

def whoAmIResponse (session : Option Session) : Response :=
  match Login.whoAmI session with
  | .ok name => nameResponse name
  | .error _ => .json 401 unauthorizedBody

def logoutResponse : Except Login.Error (Option (List CookieChange)) → Response
  | .ok (some cookies) => (Response.text 200 "logged out").withCookies cookies
  | .ok none => .ofStatus 200
  | .error e => .ofStatus e.status

def logout (v : Service σ τ) (now : Moment) (fresh : Fresh) (session : Option Session)
    (st : State σ τ) : Answered σ τ :=
  let (ended, sessions) := Login.logout v.keeper now fresh.nonce session st.sessions
  ⟨logoutResponse ended, [], { st with sessions }⟩

/-- Handles a request whose route is known and answers its method. -/
def handleRoute (v : Service σ τ) (now : Moment) (fresh : Fresh) (body : Bytes)
    (session : Option Session) (st : State σ τ) : Route → Answered σ τ
  | .signIn => v.signIn now fresh body st
  | .whoAmI => ⟨whoAmIResponse session, [], st⟩
  | .logout => v.logout now fresh session st
  | .health => ⟨.ofStatus 200, [], st⟩

def handle (v : Service σ τ) (now : Moment) (fresh : Fresh) (request : Request)
    (session : Option Session) (st : State σ τ) : Answered σ τ :=
  match Route.ofPath? request.path with
  | none => ⟨.ofStatus 404, [], st⟩
  | some route =>
    if route.methods.contains request.method then
      let o := v.handleRoute now fresh request.body session st route
      if request.method = "HEAD" then { o with response := o.response.withoutBody } else o
    else ⟨.ofStatus 405, [], st⟩

/-! ## Before and after -/

/-- Loads the session of a request. If that fails, the request is answered by dropping it; if it
overflows, the request is not answered at all. -/
def enter (v : Service σ τ) (now : Moment) (request : Request) (sessions : τ) :
    Except (Option Response) (Option Session) × τ :=
  match v.keeper.load now request.cookies sessions with
  | (.ok session, sessions) => (.ok session, sessions)
  | (.error _, sessions) =>
    (.error (some ((Response.ofStatus 400).withCookies (v.keeper.clear sessions))), sessions)
  | (.overflow, sessions) => (.error none, sessions)

/-- Whether a response sets the session's cookie. -/
def setsSession (r : Response) : Bool := r.cookies.any (·.sets Session.cookieName)

/-- Writes the session that was loaded again, unless the response sets its cookie. -/
def leave (v : Service σ τ) (now : Moment) (nonce : Nonce) (session : Option Session)
    (r : Response) (sessions : τ) : Response × τ :=
  match session with
  | none => (r, sessions)
  | some s =>
    if setsSession r then (r, sessions)
    else match v.keeper.set now nonce s sessions with
      | (.ok cookies, sessions) => (r.withCookies cookies, sessions)
      | (.error _, sessions) => (r, sessions)

/-- Serves a request from its session on. -/
def serveWith (v : Service σ τ) (now : Moment) (fresh : Fresh) (request : Request)
    (session : Option Session) (st : State σ τ) : Answered σ τ :=
  let o := v.handle now fresh request session st
  let (response, sessions) := v.leave now fresh.nonce session o.response o.state.sessions
  ⟨response, o.asked, ⟨o.state.outside, sessions⟩⟩

/-- Serves a request that has to be handled. -/
def serveGuarded (v : Service σ τ) (now : Moment) (fresh : Fresh) (request : Request)
    (st : State σ τ) : Served σ τ :=
  match v.enter now request st.sessions with
  | (.error response, sessions) => ⟨response, [], { st with sessions }⟩
  | (.ok session, sessions) => (v.serveWith now fresh request session { st with sessions }).served

def serve (v : Service σ τ) (now : Moment) (fresh : Fresh) (request : Request)
    (st : State σ τ) : Served σ τ :=
  let everywhere := Route.allowHeader request ++ CrossOrigin.headers v.origin
  if CrossOrigin.isPreflight request then
    ⟨some ((Response.ofStatus 200).withHeaders (CrossOrigin.permissions ++ everywhere)), [], st⟩
  else
    let served := v.serveGuarded now fresh request st
    { served with response := served.response.map (·.withHeaders everywhere) }

end Service

end SignIn.Http
