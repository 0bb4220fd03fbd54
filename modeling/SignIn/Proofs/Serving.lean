import SignIn.Http.Service
import SignIn.Proofs.JsonReading
import SignIn.Proofs.Loading

/-!
# What serving a request does

Over a manager of sealed cookies there are only seven ways in which a request can go, and `Serves`
lists them with the session that each writes, if it writes one. A login or a logout writes the
cookie itself; then the session that was loaded is not written again. Everything else only writes
the session that was loaded, if there was one. Whatever is proved of all requests goes by these
cases and does not look into the routes again. One of them is that the request is given up, which
only an age does that overflows.
-/

namespace SignIn.Http

open Session (Manager Fresh)

/-! ## Logins and logouts -/

/-- A request posts to a route. -/
def Request.Posts (request : Request) (route : Route) : Prop :=
  request.method = "POST" ∧ Route.ofPath? request.path = some route

/-- A login was granted. -/
def LogsIn (request : Request) (r : Response) : Prop := request.Posts .signIn ∧ r.status = 200

/-- A logout ended a session. -/
def LogsOut (request : Request) (r : Response) : Prop :=
  request.Posts .logout ∧ r.status = 200 ∧ r.body = Utf8.encode "logged out"

/-- The body of a response is a JSON object that has a name, and nothing else. -/
def Response.Names (r : Response) (name : String) : Prop :=
  Json.parseObject r.body = .ok [("name", .string name)]

/-- It has one name. -/
theorem Response.Names.unique {r : Response} {n n' : String} (h : r.Names n) (h' : r.Names n') :
    n = n' := by
  have hsame : [("name", Json.Value.string n)] = [("name", Json.Value.string n')] :=
    Except.ok.inj (h.symm.trans h')
  simpa using hsame

theorem Response.Names.congr {r r' : Response} {n : String} (h : r.Names n)
    (hbody : r'.body = r.body) : r'.Names n := by
  rw [Response.Names, hbody]
  exact h

theorem names_nameResponse (name : String) : (Service.nameResponse name).Names name :=
  Json.parseObject_printObject "name" name

/-- A response that differs in headers and cookies only is no less a login. -/
theorem LogsIn.congr {request : Request} {r r' : Response} (h : LogsIn request r)
    (hstatus : r'.status = r.status) : LogsIn request r' := ⟨h.1, hstatus.trans h.2⟩

theorem LogsOut.congr {request : Request} {r r' : Response} (h : LogsOut request r)
    (hstatus : r'.status = r.status) (hbody : r'.body = r.body) : LogsOut request r' :=
  ⟨h.1, hstatus.trans h.2.1, hbody.trans h.2.2⟩

theorem status_error_ne (e : Login.Error) : e.status ≠ 200 := by
  cases e with
  | identity e => cases e <;> simp [Login.Error.status]
  | _ => simp [Login.Error.status]

namespace Service

variable {σ : Type} {v : Service σ Manager}

/-! ## Handling -/

/-- What is posted to the route of logins is handled as a login. -/
theorem handle_of_signIn {request : Request} (hposts : request.Posts .signIn) (now : Moment)
    (fresh : Fresh) (session : Option Session) (st : State σ Manager) :
    v.handle now fresh request session st = v.signIn now fresh request.body st := by
  have hmethods : Route.signIn.methods.contains request.method = true := by rw [hposts.1]; decide
  have hhead : ¬request.method = "HEAD" := by rw [hposts.1]; decide
  rw [handle, hposts.2]
  dsimp only
  rw [if_pos hmethods, if_neg hhead]
  rfl

theorem handle_of_logout {request : Request} (hposts : request.Posts .logout) (now : Moment)
    (fresh : Fresh) (session : Option Session) (st : State σ Manager) :
    v.handle now fresh request session st = v.logout now fresh session st := by
  have hmethods : Route.logout.methods.contains request.method = true := by rw [hposts.1]; decide
  have hhead : ¬request.method = "HEAD" := by rw [hposts.1]; decide
  rw [handle, hposts.2]
  dsimp only
  rw [if_pos hmethods, if_neg hhead]
  rfl

theorem cookies_whoAmIResponse (session : Option Session) :
    (whoAmIResponse session).cookies = [] := by
  rw [whoAmIResponse]
  split <;> rfl

/-- What neither posts a login nor a logout is only answered. -/
theorem handle_of_other {request : Request} (hin : ¬request.Posts .signIn)
    (hout : ¬request.Posts .logout) (now : Moment) (fresh : Fresh) (session : Option Session)
    (st : State σ Manager) :
    ∃ r, v.handle now fresh request session st = ⟨r, [], st⟩ ∧ r.cookies = [] := by
  rw [handle]
  cases hroute : Route.ofPath? request.path with
  | none => exact ⟨_, rfl, rfl⟩
  | some route =>
    dsimp only
    by_cases hmethod : route.methods.contains request.method = true
    · rw [if_pos hmethod]
      -- The two routes that are posted to take no other method.
      cases route with
      | signIn => exact absurd ⟨by simpa [Route.methods] using hmethod, hroute⟩ hin
      | logout => exact absurd ⟨by simpa [Route.methods] using hmethod, hroute⟩ hout
      | whoAmI =>
        split
        · exact ⟨_, rfl, cookies_whoAmIResponse session⟩
        · exact ⟨_, rfl, cookies_whoAmIResponse session⟩
      | health =>
        split
        · exact ⟨_, rfl, rfl⟩
        · exact ⟨_, rfl, rfl⟩
    · rw [if_neg hmethod]
      exact ⟨_, rfl, rfl⟩

/-- What handling a request comes to. -/
inductive Handled (now : Moment) (fresh : Fresh) (request : Request) (session : Option Session)
    (m : Manager) (r : Response) (m' : Manager) : Prop
  | login (who : Identity) (posts : request.Posts .signIn)
      (response : r = (nameResponse who.name).withCookies
        [(m.set now fresh.nonce (.loggedIn who.userId who.name fresh.id)).1])
      (sessions : m' = (m.set now fresh.nonce (.loggedIn who.userId who.name fresh.id)).2)
  | logout (s : Session) (posts : request.Posts .logout) (loaded : session = some s)
      (active : s.isLoggedIn = true)
      (response : r = (Response.text 200 "logged out").withCookies
        [(m.set now fresh.nonce s.loggedOut).1])
      (sessions : m' = (m.set now fresh.nonce s.loggedOut).2)
  | other (notIn : ¬LogsIn request r) (notOut : ¬LogsOut request r) (cookies : r.cookies = [])
      (sessions : m' = m)

theorem signIn_handled (hv : v.keeper = Manager.keeper) {now : Moment} {fresh : Fresh}
    {request : Request} {session : Option Session} {st : State σ Manager}
    (hposts : request.Posts .signIn) :
    Handled now fresh request session st.sessions
      (v.signIn now fresh request.body st).response
      (v.signIn now fresh request.body st).state.sessions := by
  have hnot : ∀ r, ¬LogsOut request r := by
    intro r hr
    have := hposts.2.symm.trans hr.1.2
    cases this
  rw [signIn]
  by_cases hlong : maxBody < request.body.length
  · rw [if_pos hlong]
    exact .other (fun h => absurd h.2 (by decide : (413 : Nat) ≠ 200)) (hnot _) rfl rfl
  · rw [if_neg hlong]
    dsimp only
    cases ((Login.identify v.audience request.body).run v.answer st.outside).value with
    | error e => exact .other (fun h => status_error_ne e h.2) (hnot _) rfl rfl
    | ok who =>
      rw [Login.grantIf, Login.grant, hv]
      exact .login who hposts rfl rfl

theorem logout_handled (hv : v.keeper = Manager.keeper) {now : Moment} {fresh : Fresh}
    {request : Request} {session : Option Session} {st : State σ Manager}
    (hposts : request.Posts .logout) :
    Handled now fresh request session st.sessions
      (v.logout now fresh session st).response
      (v.logout now fresh session st).state.sessions := by
  have hnot : ∀ r, ¬LogsIn request r := by
    intro r hr
    have := hposts.2.symm.trans hr.1.2
    cases this
  rw [logout, Login.logout, hv]
  cases hs : session.filter (·.isLoggedIn) with
  | none =>
    exact .other (hnot _) (fun h => absurd (show ([] : Bytes) = _ from h.2.2) (by decide)) rfl rfl
  | some s =>
    obtain ⟨hsome, hactive⟩ := Option.filter_eq_some_iff.mp hs
    exact .logout s hposts hsome hactive rfl rfl

/-- **Handling a request writes a session only if it logs in or out.** -/
theorem handle_handled (hv : v.keeper = Manager.keeper) (now : Moment) (fresh : Fresh)
    (request : Request) (session : Option Session) (st : State σ Manager) :
    Handled now fresh request session st.sessions
      (v.handle now fresh request session st).response
      (v.handle now fresh request session st).state.sessions := by
  by_cases hin : request.Posts .signIn
  · rw [handle_of_signIn hin]
    exact signIn_handled hv hin
  · by_cases hout : request.Posts .logout
    · rw [handle_of_logout hout]
      exact logout_handled hv hout
    · obtain ⟨r, hr, hcookies⟩ := handle_of_other (v := v) hin hout now fresh session st
      rw [hr]
      exact .other (fun h => hin h.1) (fun h => hout h.1) hcookies rfl

/-- A request for who is logged in only looks at its session. -/
theorem handle_whoAmI {request : Request} (hmethod : request.method = "GET")
    (hroute : Route.ofPath? request.path = some .whoAmI) (now : Moment) (fresh : Fresh)
    (session : Option Session) (st : State σ Manager) :
    v.handle now fresh request session st = ⟨whoAmIResponse session, [], st⟩ := by
  have hmethods : Route.whoAmI.methods.contains request.method = true := by rw [hmethod]; decide
  have hhead : ¬request.method = "HEAD" := by rw [hmethod]; decide
  rw [handle, hroute]
  dsimp only
  rw [if_pos hmethods, if_neg hhead]
  rfl

/-- A login whose dialogue leads to an identity is granted. -/
theorem handle_signIn (hv : v.keeper = Manager.keeper) (now : Moment) (fresh : Fresh)
    {request : Request} (session : Option Session) (st : State σ Manager) {who : Identity}
    (hposts : request.Posts .signIn) (hshort : request.body.length ≤ maxBody)
    (hwho : ((Login.identify v.audience request.body).run v.answer st.outside).value = .ok who) :
    (v.handle now fresh request session st).response = (nameResponse who.name).withCookies
        [(st.sessions.set now fresh.nonce (.loggedIn who.userId who.name fresh.id)).1]
      ∧ (v.handle now fresh request session st).state.sessions
        = (st.sessions.set now fresh.nonce (.loggedIn who.userId who.name fresh.id)).2 := by
  have hlong : ¬maxBody < request.body.length := by omega
  rw [handle_of_signIn hposts, signIn, if_neg hlong]
  dsimp only
  rw [hwho, Login.grantIf, Login.grant, hv]
  exact ⟨rfl, rfl⟩

/-- A logout of a session that is logged in ends it. -/
theorem handle_logout (hv : v.keeper = Manager.keeper) (now : Moment) (fresh : Fresh)
    {request : Request} {s : Session} (st : State σ Manager) (hposts : request.Posts .logout)
    (hactive : s.isLoggedIn = true) :
    (v.handle now fresh request (some s) st).response
      = (Response.text 200 "logged out").withCookies
        [(st.sessions.set now fresh.nonce s.loggedOut).1]
      ∧ (v.handle now fresh request (some s) st).state.sessions
        = (st.sessions.set now fresh.nonce s.loggedOut).2 := by
  have hfilter : (some s).filter (·.isLoggedIn) = some s := Option.filter_some_pos hactive
  rw [handle_of_logout hposts, logout, Login.logout, hfilter, hv]
  exact ⟨rfl, rfl⟩

/-! ## Leaving -/

theorem sets_cookieName {c : CookieChange} (h : c.name = Session.cookieName) :
    c.sets Session.cookieName = true := by
  have hkept : Percent.encode Percent.keptInCookie Session.cookieName = Session.cookieName := by
    decide
  rw [CookieChange.sets, CookieChange.header, CookieChange.pair, h, hkept,
    List.isPrefixOf_iff_prefix]
  exact ⟨Percent.encode Percent.keptInCookie c.value ++ c.attributes, by simp⟩

/-- A response that carries the session's cookie is left as it is. -/
theorem leave_of_sets {now : Moment} {nonce : Nonce} {session : Option Session} {r : Response}
    {m : Manager} {c : CookieChange} (hr : c ∈ r.cookies) (hc : c.name = Session.cookieName) :
    v.leave now nonce session r m = (r, m) := by
  have hsets : setsSession r = true := List.any_eq_true.mpr ⟨c, hr, sets_cookieName hc⟩
  cases session with
  | none => rfl
  | some s => rw [leave, if_pos hsets]

/-- Any other response gets the cookie of the session that was loaded. -/
theorem leave_of_not_sets (hv : v.keeper = Manager.keeper) {now : Moment} {nonce : Nonce}
    {s : Session} {r : Response} {m : Manager} (hsets : ¬setsSession r = true) :
    v.leave now nonce (some s) r m
      = (r.withCookies [(m.set now nonce s).1], (m.set now nonce s).2) := by
  rw [leave, if_neg hsets, hv]
  rfl

theorem not_sets_of_plain {r : Response} (h : r.cookies = []) : ¬setsSession r = true := by
  rw [setsSession, h]
  decide

/-! ## Serving -/

/-- The ways in which a request can go. -/
inductive Serves (now : Moment) (fresh : Fresh) (request : Request) (m : Manager)
    (answer : Option Response) (m' : Manager) : Prop
  /-- It only asked what is allowed. -/
  | preflight (r : Response) (answered : answer = some r) (method : request.method = "OPTIONS")
      (cookies : r.cookies = []) (sessions : m' = m)
  /-- Its session could not be loaded. -/
  | refused (r : Response) (answered : answer = some r) (e : Session.Error)
      (method : request.method ≠ "OPTIONS") (load : m.load now request.cookies = (.error e, m'))
      (status : r.status = 400) (body : r.body = []) (cookies : r.cookies = [m'.clear])
  /-- It was given up, as the age of its session overflows. -/
  | overflow (answered : answer = none) (method : request.method ≠ "OPTIONS")
      (load : m.load now request.cookies = (.overflow, m'))
  | login (r : Response) (answered : answer = some r) (session : Option Session) (loaded : Manager)
      (who : Identity) (load : m.load now request.cookies = (.ok session, loaded))
      (logsIn : LogsIn request r) (body : r.Names who.name)
      (cookies : r.cookies
        = [(loaded.set now fresh.nonce (.loggedIn who.userId who.name fresh.id)).1])
      (sessions : m' = (loaded.set now fresh.nonce (.loggedIn who.userId who.name fresh.id)).2)
  | logout (r : Response) (answered : answer = some r) (s : Session) (loaded : Manager)
      (load : m.load now request.cookies = (.ok (some s), loaded)) (active : s.isLoggedIn = true)
      (logsOut : LogsOut request r)
      (cookies : r.cookies = [(loaded.set now fresh.nonce s.loggedOut).1])
      (sessions : m' = (loaded.set now fresh.nonce s.loggedOut).2)
  /-- The session that was loaded is written again. -/
  | refresh (r : Response) (answered : answer = some r) (s : Session) (loaded : Manager)
      (method : request.method ≠ "OPTIONS")
      (load : m.load now request.cookies = (.ok (some s), loaded))
      (notIn : ¬LogsIn request r) (notOut : ¬LogsOut request r)
      (cookies : r.cookies = [(loaded.set now fresh.nonce s).1])
      (sessions : m' = (loaded.set now fresh.nonce s).2)
  /-- There was no session. -/
  | anonymous (r : Response) (answered : answer = some r) (method : request.method ≠ "OPTIONS")
      (load : m.load now request.cookies = (.ok none, m')) (notIn : ¬LogsIn request r)
      (notOut : ¬LogsOut request r) (cookies : r.cookies = [])

theorem serve_of_preflight (now : Moment) (fresh : Fresh) {request : Request}
    (st : State σ Manager) (h : request.method = "OPTIONS") :
    (v.serve now fresh request st).asked = []
      ∧ (∃ r, (v.serve now fresh request st).response = some r ∧ r.cookies = [])
      ∧ (v.serve now fresh request st).state = st := by
  have hpre : CrossOrigin.isPreflight request = true := beq_iff_eq.mpr h
  rw [serve, if_pos hpre]
  exact ⟨rfl, ⟨_, rfl, rfl⟩, rfl⟩

/-- Any other request is answered as it is served, but for headers. -/
theorem serve_of_guarded (now : Moment) (fresh : Fresh) {request : Request} (st : State σ Manager)
    (h : request.method ≠ "OPTIONS") :
    ∃ headers, v.serve now fresh request st
      = { v.serveGuarded now fresh request st with
          response := (v.serveGuarded now fresh request st).response.map
            (·.withHeaders headers) } := by
  have hpre : ¬CrossOrigin.isPreflight request = true := fun hp => h (beq_iff_eq.mp hp)
  rw [serve, if_neg hpre]
  exact ⟨_, rfl⟩

section Guarded

variable {now : Moment} {fresh : Fresh} {request : Request} {st : State σ Manager} {m : Manager}

theorem serveGuarded_of_error (hv : v.keeper = Manager.keeper) {e : Session.Error}
    (h : st.sessions.load now request.cookies = (.error e, m)) :
    v.serveGuarded now fresh request st
      = ⟨some ((Response.ofStatus 400).withCookies [m.clear]), [], { st with sessions := m }⟩ := by
  have hload : v.keeper.load now request.cookies st.sessions = (.error e, m) := by rw [hv]; exact h
  rw [serveGuarded, enter, hload, hv]
  rfl

theorem serveGuarded_of_overflow (hv : v.keeper = Manager.keeper)
    (h : st.sessions.load now request.cookies = (.overflow, m)) :
    v.serveGuarded now fresh request st = ⟨none, [], { st with sessions := m }⟩ := by
  have hload : v.keeper.load now request.cookies st.sessions = (.overflow, m) := by
    rw [hv]; exact h
  rw [serveGuarded, enter, hload]

theorem serveGuarded_of_ok (hv : v.keeper = Manager.keeper) {session : Option Session}
    (h : st.sessions.load now request.cookies = (.ok session, m)) :
    v.serveGuarded now fresh request st
      = (v.serveWith now fresh request session { st with sessions := m }).served := by
  have hload : v.keeper.load now request.cookies st.sessions = (.ok session, m) := by
    rw [hv]; exact h
  rw [serveGuarded, enter, hload]

end Guarded

/-- The steps from the session on, seen from outside: the headers make no difference. -/
theorem serveWith_serves (hv : v.keeper = Manager.keeper) {now : Moment} {fresh : Fresh}
    {request : Request} {session : Option Session} {st : State σ Manager} {m : Manager}
    (hmethod : request.method ≠ "OPTIONS")
    (hload : m.load now request.cookies = (.ok session, st.sessions))
    (headers : List (String × Bytes)) :
    Serves now fresh request m
      (some ((v.serveWith now fresh request session st).response.withHeaders headers))
      (v.serveWith now fresh request session st).state.sessions := by
  have hresponse : (v.serveWith now fresh request session st).response
      = (v.leave now fresh.nonce session (v.handle now fresh request session st).response
          (v.handle now fresh request session st).state.sessions).1 := rfl
  have hsessions : (v.serveWith now fresh request session st).state.sessions
      = (v.leave now fresh.nonce session (v.handle now fresh request session st).response
          (v.handle now fresh request session st).state.sessions).2 := rfl
  rw [hresponse, hsessions]
  -- What handling has written is not written over on the way out.
  cases handle_handled hv now fresh request session st with
  | login who posts response sessions =>
    rw [leave_of_sets (c := _) (by rw [response]; exact List.mem_singleton_self _) rfl, response,
      sessions]
    exact .login _ rfl session _ who hload ⟨posts, rfl⟩ (names_nameResponse who.name) rfl rfl
  | logout s posts loaded active response sessions =>
    subst loaded
    rw [leave_of_sets (c := _) (by rw [response]; exact List.mem_singleton_self _) rfl, response,
      sessions]
    exact .logout _ rfl s _ hload active ⟨posts, rfl, rfl⟩ rfl rfl
  | other notIn notOut cookies sessions =>
    rw [sessions]
    cases session with
    | none =>
      exact .anonymous _ rfl hmethod hload (fun h => notIn (h.congr rfl))
        (fun h => notOut (h.congr rfl rfl)) cookies
    | some s =>
      rw [leave_of_not_sets hv (not_sets_of_plain cookies)]
      refine .refresh _ rfl s _ hmethod hload (fun h => notIn (h.congr rfl))
        (fun h => notOut (h.congr rfl rfl)) ?_ rfl
      show _ ++ _ = _
      rw [cookies]
      rfl

/-- **Every request goes in one of the seven ways.** -/
theorem serve_serves (hv : v.keeper = Manager.keeper) (now : Moment) (fresh : Fresh)
    (request : Request) (st : State σ Manager) :
    Serves now fresh request st.sessions (v.serve now fresh request st).response
      (v.serve now fresh request st).state.sessions := by
  by_cases hmethod : request.method = "OPTIONS"
  · obtain ⟨-, ⟨r, hr, hcookies⟩, hstate⟩ := serve_of_preflight (v := v) now fresh st hmethod
    rw [hstate]
    exact .preflight r hr hmethod hcookies rfl
  · obtain ⟨headers, hserve⟩ := serve_of_guarded (v := v) now fresh st hmethod
    rw [hserve]
    cases hload : st.sessions.load now request.cookies with
    | mk result m =>
      cases result with
      | error e =>
        rw [serveGuarded_of_error hv hload]
        exact .refused _ rfl e hmethod hload rfl rfl rfl
      | overflow =>
        rw [serveGuarded_of_overflow hv hload]
        exact .overflow rfl hmethod hload
      | ok session =>
        rw [serveGuarded_of_ok hv hload]
        exact serveWith_serves hv hmethod hload headers

/-! ## What is answered -/

theorem leave_answer (hv : v.keeper = Manager.keeper) (now : Moment) (nonce : Nonce)
    (session : Option Session) (r : Response) (m : Manager) :
    (v.leave now nonce session r m).1.status = r.status
      ∧ (v.leave now nonce session r m).1.body = r.body := by
  cases session with
  | none => exact ⟨rfl, rfl⟩
  | some s =>
    rw [leave, hv]
    split
    · exact ⟨rfl, rfl⟩
    · exact ⟨rfl, rfl⟩

section Answers

variable {now : Moment} {request : Request}

/-- A request that is not refused is answered as its route handles it. -/
theorem serve_answer (hv : v.keeper = Manager.keeper) (fresh : Fresh) (st : State σ Manager)
    (hmethod : request.method ≠ "OPTIONS") {session : Option Session} {m : Manager}
    (hload : st.sessions.load now request.cookies = (.ok session, m)) :
    ∃ r, (v.serve now fresh request st).response = some r ∧
      r.status = (v.handle now fresh request session { st with sessions := m }).response.status ∧
      r.body = (v.handle now fresh request session { st with sessions := m }).response.body := by
  obtain ⟨headers, hserve⟩ := serve_of_guarded (v := v) now fresh st hmethod
  rw [hserve, serveGuarded_of_ok hv hload]
  exact ⟨_, rfl, leave_answer hv now fresh.nonce session _ _⟩

/-- A request whose session cannot be loaded is answered without a body. -/
theorem serve_of_error (hv : v.keeper = Manager.keeper) (fresh : Fresh) (st : State σ Manager)
    (hmethod : request.method ≠ "OPTIONS") {e : Session.Error}
    (hload : (st.sessions.load now request.cookies).1 = .error e) :
    ∃ r, (v.serve now fresh request st).response = some r ∧ r.status = 400 ∧ r.body = [] := by
  obtain ⟨headers, hserve⟩ := serve_of_guarded (v := v) now fresh st hmethod
  rw [hserve, serveGuarded_of_error (m := (st.sessions.load now request.cookies).2) hv
    (by rw [← hload])]
  exact ⟨_, rfl, rfl, rfl⟩

/-- **A request is given up exactly if the age of its session overflows.** -/
theorem response_eq_none_iff (hv : v.keeper = Manager.keeper) (fresh : Fresh)
    (st : State σ Manager) (hmethod : request.method ≠ "OPTIONS") :
    (v.serve now fresh request st).response = none ↔
      (st.sessions.load now request.cookies).1 = .overflow := by
  cases serve_serves hv now fresh request st with
  | preflight r answered method => exact absurd method hmethod
  | refused r answered e method load => simp [answered, load]
  | overflow answered method load => simp [answered, load]
  | login r answered session loaded who load => simp [answered, load]
  | logout r answered s loaded load => simp [answered, load]
  | refresh r answered s loaded method load => simp [answered, load]
  | anonymous r answered method load => simp [answered, load]

/-- A request for who is logged in is answered from the session that is loaded. -/
theorem serve_whoAmI (hv : v.keeper = Manager.keeper) (fresh : Fresh) (st : State σ Manager)
    (hmethod : request.method = "GET") (hroute : Route.ofPath? request.path = some .whoAmI)
    {session : Option Session} (hload : (st.sessions.load now request.cookies).1 = .ok session) :
    ∃ r, (v.serve now fresh request st).response = some r ∧
      r.status = (whoAmIResponse session).status ∧ r.body = (whoAmIResponse session).body := by
  obtain ⟨r, hr, hstatus, hbody⟩ := serve_answer (m := (st.sessions.load now request.cookies).2) hv
    fresh st (by rw [hmethod]; decide) (by rw [← hload])
  rw [handle_whoAmI hmethod hroute] at hstatus hbody
  exact ⟨r, hr, hstatus, hbody⟩

/-- A name is answered exactly when it is the name of a session that is logged in. -/
theorem whoAmIResponse_names_iff (session : Option Session) (n : String) :
    (whoAmIResponse session).status = 200 ∧ (whoAmIResponse session).Names n ↔
      ∃ s, session = some s ∧ s.isLoggedIn = true ∧ s.name = n := by
  have hnone : ∀ e : Login.Error, Login.whoAmI session = .error e →
      (whoAmIResponse session).status = 401 := by
    intro e he
    rw [whoAmIResponse, he]
    rfl
  have hsome : ∀ m, Login.whoAmI session = .ok m → whoAmIResponse session = nameResponse m := by
    intro m hm
    rw [whoAmIResponse, hm]
  cases session with
  | none => simp [hnone _ rfl]
  | some s =>
    cases hs : s.isLoggedIn with
    | false =>
      rw [hnone .unauthorized (by rw [Login.whoAmI, hs]; rfl)]
      simp [hs]
    | true =>
      rw [hsome s.name (by rw [Login.whoAmI, if_pos hs])]
      constructor
      · rintro ⟨-, hnames⟩
        exact ⟨s, rfl, hs, (names_nameResponse s.name).unique hnames⟩
      · rintro ⟨s', hs', -, rfl⟩
        obtain rfl := Option.some.inj hs'
        exact ⟨rfl, names_nameResponse s.name⟩

/-- A logout ends a session if one is loaded as logged in. -/
theorem logsOut_iff (hv : v.keeper = Manager.keeper) (now : Moment) (fresh : Fresh)
    (st : State σ Manager) (hposts : request.Posts .logout) :
    (∃ r, (v.serve now fresh request st).response = some r ∧ LogsOut request r) ↔
      ∃ s, (st.sessions.load now request.cookies).1 = .ok (some s) ∧ s.isLoggedIn = true := by
  have hmethod : request.method ≠ "OPTIONS" := by rw [hposts.1]; decide
  constructor
  · rintro ⟨r, hr, hout⟩
    cases serve_serves hv now fresh request st with
    | preflight r' answered method => exact absurd method hmethod
    | refused r' answered e method load status =>
      obtain rfl := Option.some.inj (hr.symm.trans answered)
      rw [hout.2.1] at status
      cases status
    | overflow answered => cases hr.symm.trans answered
    | login r' answered session loaded who load logsIn =>
      have := logsIn.1.2.symm.trans hposts.2
      cases this
    | logout r' answered s loaded load active => exact ⟨s, by rw [load], active⟩
    | refresh r' answered s loaded method load notIn notOut =>
      obtain rfl := Option.some.inj (hr.symm.trans answered)
      exact absurd hout notOut
    | anonymous r' answered method load notIn notOut =>
      obtain rfl := Option.some.inj (hr.symm.trans answered)
      exact absurd hout notOut
  · rintro ⟨s, hload, hactive⟩
    obtain ⟨r, hr, hstatus, hbody⟩ := serve_answer (m := (st.sessions.load now request.cookies).2)
      hv fresh st hmethod (by rw [← hload])
    rw [(handle_logout hv now fresh _ hposts hactive).1] at hstatus hbody
    exact ⟨r, hr, hposts, hstatus, hbody⟩

/-- A granted login writes the session that it begins. -/
theorem serve_signIn (hv : v.keeper = Manager.keeper) (fresh : Fresh) (st : State σ Manager)
    {session : Option Session} {m : Manager} {who : Identity} (hposts : request.Posts .signIn)
    (hshort : request.body.length ≤ maxBody)
    (hload : st.sessions.load now request.cookies = (.ok session, m))
    (hwho : ((Login.identify v.audience request.body).run v.answer st.outside).value = .ok who) :
    ∃ r, (v.serve now fresh request st).response = some r ∧ r.status = 200 ∧ r.Names who.name ∧
      r.cookies = [(m.set now fresh.nonce (.loggedIn who.userId who.name fresh.id)).1] := by
  have hmethod : request.method ≠ "OPTIONS" := by rw [hposts.1]; decide
  obtain ⟨hresponse, -⟩ := handle_signIn hv now fresh session { st with sessions := m } hposts
    hshort hwho
  obtain ⟨headers, hserve⟩ := serve_of_guarded (v := v) now fresh st hmethod
  rw [hserve, serveGuarded_of_ok hv hload]
  obtain ⟨hstatus, hbody⟩ := leave_answer hv now fresh.nonce session
    (v.handle now fresh request session { st with sessions := m }).response
    (v.handle now fresh request session { st with sessions := m }).state.sessions
  have hnames : (v.handle now fresh request session { st with sessions := m }).response.Names
      who.name := by
    rw [hresponse]
    exact names_nameResponse who.name
  refine ⟨_, rfl, hstatus.trans (congrArg Response.status hresponse), hnames.congr hbody, ?_⟩
  show (v.leave _ _ _ _ _).1.cookies = _
  rw [leave_of_sets (c := _) (by rw [hresponse]; exact List.mem_singleton_self _) rfl, hresponse]
  rfl

end Answers

/-! ## A service to run -/

/-- A service that every login succeeds with: its provider vouches for all tokens, and its store
finds the same name under every email. -/
def lenient : Service Unit Manager where
  audience := ""
  origin := []
  answer
    | .verify _ _, s => (.ok (), s)
    | .find email, s => (.ok ⟨7, email, "Ann"⟩, s)
    | .create _ _, s => (.error .conflict, s)
  keeper := Manager.keeper

/-- A login that claims an email. -/
def loginRequest : Request where
  method := "POST"
  target := "/authGoogle"
  cookies := []
  body := Utf8.encode "\x7b\"idToken\":\"e30.eyJlbWFpbCI6ImEifQ.\"\x7d"

theorem loginRequest_posts : loginRequest.Posts .signIn := by
  refine ⟨rfl, ?_⟩
  decide

theorem lenient_identify :
    ((Login.identify lenient.audience loginRequest.body).run lenient.answer ()).value
      = .ok ⟨7, "Ann"⟩ := by
  -- The outcome is evaluated as an option, since its errors cannot be compared.
  have hoption : ((Login.identify lenient.audience loginRequest.body).run lenient.answer
      ()).value.toOption = some ⟨7, "Ann"⟩ := by decide +kernel
  cases hvalue :
    ((Login.identify lenient.audience loginRequest.body).run lenient.answer ()).value with
  | error e =>
    rw [hvalue] at hoption
    cases hoption
  | ok who =>
    rw [hvalue] at hoption
    exact congrArg Except.ok (Option.some.inj hoption)

end Service

end SignIn.Http
