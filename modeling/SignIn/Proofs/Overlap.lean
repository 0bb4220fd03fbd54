import SignIn.Proofs.Ledger
import SignIn.Proofs.RoundTrip
import SignIn.Proofs.Serving

/-!
# Requests that overlap

A request is served in three parts, and parts of other requests may come in between. A logout is
then not as final as it looks: a request that loaded the session before the logout writes it again,
as logged in, on its way out. Such a stale cookie is dated later than the revocation. The list of
revocations only outlives the cookies that were set before the revocation, so the stale one is
still accepted when its revocation has been forgotten.

This module says exactly when that happens. What is loaded as logged in is a matter of the ledger,
as always (`loads_iff_accepted`); and after a logout there is always a stale refresh behind it, in
a later second of the wall clock than the logout (`stale_of_load`). Without one, the logout is
final.
-/

namespace SignIn.Http

open Session (Manager Fresh Write Kept Shown Payload Unforged)

/-! ## Interleavings -/

/-- The parts in which a request is served. -/
inductive Part where
  | enter
  | handle
  | leave
  deriving DecidableEq, Repr

/-- A part of a request that was done: when, with which session loaded, and which cookies it added
to the response. -/
structure Event where
  index : Nat
  part : Part
  moment : Moment
  request : Request
  session : Option Session
  cookies : List CookieChange

/-- How far a request has come. -/
inductive Stage where
  | waiting
  | entered (request : Request) (session : Option Session)
  | handled (request : Request) (session : Option Session) (response : Response)
  /-- It is over; it may have been given up without an answer. -/
  | answered (response : Option Response)

/-- The session that a request in service goes with. -/
def Stage.session? : Stage → Option Session
  | .entered _ session => session
  | .handled _ session _ => session
  | _ => none

namespace Event

/-- It set the session's cookie to a value. -/
def Emits (e : Event) (value : Bytes) : Prop :=
  ∃ c ∈ e.cookies, c.name = Session.cookieName ∧ c.value = value

/-- It set the session's cookie to a value that opens to a session. -/
def Writes (key : Gcm.Key) (e : Event) (s : Session) : Prop :=
  ∃ value text p, e.Emits value ∧ Cookie.open? key ⟨Session.cookieName, value⟩ = some text ∧
    Payload.parse text = .ok p ∧ p.session = s

/-- It handled a logout of a session that was loaded as logged in. -/
def LogsOut (e : Event) (id : Uuid) : Prop :=
  e.part = .handle ∧ e.request.Posts .logout ∧
    ∃ s, e.session = some s ∧ s.isLoggedIn = true ∧ s.id = id

/-- It loaded a session as logged in. -/
def Loads (e : Event) (s : Session) : Prop :=
  e.part = .enter ∧ e.session = some s ∧ s.isLoggedIn = true

theorem not_logsOut {e : Event} (h : e.part ≠ .handle) (id : Uuid) : ¬e.LogsOut id := by
  intro hout
  exact h hout.1

theorem not_loads {e : Event} (h : e.part ≠ .enter) (s : Session) : ¬e.Loads s := by
  intro hloads
  exact h hloads.1

end Event

/-- The service with any number of requests under way. -/
structure Traffic (σ : Type) where
  now : Moment
  state : State σ Manager
  stage : Nat → Stage
  /-- What was done so far, the latest first. -/
  trace : List Event

namespace Traffic

variable {σ : Type}

/-- The traffic after a part of a request was done. -/
def done (w : Traffic σ) (e : Event) (st : State σ Manager) (stage : Stage) : Traffic σ :=
  ⟨w.now, st, Function.update w.stage e.index stage, e :: w.trace⟩

/-- Request `i` is let in: its session is loaded. -/
def enter (v : Service σ Manager) (w : Traffic σ) (i : Nat) (request : Request) : Traffic σ :=
  match v.enter w.now request w.state.sessions with
  | (.ok session, m) =>
    w.done ⟨i, .enter, w.now, request, session, []⟩ { w.state with sessions := m }
      (.entered request session)
  | (.error r, m) =>
    w.done ⟨i, .enter, w.now, request, none, r.elim [] (·.cookies)⟩ { w.state with sessions := m }
      (.answered r)

/-- Request `i` is handled. -/
def handle (v : Service σ Manager) (w : Traffic σ) (i : Nat) (request : Request)
    (session : Option Session) (fresh : Fresh) : Traffic σ :=
  let o := v.handle w.now fresh request session w.state
  w.done ⟨i, .handle, w.now, request, session, o.response.cookies⟩ o.state
    (.handled request session o.response)

/-- Request `i` is let out: its session is written again. -/
def leave (v : Service σ Manager) (w : Traffic σ) (i : Nat) (request : Request)
    (session : Option Session) (r : Response) (nonce : Nonce) : Traffic σ :=
  let o := v.leave w.now nonce session r w.state.sessions
  w.done ⟨i, .leave, w.now, request, session, o.1.cookies.drop r.cookies.length⟩
    { w.state with sessions := o.2 } (.answered (some o.1))

/-- Whatever session cookie of some headers opens was set by an earlier part of a request. -/
def Honest (key : Gcm.Key) (w : Traffic σ) (headers : List Bytes) : Prop :=
  ∀ c ∈ Manager.candidates headers, (Cookie.open? key c).isSome →
    ∃ e ∈ w.trace, e.Emits c.value

/-- What can happen next. -/
inductive Step (key : Gcm.Key) (v : Service σ Manager) : Traffic σ → Traffic σ → Prop
  /-- Time passes, by the same amount on both clocks; whatever is outside may change. -/
  | pass (w : Traffic σ) (d : Rat) (outside : σ) (forward : 0 ≤ d)
      (dated : (w.now.advance d d).IsDated) :
      Step key v w ⟨w.now.advance d d, { w.state with outside }, w.stage, w.trace⟩
  | enter (w : Traffic σ) (i : Nat) (request : Request) (waiting : w.stage i = .waiting)
      (method : request.method ≠ "OPTIONS") (honest : w.Honest key request.cookies) :
      Step key v w (w.enter v i request)
  | handle (w : Traffic σ) (i : Nat) (request : Request) (session : Option Session) (fresh : Fresh)
      (entered : w.stage i = .entered request session) :
      Step key v w (w.handle v i request session fresh)
  | leave (w : Traffic σ) (i : Nat) (request : Request) (session : Option Session) (r : Response)
      (nonce : Nonce) (handled : w.stage i = .handled request session r) :
      Step key v w (w.leave v i request session r nonce)

/-- The interleavings of a service that starts with a manager that has revoked nothing. -/
inductive Reachable (secrets : Secrets) (secure : Bool) (v : Service σ Manager) : Traffic σ → Prop
  | init (now : Moment) (outside : σ) (dated : now.IsDated) :
      Reachable secrets secure v
        ⟨now, ⟨outside, .ofSecrets secrets secure⟩, fun _ => .waiting, []⟩
  | tail {w w' : Traffic σ} (reachable : Reachable secrets secure v w)
      (step : Step secrets.key v w w') : Reachable secrets secure v w'

/-! ## When a logout fails to be final -/

/-- A cookie is accepted as a session that is logged in: it is the one that decides, it was set at
most `maxAge` seconds ago, and whenever the session was written as logged out is a window ago. -/
def Accepted (key : Gcm.Key) (w : Traffic σ) (headers : List Bytes) (s : Session) : Prop :=
  (∃ c text p, Manager.Decides key headers c text ∧ Payload.parse text = .ok p ∧ p.session = s ∧
    ∃ e ∈ w.trace, e.Emits c.value ∧ w.now.wallSecond - e.moment.wallSecond ≤ Session.maxAge) ∧
  ∀ e ∈ w.trace, ∀ s', e.Writes key s' → s'.isLoggedIn = false → s'.id = s.id →
    Manager.revocationWindow ≤ w.now.uptime - e.moment.uptime

/-- Since `out`, a session was written as logged in, in a later second of the wall clock, by a
request that had loaded it before `out`, or by a login that drew its id once more. -/
def Stale (key : Gcm.Key) (post : List Event) (out : Event) (pre : List Event)
    (id : Uuid) : Prop :=
  ∃ e ∈ post, ∃ s, e.Writes key s ∧ s.isLoggedIn = true ∧ s.id = id ∧
    out.moment.wallSecond < e.moment.wallSecond ∧
    (e.part = .leave ∧ (∃ e' ∈ pre, e'.Loads s ∧ e'.index = e.index) ∨
      e.part = .handle ∧ e.request.Posts .signIn)

/-! ## The invariant -/

/-- What the trace has to do with the ledger and with the requests under way. -/
structure Booked (key : Gcm.Key) (w : Traffic σ) (writes : List Write) : Prop where
  kept : Kept key w.state.sessions w.now writes
  shown : Shown key Event.moment Event.cookies w.trace writes
  /-- The trace is in the order of the wall clock. -/
  ordered : w.trace.Pairwise fun e e' => e'.moment.wallSecond ≤ e.moment.wallSecond
  past : ∀ e ∈ w.trace, e.moment.wallSecond ≤ w.now.wallSecond
  /-- A request that is under way with a session has loaded it. -/
  staged : ∀ i s, (w.stage i).session? = some s →
    ∃ e ∈ w.trace, e.part = .enter ∧ e.session = some s ∧ e.index = i
  /-- Nothing is written on the way in. -/
  enters : ∀ e ∈ w.trace, e.part = .enter → ∀ s, ¬e.Writes key s
  /-- Handling writes a session as logged in only at a login. -/
  handles : ∀ e ∈ w.trace, e.part = .handle → ∀ s, e.Writes key s → s.isLoggedIn = true →
    e.request.Posts .signIn
  /-- A logout writes the session as logged out. -/
  logouts : ∀ e ∈ w.trace, ∀ id, e.LogsOut id →
    ∃ s, e.Writes key s ∧ s.isLoggedIn = false ∧ s.id = id
  /-- What is written on the way out was loaded on the way in. -/
  leaves : ∀ post e pre, w.trace = post ++ e :: pre → e.part = .leave → ∀ s, e.Writes key s →
    ∃ e' ∈ pre, e'.part = .enter ∧ e'.session = some s ∧ e'.index = e.index

/-- Wherever a session was loaded as logged in after it had been written as logged out, a stale
refresh came first. -/
def Explained (key : Gcm.Key) (w : Traffic σ) : Prop :=
  ∀ post out pre, w.trace = post ++ out :: pre →
    ∀ s₀, out.Writes key s₀ → s₀.isLoggedIn = false →
      ∀ e ∈ post, ∀ s, e.Loads s → s.id = s₀.id → Stale key post out pre s₀.id

/-- What an event writes is in the ledger that shows it, at the moment of the event. -/
theorem exists_of_writes {key : Gcm.Key} {trace : List Event} {writes : List Write}
    (h : Shown key Event.moment Event.cookies trace writes) {e : Event} (he : e ∈ trace)
    {s : Session} (hs : e.Writes key s) : ∃ y ∈ writes, y.session = s ∧ y.moment = e.moment := by
  obtain ⟨value, text, p, hemits, hopen, hparse, rfl⟩ := hs
  obtain ⟨y, hy, hvalue, hmoment⟩ := h.exists_write he (c := ⟨Session.cookieName, value⟩) hemits
    (by rw [hopen]; rfl)
  rw [y.payload_of_open rfl hvalue hopen hparse]
  exact ⟨y, hy, rfl, hmoment⟩

theorem writes_of_emits {key : Gcm.Key} {e : Event} {y : Write} (h : e.Emits (y.value key)) :
    e.Writes key y.session :=
  ⟨_, _, y.payload, h, y.open?_value key, Payload.parse_print _, rfl⟩

namespace Booked

variable {key : Gcm.Key} {w : Traffic σ} {writes : List Write}

theorem unforged (h : Booked key w writes) {headers : List Bytes} (honest : w.Honest key headers) :
    Unforged key writes headers := h.shown.unforged honest

/-! ### What is loaded -/

/-- **What is loaded as logged in is what is accepted.** -/
theorem loads_iff_accepted (h : Booked key w writes) {headers : List Bytes}
    (honest : w.Honest key headers) {s : Session} (hs : s.isLoggedIn = true) :
    (w.state.sessions.load w.now headers).1 = .ok (some s) ↔ w.Accepted key headers s := by
  have hold : (∀ e ∈ w.trace, ∀ s', e.Writes key s' → s'.isLoggedIn = false → s'.id = s.id →
      Manager.revocationWindow ≤ w.now.uptime - e.moment.uptime) ↔
      ∀ y ∈ writes, y.session.isLoggedIn = false → y.session.id = s.id →
        Manager.revocationWindow ≤ w.now.uptime - y.moment.uptime := by
    constructor
    · intro hevents y hy hout hid
      obtain ⟨e, he, hemits, hmoment⟩ := h.shown.written y hy
      rw [hmoment]
      exact hevents e he y.session (writes_of_emits hemits) hout hid
    · intro hwrites e he s' hs' hout hid
      obtain ⟨y, hy, rfl, hmoment⟩ := exists_of_writes h.shown he hs'
      rw [← hmoment]
      exact hwrites y hy hout hid
  rw [h.kept.loads_iff (h.unforged honest) hs, h.shown.young_iff, Accepted, hold]
  exact Iff.rfl

/-- **Behind a session that comes back after a logout there is a stale refresh.** The cookie it
comes from is dated later than the logout, so it was set after it; and whoever set it had either
loaded the session before the logout, or after it, which happened to come back before. -/
theorem stale_of_load (h : Booked key w writes) (hex : w.Explained key) {headers : List Bytes}
    (honest : w.Honest key headers) {s : Session} (hs : s.isLoggedIn = true)
    (hload : (w.state.sessions.load w.now headers).1 = .ok (some s)) {post pre : List Event}
    {out : Event} (htrace : w.trace = post ++ out :: pre) {s₀ : Session}
    (hout : out.Writes key s₀) (hs₀ : s₀.isLoggedIn = false) (hid : s.id = s₀.id) :
    Stale key post out pre s₀.id := by
  obtain ⟨⟨y, hy, -, hsession, hage⟩, hold⟩ :=
    (h.kept.loads_iff (h.unforged honest) hs).mp hload
  obtain ⟨e, he, hemits, hmoment⟩ := h.shown.written y hy
  have hwrites : e.Writes key s := hsession ▸ writes_of_emits hemits
  have houtmem : out ∈ w.trace := by simp [htrace]
  have hlate : out.moment.wallSecond < e.moment.wallSecond := by
    obtain ⟨z, hz, rfl, hzmoment⟩ := exists_of_writes h.shown houtmem hout
    -- The logout is a window ago, which is too long for a cookie of its own second.
    have hwindow := hold z hz hs₀ hid.symm
    have hforgotten : ¬w.now.wallSecond - z.moment.wallSecond ≤ Session.maxAge := fun hyoung =>
      absurd (h.kept.age_lt_window hz hyoung) (not_lt.mpr hwindow)
    rw [← hmoment, ← hzmoment]
    omega
  -- What is in a later second than the logout stands behind it in the trace.
  have hpost : e ∈ post := by
    have hordered := h.ordered
    rw [htrace, List.pairwise_append, List.pairwise_cons] at hordered
    rw [htrace, List.mem_append, List.mem_cons] at he
    rcases he with he | rfl | he
    · exact he
    · exact absurd hlate (lt_irrefl _)
    · exact absurd (hordered.2.1.1 e he) (not_le.mpr hlate)
  cases hpart : e.part with
  | enter => exact absurd hwrites (h.enters e he hpart s)
  | handle =>
    have hposts := h.handles e he hpart s hwrites hs
    exact ⟨e, hpost, s, hwrites, hs, hid, hlate, .inr ⟨hpart, hposts⟩⟩
  | leave =>
    obtain ⟨post₁, post₂, rfl⟩ := List.append_of_mem hpost
    obtain ⟨e', he', henter, hloaded, hindex⟩ := h.leaves post₁ e (post₂ ++ out :: pre)
      (by rw [htrace, List.append_assoc, List.cons_append]) hpart s hwrites
    have hloads : e'.Loads s := ⟨henter, hloaded, hs⟩
    -- Either the session was loaded before the logout, or it had come back by then.
    rcases List.mem_append.mp he' with he' | he'
    · exact hex _ out pre htrace s₀ hout hs₀ e' (by simp [he']) s hloads hid
    · rcases List.mem_cons.mp he' with rfl | he'
      · exact absurd hout (h.enters e' houtmem henter s₀)
      · exact ⟨e, hpost, s, hwrites, hs, hid, hlate, .inl ⟨hpart, e', he', hloads, hindex⟩⟩

/-! ### One more part -/

/-- What a part has to say of the writings that it adds. -/
structure Adds (key : Gcm.Key) (w : Traffic σ) (e : Event) (stage : Stage) (added : List Write) :
    Prop where
  moment : e.moment = w.now
  shown : Shown key Event.moment Event.cookies [e] added
  staged : ∀ s, stage.session? = some s →
    e.part = .enter ∧ e.session = some s ∨ (w.stage e.index).session? = some s
  enters : e.part = .enter → added = []
  handles : e.part = .handle → ∀ y ∈ added, y.session.isLoggedIn = true → e.request.Posts .signIn
  logouts : ∀ id, e.LogsOut id → ∃ y ∈ added, y.session.isLoggedIn = false ∧ y.session.id = id
  leaves : e.part = .leave → ∀ y ∈ added, (w.stage e.index).session? = some y.session

theorem done (h : Booked key w writes) {e : Event} {st : State σ Manager} {stage : Stage}
    {added : List Write} (hkept : Kept key st.sessions w.now (added ++ writes))
    (he : Adds key w e stage added) : Booked key (w.done e st stage) (added ++ writes) where
  kept := hkept
  shown := he.shown.append h.shown
  ordered := by
    refine List.pairwise_cons.mpr ⟨fun e' he' => ?_, h.ordered⟩
    rw [he.moment]
    exact h.past e' he'
  past := by
    intro e' he'
    rcases List.mem_cons.mp he' with rfl | he'
    · rw [he.moment]
      exact le_rfl
    · exact h.past e' he'
  staged := by
    intro i s hs
    by_cases hi : i = e.index
    · subst hi
      rw [show (w.done e st stage).stage e.index = stage from Function.update_self ..] at hs
      rcases he.staged s hs with ⟨henter, hsession⟩ | hold
      · exact ⟨e, List.mem_cons_self, henter, hsession, rfl⟩
      · obtain ⟨e', he', hloaded⟩ := h.staged e.index s hold
        exact ⟨e', List.mem_cons_of_mem _ he', hloaded⟩
    · rw [show (w.done e st stage).stage i = w.stage i from Function.update_of_ne hi ..] at hs
      obtain ⟨e', he', hloaded⟩ := h.staged i s hs
      exact ⟨e', List.mem_cons_of_mem _ he', hloaded⟩
  enters := by
    intro e' he' henter s hs
    rcases List.mem_cons.mp he' with rfl | he'
    · obtain ⟨y, hy, -⟩ := exists_of_writes he.shown (List.mem_singleton_self _) hs
      rw [he.enters henter] at hy
      cases hy
    · exact h.enters e' he' henter s hs
  handles := by
    intro e' he' hhandle s hs hin
    rcases List.mem_cons.mp he' with rfl | he'
    · obtain ⟨y, hy, rfl, -⟩ := exists_of_writes he.shown (List.mem_singleton_self _) hs
      exact he.handles hhandle y hy hin
    · exact h.handles e' he' hhandle s hs hin
  logouts := by
    intro e' he' id hid
    rcases List.mem_cons.mp he' with rfl | he'
    · obtain ⟨y, hy, hout, hyid⟩ := he.logouts id hid
      obtain ⟨x, hx, hemits, -⟩ := he.shown.written y hy
      obtain rfl := List.mem_singleton.mp hx
      exact ⟨y.session, writes_of_emits hemits, hout, hyid⟩
    · exact h.logouts e' he' id hid
  leaves := by
    intro post e' pre htrace hleave s hs
    cases post with
    | nil =>
      obtain ⟨rfl, rfl⟩ := List.cons.inj htrace
      obtain ⟨y, hy, rfl, -⟩ := exists_of_writes he.shown (List.mem_singleton_self _) hs
      exact h.staged e.index y.session (he.leaves hleave y hy)
    | cons e'' post =>
      obtain ⟨rfl, htail⟩ := List.cons.inj htrace
      exact h.leaves post e' pre htail hleave s hs

/-- A part that writes nothing. -/
theorem adds_nothing {e : Event} {stage : Stage} (hmoment : e.moment = w.now)
    (hcookies : ∀ c ∈ e.cookies, c.value = [])
    (hstaged : ∀ s, stage.session? = some s →
      e.part = .enter ∧ e.session = some s ∨ (w.stage e.index).session? = some s)
    (hlogout : ∀ id, ¬e.LogsOut id) : Adds key w e stage [] where
  moment := hmoment
  shown := .of_dropped hcookies
  staged := hstaged
  enters _ := rfl
  handles _ _ hy := absurd hy List.not_mem_nil
  logouts id hid := absurd hid (hlogout id)
  leaves _ _ hy := absurd hy List.not_mem_nil

/-- After a part that writes nothing the ledger is the same. -/
theorem idle (h : Booked key w writes) {e : Event} {st : State σ Manager} {stage : Stage}
    (hkept : Kept key st.sessions w.now writes) (he : Adds key w e stage []) :
    Booked key (w.done e st stage) writes := h.done hkept he

/-- A part that writes one session. -/
theorem adds_session {e : Event} {stage : Stage} {m : Manager} {nonce : Nonce} {s : Session}
    (hkey : m.key = key) (hmoment : e.moment = w.now) (hpart : e.part ≠ .enter)
    (hcookies : e.cookies = [(m.set e.moment nonce s).1])
    (hstaged : ∀ s, stage.session? = some s →
      e.part = .enter ∧ e.session = some s ∨ (w.stage e.index).session? = some s)
    (hhandle : e.part = .handle → s.isLoggedIn = true → e.request.Posts .signIn)
    (hlogout : ∀ id, e.LogsOut id → s.isLoggedIn = false ∧ s.id = id)
    (hleave : e.part = .leave → (w.stage e.index).session? = some s) :
    Adds key w e stage [⟨e.moment, nonce, s⟩] where
  moment := hmoment
  shown := .of_set hkey hcookies
  staged := hstaged
  enters henter := absurd henter hpart
  handles hh := List.forall_mem_singleton.mpr (hhandle hh)
  logouts id hid := ⟨_, List.mem_singleton_self _, hlogout id hid⟩
  leaves hl := List.forall_mem_singleton.mpr (hleave hl)

theorem enter {v : Service σ Manager} (hv : v.keeper = Manager.keeper) (h : Booked key w writes)
    (i : Nat) (request : Request) : ∃ writes', Booked key (w.enter v i request) writes' := by
  have hkept := h.kept.load request.cookies
  have hpart : ∀ {session cookies},
      (Event.mk i .enter w.now request session cookies).part ≠ .handle := by
    intro session cookies hp
    cases hp
  rw [Traffic.enter, Service.enter, hv]
  cases hload : Manager.keeper.load w.now request.cookies w.state.sessions with
  | mk result m =>
    rw [show w.state.sessions.load w.now request.cookies = (result, m) from hload] at hkept
    cases result with
    | ok session =>
      refine ⟨_, h.idle hkept (adds_nothing rfl ?_ ?_ (Event.not_logsOut hpart))⟩
      · intro c hc
        cases hc
      · intro s hs
        exact .inl ⟨rfl, hs⟩
    | error e =>
      refine ⟨_, h.idle hkept (adds_nothing rfl ?_ ?_ (Event.not_logsOut hpart))⟩
      · intro c hc
        rw [show c = m.clear from List.mem_singleton.mp hc]
        rfl
      · intro s hs
        cases hs
    | overflow =>
      refine ⟨_, h.idle hkept (adds_nothing rfl ?_ ?_ (Event.not_logsOut hpart))⟩
      · intro c hc
        cases hc
      · intro s hs
        cases hs

theorem handle {v : Service σ Manager} (hv : v.keeper = Manager.keeper) (h : Booked key w writes)
    {i : Nat} {request : Request} {session : Option Session} (fresh : Fresh)
    (hentered : w.stage i = .entered request session) :
    ∃ writes', Booked key (w.handle v i request session fresh) writes' := by
  have hstaged : ∀ {r : Response} (s : Session), (Stage.handled request session r).session?
    = some s →
      Part.handle = .enter ∧ session = some s ∨ (w.stage i).session? = some s := by
    intro r s hs
    rw [hentered]
    exact .inr hs
  rw [Traffic.handle]
  cases Service.handle_handled hv w.now fresh request session w.state with
  | login who posts response sessions =>
    refine ⟨_, h.done (sessions ▸ h.kept.set fresh.nonce _) (adds_session h.kept.key_eq rfl ?_
      (congrArg Response.cookies response) hstaged (fun _ _ => posts) ?_ ?_)⟩
    · intro hp
      cases hp
    · rintro id ⟨-, hposts, -⟩
      have := posts.2.symm.trans hposts.2
      cases this
    · intro hp
      cases hp
  | logout s posts loaded active response sessions =>
    refine ⟨_, h.done (sessions ▸ h.kept.set fresh.nonce _) (adds_session h.kept.key_eq rfl ?_
      (congrArg Response.cookies response) hstaged ?_ ?_ ?_)⟩
    · intro hp
      cases hp
    · intro _ hs
      cases hs
    · rintro id ⟨-, -, s', hs', -, rfl⟩
      obtain rfl := Option.some.inj (loaded.symm.trans hs')
      exact ⟨rfl, rfl⟩
    · intro hp
      cases hp
  | other notIn notOut cookies sessions =>
    refine ⟨_, h.idle (sessions ▸ h.kept) (adds_nothing rfl ?_ hstaged ?_)⟩
    · intro c hc
      rw [show (v.handle w.now fresh request session w.state).response.cookies
        = [] from cookies] at hc
      cases hc
    -- A logout would have set a cookie.
    · rintro id ⟨-, hposts, s, rfl, hs, -⟩
      rw [(Service.handle_logout hv w.now fresh w.state hposts hs).1] at cookies
      cases cookies

theorem leave {v : Service σ Manager} (hv : v.keeper = Manager.keeper) (h : Booked key w writes)
    {i : Nat} {request : Request} {session : Option Session} {r : Response} (nonce : Nonce)
    (hhandled : w.stage i = .handled request session r) :
    ∃ writes', Booked key (w.leave v i request session r nonce) writes' := by
  have hstaged : ∀ {r' : Option Response} (s : Session), (Stage.answered r').session? = some s →
      Part.leave = .enter ∧ session = some s ∨ (w.stage i).session? = some s := by
    intro r' s hs
    cases hs
  have hlogout :
      ∀ {cookies} id, ¬(Event.mk i .leave w.now request session cookies).LogsOut id := by
    intro cookies
    refine Event.not_logsOut ?_
    intro hp
    cases hp
  have hplain : v.leave w.now nonce session r w.state.sessions = (r, w.state.sessions) →
      ∃ writes', Booked key (w.leave v i request session r nonce) writes' := by
    intro hleft
    rw [Traffic.leave, hleft]
    refine ⟨_, h.idle h.kept (adds_nothing rfl ?_ hstaged hlogout)⟩
    simp
  cases session with
  | none => exact hplain rfl
  | some s =>
    by_cases hsets : Service.setsSession r = true
    · exact hplain (by rw [Service.leave, if_pos hsets])
    · have hkept : Kept key (w.state.sessions.set w.now nonce s).2 w.now
          ([⟨w.now, nonce, s⟩] ++ writes) := h.kept.set nonce s
      rw [Traffic.leave, Service.leave_of_not_sets hv hsets]
      refine ⟨_, h.done hkept (adds_session h.kept.key_eq rfl ?_ ?_ hstaged ?_ ?_ ?_)⟩
      · intro hp
        cases hp
      · exact List.drop_left
      · intro hp
        cases hp
      · intro id hid
        exact absurd hid (hlogout id)
      · intro _
        rw [hhandled]
        rfl

end Booked

/-! ## Every interleaving -/

/-- If all that an event loads is explained, the traffic after it is. -/
theorem Explained.done {key : Gcm.Key} {w : Traffic σ} (h : w.Explained key) {e : Event}
    {st : State σ Manager} {stage : Stage}
    (he : ∀ s, e.Loads s → ∀ post out pre, w.trace = post ++ out :: pre → ∀ s₀,
      out.Writes key s₀ → s₀.isLoggedIn = false → s.id = s₀.id → Stale key post out pre s₀.id) :
    (w.done e st stage).Explained key := by
  intro post out pre htrace s₀ hout hs₀ e' he' s hloads hid
  cases post with
  | nil => cases he'
  | cons e'' post =>
    obtain ⟨rfl, htail⟩ := List.cons.inj htrace
    -- A stale refresh before the event is one before what comes after it.
    have hstale : Stale key post out pre s₀.id := by
      rcases List.mem_cons.mp he' with rfl | he'
      · exact he s hloads post out pre htail s₀ hout hs₀ hid
      · exact h post out pre htail s₀ hout hs₀ e' he' s hloads hid
    obtain ⟨x, hx, hrest⟩ := hstale
    exact ⟨x, List.mem_cons_of_mem _ hx, hrest⟩

/-- A part that is not done on the way in leaves nothing to explain. -/
theorem Explained.done_of_ne {key : Gcm.Key} {w : Traffic σ} (h : w.Explained key) {e : Event}
    {st : State σ Manager} {stage : Stage} (hpart : e.part ≠ .enter) :
    (w.done e st stage).Explained key := by
  refine h.done ?_
  intro s hloads
  exact absurd hloads (Event.not_loads hpart s)

/-- Whatever is loaded on the way in has been explained. -/
theorem Booked.explained_enter {key : Gcm.Key} {w : Traffic σ} {writes : List Write}
    (h : Booked key w writes) (hex : w.Explained key) {v : Service σ Manager}
    (hv : v.keeper = Manager.keeper) (i : Nat) {request : Request}
    (honest : w.Honest key request.cookies) : (w.enter v i request).Explained key := by
  rw [Traffic.enter, Service.enter, hv]
  cases hload : Manager.keeper.load w.now request.cookies w.state.sessions with
  | mk result m =>
    have hfst : (w.state.sessions.load w.now request.cookies).1 = result := congrArg Prod.fst hload
    cases result with
    | ok session =>
      refine hex.done ?_
      intro s hloads post out pre htrace s₀ hout hs₀ hid
      obtain ⟨-, rfl, hs⟩ := hloads
      exact h.stale_of_load hex honest hs hfst htrace hout hs₀ hid
    | error e =>
      refine hex.done ?_
      intro s hloads
      cases hloads.2.1
    | overflow =>
      refine hex.done ?_
      intro s hloads
      cases hloads.2.1

theorem booked_reachable {secrets : Secrets} {secure : Bool} {v : Service σ Manager}
    (hv : v.keeper = Manager.keeper) {w : Traffic σ} (hw : Reachable secrets secure v w) :
    (∃ writes, Booked secrets.key w writes) ∧ w.Explained secrets.key := by
  induction hw with
  | init now outside dated =>
    refine ⟨⟨[], Session.kept_ofSecrets secrets secure dated, .nil, .nil, ?_, ?_, ?_, ?_, ?_, ?_⟩,
      ?_⟩
    all_goals simp [Stage.session?, Explained]
  | tail reachable step ih =>
    obtain ⟨⟨writes, h⟩, hex⟩ := ih
    cases step with
    | pass d outside forward dated =>
      refine ⟨⟨writes, { h with kept := h.kept.advance forward dated, past := ?_ }⟩, hex⟩
      intro e he
      exact (h.past e he).trans ((Moment.Precedes.refl _).advance forward).wallSecond_le
    | enter i request waiting method honest =>
      exact ⟨h.enter hv i request, h.explained_enter hex hv i honest⟩
    | handle i request session fresh entered =>
      exact ⟨h.handle hv fresh entered, hex.done_of_ne (by intro hp; cases hp)⟩
    | leave i request session r nonce handled =>
      exact ⟨h.leave hv nonce handled, hex.done_of_ne (by intro hp; cases hp)⟩

/-! ## A logout that is not final -/

theorem enter_of_load {v : Service σ Manager} (hv : v.keeper = Manager.keeper) (w : Traffic σ)
    (i : Nat) {request : Request} {session : Option Session} {m : Manager}
    (h : w.state.sessions.load w.now request.cookies = (.ok session, m)) :
    w.enter v i request = w.done ⟨i, .enter, w.now, request, session, []⟩
      { w.state with sessions := m } (.entered request session) := by
  have hload : v.keeper.load w.now request.cookies w.state.sessions = (.ok session, m) := by
    rw [hv]; exact h
  rw [enter, Service.enter, hload]

/-- The session that comes back. -/
def ann : Session := .loggedIn 7 "Ann" .zero

/-- What is drawn for every request of the run. -/
def drawn : Fresh := ⟨.zero, .replicate 12 0⟩

/-- The cookie of the session as of some moment. -/
def annCookie (m : Manager) (t : Moment) : CookieChange :=
  m.cookie drawn.nonce ⟨ann, t.second⟩

theorem set_ann (m : Manager) (t : Moment) : m.set t drawn.nonce ann = (annCookie m t, m) := rfl

theorem load_ann {m m' m'' : Manager} (hkey : m'.key = m.key) {t now : Moment} {age : Int}
    (hage : Session.age? t.second now.second = some age) (hyoung : age ≤ Session.maxAge)
    (hlive : m'.downgrade now ann = (ann, m'')) :
    m'.load now [(annCookie m t).pair] = (.ok (some ann), m'') := by
  have hload := Manager.load_cookie m m' hkey (n := drawn.nonce) (p := ⟨ann, t.second⟩) hage hyoung
  rw [annCookie, hload, hlive]

section Parts

variable {secrets : Secrets} {secure : Bool} {v : Service σ Manager} {w : Traffic σ}

theorem exists_enter (hv : v.keeper = Manager.keeper) (hw : Reachable secrets secure v w) (i : Nat)
    (request : Request) {session : Option Session} {m : Manager} (hwaiting : w.stage i = .waiting)
    (hmethod : request.method ≠ "OPTIONS") (honest : w.Honest secrets.key request.cookies)
    (hload : w.state.sessions.load w.now request.cookies = (.ok session, m)) :
    ∃ w', Reachable secrets secure v w' ∧ w'.now = w.now ∧
      w'.state = { w.state with sessions := m } ∧
      w'.stage = Function.update w.stage i (.entered request session) ∧
      w'.trace = ⟨i, .enter, w.now, request, session, []⟩ :: w.trace := by
  have hw' := hw.tail (.enter w i request hwaiting hmethod honest)
  rw [enter_of_load hv w i hload] at hw'
  exact ⟨_, hw', rfl, rfl, rfl, rfl⟩

theorem exists_handle (hw : Reachable secrets secure v w) {i : Nat} {request : Request}
    {session : Option Session} (fresh : Fresh) (hentered : w.stage i = .entered request session)
    {o : Answered σ Manager} (ho : v.handle w.now fresh request session w.state = o) :
    ∃ w', Reachable secrets secure v w' ∧ w'.now = w.now ∧ w'.state = o.state ∧
      w'.stage = Function.update w.stage i (.handled request session o.response) ∧
      w'.trace = ⟨i, .handle, w.now, request, session, o.response.cookies⟩ :: w.trace := by
  subst ho
  exact ⟨_, hw.tail (.handle w i request session fresh hentered), rfl, rfl, rfl, rfl⟩

theorem exists_leave (hv : v.keeper = Manager.keeper) (hw : Reachable secrets secure v w) {i : Nat}
    {request : Request} {s : Session} {r : Response} (nonce : Nonce)
    (hhandled : w.stage i = .handled request (some s) r) (hr : r.cookies = []) :
    ∃ w', Reachable secrets secure v w' ∧ w'.now = w.now ∧
      w'.state.sessions = (w.state.sessions.set w.now nonce s).2 ∧
      ∃ e, w'.trace = e :: w.trace ∧ e.Emits (w.state.sessions.set w.now nonce s).1.value := by
  have hleft : v.leave w.now nonce (some s) r w.state.sessions
      = (r.withCookies [(w.state.sessions.set w.now nonce s).1],
          (w.state.sessions.set w.now nonce s).2) :=
    Service.leave_of_not_sets hv (Service.not_sets_of_plain hr)
  refine ⟨_, hw.tail (.leave w i request (some s) r nonce hhandled), rfl, ?_, _, rfl,
    (w.state.sessions.set w.now nonce s).1, ?_, rfl, rfl⟩
  · exact congrArg Prod.snd hleft
  · rw [hleft]
    show _ ∈ (r.cookies ++ _).drop r.cookies.length
    rw [List.drop_left]
    exact List.mem_singleton_self _

end Parts

/-- Request 0 logs in. -/
theorem exists_login (secrets : Secrets) (secure : Bool) : ∃ w : Traffic Unit,
    Reachable secrets secure Service.lenient w ∧ w.now = ⟨0, 0⟩ ∧
    w.state.sessions = .ofSecrets secrets secure ∧ (∀ i, i ≠ 0 → w.stage i = .waiting) ∧
    ∃ e ∈ w.trace, e.Emits (annCookie (.ofSecrets secrets secure) ⟨0, 0⟩).value := by
  have hw₀ : Reachable secrets secure Service.lenient
      (⟨⟨0, 0⟩, ⟨(), .ofSecrets secrets secure⟩, fun _ => .waiting, []⟩ : Traffic Unit) :=
    .init _ _ (by constructor <;> decide +kernel)
  obtain ⟨w₁, hw₁, hnow₁, hstate₁, hstage₁, -⟩ := exists_enter rfl hw₀ 0 Service.loginRequest rfl
    (by decide) (fun c hc => absurd hc List.not_mem_nil) rfl
  obtain ⟨hresponse, hsessions⟩ :=
    Service.handle_signIn (v := Service.lenient) rfl w₁.now drawn none
    w₁.state Service.loginRequest_posts (by decide +kernel) Service.lenient_identify
  obtain ⟨w₂, hw₂, hnow₂, hstate₂, hstage₂, htrace₂⟩ := exists_handle hw₁ drawn
    (by rw [hstage₁, Function.update_self]) rfl
  refine ⟨w₂, hw₂, hnow₂.trans hnow₁, ?_, ?_, _, by rw [htrace₂]; exact List.mem_cons_self, ?_⟩
  · rw [hstate₂, hsessions, hstate₁]
    rfl
  · intro i hi
    rw [hstage₂, hstage₁, Function.update_of_ne hi, Function.update_of_ne hi]
  · refine ⟨annCookie w₁.state.sessions w₁.now, ?_, rfl, ?_⟩
    · rw [hresponse]
      exact List.mem_singleton_self _
    · rw [hstate₁, hnow₁]

theorem honest_ann {key : Gcm.Key} {w : Traffic σ} {m : Manager} {t : Moment}
    (h : ∃ e ∈ w.trace, e.Emits (annCookie m t).value) : w.Honest key [(annCookie m t).pair] := by
  intro c hc _
  rw [annCookie, Manager.candidates_cookie, List.mem_singleton] at hc
  rw [hc]
  exact h

/-- The requests that send the cookie of the login. -/
def annRequest (m : Manager) (method target : String) : Request :=
  ⟨method, target, [(annCookie m ⟨0, 0⟩).pair], []⟩

theorem path_annRequest (m : Manager) (method target : String) :
    (annRequest m method target).path = (Request.mk method target [] []).path := rfl

/-- The manager after the logout. -/
def revoked (secrets : Secrets) (secure : Bool) : Manager :=
  ((Manager.ofSecrets secrets secure).set ⟨0, 0⟩ drawn.nonce ann.loggedOut).2

/-- Requests 1 and 2 are let in, and request 2 logs out. -/
theorem exists_logout (secrets : Secrets) (secure : Bool) : ∃ w : Traffic Unit,
    Reachable secrets secure Service.lenient w ∧ w.now = ⟨0, 0⟩ ∧
    w.state.sessions = revoked secrets secure ∧
    w.stage 1 = .entered (annRequest (.ofSecrets secrets secure) "GET" "/whoami") (some ann) ∧
    ∃ out ∈ w.trace, out.LogsOut ann.id := by
  let m : Manager := .ofSecrets secrets secure
  obtain ⟨w, hw, hnow, hsessions, hstage, hemits⟩ := exists_login secrets secure
  have hload : m.load ⟨0, 0⟩ [(annCookie m ⟨0, 0⟩).pair] = (.ok (some ann), m) :=
    load_ann rfl (show _ = some 0 by decide +kernel) (by decide) rfl
  obtain ⟨w₁, hw₁, hnow₁, hstate₁, hstage₁, htrace₁⟩ := exists_enter rfl hw 1
    (annRequest m "GET" "/whoami") (hstage 1 (by decide))
    (by decide : ("GET" : String) ≠ "OPTIONS")
    (honest_ann hemits) (by rw [hsessions, hnow]; exact hload)
  have hemits₁ : ∃ e ∈ w₁.trace, e.Emits (annCookie m ⟨0, 0⟩).value := by
    obtain ⟨e, he, hvalue⟩ := hemits
    exact ⟨e, by rw [htrace₁]; exact List.mem_cons_of_mem _ he, hvalue⟩
  obtain ⟨w₂, hw₂, hnow₂, hstate₂, hstage₂, htrace₂⟩ := exists_enter rfl hw₁ 2
    (annRequest m "POST" "/logout")
    (by rw [hstage₁, Function.update_of_ne (by decide)]; exact hstage 2 (by decide))
    (by decide : ("POST" : String) ≠ "OPTIONS") (honest_ann hemits₁)
    (by rw [hstate₁, hnow₁, hnow]; exact hload)
  have hposts : (annRequest m "POST" "/logout").Posts .logout :=
    ⟨rfl, by rw [path_annRequest]; decide⟩
  obtain ⟨hresponse, hsessions₃⟩ := Service.handle_logout (v := Service.lenient) rfl w₂.now drawn
    w₂.state hposts (s := ann) rfl
  obtain ⟨w₃, hw₃, hnow₃, hstate₃, hstage₃, htrace₃⟩ := exists_handle hw₂ drawn
    (by rw [hstage₂, Function.update_self]) rfl
  have hnow₃' : w₂.now = ⟨0, 0⟩ := hnow₂.trans (hnow₁.trans hnow)
  refine ⟨w₃, hw₃, hnow₃.trans hnow₃', ?_, ?_, _, by rw [htrace₃]; exact List.mem_cons_self,
    rfl, hposts, ann, rfl, rfl, rfl⟩
  · rw [hstate₃, hsessions₃, hstate₂, hnow₃']
    rfl
  · rw [hstage₃, Function.update_of_ne (by decide), hstage₂, Function.update_of_ne (by decide),
      hstage₁, Function.update_self]

/-- By the end of the run the logout is forgotten. -/
theorem downgrade_revoked (secrets : Secrets) (secure : Bool) :
    (revoked secrets secure).downgrade ⟨901000, 901000⟩ ann
      = (ann, .ofSecrets secrets secure) := by
  have hforgotten : (revoked secrets secure).revocations.contains ann.id
      (Moment.mk 901000 901000).uptime = (false, .empty Manager.revocationWindow) := by
    show (⟨Manager.revocationWindow, [(.zero, 0)]⟩ : Revocations).contains .zero 901000 = _
    decide +kernel
  rw [Manager.downgrade, if_pos (show ann.isLoggedIn = true from rfl), hforgotten]
  rfl

/-- Request 1 is let out a second later. The session comes back when its revocation
is forgotten. -/
theorem exists_revival (secrets : Secrets) (secure : Bool) : ∃ w : Traffic Unit,
    Reachable secrets secure Service.lenient w ∧ (∃ out ∈ w.trace, out.LogsOut ann.id) ∧
    ∃ headers, w.Honest secrets.key headers ∧
      (w.state.sessions.load w.now headers).1 = .ok (some ann) := by
  obtain ⟨w, hw, hnow, hsessions, hstage, out, hmem, hout⟩ := exists_logout secrets secure
  have hw₁ := hw.tail (.pass w 1000 () (by decide +kernel)
    (by rw [hnow]; constructor <;> decide +kernel))
  obtain ⟨w₂, hw₂, hnow₂, hstate₂, hstage₂, htrace₂⟩ := exists_handle hw₁ drawn hstage
    (Service.handle_whoAmI rfl (by rw [path_annRequest]; decide) _ _ _ _)
  obtain ⟨w₃, hw₃, hnow₃, hsessions₃, e, htrace₃, hemits⟩ := exists_leave rfl hw₂ drawn.nonce
    (by rw [hstage₂, Function.update_self]) rfl
  have hnow' : w₂.now = ⟨1000, 1000⟩ := by
    rw [hnow₂, hnow]
    show (Moment.mk 0 0).advance 1000 1000 = _
    decide +kernel
  have hstate' : w₂.state.sessions = revoked secrets secure := by
    rw [hstate₂]
    exact hsessions
  rw [hnow', hstate', set_ann] at hsessions₃ hemits
  have hw₄ := hw₃.tail (.pass w₃ 900000 () (by decide +kernel)
    (by rw [hnow₃, hnow']; constructor <;> decide +kernel))
  refine ⟨_, hw₄, ⟨out, ?_, hout⟩, [(annCookie (revoked secrets secure) ⟨1000, 1000⟩).pair],
    honest_ann ⟨e, ?_, hemits⟩, ?_⟩
  · rw [htrace₃, htrace₂]
    simp [hmem]
  · rw [htrace₃]
    exact List.mem_cons_self
  · have hend : w₃.now.advance 900000 900000 = ⟨901000, 901000⟩ := by
      rw [hnow₃, hnow']
      decide +kernel
    show (w₃.state.sessions.load (w₃.now.advance 900000 900000) _).1 = _
    rw [hend, hsessions₃, load_ann rfl (show _ = some 900 by decide +kernel) (by decide)
      (downgrade_revoked secrets secure)]

/-! ## When a logout is final -/

/-- **When a logout fails to be final.** Take any interleaving, in which a logout of some session
was handled, and any request that only sends cookies that were set in it. Its session is loaded as
logged in exactly when the cookie is accepted; and then, after the logout, the session was written
again as logged in, in a later second, by a request that had loaded it before. Without such a stale
refresh no request gets the session back. -/
theorem loads_after_logout {secrets : Secrets} {secure : Bool} {v : Service σ Manager}
    (hv : v.keeper = Manager.keeper) {w : Traffic σ} (hw : Reachable secrets secure v w)
    {headers : List Bytes} (honest : w.Honest secrets.key headers) {s : Session}
    (hs : s.isLoggedIn = true) {post pre : List Event} {out : Event}
    (htrace : w.trace = post ++ out :: pre) (hout : out.LogsOut s.id) :
    ((w.state.sessions.load w.now headers).1 = .ok (some s) ↔ w.Accepted secrets.key headers s) ∧
      ((w.state.sessions.load w.now headers).1 = .ok (some s) →
        Stale secrets.key post out pre s.id) := by
  obtain ⟨⟨writes, h⟩, hex⟩ := booked_reachable hv hw
  refine ⟨h.loads_iff_accepted honest hs, fun hload => ?_⟩
  obtain ⟨s₀, hwrites, hs₀, hid⟩ := h.logouts out (by simp [htrace]) s.id hout
  rw [← hid]
  exact h.stale_of_load hex honest hs hload htrace hwrites hs₀ hid.symm

/-- The session does come back in the run above: its cookie is accepted, and the refresh
was stale. -/
theorem loads_after_logout_revived : ∃ (w : Traffic Unit) (headers : List Bytes)
    (post pre : List Event) (out : Event), Reachable Secrets.sample true Service.lenient w ∧
      w.Honest Secrets.sample.key headers ∧ w.trace = post ++ out :: pre ∧ out.LogsOut ann.id ∧
      w.Accepted Secrets.sample.key headers ann ∧
      Stale Secrets.sample.key post out pre ann.id := by
  obtain ⟨w, hw, ⟨out, hmem, hout⟩, headers, honest, hload⟩ := exists_revival Secrets.sample true
  obtain ⟨post, pre, htrace⟩ := List.append_of_mem hmem
  have hmain := loads_after_logout rfl hw honest (s := ann) rfl htrace hout
  exact ⟨w, headers, post, pre, out, hw, honest, htrace, hout, hmain.1.mp hload, hmain.2 hload⟩

/-- So it is not true that a session never comes back after a logout. -/
theorem not_logout_final : ¬∀ w : Traffic Unit, Reachable Secrets.sample true Service.lenient w →
    ∀ id, (∃ out ∈ w.trace, out.LogsOut id) →
      ∀ headers, w.Honest Secrets.sample.key headers →
        ∀ s, (w.state.sessions.load w.now headers).1 = .ok (some s) → s.id = id →
          s.isLoggedIn = false := by
  intro hfinal
  obtain ⟨w, hw, hout, headers, honest, hload⟩ := exists_revival Secrets.sample true
  have hs := hfinal w hw ann.id hout headers honest ann hload rfl
  cases hs

end Traffic

end SignIn.Http
