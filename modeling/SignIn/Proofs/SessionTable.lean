import SignIn.Proofs.Ledger
import SignIn.Proofs.RoundTrip
import SignIn.Proofs.Serving

/-!
# The service as a table of sessions

There is no table of sessions: what is known of one is spread over the cookies that browsers hold
and the list of revocations. This module shows that, as long as requests are served one after
another, the answers are those of a service that keeps a table: a session is listed from the login
that began it until the logout that ended it, and a request speaks for the session of the last of
its cookies that opens, for 900 seconds after that cookie was set.

Logged-out sessions are forgotten after a window, so the table cannot be read off the manager. What
makes up for that is `Booked.lasts`: a session is never written as logged in once it was written as
logged out. So whatever cookie is young enough to be accepted was set before the logout, and then
the logout is less than a window ago.
-/

namespace SignIn.Http

open Session (Manager Fresh Write Kept Shown Payload Unforged)

/-! ## Runs -/

/-- A request that was served: when, what was drawn for it, and what was answered. -/
structure Exchange where
  moment : Moment
  request : Request
  fresh : Fresh
  response : Response

namespace Exchange

/-- It set the session's cookie to a value. -/
def Emits (x : Exchange) (value : Bytes) : Prop :=
  ∃ c ∈ x.response.cookies, c.name = Session.cookieName ∧ c.value = value

/-- It was a login that began the session with the given id, and answered the given name. -/
def Begins (x : Exchange) (id : Uuid) (name : String) : Prop :=
  LogsIn x.request x.response ∧ x.fresh.id = id ∧ x.response.Names name

end Exchange

/-- A request carries a payload in a cookie: the last of its session cookies that opens. -/
def Carries (key : Gcm.Key) (request : Request) (c : Cookie) (p : Payload) : Prop :=
  ∃ text, Manager.Decides key request.cookies c text ∧ Payload.parse text = .ok p

/-- It was a logout that ended the session with the given id. -/
def Exchange.Ends (key : Gcm.Key) (x : Exchange) (id : Uuid) : Prop :=
  LogsOut x.request x.response ∧ ∃ c p, Carries key x.request c p ∧ p.session.id = id

/-- The service in the middle of a run. -/
structure Run (σ : Type) where
  now : Moment
  state : State σ Manager
  /-- What was served so far, the latest first. -/
  past : List Exchange

namespace Run

variable {σ : Type}

/-- A request that is served now with some answer. -/
def exchange (w : Run σ) (request : Request) (fresh : Fresh) (r : Response) : Exchange :=
  ⟨w.now, request, fresh, r⟩

/-- Whatever session cookie of a request opens was set by an earlier response. -/
def Honest (key : Gcm.Key) (w : Run σ) (request : Request) : Prop :=
  ∀ c ∈ Manager.candidates request.cookies, (Cookie.open? key c).isSome →
    ∃ x ∈ w.past, x.Emits c.value

/-- What can happen between two moments at which no request is being served. -/
inductive Step (key : Gcm.Key) (v : Service σ Manager) : Run σ → Run σ → Prop
  /-- Time passes, by the same amount on both clocks; whatever is outside may change. -/
  | pass (w : Run σ) (d : Rat) (outside : σ) (forward : 0 ≤ d)
      (dated : (w.now.advance d d).IsDated) :
      Step key v w ⟨w.now.advance d d, { w.state with outside }, w.past⟩
  /-- A request is served, and answered, as every such request is (`exists_response`). If it is a
  login, the id that is drawn for it is a new one. -/
  | serve (w : Run σ) (request : Request) (fresh : Fresh) (r : Response)
      (honest : w.Honest key request)
      (answered : (v.serve w.now fresh request w.state).response = some r)
      (drawn : LogsIn request r → ∀ x ∈ w.past, LogsIn x.request x.response →
        x.fresh.id ≠ fresh.id) :
      Step key v w
        ⟨w.now, (v.serve w.now fresh request w.state).state, w.exchange request fresh r :: w.past⟩

/-- The runs of a service that starts with a manager that has revoked nothing. -/
inductive Reachable (secrets : Secrets) (secure : Bool) (v : Service σ Manager) : Run σ → Prop
  | init (now : Moment) (outside : σ) (dated : now.IsDated) :
      Reachable secrets secure v ⟨now, ⟨outside, .ofSecrets secrets secure⟩, []⟩
  | tail {w w' : Run σ} (reachable : Reachable secrets secure v w)
      (step : Step secrets.key v w w') : Reachable secrets secure v w'

/-! ## The table -/

/-- The table lists a session: a login has begun it, and no logout has ended it. -/
def Listed (key : Gcm.Key) (w : Run σ) (id : Uuid) (name : String) : Prop :=
  (∃ x ∈ w.past, x.Begins id name) ∧ ¬∃ x ∈ w.past, x.Ends key id

/-- A request speaks for a session: it carries it as logged in, in a cookie that was set at most
`maxAge` seconds ago, and the table lists it. -/
def Speaks (key : Gcm.Key) (w : Run σ) (request : Request) (id : Uuid) (name : String) : Prop :=
  (∃ c p, Carries key request c p ∧ p.session.isLoggedIn = true ∧ p.session.id = id ∧
    ∃ x ∈ w.past, x.Emits c.value ∧ w.now.wallSecond - x.moment.wallSecond ≤ Session.maxAge) ∧
  w.Listed key id name

/-! ## The invariant -/

/-- What the past has to do with the ledger. -/
structure Booked (key : Gcm.Key) (w : Run σ) (writes : List Write) : Prop where
  kept : Kept key w.state.sessions w.now writes
  shown : Shown key Exchange.moment (·.response.cookies) w.past writes
  /-- Whatever was written was begun by a login, under the same name. -/
  begun : ∀ y ∈ writes, ∃ x ∈ w.past, x.Begins y.session.id y.session.name
  /-- No session was begun under two names. -/
  sole : ∀ x ∈ w.past, ∀ x' ∈ w.past, ∀ id n n', x.Begins id n → x'.Begins id n' → n = n'
  /-- A session was ended if and only if it was written as logged out. -/
  ended : ∀ id, (∃ x ∈ w.past, x.Ends key id) ↔
    ∃ y ∈ writes, y.session.isLoggedIn = false ∧ y.session.id = id
  /-- A session is not written as logged in after it was written as logged out. -/
  lasts : ∀ y ∈ writes, ∀ z ∈ writes, y.session.isLoggedIn = true → z.session.isLoggedIn = false →
    z.session.id = y.session.id → y.moment.uptime ≤ z.moment.uptime

namespace Booked

variable {key : Gcm.Key} {w : Run σ} {writes : List Write}

theorem unforged (h : Booked key w writes) {request : Request} (honest : w.Honest key request) :
    Unforged key writes request.cookies := h.shown.unforged honest

/-- A session that is loaded as logged in was never written as logged out: the cookie that it comes
from is older than that, and too young for it to be forgotten. -/
theorem not_ended (h : Booked key w writes) {request : Request} (honest : w.Honest key request)
    {s : Session} (hs : s.isLoggedIn = true)
    (hload : (w.state.sessions.load w.now request.cookies).1 = .ok (some s)) :
    ∀ z ∈ writes, z.session.isLoggedIn = false → z.session.id ≠ s.id := by
  intro z hz hout hid
  obtain ⟨⟨x, hx, -, rfl, hage⟩, hold⟩ := (h.kept.loads_iff (h.unforged honest) hs).mp hload
  -- The cookie is older than the logout, so the logout is younger than the window.
  have hbefore : x.moment.uptime ≤ z.moment.uptime := h.lasts x hx z hz hs hout hid
  have hyoung := h.kept.age_lt_window hx hage
  have hwindow := hold z hz hout hid
  linarith

/-- **What is loaded as logged in is what the table lists.** -/
theorem loads_iff_speaks (h : Booked key w writes) {request : Request}
    (honest : w.Honest key request) (id : Uuid) (n : String) :
    (∃ s, (w.state.sessions.load w.now request.cookies).1 = .ok (some s) ∧
        s.isLoggedIn = true ∧ s.id = id ∧ s.name = n) ↔ w.Speaks key request id n := by
  have hun := h.unforged honest
  constructor
  · rintro ⟨s, hload, hs, rfl, rfl⟩
    obtain ⟨hyoung, -⟩ := (h.kept.loads_iff hun hs).mp hload
    obtain ⟨c, text, p, hc, hparse, hp, x, hx, hemits, hage⟩ := h.shown.young_iff.mp hyoung
    obtain ⟨y, hy, -, rfl, -⟩ := hyoung
    refine ⟨⟨c, p, ⟨text, hc, hparse⟩, ?_, ?_, x, hx, hemits, hage⟩, h.begun y hy, ?_⟩
    · rw [hp]
      exact hs
    · rw [hp]
    · rw [h.ended]
      rintro ⟨z, hz, hout, hid⟩
      exact h.not_ended honest hs hload z hz hout hid
  · rintro ⟨⟨c, p, ⟨text, hc, hparse⟩, hs, rfl, x, hx, hemits, hage⟩, ⟨x₀, hx₀, hbegins⟩, hnot⟩
    have hyoung := h.shown.young_iff.mpr ⟨c, text, p, hc, hparse, rfl, x, hx, hemits, hage⟩
    obtain ⟨y, hy, -, hsession, -⟩ := id hyoung
    obtain ⟨x₁, hx₁, hbegins₁⟩ := h.begun y hy
    rw [hsession] at hbegins₁
    refine ⟨p.session, (h.kept.loads_iff hun hs).mpr ⟨hyoung, ?_⟩, hs, rfl,
      h.sole x₁ hx₁ x₀ hx₀ _ _ _ hbegins₁ hbegins⟩
    -- Nothing that the table lists was written as logged out, whenever that would have been.
    rw [h.ended] at hnot
    intro z hz hout hid
    exact absurd ⟨z, hz, hout, hid⟩ hnot

/-! ### One more exchange -/

/-- What an exchange has to say of the writings that it adds. -/
structure Adds (key : Gcm.Key) (w : Run σ) (writes : List Write) (x : Exchange)
    (added : List Write) : Prop where
  moment : x.moment = w.now
  shown : Shown key Exchange.moment (·.response.cookies) [x] added
  begun : ∀ y ∈ added, ∃ x' ∈ x :: w.past, x'.Begins y.session.id y.session.name
  drawn : ∀ id n, x.Begins id n → ∀ x' ∈ w.past, ∀ n', ¬x'.Begins id n'
  ended : ∀ id, x.Ends key id → ∃ y ∈ added, y.session.isLoggedIn = false ∧ y.session.id = id
  ends : ∀ y ∈ added, y.session.isLoggedIn = false → ∃ x' ∈ x :: w.past, x'.Ends key y.session.id
  lasts : ∀ y ∈ added, y.session.isLoggedIn = true →
    ∀ z ∈ writes, z.session.isLoggedIn = false → z.session.id ≠ y.session.id

theorem adds (h : Booked key w writes) {st : State σ Manager} {x : Exchange} {added : List Write}
    (hkept : Kept key st.sessions w.now (added ++ writes)) (hx : Adds key w writes x added) :
    Booked key ⟨w.now, st, x :: w.past⟩ (added ++ writes) where
  kept := hkept
  shown := hx.shown.append h.shown
  begun := by
    intro y hy
    rcases List.mem_append.mp hy with hy | hy
    · exact hx.begun y hy
    · obtain ⟨x', hx', hbegins⟩ := h.begun y hy
      exact ⟨x', List.mem_cons_of_mem _ hx', hbegins⟩
  sole := by
    intro a hpast b hpast' id n n' han hbn'
    rcases List.mem_cons.mp hpast with rfl | ha <;> rcases List.mem_cons.mp hpast' with rfl | hb
    · exact han.2.2.unique hbn'.2.2
    · exact absurd hbn' (hx.drawn id n han b hb n')
    · exact absurd han (hx.drawn id n' hbn' a ha n)
    · exact h.sole a ha b hb id n n' han hbn'
  ended := by
    intro id
    constructor
    · rintro ⟨x', hx', hends⟩
      rcases List.mem_cons.mp hx' with rfl | hx'
      · obtain ⟨y, hy, hout⟩ := hx.ended id hends
        exact ⟨y, List.mem_append_left _ hy, hout⟩
      · obtain ⟨y, hy, hout⟩ := (h.ended id).mp ⟨x', hx', hends⟩
        exact ⟨y, List.mem_append_right _ hy, hout⟩
    · rintro ⟨y, hy, hout, rfl⟩
      rcases List.mem_append.mp hy with hy | hy
      · exact hx.ends y hy hout
      · obtain ⟨x', hx', hends⟩ := (h.ended _).mpr ⟨y, hy, hout, rfl⟩
        exact ⟨x', List.mem_cons_of_mem _ hx', hends⟩
  lasts := by
    intro y hy z hz hin hout hid
    -- Whatever is added now is later than all there was.
    rcases List.mem_append.mp hz with hz | hz
    · obtain ⟨x', hx', -, hmoment⟩ := hx.shown.written z hz
      obtain rfl := List.mem_singleton.mp hx'
      rw [hmoment, hx.moment]
      exact (hkept.precedes y hy).uptime
    · rcases List.mem_append.mp hy with hy | hy
      · exact absurd hid (hx.lasts y hy hin z hz hout)
      · exact h.lasts y hy z hz hin hout hid

theorem adds_nothing {x : Exchange} (hmoment : x.moment = w.now)
    (hcookies : ∀ c ∈ x.response.cookies, c.value = []) (hin : ¬LogsIn x.request x.response)
    (hout : ¬LogsOut x.request x.response) : Adds key w writes x [] where
  moment := hmoment
  shown := .of_dropped hcookies
  begun _ hy := absurd hy List.not_mem_nil
  drawn _ _ hbegins := absurd hbegins.1 hin
  ended _ hends := absurd hends.1 hout
  ends _ hy := absurd hy List.not_mem_nil
  lasts _ hy := absurd hy List.not_mem_nil

/-- An exchange whose response carries one session. -/
theorem adds_session {x : Exchange} {m : Manager} {s : Session} (hmoment : x.moment = w.now)
    (hkey : m.key = key) (hcookies : x.response.cookies = [(m.set x.moment x.fresh.nonce s).1])
    (begun : ∃ x' ∈ x :: w.past, x'.Begins s.id s.name)
    (drawn : ∀ id n, x.Begins id n → ∀ x' ∈ w.past, ∀ n', ¬x'.Begins id n')
    (ended : ∀ id, x.Ends key id → s.isLoggedIn = false ∧ s.id = id)
    (ends : s.isLoggedIn = false → ∃ x' ∈ x :: w.past, x'.Ends key s.id)
    (lasts : s.isLoggedIn = true →
      ∀ z ∈ writes, z.session.isLoggedIn = false → z.session.id ≠ s.id) :
    Adds key w writes x [⟨x.moment, x.fresh.nonce, s⟩] where
  moment := hmoment
  shown := .of_set hkey hcookies
  begun := List.forall_mem_singleton.mpr begun
  drawn := drawn
  ended id hends := ⟨_, List.mem_singleton_self _, ended id hends⟩
  ends := List.forall_mem_singleton.mpr ends
  lasts := List.forall_mem_singleton.mpr lasts

/-- What is loaded was begun, and if it is logged out, ended. -/
theorem loaded (h : Booked key w writes) {request : Request} (honest : w.Honest key request)
    {s : Session} (hload : (w.state.sessions.load w.now request.cookies).1 = .ok (some s)) :
    (∃ c p, Carries key request c p ∧ p.session.id = s.id) ∧
      (∃ x ∈ w.past, x.Begins s.id s.name) ∧
      (s.isLoggedIn = false → ∃ x ∈ w.past, x.Ends key s.id) := by
  obtain ⟨y, hy, ⟨c, hc, -⟩, -, ⟨rfl, -⟩ | ⟨rfl, hrevoked⟩⟩ :=
    h.kept.load_ok (h.unforged honest) hload
  · exact ⟨⟨c, y.payload, ⟨_, hc, Payload.parse_print _⟩, rfl⟩, h.begun y hy,
      fun hout => (h.ended _).mpr ⟨y, hy, hout, rfl⟩⟩
  · obtain ⟨z, hz, hout, hid, -⟩ := (h.kept.contains_iff _).mp hrevoked
    exact ⟨⟨c, y.payload, ⟨_, hc, Payload.parse_print _⟩, rfl⟩, h.begun y hy,
      fun _ => (h.ended _).mpr ⟨z, hz, hout, hid⟩⟩

/-- No request carries two payloads. -/
theorem carries_unique {request : Request} {c c' : Cookie} {p p' : Payload}
    (h : Carries key request c p) (h' : Carries key request c' p') : p = p' := by
  obtain ⟨text, hc, hp⟩ := h
  obtain ⟨text', hc', hp'⟩ := h'
  obtain rfl := Option.some.inj (hc.carried.symm.trans hc'.carried)
  exact Except.ok.inj (hp.symm.trans hp')

/-- The age of an honest session does not overflow. -/
theorem load_ne_overflow (h : Booked key w writes) {request : Request}
    (honest : w.Honest key request) :
    (w.state.sessions.load w.now request.cookies).1 ≠ .overflow :=
  h.kept.load_ne_overflow (h.unforged honest)

/-- **Serving a request keeps the books.** -/
theorem serve {v : Service σ Manager} (hv : v.keeper = Manager.keeper) (h : Booked key w writes)
    {request : Request} {fresh : Fresh} {r : Response} (honest : w.Honest key request)
    (hr : (v.serve w.now fresh request w.state).response = some r)
    (drawn : LogsIn request r → ∀ x ∈ w.past, LogsIn x.request x.response →
      x.fresh.id ≠ fresh.id) :
    ∃ writes', Booked key
      ⟨w.now, (v.serve w.now fresh request w.state).state, w.exchange request fresh r :: w.past⟩
      writes' := by
  have hbook : ∀ added, Kept key (v.serve w.now fresh request w.state).state.sessions w.now
        (added ++ writes) → Adds key w writes (w.exchange request fresh r) added →
      ∃ writes', Booked key
        ⟨w.now, (v.serve w.now fresh request w.state).state, w.exchange request fresh r :: w.past⟩
        writes' := fun _ hkept hadds => ⟨_, h.adds hkept hadds⟩
  have hkept : ∀ {result m}, w.state.sessions.load w.now request.cookies = (result, m) →
      Kept key m w.now writes := fun hload => by
    have hkept := h.kept.load request.cookies
    rwa [hload] at hkept
  have hnoLogin : ¬LogsIn request r →
      ∀ id n, (w.exchange request fresh r).Begins id n →
        ∀ x' ∈ w.past, ∀ n', ¬x'.Begins id n' := fun hin _ _ hbegins => absurd hbegins.1 hin
  have hnoLogout : ∀ {p : Uuid → Prop}, ¬LogsOut request r →
      ∀ id, (w.exchange request fresh r).Ends key id → p id :=
    fun hout _ hends => absurd hends.1 hout
  cases Service.serve_serves hv w.now fresh request w.state with
  | preflight r' answered method cookies sessions =>
    obtain rfl := Option.some.inj (hr.symm.trans answered)
    refine hbook [] (sessions ▸ h.kept) (adds_nothing rfl ?_ ?_ ?_)
    · intro c hc
      rw [show (w.exchange request fresh r).response.cookies = [] from cookies] at hc
      cases hc
    · exact fun hin => absurd (method.symm.trans hin.1.1) (by decide)
    · exact fun hout => absurd (method.symm.trans hout.1.1) (by decide)
  | refused r' answered e method load status body cookies =>
    obtain rfl := Option.some.inj (hr.symm.trans answered)
    refine hbook [] (hkept load) (adds_nothing rfl ?_ ?_ ?_)
    · intro c hc
      rw [show (w.exchange request fresh r).response.cookies = _ from cookies,
        List.mem_singleton] at hc
      rw [hc]
      rfl
    · exact fun hin => absurd (status.symm.trans hin.2) (by decide)
    · exact fun hout => absurd (status.symm.trans hout.2.1) (by decide)
  | overflow answered => cases hr.symm.trans answered
  | login r' answered session loaded who load logsIn body cookies sessions =>
    obtain rfl := Option.some.inj (hr.symm.trans answered)
    have hbegins : (w.exchange request fresh r).Begins fresh.id who.name := ⟨logsIn, rfl, body⟩
    have hnew : ∀ x' ∈ w.past, ∀ n', ¬x'.Begins fresh.id n' := fun x' hx' n' hbegins' =>
      drawn logsIn x' hx' hbegins'.1 hbegins'.2.1
    have hroute : ¬LogsOut request r := fun hout => by
      have := logsIn.1.2.symm.trans hout.1.2
      cases this
    refine hbook _ (sessions ▸ (hkept load).set fresh.nonce _)
      (adds_session rfl (hkept load).key_eq cookies ⟨_, List.mem_cons_self, hbegins⟩ ?_
        (hnoLogout hroute) (fun hs => nomatch hs) ?_)
    · rintro id n ⟨-, rfl, -⟩
      exact hnew
    -- The id is a new one, so nothing was written for it.
    · intro _ z hz _ hid
      obtain ⟨x', hx', hbegins'⟩ := h.begun z hz
      rw [hid] at hbegins'
      exact hnew x' hx' _ hbegins'
  | logout r' answered s loaded load active logsOut cookies sessions =>
    obtain rfl := Option.some.inj (hr.symm.trans answered)
    obtain ⟨⟨c, p, hcarries, hid⟩, ⟨x', hx', hbegins⟩, -⟩ :=
      h.loaded honest (congrArg Prod.fst load)
    have hends : (w.exchange request fresh r).Ends key s.id := ⟨logsOut, c, p, hcarries, hid⟩
    have hroute : ¬LogsIn request r := fun hin => by
      have := logsOut.1.2.symm.trans hin.1.2
      cases this
    refine hbook _ (sessions ▸ (hkept load).set fresh.nonce _)
      (adds_session rfl (hkept load).key_eq cookies ⟨x', List.mem_cons_of_mem _ hx', hbegins⟩
        (hnoLogin hroute) ?_ (fun _ => ⟨_, List.mem_cons_self, hends⟩) (fun hs => nomatch hs))
    rintro id ⟨-, c', p', hcarries', rfl⟩
    rw [carries_unique hcarries' hcarries]
    exact ⟨rfl, hid.symm⟩
  | refresh r' answered s loaded method load notIn notOut cookies sessions =>
    obtain rfl := Option.some.inj (hr.symm.trans answered)
    obtain ⟨-, ⟨x', hx', hbegins⟩, hended⟩ := h.loaded honest (congrArg Prod.fst load)
    refine hbook _ (sessions ▸ (hkept load).set fresh.nonce _)
      (adds_session rfl (hkept load).key_eq cookies ⟨x', List.mem_cons_of_mem _ hx', hbegins⟩
        (hnoLogin notIn) (hnoLogout notOut) ?_
        (fun hs => h.not_ended honest hs (congrArg Prod.fst load)))
    -- If the session was loaded as logged out, it has been ended before.
    intro hout
    obtain ⟨x'', hx'', hends⟩ := hended hout
    exact ⟨x'', List.mem_cons_of_mem _ hx'', hends⟩
  | anonymous r' answered method load notIn notOut cookies =>
    obtain rfl := Option.some.inj (hr.symm.trans answered)
    refine hbook [] (hkept load) (adds_nothing rfl ?_ notIn notOut)
    intro c hc
    rw [show (w.exchange request fresh r).response.cookies = [] from cookies] at hc
    cases hc

end Booked

/-- Every run keeps the books. -/
theorem booked_reachable {secrets : Secrets} {secure : Bool} {v : Service σ Manager}
    (hv : v.keeper = Manager.keeper) {w : Run σ} (h : Reachable secrets secure v w) :
    ∃ writes, Booked secrets.key w writes := by
  induction h with
  | init now outside dated =>
    refine ⟨[], Session.kept_ofSecrets secrets secure dated, .nil, ?_, ?_, ?_, ?_⟩
    all_goals simp
  | tail reachable step ih =>
    obtain ⟨writes, hbooked⟩ := ih
    cases step with
    | pass d outside forward dated =>
      exact ⟨writes, { hbooked with kept := hbooked.kept.advance forward dated }⟩
    | serve request fresh r honest answered drawn => exact hbooked.serve hv honest answered drawn

/-- **Every request of a run is answered.** -/
theorem exists_response {secrets : Secrets} {secure : Bool} {v : Service σ Manager}
    (hv : v.keeper = Manager.keeper) {w : Run σ} (hw : Reachable secrets secure v w)
    {request : Request} (honest : w.Honest secrets.key request) (fresh : Fresh) :
    ∃ r, (v.serve w.now fresh request w.state).response = some r := by
  obtain ⟨writes, hbooked⟩ := booked_reachable hv hw
  rw [← Option.isSome_iff_exists, Option.isSome_iff_ne_none]
  by_cases hmethod : request.method = "OPTIONS"
  · obtain ⟨-, ⟨r, hr, -⟩, -⟩ := Service.serve_of_preflight (v := v) w.now fresh w.state hmethod
    rw [hr]
    exact Option.some_ne_none r
  · rw [ne_eq, Service.response_eq_none_iff hv fresh w.state hmethod]
    exact hbooked.load_ne_overflow honest

/-- **The service answers as if it kept a table of sessions.** At any point of any run, a request
is answered; one for who is logged in is answered with a name exactly when it speaks for a listed
session of that name, and a logout is answered as one exactly when it speaks for a
listed session. -/
theorem answers_as_table {secrets : Secrets} {secure : Bool} {v : Service σ Manager}
    (hv : v.keeper = Manager.keeper) {w : Run σ} (hw : Reachable secrets secure v w)
    {request : Request} (honest : w.Honest secrets.key request) (fresh : Fresh) :
    ∃ r, (v.serve w.now fresh request w.state).response = some r ∧
      (request.method = "GET" → Route.ofPath? request.path = some .whoAmI → ∀ n,
        (r.status = 200 ∧ Json.parseObject r.body = .ok [("name", .string n)] ↔
          ∃ id, w.Speaks secrets.key request id n)) ∧
      (request.method = "POST" → Route.ofPath? request.path = some .logout →
        (r.status = 200 ∧ r.body = Utf8.encode "logged out" ↔
          ∃ id n, w.Speaks secrets.key request id n)) := by
  obtain ⟨writes, hbooked⟩ := booked_reachable hv hw
  obtain ⟨r, hr⟩ := exists_response hv hw honest fresh
  refine ⟨r, hr, ?_, ?_⟩
  · intro hmethod hroute n
    have hspeaks : (∃ s, (w.state.sessions.load w.now request.cookies).1 = .ok (some s) ∧
        s.isLoggedIn = true ∧ s.name = n) ↔ ∃ id, w.Speaks secrets.key request id n := by
      simp only [← hbooked.loads_iff_speaks honest]
      constructor
      · rintro ⟨s, hload, hs, hn⟩
        exact ⟨s.id, s, hload, hs, rfl, hn⟩
      · rintro ⟨id, s, hload, hs, -, hn⟩
        exact ⟨s, hload, hs, hn⟩
    rw [← hspeaks]
    cases hload : (w.state.sessions.load w.now request.cookies).1 with
    | error e =>
      obtain ⟨r', hr', hrefused, -⟩ := Service.serve_of_error hv fresh w.state
        (by rw [hmethod]; decide) hload
      obtain rfl := Option.some.inj (hr.symm.trans hr')
      constructor
      · rintro ⟨hok, -⟩
        exact absurd (hrefused.symm.trans hok) (by decide)
      · rintro ⟨s, hs, -⟩
        cases hs
    | overflow => exact absurd hload (hbooked.load_ne_overflow honest)
    | ok session =>
      obtain ⟨r', hr', hstatus, hbody⟩ :=
        Service.serve_whoAmI hv fresh w.state hmethod hroute hload
      obtain rfl := Option.some.inj (hr.symm.trans hr')
      rw [hstatus, hbody]
      refine (Service.whoAmIResponse_names_iff session n).trans ?_
      simp
  · intro hmethod hroute
    have hout := Service.logsOut_iff hv w.now fresh w.state ⟨hmethod, hroute⟩
    constructor
    · rintro ⟨hstatus, hbody⟩
      obtain ⟨s, hload, hs⟩ := hout.mp ⟨r, hr, ⟨hmethod, hroute⟩, hstatus, hbody⟩
      exact ⟨s.id, s.name, (hbooked.loads_iff_speaks honest _ _).mp ⟨s, hload, hs, rfl, rfl⟩⟩
    · rintro ⟨id, n, hspeaks⟩
      obtain ⟨s, hload, hs, -, -⟩ := (hbooked.loads_iff_speaks honest id n).mpr hspeaks
      obtain ⟨r', hr', hends⟩ := hout.mpr ⟨s, hload, hs⟩
      obtain rfl := Option.some.inj (hr.symm.trans hr')
      exact hends.2

/-- A login in the middle of a second, and a request at the end of the last one in which its cookie
is accepted. -/
theorem answers_as_table_at_maxAge :
    ∃ (w : Run Unit) (request : Request) (fresh : Fresh) (r : Response),
      Reachable Secrets.sample true Service.lenient w ∧ w.Honest Secrets.sample.key request ∧
      w.now = ⟨900999, 900499⟩ ∧ request.method = "GET" ∧
      Route.ofPath? request.path = some .whoAmI ∧
      (Service.lenient.serve w.now fresh request w.state).response = some r ∧ r.status = 200 ∧
      Json.parseObject r.body = .ok [("name", .string "Ann")] := by
  let m : Manager := .ofSecrets Secrets.sample true
  let fresh : Fresh := ⟨.zero, .replicate 12 0⟩
  let start : Run Unit := ⟨⟨500, 0⟩, ⟨(), m⟩, []⟩
  let s : Session := .loggedIn 7 "Ann" .zero
  let c : CookieChange := m.cookie fresh.nonce ⟨s, start.now.second⟩
  let request : Request := ⟨"GET", "/whoami", [c.pair], []⟩
  have hstart : Reachable Secrets.sample true Service.lenient start :=
    .init _ _ (by constructor <;> decide +kernel)
  have hload : start.state.sessions.load start.now Service.loginRequest.cookies
    = (.ok none, m) := rfl
  obtain ⟨r, hr, hstatus, hnames, hcookies⟩ :=
    Service.serve_signIn (v := Service.lenient) rfl fresh
    start.state Service.loginRequest_posts (by decide +kernel) hload Service.lenient_identify
  have hlogin : (start.exchange Service.loginRequest fresh r).Begins .zero "Ann" :=
    ⟨⟨Service.loginRequest_posts, hstatus⟩, rfl, hnames⟩
  have hemits : (start.exchange Service.loginRequest fresh r).Emits c.value :=
    ⟨c, by rw [exchange, hcookies]; exact List.mem_singleton_self _, rfl, rfl⟩
  have hserved := hstart.tail (.serve start Service.loginRequest fresh r
    (fun c hc => absurd hc List.not_mem_nil) hr (fun _ x hx => absurd hx List.not_mem_nil))
  -- Said of the two moments alone: nothing can be computed from an answer that is only known to
  -- exist.
  have hadvanced : (Moment.mk 500 0).advance 900499 900499 = ⟨900999, 900499⟩ := by decide +kernel
  have hdated : ((Moment.mk 500 0).advance 900499 900499).IsDated := by
    constructor <;> decide +kernel
  have hage : ((Moment.mk 500 0).advance 900499 900499).wallSecond - (Moment.mk 500 0).wallSecond
      ≤ Session.maxAge := by
    decide +kernel
  have hlater := hserved.tail (.pass _ 900499 () (by decide +kernel) hdated)
  have honest : ∀ c' ∈ Manager.candidates request.cookies,
      (Cookie.open? Secrets.sample.key c').isSome →
      ∃ x ∈ [start.exchange Service.loginRequest fresh r], x.Emits c'.value := by
    intro c' hc' _
    rw [show Manager.candidates request.cookies = _ from Manager.candidates_cookie m _ _,
      List.mem_singleton] at hc'
    exact ⟨_, List.mem_singleton_self _, hc' ▸ hemits⟩
  have hcarries : Carries Secrets.sample.key request ⟨Session.cookieName, c.value⟩
      ⟨s, start.now.second⟩ :=
    ⟨_, Manager.decides_cookie m _ _, Payload.parse_print _⟩
  obtain ⟨r', hr', hwho, -⟩ := answers_as_table rfl hlater honest fresh
  refine ⟨_, request, fresh, r', hlater, honest, hadvanced, rfl, by decide, hr', ?_⟩
  refine (hwho rfl (by decide) "Ann").mpr ⟨.zero, ?_, ?_⟩
  · exact ⟨_, _, hcarries, rfl, rfl, _, List.mem_singleton_self _, hemits, hage⟩
  · refine ⟨⟨_, List.mem_singleton_self _, hlogin⟩, ?_⟩
    rintro ⟨x, hx, hends, -⟩
    obtain rfl := List.mem_singleton.mp hx
    have hroute := hends.1.2.symm.trans hlogin.1.1.2
    cases hroute

end Run

end SignIn.Http
