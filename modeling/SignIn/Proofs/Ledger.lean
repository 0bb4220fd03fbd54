import Mathlib.Algebra.Order.Floor.Ring
import Mathlib.Data.Rat.Floor
import SignIn.Proofs.Loading
import SignIn.Proofs.Revocation

/-!
# The ledger of written sessions

A manager keeps no table of sessions, but everything it does can be told from a ledger of what was
written so far: each session with the moment of the writing. The ledger is not part of the program.
`Kept` says that a manager is where its ledger puts it, and every operation keeps that. What is
loaded at some moment is then a matter of the ledger alone: whose cookie decides, how many seconds
ago it was written, and whether its session was written as logged out within the window. From
outside, the ledger can only be told from the cookies that were set: `Shown` says that they show
all of it.

Two clocks meet here. The age of a cookie is taken in whole seconds of the wall clock, the age of a
revocation on the uptime, fractions included. `Precedes.age_lt` is the bridge: a cookie that is not
older than `maxAge` was written less than a window ago.
-/

namespace SignIn

/-! ## Moments of one run -/

namespace Moment

/-- A date of the years that the wall clock can tell, which are those from −9999 to 9999. -/
def IsDated (t : Moment) : Prop := -377705116800 ≤ t.wallSecond ∧ t.wallSecond ≤ 253402300799

theorem IsDated.toInt_second {t : Moment} (h : t.IsDated) : t.second.toInt = t.wallSecond := by
  obtain ⟨hlo, hhi⟩ := h
  rw [Moment.toInt_second]
  omega

/-- Both clocks have moved on by the same amount. -/
structure Precedes (t now : Moment) : Prop where
  uptime : t.uptime ≤ now.uptime
  wall : now.wall - t.wall = now.uptime - t.uptime

namespace Precedes

theorem refl (t : Moment) : Precedes t t := ⟨le_rfl, by rw [sub_self, sub_self]⟩

theorem advance {t now : Moment} (h : Precedes t now) {d : Rat} (hd : 0 ≤ d) :
    Precedes t (now.advance d d) := by
  have hup := h.uptime
  have hwall := h.wall
  constructor
  · show t.uptime ≤ now.uptime + d
    linarith
  · show now.wall + d - t.wall = now.uptime + d - t.uptime
    linarith

variable {t now : Moment}

theorem wallSecond_le (h : Precedes t now) : t.wallSecond ≤ now.wallSecond := by
  have hup := h.uptime
  have hwall := h.wall
  exact Int.floor_le_floor (show t.wall / 1000 ≤ now.wall / 1000 by linarith)

/-- A second on the wall clock ends less than a second after it began. -/
theorem age_lt (h : Precedes t now) {n : Nat} (hage : now.wallSecond - t.wallSecond ≤ n) :
    now.uptime - t.uptime < ((n + 1) * 1000 : Nat) := by
  have hwall := h.wall
  have hnow : now.wall / 1000 < now.wallSecond + 1 := Int.lt_floor_add_one _
  have hthen : (t.wallSecond : Rat) ≤ t.wall / 1000 := Int.floor_le _
  have hcast : (now.wallSecond : Rat) - t.wallSecond ≤ n := by exact_mod_cast hage
  push_cast
  linarith

end Precedes

end Moment

namespace Session

/-! ## Writing -/

/-- A session that was written into a cookie. -/
structure Write where
  moment : Moment
  nonce : Nonce
  session : Session
  deriving DecidableEq, Repr

namespace Write

/-- What was sealed. -/
def payload (x : Write) : Payload := ⟨x.session, x.moment.second⟩

/-- The value of the cookie. -/
def value (key : Gcm.Key) (x : Write) : Bytes :=
  Cookie.sealed key x.nonce cookieName x.payload.print

theorem open?_value (key : Gcm.Key) (x : Write) :
    Cookie.open? key ⟨cookieName, x.value key⟩ = some x.payload.print :=
  Cookie.open?_sealed key x.nonce cookieName x.payload.isText_print

variable {key : Gcm.Key} {c : Cookie} {text : Bytes}

theorem print_of_open (x : Write) (hname : c.name = cookieName) (hvalue : c.value = x.value key)
    (hopen : Cookie.open? key c = some text) : text = x.payload.print := by
  obtain ⟨name, value⟩ := c
  dsimp only at hname hvalue
  subst hname hvalue
  rw [x.open?_value] at hopen
  exact (Option.some.inj hopen).symm

theorem payload_of_open (x : Write) {p : Payload} (hname : c.name = cookieName)
    (hvalue : c.value = x.value key) (hopen : Cookie.open? key c = some text)
    (hparse : Payload.parse text = .ok p) : p = x.payload := by
  rw [x.print_of_open hname hvalue hopen, Payload.parse_print] at hparse
  exact (Except.ok.inj hparse).symm

end Write

/-- The uptimes at which an id was written as logged out. -/
def endings (writes : List Write) : Revocations.Log := fun id t =>
  ∃ x ∈ writes, x.session.isLoggedIn = false ∧ x.session.id = id ∧ x.moment.uptime = t

/-- A manager is where its ledger puts it, which has the latest writing first. -/
structure Kept (key : Gcm.Key) (m : Manager) (now : Moment) (writes : List Write) : Prop where
  key_eq : m.key = key
  window_eq : m.revocations.window = Manager.revocationWindow
  /-- The revocations are the sessions that were written as logged out. -/
  records : m.revocations.Records (endings writes) now.uptime
  now_dated : now.IsDated
  dated : ∀ x ∈ writes, x.moment.IsDated
  precedes : ∀ x ∈ writes, x.moment.Precedes now

/-- Every cookie for the session that opens was written. -/
def Unforged (key : Gcm.Key) (writes : List Write) (headers : List Bytes) : Prop :=
  ∀ c ∈ Manager.candidates headers, (Cookie.open? key c).isSome →
    ∃ x ∈ writes, c.value = x.value key

theorem kept_ofSecrets (secrets : Secrets) (secure : Bool) {now : Moment} (h : now.IsDated) :
    Kept secrets.key (.ofSecrets secrets secure) now [] where
  key_eq := rfl
  window_eq := rfl
  records := by
    have hnone : endings [] = fun _ _ => False := by
      funext id t
      simp [endings]
    rw [hnone]
    exact Revocations.records_empty _ _
  now_dated := h
  dated _ hx := absurd hx List.not_mem_nil
  precedes _ hx := absurd hx List.not_mem_nil

namespace Kept

variable {key : Gcm.Key} {m : Manager} {now : Moment} {writes : List Write} {headers : List Bytes}

/-! ## What every operation keeps -/

theorem advance (h : Kept key m now writes) {d : Rat} (hd : 0 ≤ d)
    (hdated : (now.advance d d).IsDated) : Kept key m (now.advance d d) writes where
  key_eq := h.key_eq
  window_eq := h.window_eq
  records := h.records.later (show now.uptime ≤ now.uptime + d by linarith)
  now_dated := hdated
  dated := h.dated
  precedes x hx := (h.precedes x hx).advance hd

theorem downgrade (h : Kept key m now writes) (s : Session) :
    Kept key (m.downgrade now s).2 now writes := by
  rw [Manager.downgrade]
  split
  · exact { h with records := h.records.contains s.id }
  · exact h

/-- Loading adds nothing to the ledger. -/
theorem load (h : Kept key m now writes) (headers : List Bytes) :
    Kept key (m.load now headers).2 now writes := by
  rw [Manager.load]
  split
  · exact h
  · exact h
  · exact h
  · exact h.downgrade _

theorem endings_cons (x : Write) (writes : List Write) :
    endings (x :: writes) = if x.session.isLoggedIn then endings writes
      else (endings writes).with x.session.id x.moment.uptime := by
  funext id t
  by_cases hx : x.session.isLoggedIn = true
  · rw [if_pos hx]
    simp [endings, hx]
  · rw [if_neg hx]
    rw [Bool.not_eq_true] at hx
    simp only [endings, Revocations.Log.with, List.exists_mem_cons_iff, hx, true_and, eq_iff_iff]
    rw [or_comm, eq_comm (a := id), eq_comm (a := t)]

/-- Setting adds one writing. -/
theorem set (h : Kept key m now writes) (nonce : Nonce) (s : Session) :
    Kept key (m.set now nonce s).2 now (⟨now, nonce, s⟩ :: writes) := by
  have hpast : ∀ x ∈ (⟨now, nonce, s⟩ : Write) :: writes, x.moment.IsDated ∧
      x.moment.Precedes now := by
    intro x hx
    rcases List.mem_cons.mp hx with rfl | hx
    · exact ⟨h.now_dated, .refl now⟩
    · exact ⟨h.dated x hx, h.precedes x hx⟩
  have hkept : ∀ m' : Manager, m'.key = m.key → m'.revocations.window = m.revocations.window →
      m'.revocations.Records (endings (⟨now, nonce, s⟩ :: writes)) now.uptime →
      Kept key m' now (⟨now, nonce, s⟩ :: writes) := fun m' hkey hwindow hrecords =>
    ⟨hkey.trans h.key_eq, hwindow.trans h.window_eq, hrecords, h.now_dated,
      fun x hx => (hpast x hx).1, fun x hx => (hpast x hx).2⟩
  rw [Manager.set]
  dsimp only
  -- Only a session that is logged out goes into the list as well.
  split
  · rename_i hs
    refine hkept m rfl rfl ?_
    rw [endings_cons, if_pos hs]
    exact h.records
  · rename_i hs
    refine hkept _ rfl rfl ?_
    rw [endings_cons, if_neg hs]
    exact h.records.revoke s.id

/-! ## What is loaded -/

/-- An id is revoked when it was written as logged out within the window. -/
theorem contains_iff (h : Kept key m now writes) (id : Uuid) :
    (m.revocations.contains id now.uptime).1 = true ↔
      ∃ y ∈ writes, y.session.isLoggedIn = false ∧ y.session.id = id ∧
        now.uptime - y.moment.uptime < Manager.revocationWindow := by
  rw [h.records.contains_iff, h.window_eq]
  constructor
  · rintro ⟨t, ⟨y, hy, hout, hid, rfl⟩, hage⟩
    exact ⟨y, hy, hout, hid, hage⟩
  · rintro ⟨y, hy, hout, hid, hage⟩
    exact ⟨_, ⟨y, hy, hout, hid, rfl⟩, hage⟩

theorem age?_eq (h : Kept key m now writes) {x : Write} (hx : x ∈ writes) :
    age? x.moment.second now.second = some (now.wallSecond - x.moment.wallSecond) := by
  -- Neither second is out of the years that the clock can tell, so the age fits into 64 bits.
  have hle := (h.precedes x hx).wallSecond_le
  obtain ⟨hlo, -⟩ := h.dated x hx
  obtain ⟨-, hhi⟩ := h.now_dated
  rw [age?_eq_some_iff, h.now_dated.toInt_second, (h.dated x hx).toInt_second]
  omega

/-- A cookie that is young enough to be accepted was written less than a window ago. -/
theorem age_lt_window (h : Kept key m now writes) {x : Write} (hx : x ∈ writes)
    (hage : now.wallSecond - x.moment.wallSecond ≤ maxAge) :
    now.uptime - x.moment.uptime < Manager.revocationWindow :=
  (h.precedes x hx).age_lt hage

/-- The text that is carried was written, if nothing was forged. -/
theorem exists_write (hun : Unforged key writes headers) {c : Cookie} {text : Bytes}
    (hc : Manager.Decides key headers c text) :
    ∃ x ∈ writes, c.value = x.value key ∧ text = x.payload.print := by
  obtain ⟨x, hx, hvalue⟩ := hun c hc.mem_candidates (by rw [hc.1]; rfl)
  exact ⟨x, hx, hvalue, x.print_of_open hc.name_eq hvalue hc.1⟩

/-- A cookie that was written is loaded if it is not too old. -/
theorem load_fst (h : Kept key m now writes) {x : Write} (hx : x ∈ writes)
    (hcarried : Manager.carried? key headers = some x.payload.print) :
    (m.load now headers).1 = if maxAge < now.wallSecond - x.moment.wallSecond then .error .expired
      else .ok (some (m.downgrade now x.session).1) := by
  have hage : age? x.payload.issuedAt now.second
      = some (now.wallSecond - x.moment.wallSecond) := h.age?_eq hx
  rw [← h.key_eq] at hcarried
  by_cases hold : maxAge < now.wallSecond - x.moment.wallSecond
  · rw [if_pos hold, Manager.load_of_old hcarried x.payload.parse_print hage hold]
  · rw [if_neg hold,
      Manager.load_of_young hcarried x.payload.parse_print hage (not_lt.mp hold)]
    rfl

/-- Loading does not break off, if nothing was forged: what was written is not too far away. -/
theorem load_ne_overflow (h : Kept key m now writes) (hun : Unforged key writes headers) :
    (m.load now headers).1 ≠ .overflow := by
  intro hload
  cases Manager.load_loads m now headers with
  | absent missing load => rw [load] at hload; cases hload
  | undecryptable present carried load => rw [load] at hload; cases hload
  | refused text e carried verdict load => rw [load] at hload; cases hload
  | accepted text s carried verdict load => rw [load] at hload; cases hload
  | overflow text carried verdict load =>
    rw [h.key_eq] at carried
    obtain ⟨c, hc⟩ := Manager.decides_of_carried carried
    obtain ⟨x, hx, -, rfl⟩ := exists_write hun hc
    rw [h.load_fst hx carried] at hload
    split at hload
    · cases hload
    · cases hload

/-- Whatever session is loaded was written at most `maxAge` seconds ago, if nothing was forged. It
has been logged out on the way only if its id was. -/
theorem load_ok (h : Kept key m now writes) (hun : Unforged key writes headers) {s : Session}
    (hload : (m.load now headers).1 = .ok (some s)) :
    ∃ x ∈ writes, (∃ c, Manager.Decides key headers c x.payload.print ∧ c.value = x.value key) ∧
      now.wallSecond - x.moment.wallSecond ≤ maxAge ∧
      (s = x.session ∧
          (s.isLoggedIn = true → (m.revocations.contains s.id now.uptime).1 = false) ∨
        s = x.session.loggedOut ∧ (m.revocations.contains s.id now.uptime).1 = true) := by
  obtain ⟨text, htext⟩ := Manager.carried_of_load hload
  rw [h.key_eq] at htext
  obtain ⟨c, hc⟩ := Manager.decides_of_carried htext
  obtain ⟨x, hx, hvalue, rfl⟩ := exists_write hun hc
  rw [h.load_fst hx hc.carried] at hload
  by_cases hage : maxAge < now.wallSecond - x.moment.wallSecond
  · rw [if_pos hage] at hload
    cases hload
  · rw [if_neg hage] at hload
    have hs : (m.downgrade now x.session).1 = s := Option.some.inj (Session.Attempt.ok.inj hload)
    refine ⟨x, hx, ⟨c, hc, hvalue⟩, by omega, ?_⟩
    rcases m.downgrade_cases now x.session with ⟨hd, hlive⟩ | ⟨hd, -, hrevoked⟩
    · obtain rfl := hd.symm.trans hs
      exact .inl ⟨rfl, hlive⟩
    · obtain rfl := hd.symm.trans hs
      exact .inr ⟨rfl, hrevoked⟩

/-- **When a session is loaded as logged in**: the cookie that decides was written with it, at most
`maxAge` seconds ago, and its id was not written as logged out within the window. -/
theorem loads_iff (h : Kept key m now writes) (hun : Unforged key writes headers) {s : Session}
    (hs : s.isLoggedIn = true) :
    (m.load now headers).1 = .ok (some s) ↔
      (∃ x ∈ writes, (∃ c, Manager.Decides key headers c x.payload.print ∧ c.value = x.value key) ∧
        x.session = s ∧ now.wallSecond - x.moment.wallSecond ≤ maxAge) ∧
      ∀ y ∈ writes, y.session.isLoggedIn = false → y.session.id = s.id →
        Manager.revocationWindow ≤ now.uptime - y.moment.uptime := by
  have hlive : (m.revocations.contains s.id now.uptime).1 = false ↔
      ∀ y ∈ writes, y.session.isLoggedIn = false → y.session.id = s.id →
        Manager.revocationWindow ≤ now.uptime - y.moment.uptime := by
    rw [← Bool.not_eq_true, h.contains_iff]
    push Not
    rfl
  rw [← hlive]
  constructor
  · intro hload
    obtain ⟨x, hx, hc, hage, ⟨rfl, hkept⟩ | ⟨rfl, -⟩⟩ := h.load_ok hun hload
    · exact ⟨⟨x, hx, hc, rfl, hage⟩, hkept hs⟩
    · cases hs
  · rintro ⟨⟨x, hx, ⟨c, hc, -⟩, rfl, hage⟩, hkept⟩
    rw [h.load_fst hx hc.carried, if_neg (by omega)]
    rcases m.downgrade_cases now x.session with ⟨hd, -⟩ | ⟨-, -, hrevoked⟩
    · rw [hd]
    · rw [hkept] at hrevoked
      cases hrevoked

end Kept

/-! ## What responses show of the ledger -/

/-- Some cookies set the session's cookie to a value. -/
def Sets (cookies : List CookieChange) (value : Bytes) : Prop :=
  ∃ c ∈ cookies, c.name = cookieName ∧ c.value = value

/-- The past of a service shows its ledger: of each thing that was done it is known when, and which
cookies were set by it. -/
structure Shown {ε : Type} (key : Gcm.Key) (moment : ε → Moment) (cookies : ε → List CookieChange)
    (past : List ε) (writes : List Write) : Prop where
  /-- A cookie that was set was dropped or written. -/
  emitted : ∀ x ∈ past, ∀ c ∈ cookies x,
    c.value = [] ∨ ∃ y ∈ writes, c.value = y.value key ∧ y.moment = moment x
  /-- Whatever was written was set as a cookie. -/
  written : ∀ y ∈ writes, ∃ x ∈ past, Sets (cookies x) (y.value key) ∧ y.moment = moment x

namespace Shown

variable {ε : Type} {key : Gcm.Key} {moment : ε → Moment} {cookies : ε → List CookieChange}
  {past : List ε} {writes : List Write} {x : ε} {headers : List Bytes}

theorem nil : Shown key moment cookies [] [] where
  emitted _ hx := absurd hx List.not_mem_nil
  written _ hy := absurd hy List.not_mem_nil

theorem append {past' : List ε} {writes' : List Write} (h : Shown key moment cookies past writes)
    (h' : Shown key moment cookies past' writes') :
    Shown key moment cookies (past ++ past') (writes ++ writes') where
  emitted := by
    intro x hx c hc
    rcases List.mem_append.mp hx with hx | hx
    · rcases h.emitted x hx c hc with hnil | ⟨y, hy, hvalue⟩
      · exact .inl hnil
      · exact .inr ⟨y, List.mem_append_left _ hy, hvalue⟩
    · rcases h'.emitted x hx c hc with hnil | ⟨y, hy, hvalue⟩
      · exact .inl hnil
      · exact .inr ⟨y, List.mem_append_right _ hy, hvalue⟩
  written := by
    intro y hy
    rcases List.mem_append.mp hy with hy | hy
    · obtain ⟨x, hx, hsets⟩ := h.written y hy
      exact ⟨x, List.mem_append_left _ hx, hsets⟩
    · obtain ⟨x, hx, hsets⟩ := h'.written y hy
      exact ⟨x, List.mem_append_right _ hx, hsets⟩

theorem of_dropped (h : ∀ c ∈ cookies x, c.value = []) : Shown key moment cookies [x] [] where
  emitted := by
    intro x' hx' c hc
    obtain rfl := List.mem_singleton.mp hx'
    exact .inl (h c hc)
  written _ hy := absurd hy List.not_mem_nil

theorem of_set {m : Manager} {nonce : Nonce} {s : Session} (hkey : m.key = key)
    (h : cookies x = [(m.set (moment x) nonce s).1]) :
    Shown key moment cookies [x] [⟨moment x, nonce, s⟩] := by
  have hvalue : (m.set (moment x) nonce s).1.value = (Write.mk (moment x) nonce s).value key := by
    rw [← hkey]; rfl
  constructor
  · intro x' hx' c hc
    obtain rfl := List.mem_singleton.mp hx'
    rw [h, List.mem_singleton] at hc
    exact .inr ⟨_, List.mem_singleton_self _, hc ▸ hvalue, rfl⟩
  · intro y hy
    obtain rfl := List.mem_singleton.mp hy
    refine ⟨x, List.mem_singleton_self _, ⟨(m.set (moment x) nonce s).1, ?_, rfl, hvalue⟩, rfl⟩
    rw [h]
    exact List.mem_singleton_self _

/-- A cookie that was set and opens was written. -/
theorem exists_write (h : Shown key moment cookies past writes) (hx : x ∈ past) {c : Cookie}
    (hsets : Sets (cookies x) c.value) (hopen : (Cookie.open? key c).isSome) :
    ∃ y ∈ writes, c.value = y.value key ∧ y.moment = moment x := by
  obtain ⟨c', hc', -, hvalue⟩ := hsets
  rcases h.emitted x hx c' hc' with hnil | ⟨y, hy, hsealed, hmoment⟩
  · rw [Cookie.open?_of_nil (hvalue.symm.trans hnil)] at hopen
    cases hopen
  · exact ⟨y, hy, hvalue.symm.trans hsealed, hmoment⟩

theorem unforged (h : Shown key moment cookies past writes)
    (honest : ∀ c ∈ Manager.candidates headers, (Cookie.open? key c).isSome →
      ∃ x ∈ past, Sets (cookies x) c.value) : Unforged key writes headers := by
  intro c hc hopen
  obtain ⟨x, hx, hsets⟩ := honest c hc hopen
  obtain ⟨y, hy, hvalue, -⟩ := h.exists_write hx hsets hopen
  exact ⟨y, hy, hvalue⟩

/-- Whether the cookie that decides was written lately is seen from the past. -/
theorem young_iff (h : Shown key moment cookies past writes) {now : Moment} {s : Session} :
    (∃ y ∈ writes, (∃ c, Manager.Decides key headers c y.payload.print ∧ c.value = y.value key) ∧
        y.session = s ∧ now.wallSecond - y.moment.wallSecond ≤ maxAge) ↔
      ∃ c text p, Manager.Decides key headers c text ∧ Payload.parse text = .ok p ∧ p.session = s ∧
        ∃ x ∈ past, Sets (cookies x) c.value ∧
          now.wallSecond - (moment x).wallSecond ≤ maxAge := by
  constructor
  · rintro ⟨y, hy, ⟨c, hc, hvalue⟩, rfl, hage⟩
    obtain ⟨x, hx, hsets, hmoment⟩ := h.written y hy
    rw [← hvalue] at hsets
    rw [hmoment] at hage
    exact ⟨c, _, y.payload, hc, Payload.parse_print _, rfl, x, hx, hsets, hage⟩
  · rintro ⟨c, text, p, hc, hparse, rfl, x, hx, hsets, hage⟩
    obtain ⟨y, hy, hvalue, hmoment⟩ := h.exists_write hx hsets (by rw [hc.1]; rfl)
    rw [← hmoment] at hage
    rw [y.payload_of_open hc.name_eq hvalue hc.1 hparse]
    rw [y.print_of_open hc.name_eq hvalue hc.1] at hc
    exact ⟨y, hy, ⟨c, hc, hvalue⟩, rfl, hage⟩

end Shown

end Session

end SignIn
