import SignIn.Proofs.LoginOrder
import SignIn.Proofs.Rejection

/-!
# What a request leaves alone

There are two things that a request may change, and one way for it to change either. A login that
is granted may add the user that it leads to. And the session that was loaded is revoked when it is
written as logged out, by a logout or because it was loaded like that. What is already in the list
of revocations can only grow older, so an id that is found there was either put there by the
request or could be found before.
-/

namespace SignIn

/-! ## Lists that grow -/

namespace Revocations

theorem age_mono {before after : Rat} (h : before ≤ after) (t : Rat) :
    age before t ≤ age after t := by
  rw [age, age]
  split
  · rw [if_pos (by linarith)]
    linarith
  · split
    · linarith
    · exact le_rfl

/-- An entry that is kept was kept at any earlier time. -/
theorem isLive_of_le {window before after t : Rat} (h : before ≤ after)
    (hlive : isLive window after t = true) : isLive window before t = true := by
  rw [isLive, decide_eq_true_iff] at hlive ⊢
  exact (age_mono h t).trans_lt hlive

/-- A list has come of another: its entries are the other's, except for ids that were gained. -/
structure GrownBy (gained : Uuid → Prop) (r r' : Revocations) : Prop where
  window : r'.window = r.window
  entries : ∀ e ∈ r'.entries, e ∈ r.entries ∨ gained e.1

namespace GrownBy

variable {gained : Uuid → Prop} {r r' r'' : Revocations}

theorem refl (gained : Uuid → Prop) (r : Revocations) : GrownBy gained r r where
  window := rfl
  entries _ he := .inl he

theorem trans (h : GrownBy gained r r') (h' : GrownBy gained r' r'') : GrownBy gained r r'' where
  window := h'.window.trans h.window
  entries e he := (h'.entries e he).elim (h.entries e) .inr

theorem prune (gained : Uuid → Prop) (r : Revocations) (now : Rat) :
    GrownBy gained r (r.prune now) where
  window := rfl
  entries _ he := .inl (mem_prune.mp he).1

theorem revoke {id : Uuid} (r : Revocations) (now : Rat) (h : gained id) :
    GrownBy gained r (r.revoke id now) where
  window := rfl
  entries e he := by
    rcases mem_revoke.mp he with rfl | ⟨hmem, -⟩
    · exact .inr h
    · exact .inl (mem_prune.mp hmem).1

/-- **What is found in a list that has grown was gained, or could be found before.** -/
theorem contains (h : GrownBy gained r r') {id : Uuid} {before after : Rat} (hle : before ≤ after)
    (hheld : (r'.contains id after).1 = true) : (r.contains id before).1 = true ∨ gained id := by
  obtain ⟨e, hmem, rfl, hlive⟩ := contains_eq_true_iff.mp hheld
  rw [h.window] at hlive
  rcases h.entries e hmem with hold | hgained
  · exact .inl (contains_eq_true_iff.mpr ⟨e, hold, rfl, isLive_of_le hle hlive⟩)
  · exact .inr hgained

end GrownBy

end Revocations

namespace Session.Manager

open Revocations (GrownBy)

variable {gained : Uuid → Prop}

/-- Loading a session revokes nothing. -/
theorem grownBy_load (m : Manager) (now : Moment) (headers : List Bytes) :
    GrownBy gained m.revocations (m.load now headers).2.revocations := by
  cases load_loads m now headers with
  | absent missing load => rw [load]; exact .refl _ _
  | undecryptable present carried load => rw [load]; exact .refl _ _
  | refused text e carried verdict load => rw [load]; exact .refl _ _
  | overflow text carried verdict load => rw [load]; exact .refl _ _
  | accepted text s carried verdict load =>
    rw [load, downgrade]
    split
    · exact .prune _ _ _
    · exact .refl _ _

/-- Writing a session revokes it if it is logged out, and nothing else. -/
theorem grownBy_set (m : Manager) (now : Moment) (nonce : Nonce) {s : Session}
    (h : s.isLoggedIn = false → gained s.id) :
    GrownBy gained m.revocations (m.set now nonce s).2.revocations := by
  by_cases hs : s.isLoggedIn = true
  · rw [set_snd_of_loggedIn m now nonce hs]
    exact .refl _ _
  · have hrevoke : (m.set now nonce s).2.revocations = m.revocations.revoke s.id now.uptime := by
      rw [set, if_neg hs]
    rw [hrevoke]
    exact .revoke _ _ (h (Bool.eq_false_iff.mpr hs))

end Session.Manager

namespace Http.Service

open Session (Manager Fresh)
open Revocations (GrownBy)

variable {σ : Type} {v : Service σ Manager}

/-! ## What is revoked -/

/-- A request revokes a session: it was loaded for the request, which is a logout unless the
session was logged out before. -/
def Revokes (now : Moment) (request : Request) (m : Manager) (id : Uuid) : Prop :=
  ∃ s, (m.load now request.cookies).1 = .ok (some s) ∧ s.id = id ∧
    (request.Posts .logout ∨ s.isLoggedIn = false)

/-- **A request revokes at most the session that was loaded for it.** -/
theorem serve_grownBy (hv : v.keeper = Manager.keeper) (now : Moment) (fresh : Fresh)
    (request : Request) (st : State σ Manager) :
    GrownBy (Revokes now request st.sessions) st.sessions.revocations
      (v.serve now fresh request st).state.sessions.revocations := by
  have hloads : ∀ {result m}, st.sessions.load now request.cookies = (result, m) →
      GrownBy (Revokes now request st.sessions) st.sessions.revocations m.revocations := by
    intro result m hload
    have hgrown : GrownBy (Revokes now request st.sessions) st.sessions.revocations
        (st.sessions.load now request.cookies).2.revocations := Manager.grownBy_load _ _ _
    rwa [hload] at hgrown
  -- After loading, at most one session is written: a new one, or the one that was loaded.
  cases serve_serves hv now fresh request st with
  | preflight r answered method cookies sessions => rw [sessions]; exact .refl _ _
  | refused r answered e method load => exact hloads load
  | overflow answered method load => exact hloads load
  | login r answered session loaded who load logsIn body cookies sessions =>
    rw [sessions]
    exact (hloads load).trans (Manager.grownBy_set _ now _ fun hs => by cases hs)
  | logout r answered s loaded load active logsOut cookies sessions =>
    rw [sessions]
    exact (hloads load).trans (Manager.grownBy_set _ now _ fun _ =>
      ⟨s, congrArg Prod.fst load, rfl, .inl logsOut.1⟩)
  | refresh r answered s loaded method load notIn notOut cookies sessions =>
    rw [sessions]
    exact (hloads load).trans (Manager.grownBy_set _ now _ fun hs =>
      ⟨s, congrArg Prod.fst load, rfl, .inr hs⟩)
  | anonymous r answered method load => exact hloads load

/-! ## What becomes of the users -/

/-- A request turns to the outside: it is a login, and it succeeds if it leads to somebody. -/
def Turns (v : Service σ Manager) (request : Request) (s : σ) (r : Response) (s' : σ) : Prop :=
  let o := (Login.identify v.audience request.body).run v.answer s
  request.Posts .signIn ∧ s' = o.state ∧ ∀ who, o.value = .ok who → r.status = 200

theorem signIn_outside (hv : v.keeper = Manager.keeper) (now : Moment) (fresh : Fresh)
    {request : Request} (st : State σ Manager) (hposts : request.Posts .signIn) :
    (v.signIn now fresh request.body st).state.outside = st.outside ∨
      v.Turns request st.outside (v.signIn now fresh request.body st).response
        (v.signIn now fresh request.body st).state.outside := by
  rw [signIn]
  by_cases hlong : maxBody < request.body.length
  · rw [if_pos hlong]
    exact .inl rfl
  · rw [if_neg hlong]
    refine .inr ⟨hposts, rfl, fun who hwho => ?_⟩
    dsimp only
    rw [hwho, hv]
    rfl

theorem handle_outside (hv : v.keeper = Manager.keeper) (now : Moment) (fresh : Fresh)
    (request : Request) (session : Option Session) (st : State σ Manager) :
    (v.handle now fresh request session st).state.outside = st.outside ∨
      v.Turns request st.outside (v.handle now fresh request session st).response
        (v.handle now fresh request session st).state.outside := by
  by_cases hin : request.Posts .signIn
  · rw [handle_of_signIn hin]
    exact signIn_outside hv now fresh st hin
  · by_cases hout : request.Posts .logout
    · rw [handle_of_logout hout]
      exact .inl rfl
    · obtain ⟨r, hr, -⟩ := handle_of_other (v := v) hin hout now fresh session st
      rw [hr]
      exact .inl rfl

/-- A request whose session is not loaded asks nobody and changes nothing. -/
theorem frame_of_not_loaded (hv : v.keeper = Manager.keeper) {now : Moment} (fresh : Fresh)
    {request : Request} (st : State σ Manager)
    (h : ∀ session, (st.sessions.load now request.cookies).1 ≠ .ok session) :
    (v.serve now fresh request st).asked = [] ∧ (v.serve now fresh request st).state = st := by
  by_cases hmethod : request.method = "OPTIONS"
  · obtain ⟨hasked, -, hstate⟩ := serve_of_preflight (v := v) now fresh st hmethod
    exact ⟨hasked, hstate⟩
  · cases hload : (st.sessions.load now request.cookies).1 with
    | ok session => exact absurd hload (h session)
    | error e => exact frame_of_error hv fresh st hmethod hload
    | overflow =>
      rw [serve_of_overflow hv fresh st hmethod hload]
      exact ⟨rfl, rfl⟩

theorem serve_outside (hv : v.keeper = Manager.keeper) (now : Moment) (fresh : Fresh)
    (request : Request) (st : State σ Manager) :
    (v.serve now fresh request st).state.outside = st.outside ∨
      ∃ r, (v.serve now fresh request st).response = some r ∧
        v.Turns request st.outside r (v.serve now fresh request st).state.outside := by
  by_cases hmethod : request.method = "OPTIONS"
  · obtain ⟨-, -, hstate⟩ := serve_of_preflight (v := v) now fresh st hmethod
    rw [hstate]
    exact .inl rfl
  · cases hload : st.sessions.load now request.cookies with
    | mk result m =>
      cases result with
      | error e =>
        rw [(frame_of_error hv fresh st hmethod (congrArg Prod.fst hload)).2]
        exact .inl rfl
      | overflow =>
        rw [serve_of_overflow hv fresh st hmethod (congrArg Prod.fst hload)]
        exact .inl rfl
      | ok session =>
        obtain ⟨headers, hserve⟩ := serve_of_guarded (v := v) now fresh st hmethod
        have houtside : (v.serve now fresh request st).state.outside
            = (v.handle now fresh request session { st with sessions := m }).state.outside := by
          rw [hserve, serveGuarded_of_ok hv hload]
          rfl
        obtain ⟨r, hr, hanswer, -⟩ := serve_answer hv fresh st hmethod hload
        rw [houtside]
        refine (handle_outside hv now fresh request session { st with sessions := m }).imp_right ?_
        rintro ⟨hposts, hstate, hstatus⟩
        exact ⟨r, hr, hposts, hstate, fun who hwho => hanswer.trans (hstatus who hwho)⟩

/-- **A request adds at most one user**, and only if it is a login that is granted. -/
theorem serve_users (hv : v.keeper = Manager.keeper) {users : σ → List User}
    (growing : Growing v.answer users) (now : Moment) (fresh : Fresh) (request : Request)
    (st : State σ Manager) :
    users (v.serve now fresh request st).state.outside = users st.outside ∨
      (∃ r, (v.serve now fresh request st).response = some r ∧ LogsIn request r) ∧
        ∃ u, (users (v.serve now fresh request st).state.outside).Perm
          (u :: users st.outside) := by
  rcases serve_outside hv now fresh request st with hsame | ⟨r, hr, hposts, hstate, hstatus⟩
  · rw [hsame]
    exact .inl rfl
  · rw [hstate]
    let d := Login.identify v.audience request.body
    have hgoes := Login.identify_goes v.answer v.audience request.body st.outside
    -- Whoever was created is who the login leads to, so it was granted.
    rcases hgoes.created_cases with hnone | ⟨u, hu, hvalue⟩
    · exact .inl (growing.users_run d _ (List.filterMap_eq_nil_iff.mp hnone))
    · refine .inr ⟨⟨r, hr, hposts, hstatus _ hvalue⟩, u, ?_⟩
      have hperm := growing.perm_run d st.outside
      rwa [hu] at hperm

/-! ## The frame -/

/-- **What a request leaves alone.** A preflight asks nobody, sets no cookie and changes nothing.
Nor does a request whose session cannot be loaded ask anybody or change anything, whether it is
refused or given up. The users stay as they are, unless the request is a login that is granted;
then one user may be added. And while time does not go back, no id is found to be revoked that was
not before, unless it is that of the session that was loaded for the request, and the request is a
logout or the session was logged out already. -/
theorem serve_frame (hv : v.keeper = Manager.keeper) (now : Moment) (fresh : Fresh)
    (request : Request) (st : State σ Manager) :
    let o := v.serve now fresh request st
    let loaded := (st.sessions.load now request.cookies).1
    (request.method = "OPTIONS" →
      o.asked = [] ∧ (∃ r, o.response = some r ∧ r.cookies = []) ∧ o.state = st) ∧
    ((∀ session, loaded ≠ .ok session) → o.asked = [] ∧ o.state = st) ∧
    (∀ users : σ → List User, Growing v.answer users →
      users o.state.outside = users st.outside ∨
        (request.Posts .signIn ∧ ∃ r, o.response = some r ∧ r.status = 200) ∧
          ∃ u, (users o.state.outside).Perm (u :: users st.outside)) ∧
    (∀ id before after, before ≤ now.uptime → now.uptime ≤ after →
      (o.state.sessions.revocations.contains id after).1 = true →
        (st.sessions.revocations.contains id before).1 = true ∨
          ∃ s, loaded = .ok (some s) ∧ s.id = id ∧
            (request.Posts .logout ∨ s.isLoggedIn = false)) := by
  intro o loaded
  refine ⟨?_, ?_, ?_, ?_⟩
  · intro hmethod
    exact serve_of_preflight now fresh st hmethod
  · intro hnot
    exact frame_of_not_loaded hv fresh st hnot
  · intro users growing
    rcases serve_users hv growing now fresh request st with hsame | ⟨⟨r, hr, hlogin⟩, hadded⟩
    · exact .inl hsame
    · exact .inr ⟨⟨hlogin.1, r, hr, hlogin.2⟩, hadded⟩
  · intro id before after hbefore hafter hheld
    exact (serve_grownBy hv now fresh request st).contains (hbefore.trans hafter) hheld

/-- A service whose store is a table, and whose provider vouches for all tokens. -/
def tabled : Service UserTable Manager where
  audience := ""
  origin := []
  answer := UserTable.answer
  keeper := Manager.keeper

/-- The first login of a user adds it and revokes nothing. -/
theorem serve_frame_new_user :
    let request : Request := ⟨"POST", "/authGoogle", [], Login.annBody⟩
    let o := tabled.serve ⟨999, 0⟩ ⟨.zero, .replicate 12 0⟩ request
      ⟨⟨[], 1⟩, .ofSecrets Secrets.sample true⟩
    tabled.keeper = Manager.keeper ∧ o.state.outside.users = [⟨1, "a@b.c", "Ann"⟩] ∧
      (∃ r, o.response = some r ∧ r.status = 200) ∧
      ∀ id after, 0 ≤ after → (o.state.sessions.revocations.contains id after).1 = false := by
  intro request o
  have husers : o.state.outside.users = [⟨1, "a@b.c", "Ann"⟩] := by decide +kernel
  obtain ⟨-, -, hadded, hrevoked⟩ :=
    serve_frame (v := tabled) rfl ⟨999, 0⟩ ⟨.zero, .replicate 12 0⟩
    request ⟨⟨[], 1⟩, .ofSecrets Secrets.sample true⟩
  refine ⟨rfl, husers, ?_, fun id after hafter => Bool.eq_false_iff.mpr fun hheld => ?_⟩
  · rcases hadded UserTable.users UserTable.lawful.growing with hsame | ⟨⟨-, hstatus⟩, -⟩
    · cases husers.symm.trans hsame
    · exact hstatus
  · rcases hrevoked id 0 after le_rfl hafter hheld with hbefore | ⟨s, hload, -⟩
    · cases hbefore
    · cases hload

end Http.Service

end SignIn
