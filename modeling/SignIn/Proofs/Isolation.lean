import SignIn.Proofs.Frame

/-!
# Sessions do not disturb each other

All sessions share one list of revocations, and nearly every operation rewrites it, if only by
dropping entries that have grown too old. Two runs of one manager are compared here, of which the
second leaves out some operations that concern other sessions, or none. The lists that the two runs
come to may differ, but they agree on one id from now on (`Agree`): looking it up at any later time
has the same answer. Dropping an entry early changes no later answer, since an entry that is too
old stays too old, and a revocation of another id is not seen. So whatever is still done for the
one session gives the same result in both runs.
-/

namespace SignIn

namespace Revocations

/-! ## Looking up later -/

/-- Pruning is not seen by a later lookup. -/
theorem contains_prune (r : Revocations) (id : Uuid) {now later : Rat} (h : now ≤ later) :
    ((r.prune now).contains id later).1 = (r.contains id later).1 := by
  rw [Bool.eq_iff_iff, contains_eq_true_iff, contains_eq_true_iff]
  constructor
  · rintro ⟨e, hmem, hid, hlive⟩
    exact ⟨e, (mem_prune.mp hmem).1, hid, hlive⟩
  · rintro ⟨e, hmem, hid, hlive⟩
    -- What is young enough later was young enough when the others were dropped.
    exact ⟨e, mem_prune.mpr ⟨hmem, isLive_of_le h hlive⟩, hid, hlive⟩

/-- Nor is a revocation of another id. -/
theorem contains_revoke_of_ne (r : Revocations) {id other : Uuid} (hne : other ≠ id)
    {now later : Rat} (h : now ≤ later) :
    ((r.revoke other now).contains id later).1 = (r.contains id later).1 := by
  rw [← r.contains_prune id h, Bool.eq_iff_iff, contains_eq_true_iff, contains_eq_true_iff]
  constructor
  · rintro ⟨e, hmem, rfl, hlive⟩
    rcases mem_revoke.mp hmem with rfl | ⟨hmem, -⟩
    · exact absurd rfl hne
    · exact ⟨e, hmem, rfl, hlive⟩
  · rintro ⟨e, hmem, rfl, hlive⟩
    exact ⟨e, mem_revoke.mpr (.inr ⟨hmem, hne.symm⟩), rfl, hlive⟩

/-- An id that was just revoked is found for as long as the window lasts, whatever was known
of it. -/
theorem contains_revoke_self (r : Revocations) (id : Uuid) (now later : Rat) :
    ((r.revoke id now).contains id later).1 = isLive r.window later now := by
  rw [Bool.eq_iff_iff, contains_eq_true_iff]
  constructor
  · rintro ⟨e, hmem, hid, hlive⟩
    rcases mem_revoke.mp hmem with rfl | ⟨-, hne⟩
    · exact hlive
    · exact absurd hid hne
  · intro hlive
    exact ⟨(id, now), mem_revoke.mpr (.inl rfl), rfl, hlive⟩

/-- Two lists agree on an id from an uptime on. -/
structure Agree (id : Uuid) (now : Rat) (r r' : Revocations) : Prop where
  window : r.window = r'.window
  contains : ∀ later, now ≤ later → (r.contains id later).1 = (r'.contains id later).1

namespace Agree

variable {id : Uuid} {now : Rat} {r r' r'' : Revocations}

theorem refl (id : Uuid) (now : Rat) (r : Revocations) : Agree id now r r := ⟨rfl, fun _ _ => rfl⟩

theorem symm (h : Agree id now r r') : Agree id now r' r where
  window := h.window.symm
  contains later hle := (h.contains later hle).symm

theorem trans (h : Agree id now r r') (h' : Agree id now r' r'') : Agree id now r r'' where
  window := h.window.trans h'.window
  contains later hle := (h.contains later hle).trans (h'.contains later hle)

theorem later {now' : Rat} (h : Agree id now r r') (hle : now ≤ now') : Agree id now' r r' where
  window := h.window
  contains later hlater := h.contains later (hle.trans hlater)

theorem prune (id : Uuid) (r : Revocations) (now : Rat) : Agree id now (r.prune now) r where
  window := rfl
  contains _ hle := r.contains_prune id hle

theorem revoke_of_ne {other : Uuid} (r : Revocations) (now : Rat) (hne : other ≠ id) :
    Agree id now (r.revoke other now) r where
  window := rfl
  contains _ hle := r.contains_revoke_of_ne hne hle

/-- After a revocation of the id it does not matter what was known of it before. -/
theorem revoke_self (h : r.window = r'.window) :
    Agree id now (r.revoke id now) (r'.revoke id now) where
  window := h
  contains later _ := by rw [contains_revoke_self, contains_revoke_self, h]

end Agree

end Revocations

namespace Session.Manager

open Revocations (Agree)

/-! ## Operations -/

/-- Something that a manager is asked to do. -/
inductive Operation where
  | set (now : Moment) (nonce : Nonce) (s : Session)
  | load (now : Moment) (headers : List Bytes)
  deriving DecidableEq, Repr

def Operation.moment : Operation → Moment
  | .set now _ _ => now
  | .load now _ => now

/-- What comes of it. -/
inductive Result where
  | written (c : CookieChange)
  | loaded (r : Attempt (Option Session))
  deriving DecidableEq, Repr

def perform (m : Manager) : Operation → Result × Manager
  | .set now nonce s => (.written (m.set now nonce s).1, (m.set now nonce s).2)
  | .load now headers => (.loaded (m.load now headers).1, (m.load now headers).2)

/-- The id of the session that an operation concerns. Loading concerns none if it fails or breaks
off, or if there is nothing to load. -/
def subject? (m : Manager) : Operation → Option Uuid
  | .set _ _ s => some s.id
  | .load now headers =>
    match m.read now headers with
    | .ok (some s) => some s.id
    | _ => none

/-- A run of operations, of which some are marked as kept, with what comes of each. -/
def history (m : Manager) : List (Bool × Operation) → List ((Bool × Operation) × Result)
  | [] => []
  | x :: xs => (x, (m.perform x.2).1) :: (m.perform x.2).2.history xs

/-- Operations that do not concern any session but one. A load of a cookie that carries its id is
one of them even if the cookie has expired. -/
def concernsOnly (m : Manager) (id : Uuid) (o : Operation) : Bool := (m.subject? o).all (· == id)

section Steps

variable {m m' : Manager} {id : Uuid} {now : Rat}

theorem read_congr (h : m.key = m'.key) (now : Moment) (headers : List Bytes) :
    m.read now headers = m'.read now headers := by
  rw [read, read, h]

theorem subject?_congr (h : m.key = m'.key) (o : Operation) : m.subject? o = m'.subject? o := by
  cases o with
  | set now nonce s => rfl
  | load now headers => rw [subject?, subject?, read_congr h]

theorem concernsOnly_congr (h : m.key = m'.key) (id : Uuid) :
    m.concernsOnly id = m'.concernsOnly id := by
  funext o
  rw [concernsOnly, concernsOnly, subject?_congr h]

theorem load_eq (m : Manager) (now : Moment) (headers : List Bytes) :
    m.load now headers = match m.read now headers with
      | .error e => (.error e, m)
      | .overflow => (.overflow, m)
      | .ok none => (.ok none, m)
      | .ok (some s) => (.ok (some (m.downgrade now s).1), (m.downgrade now s).2) := rfl

/-- What an operation does to a manager, of whatever session it is. -/
inductive Performs (m : Manager) : Operation → Manager → Prop
  | nothing (o : Operation) : Performs m o m
  | prunes (o : Operation) :
      Performs m o { m with revocations := m.revocations.prune o.moment.uptime }
  | revokes (now : Moment) (nonce : Nonce) (s : Session) :
      Performs m (.set now nonce s) { m with revocations := m.revocations.revoke s.id now.uptime }

theorem perform_performs (m : Manager) (o : Operation) : Performs m o (m.perform o).2 := by
  cases o with
  | set now nonce s =>
    show Performs m _ (m.set now nonce s).2
    rw [Manager.set]
    dsimp only
    split
    · exact .nothing _
    · exact .revokes now nonce s
  | load now headers =>
    show Performs m (.load now headers) (m.load now headers).2
    rw [load_eq]
    split
    · exact .nothing _
    · exact .nothing _
    · exact .nothing _
    · rw [downgrade]
      split
      · exact .prunes (.load now headers)
      · exact .nothing _

theorem perform_key (m : Manager) (o : Operation) : (m.perform o).2.key = m.key := by
  have hperforms := perform_performs m o
  generalize (m.perform o).2 = n at hperforms ⊢
  cases hperforms with
  | nothing => rfl
  | prunes => rfl
  | revokes now nonce s => rfl

/-- Two managers give the same results for one id from an uptime on. -/
structure Alike (id : Uuid) (now : Rat) (m m' : Manager) : Prop where
  key : m.key = m'.key
  secure : m.secure = m'.secure
  revocations : Agree id now m.revocations m'.revocations

namespace Alike

theorem refl (id : Uuid) (now : Rat) (m : Manager) : Alike id now m m := ⟨rfl, rfl, .refl _ _ _⟩

/-- An operation that concerns another session, or none, may be left out. -/
theorem leave_out (h : Alike id now m m') {o : Operation} (hle : now ≤ o.moment.uptime)
    (hother : m.subject? o ≠ some id) : Alike id o.moment.uptime (m.perform o).2 m' := by
  have hlater := h.revocations.later hle
  have hperforms := perform_performs m o
  generalize (m.perform o).2 = n at hperforms ⊢
  cases hperforms with
  | nothing => exact ⟨h.key, h.secure, hlater⟩
  | prunes => exact ⟨h.key, h.secure, (Agree.prune id _ _).trans hlater⟩
  | revokes now nonce s =>
    have hne : s.id ≠ id := fun he => hother (congrArg some he)
    exact ⟨h.key, h.secure, (Agree.revoke_of_ne _ _ hne).trans hlater⟩

theorem symm (h : Alike id now m m') : Alike id now m' m :=
  ⟨h.key.symm, h.secure.symm, h.revocations.symm⟩

/-- An operation that is done in both runs keeps the managers alike. -/
theorem perform (h : Alike id now m m') {o : Operation} (hle : now ≤ o.moment.uptime) :
    Alike id o.moment.uptime (m.perform o).2 (m'.perform o).2 := by
  by_cases hother : m.subject? o = some id
  · cases o with
    | set t nonce s =>
      obtain rfl : s.id = id := Option.some.inj hother
      show Alike _ _ (m.set t nonce s).2 (m'.set t nonce s).2
      rw [Manager.set, Manager.set]
      dsimp only
      split
      · exact ⟨h.key, h.secure, h.revocations.later hle⟩
      · exact ⟨h.key, h.secure, .revoke_self h.revocations.window⟩
    | load t headers =>
      show Alike _ _ (m.load t headers).2 (m'.load t headers).2
      have hlater := h.revocations.later hle
      rw [load_eq, load_eq, ← read_congr h.key]
      split
      · exact ⟨h.key, h.secure, hlater⟩
      · exact ⟨h.key, h.secure, hlater⟩
      · exact ⟨h.key, h.secure, hlater⟩
      · rw [downgrade, downgrade]
        split
        · exact ⟨h.key, h.secure,
            ((Agree.prune id _ _).trans hlater).trans (Agree.prune id _ _).symm⟩
        · exact ⟨h.key, h.secure, hlater⟩
  -- Of another session: it may be left out of either run, so it may be done in both.
  · have hother' : m'.subject? o ≠ some id := by rwa [← subject?_congr h.key]
    exact ((h.leave_out hle hother).symm.leave_out le_rfl hother').symm

/-- And what comes of it is the same, if it does not concern another session. -/
theorem result_eq (h : Alike id now m m') {o : Operation} (hle : now ≤ o.moment.uptime)
    (honly : m.concernsOnly id o = true) : (m.perform o).1 = (m'.perform o).1 := by
  cases o with
  | set t nonce s =>
    show Result.written _ = .written _
    rw [set_fst, set_fst, cookie, cookie, h.key, h.secure]
  | load t headers =>
    show Result.loaded _ = .loaded _
    rw [concernsOnly, subject?] at honly
    rw [load_eq, load_eq, ← read_congr h.key]
    cases hread : m.read t headers with
    | error e => rfl
    | overflow => rfl
    | ok s? =>
      cases s? with
      | none => rfl
      | some s =>
        rw [hread] at honly
        obtain rfl : s.id = id := beq_iff_eq.mp honly
        dsimp only
        rw [downgrade_fst, downgrade_fst, h.revocations.contains t.uptime hle]

end Alike

end Steps

/-! ## Two runs -/

theorem history_filter {m m' : Manager} {id : Uuid} {now : Rat} (h : Alike id now m m')
    {ops : List (Bool × Operation)} (hstart : ∀ x ∈ ops, now ≤ x.2.moment.uptime)
    (hordered : ops.Pairwise fun x y => x.2.moment.uptime ≤ y.2.moment.uptime)
    (hothers : ∀ x ∈ ops, x.1 = false → m.subject? x.2 ≠ some id) :
    (m.history ops).filter (fun e => e.1.1 && m.concernsOnly id e.1.2)
      = (m'.history (ops.filter (·.1))).filter fun e => m.concernsOnly id e.1.2 := by
  induction ops generalizing m m' now with
  | nil => rfl
  | cons x ops ih =>
    obtain ⟨kept, o⟩ := x
    obtain ⟨hnext, hrest⟩ := List.pairwise_cons.mp hordered
    have hle : now ≤ o.moment.uptime := hstart (kept, o) (by simp)
    -- Which session an operation concerns hangs on the key, which stays the same along the run.
    have hkey := perform_key m o
    have hothers' : ∀ x ∈ ops, x.1 = false → (m.perform o).2.subject? x.2 ≠ some id := by
      intro x hx hmark
      rw [subject?_congr hkey]
      exact hothers x (by simp [hx]) hmark
    cases kept with
    | false =>
      have hleft := h.leave_out hle (hothers (false, o) (by simp) rfl)
      have hrun := ih hleft hnext hrest hothers'
      rw [concernsOnly_congr hkey] at hrun
      rw [history, List.filter_cons_of_neg (by simp), List.filter_cons_of_neg (by simp)]
      exact hrun
    | true =>
      have hrun := ih (h.perform hle) hnext hrest hothers'
      rw [concernsOnly_congr hkey] at hrun
      rw [history, List.filter_cons_of_pos (p := fun x : Bool × Operation => x.1) rfl, history]
      by_cases honly : m.concernsOnly id o = true
      · rw [List.filter_cons_of_pos (by simpa using honly),
          List.filter_cons_of_pos (by exact honly), hrun, h.result_eq hle honly]
      · rw [List.filter_cons_of_neg (by simpa using honly),
          List.filter_cons_of_neg (by exact honly), hrun]

/-- **Sessions are isolated.** Of a run of operations on one manager, at uptimes that do not
decrease, leave out any that concern another session than the one with the given id, or none. Every
operation that is left and concerns no other session has the same result as before. -/
theorem history_isolated (m : Manager) (id : Uuid) {ops : List (Bool × Operation)}
    (hordered : ops.Pairwise fun x y => x.2.moment.uptime ≤ y.2.moment.uptime)
    (hothers : ∀ x ∈ ops, x.1 = false → m.subject? x.2 ≠ some id) :
    (m.history ops).filter (fun e => e.1.1 && m.concernsOnly id e.1.2)
      = (m.history (ops.filter (·.1))).filter fun e => m.concernsOnly id e.1.2 := by
  cases ops with
  | nil => rfl
  | cons x ops =>
    refine history_filter (.refl id x.2.moment.uptime m) ?_ hordered hothers
    intro y hy
    rcases List.mem_cons.mp hy with rfl | hy
    · exact le_rfl
    · exact (List.pairwise_cons.mp hordered).1 y hy

section Carried

variable {m : Manager} {now : Moment} {headers : List Bytes} {p : Payload} {age : Int}

/-- Loading a cookie that was written concerns its session, -/
theorem subject?_of_young (h : carried? m.key headers = some p.print)
    (hage : age? p.issuedAt now.second = some age) (hyoung : age ≤ maxAge) :
    m.subject? (.load now headers) = some p.session.id := by
  rw [subject?, read_of_carried h, accept_of_parsed p.parse_print,
    p.sessionAt_of_young hage hyoung, Attempt.map]

/-- unless the cookie has expired. -/
theorem subject?_of_old (h : carried? m.key headers = some p.print)
    (hage : age? p.issuedAt now.second = some age) (hold : maxAge < age) :
    m.subject? (.load now headers) = none := by
  rw [subject?, read_of_carried h, accept_of_parsed p.parse_print, p.sessionAt_of_old hage hold,
    Attempt.map]

end Carried

/-- One session is logged out and its older cookie loaded again, while another one is logged out,
loaded in vain, and loaded in time. -/
theorem history_isolated_logout :
    let m := Manager.ofSecrets Secrets.sample false
    let nonce : Nonce := .replicate 12 0
    let ann := Session.loggedIn 7 "Ann" .zero
    let bob := Session.loggedIn 8 "Bob" ⟨List.replicate 16 1, rfl⟩
    let sent := fun s : Session => [(m.cookie nonce ⟨s, 0⟩).pair]
    let ops : List (Bool × Operation) :=
      [(true, .set ⟨0, 0⟩ nonce ann), (false, .set ⟨0, 0⟩ nonce bob.loggedOut),
        (true, .set ⟨1000, 1000⟩ nonce ann.loggedOut), (false, .load ⟨2000, 2000⟩ (sent bob)),
        (false, .load ⟨901000, 3000⟩ (sent bob)), (true, .load ⟨4000, 4000⟩ (sent ann))]
    (ops.Pairwise fun x y => x.2.moment.uptime ≤ y.2.moment.uptime) ∧
      (∀ x ∈ ops, x.1 = false → m.subject? x.2 ≠ some ann.id) ∧
      (m.history ops).filter (fun e => e.1.1 && m.concernsOnly ann.id e.1.2)
        = (m.history (ops.filter (·.1))).filter fun e => m.concernsOnly ann.id e.1.2 := by
  intro m nonce ann bob sent ops
  have hordered : ops.Pairwise fun x y => x.2.moment.uptime ≤ y.2.moment.uptime := by
    decide +kernel
  have hne : bob.id ≠ ann.id := by decide +kernel
  have hsent : carried? m.key (sent bob) = some (Payload.mk bob 0).print :=
    (decides_cookie m nonce ⟨bob, 0⟩).carried
  have htwo : age? 0 (Moment.mk 2000 2000).second = some 2 := by decide +kernel
  have hlong : age? 0 (Moment.mk 901000 3000).second = some 901 := by decide +kernel
  have hothers : ∀ x ∈ ops, x.1 = false → m.subject? x.2 ≠ some ann.id := by
    intro x hx hmark
    simp only [ops, List.mem_cons, List.not_mem_nil, or_false] at hx
    rcases hx with rfl | rfl | rfl | rfl | rfl | rfl
    · cases hmark
    · exact fun h => hne (Option.some.inj h)
    · cases hmark
    · rw [subject?_of_young hsent htwo (by decide)]
      exact fun h => hne (Option.some.inj h)
    · rw [subject?_of_old hsent hlong (by decide)]
      exact (Option.some_ne_none _).symm
    · cases hmark
  exact ⟨hordered, hothers, history_isolated m ann.id hordered hothers⟩

end Session.Manager

end SignIn
