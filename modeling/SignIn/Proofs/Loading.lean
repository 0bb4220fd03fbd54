import SignIn.Proofs.CookieText
import SignIn.Proofs.Payload
import SignIn.Session.Manager

/-!
# What is loaded

Loading looks at one cookie only: the last of the request's session cookies that opens. If it opens
to a payload that was printed, what comes of it depends on two things, each on a clock of its own:
the seconds that have passed since the payload was written, and whether the id of its session is in
the list of revocations.
-/

namespace SignIn

/-! ## Age -/

theorem Moment.toInt_second (t : Moment) :
    t.second.toInt = max (-2 ^ 63) (min (2 ^ 63 - 1) t.wallSecond) := by
  have hmin : Int64.minValue.toInt = -2 ^ 63 := by decide
  have hmax : Int64.maxValue.toInt = 2 ^ 63 - 1 := by decide
  rw [second, Int64.ofIntClamp]
  split
  · split
    · rw [Int64.toInt_ofIntLE]
      omega
    · omega
  · omega

namespace Session

theorem age?_eq_some_iff {issuedAt now : Int64} {age : Int} :
    age? issuedAt now = some age ↔
      now.toInt - issuedAt.toInt = age ∧ -2 ^ 63 ≤ age ∧ age < 2 ^ 63 := by
  have hmin : Int64.minValue.toInt = -2 ^ 63 := by decide
  have hmax : Int64.maxValue.toInt = 2 ^ 63 - 1 := by decide
  rw [age?]
  split
  · rw [Option.some.injEq]
    omega
  · constructor
    · intro h
      cases h
    · omega

theorem age?_eq_none_iff {issuedAt now : Int64} :
    age? issuedAt now = none ↔
      ¬(-2 ^ 63 ≤ now.toInt - issuedAt.toInt ∧ now.toInt - issuedAt.toInt < 2 ^ 63) := by
  have hmin : Int64.minValue.toInt = -2 ^ 63 := by decide
  have hmax : Int64.maxValue.toInt = 2 ^ 63 - 1 := by decide
  rw [age?, ite_eq_right_iff, imp_iff_not (Option.some_ne_none _)]
  omega

namespace Payload

variable {p : Payload} {now : Int64} {age : Int}

theorem sessionAt_of_young (h : age? p.issuedAt now = some age) (hyoung : age ≤ maxAge) :
    p.sessionAt now = .ok p.session := by
  rw [sessionAt, h]
  exact if_neg (Int.not_lt.mpr hyoung)

theorem sessionAt_of_old (h : age? p.issuedAt now = some age) (hold : maxAge < age) :
    p.sessionAt now = .error .expired := by
  rw [sessionAt, h]
  exact if_pos hold

theorem sessionAt_of_far (h : age? p.issuedAt now = none) : p.sessionAt now = .overflow := by
  rw [sessionAt, h]

end Payload

namespace Manager

/-! ## The cookie that decides -/

/-- What the last of a request's session cookies that opens was sealed over. -/
def carried? (key : Gcm.Key) (headers : List Bytes) : Option Bytes :=
  lastOpened? key (candidates headers)

/-- A cookie that opens decides, if no later one opens. -/
theorem lastOpened?_append {key : Gcm.Key} {cs ds : List Cookie} {c : Cookie} {text : Bytes}
    (hc : Cookie.open? key c = some text) (hds : ∀ d ∈ ds, Cookie.open? key d = none) :
    lastOpened? key (cs ++ c :: ds) = some text := by
  -- The search is from the back, where none of `ds` opens.
  have hnone : ds.reverse.findSome? (Cookie.open? key) = none := by
    rw [List.findSome?_eq_none_iff]
    exact fun d hd => hds d (List.mem_reverse.mp hd)
  rw [lastOpened?, List.reverse_append, List.reverse_cons, List.findSome?_append,
    List.findSome?_append, hnone, Option.none_or, List.findSome?_singleton, hc]
  rfl

/-- A cookie opens to a text, and no later one of the session's cookies opens. -/
def Decides (key : Gcm.Key) (headers : List Bytes) (c : Cookie) (text : Bytes) : Prop :=
  Cookie.open? key c = some text ∧
    ∃ cs ds, candidates headers = cs ++ c :: ds ∧ ∀ d ∈ ds, Cookie.open? key d = none

namespace Decides

variable {key : Gcm.Key} {headers : List Bytes} {c : Cookie} {text : Bytes}

theorem mem_candidates (h : Decides key headers c text) : c ∈ candidates headers := by
  obtain ⟨-, cs, ds, hcands, -⟩ := h
  simp [hcands]

theorem name_eq (h : Decides key headers c text) : c.name = cookieName := by
  have hname := (List.mem_filter.mp h.mem_candidates).2
  exact beq_iff_eq.mp hname

theorem carried (h : Decides key headers c text) : carried? key headers = some text := by
  obtain ⟨hopen, cs, ds, hcands, hds⟩ := h
  rw [carried?, hcands]
  exact lastOpened?_append hopen hds

end Decides

/-- What is carried was carried by a cookie that decides. -/
theorem decides_of_carried {key : Gcm.Key} {headers : List Bytes} {text : Bytes}
    (h : carried? key headers = some text) : ∃ c, Decides key headers c text := by
  obtain ⟨ds, c, cs, hrev, hopen, hds⟩ := List.findSome?_eq_some_iff.mp h
  refine ⟨c, hopen, cs.reverse, ds.reverse, ?_, fun d hd => hds d (List.mem_reverse.mp hd)⟩
  rw [← List.reverse_reverse (candidates headers), hrev]
  simp

theorem candidates_ne_nil {key : Gcm.Key} {headers : List Bytes} {text : Bytes}
    (h : carried? key headers = some text) : (candidates headers).isEmpty = false := by
  cases hc : candidates headers with
  | nil =>
    rw [carried?, hc] at h
    cases h
  | cons c cs => rfl

/-- The session that is read is that of what is carried. -/
theorem read_of_carried {m : Manager} {headers : List Bytes} {text : Bytes}
    (h : carried? m.key headers = some text) (now : Moment) :
    m.read now headers = (accept now.second text).map some := by
  have hopened : lastOpened? m.key (candidates headers) = some text := h
  rw [read, candidates_ne_nil h, if_neg (by decide), hopened]

/-! ## What loading comes to -/

/-- The ways in which loading can go. -/
inductive Loads (m : Manager) (now : Moment) (headers : List Bytes) : Prop
  /-- There is no cookie for the session. -/
  | absent (missing : candidates headers = []) (load : m.load now headers = (.ok none, m))
  /-- There are some, and none of them opens. -/
  | undecryptable (present : candidates headers ≠ []) (carried : carried? m.key headers = none)
      (load : m.load now headers = (.error .undecryptable, m))
  /-- What the one that decides was sealed over is no session, or too old. -/
  | refused (text : Bytes) (e : Error) (carried : carried? m.key headers = some text)
      (verdict : accept now.second text = .error e) (load : m.load now headers = (.error e, m))
  /-- It is a session that is too far away for its age to be told. -/
  | overflow (text : Bytes) (carried : carried? m.key headers = some text)
      (verdict : accept now.second text = .overflow) (load : m.load now headers = (.overflow, m))
  | accepted (text : Bytes) (s : Session) (carried : carried? m.key headers = some text)
      (verdict : accept now.second text = .ok s)
      (load : m.load now headers = (.ok (some (m.downgrade now s).1), (m.downgrade now s).2))

theorem load_loads (m : Manager) (now : Moment) (headers : List Bytes) : Loads m now headers := by
  cases hcarried : carried? m.key headers with
  | none =>
    have hopened : lastOpened? m.key (candidates headers) = none := hcarried
    by_cases hnil : candidates headers = []
    · refine .absent hnil ?_
      rw [load, read, hnil]
      rfl
    · have hsome : ¬(candidates headers).isEmpty = true := fun h => hnil (List.isEmpty_iff.mp h)
      refine .undecryptable hnil hcarried ?_
      rw [load, read, if_neg hsome, hopened]
  | some text =>
    have hread := read_of_carried hcarried now
    cases hverdict : accept now.second text with
    | error e =>
      refine .refused text e hcarried hverdict ?_
      rw [load, hread, hverdict, Attempt.map]
    | overflow =>
      refine .overflow text hcarried hverdict ?_
      rw [load, hread, hverdict, Attempt.map]
    | ok s =>
      refine .accepted text s hcarried hverdict ?_
      rw [load, hread, hverdict, Attempt.map]

/-- Loading goes by the verdict on what is carried. -/
theorem load_of_verdict {m : Manager} {now : Moment} {headers : List Bytes} {text : Bytes}
    (h : carried? m.key headers = some text) :
    m.load now headers
      = match accept now.second text with
        | .error e => (.error e, m)
        | .overflow => (.overflow, m)
        | .ok s => (.ok (some (m.downgrade now s).1), (m.downgrade now s).2) := by
  cases load_loads m now headers with
  | absent missing load => rw [carried?, missing] at h; cases h
  | undecryptable present carried load => cases carried.symm.trans h
  | refused text' e carried verdict load =>
    obtain rfl := Option.some.inj (carried.symm.trans h)
    rw [load, verdict]
  | overflow text' carried verdict load =>
    obtain rfl := Option.some.inj (carried.symm.trans h)
    rw [load, verdict]
  | accepted text' s carried verdict load =>
    obtain rfl := Option.some.inj (carried.symm.trans h)
    rw [load, verdict]

/-! ### What opens and is a payload -/

section Parsed

variable {m : Manager} {now : Moment} {headers : List Bytes} {text : Bytes}
  {p : Payload} {age : Int}

theorem accept_of_parsed (hparse : Payload.parse text = .ok p) (now : Int64) :
    accept now text = p.sessionAt now := by
  rw [accept, hparse]

theorem load_of_young (h : carried? m.key headers = some text)
    (hparse : Payload.parse text = .ok p)
    (hage : age? p.issuedAt now.second = some age) (hyoung : age ≤ maxAge) :
    m.load now headers
      = (.ok (some (m.downgrade now p.session).1), (m.downgrade now p.session).2) := by
  rw [load_of_verdict h, accept_of_parsed hparse, p.sessionAt_of_young hage hyoung]

theorem load_of_old (h : carried? m.key headers = some text) (hparse : Payload.parse text = .ok p)
    (hage : age? p.issuedAt now.second = some age) (hold : maxAge < age) :
    m.load now headers = (.error .expired, m) := by
  rw [load_of_verdict h, accept_of_parsed hparse, p.sessionAt_of_old hage hold]

theorem load_of_far (h : carried? m.key headers = some text) (hparse : Payload.parse text = .ok p)
    (hage : age? p.issuedAt now.second = none) : m.load now headers = (.overflow, m) := by
  rw [load_of_verdict h, accept_of_parsed hparse, p.sessionAt_of_far hage]

end Parsed

/-! ### What becomes of the manager -/

/-- Loading may only change what is known of revocations. -/
theorem load_snd (m : Manager) (now : Moment) (headers : List Bytes) :
    ∃ revocations, (m.load now headers).2 = { m with revocations } := by
  cases load_loads m now headers with
  | absent missing load => exact ⟨_, congrArg Prod.snd load⟩
  | undecryptable present carried load => exact ⟨_, congrArg Prod.snd load⟩
  | refused text e carried verdict load => exact ⟨_, congrArg Prod.snd load⟩
  | overflow text carried verdict load => exact ⟨_, congrArg Prod.snd load⟩
  | accepted text s carried verdict load =>
    rw [load, downgrade]
    split
    · exact ⟨_, rfl⟩
    · exact ⟨_, rfl⟩

/-- And not even that if no session is loaded. -/
theorem load_snd_of_ne {m : Manager} {now : Moment} {headers : List Bytes}
    (h : ∀ s, (m.load now headers).1 ≠ .ok (some s)) : (m.load now headers).2 = m := by
  cases load_loads m now headers with
  | absent missing load => rw [load]
  | undecryptable present carried load => rw [load]
  | refused text e carried verdict load => rw [load]
  | overflow text carried verdict load => rw [load]
  | accepted text s carried verdict load => exact absurd (congrArg Prod.fst load) (h _)

/-- A session is loaded only if a cookie for it opens. -/
theorem carried_of_load {m : Manager} {now : Moment} {headers : List Bytes} {s : Session}
    (h : (m.load now headers).1 = .ok (some s)) :
    ∃ text, carried? m.key headers = some text := by
  cases load_loads m now headers with
  | absent missing load => rw [load] at h; cases h
  | undecryptable present carried load => rw [load] at h; cases h
  | refused text e carried verdict load => rw [load] at h; cases h
  | overflow text carried verdict load => rw [load] at h; cases h
  | accepted text s' carried verdict load => exact ⟨text, carried⟩

/-! ## Setting a session and loading it -/

theorem set_fst (m : Manager) (now : Moment) (nonce : Nonce) (s : Session) :
    (m.set now nonce s).1 = m.cookie nonce ⟨s, now.second⟩ := rfl

/-- The session that is loaded is the one that was written, but for the revocations. -/
theorem downgrade_fst (m : Manager) (now : Moment) (s : Session) :
    (m.downgrade now s).1
      = { s with isLoggedIn := s.isLoggedIn && !(m.revocations.contains s.id now.uptime).1 } := by
  obtain ⟨userId, name, isLoggedIn, id⟩ := s
  cases isLoggedIn with
  | false => rfl
  | true =>
    rw [downgrade, if_pos rfl]
    dsimp only
    cases (m.revocations.contains id now.uptime).1 <;> rfl

theorem downgrade_cases (m : Manager) (now : Moment) (s : Session) :
    (m.downgrade now s).1 = s
        ∧ (s.isLoggedIn = true → (m.revocations.contains s.id now.uptime).1 = false) ∨
      (m.downgrade now s).1 = s.loggedOut ∧ s.isLoggedIn = true
        ∧ (m.revocations.contains s.id now.uptime).1 = true := by
  rw [downgrade]
  by_cases hs : s.isLoggedIn = true
  · rw [if_pos hs]
    by_cases hr : (m.revocations.contains s.id now.uptime).1 = true
    · exact .inr ⟨if_pos hr, hs, hr⟩
    · exact .inl ⟨if_neg hr, fun _ => Bool.eq_false_iff.mpr hr⟩
  · rw [if_neg hs]
    exact .inl ⟨rfl, fun h => absurd h hs⟩

end Manager

end Session

end SignIn
