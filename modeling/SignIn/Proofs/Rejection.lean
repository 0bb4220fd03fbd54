import SignIn.Proofs.ResponseCookies

/-!
# What is rejected

A cookie that cannot be trusted ends its request, but only if it can be read: what is not visible
text, or does not decode to any, is passed over before anything is opened. A request with no
session cookie that can be read is served as one without cookies, whatever it spells out.
-/

namespace SignIn

/-! ## Parts that can be read -/

namespace Cookie

/-- A part of a header spells out a name and a value. -/
def Spells (header name value : Bytes) : Prop :=
  ∃ part ∈ header.splitOn semicolon, halves? part = some (name, value)

/-- The cookies of a request are what its visible headers spell out and is text. -/
theorem mem_ofHeaders_iff {headers : List Bytes} {c : Cookie} :
    c ∈ ofHeaders headers ↔ ∃ header ∈ headers, header.all isVisible = true ∧
      ∃ name value, Spells header name value ∧ ofSpelling? name value = some c := by
  rw [ofHeaders, List.mem_flatMap]
  refine exists_congr fun header => and_congr_right fun _ => ?_
  by_cases hvisible : header.all isVisible = true
  · rw [ofHeader, if_pos hvisible, List.mem_filterMap]
    constructor
    · rintro ⟨part, hpart, hof⟩
      obtain ⟨name, value, hhalves, hc⟩ := ofPart?_eq_some_iff.mp hof
      exact ⟨hvisible, name, value, ⟨part, hpart, hhalves⟩, hc⟩
    · rintro ⟨-, name, value, ⟨part, hpart, hhalves⟩, hc⟩
      exact ⟨part, hpart, ofPart?_eq_some_iff.mpr ⟨name, value, hhalves, hc⟩⟩
  · rw [ofHeader, if_neg hvisible]
    exact ⟨fun h => absurd h List.not_mem_nil, fun h => absurd h.1 hvisible⟩

end Cookie

namespace Session.Manager

/-- A value of the session's cookie can be read: a visible header spells out, possibly with
escapes, the name of the cookie and text. -/
def Readable (headers : List Bytes) (value : Bytes) : Prop :=
  ∃ header ∈ headers, header.all Cookie.isVisible = true ∧
    ∃ name spelled, Cookie.Spells header name spelled ∧ Percent.decode name = cookieName ∧
      Percent.decode spelled = value ∧ (Utf8.decodeChars? value).isSome

section Readable

variable {m : Manager} {now : Moment} {headers : List Bytes}

theorem mem_candidates_iff {c : Cookie} :
    c ∈ candidates headers ↔ c.name = cookieName ∧ Readable headers c.value := by
  have htext : (Utf8.decodeChars? cookieName).isSome := text_cookieName.isSome_decodeChars?
  rw [candidates, List.mem_filter, Cookie.mem_ofHeaders_iff, beq_iff_eq]
  constructor
  · rintro ⟨⟨header, hmem, hvisible, name, spelled, hspells, hc⟩, hname⟩
    obtain ⟨-, -, hvalue, hdname, hdvalue⟩ := Cookie.ofSpelling?_eq_some_iff.mp hc
    exact ⟨hname, header, hmem, hvisible, name, spelled, hspells, hdname.trans hname,
      hdvalue, hvalue⟩
  · rintro ⟨hname, header, hmem, hvisible, name, spelled, hspells, hdname, hdvalue, hvalue⟩
    refine ⟨⟨header, hmem, hvisible, name, spelled, hspells, Cookie.ofSpelling?_eq_some_iff.mpr
      ⟨?_, by rw [hname]; exact htext, hvalue, hdname.trans hname.symm, hdvalue⟩⟩, hname⟩
    -- An empty spelling would decode to an empty name.
    rintro rfl
    exact cookieName_ne_nil hdname.symm

theorem exists_readable_iff : (∃ value, Readable headers value) ↔ candidates headers ≠ [] := by
  constructor
  · rintro ⟨value, hvalue⟩
    exact List.ne_nil_of_mem (mem_candidates_iff (c := ⟨cookieName, value⟩).mpr ⟨rfl, hvalue⟩)
  · intro hne
    obtain ⟨c, hc⟩ := List.exists_mem_of_ne_nil _ hne
    exact ⟨c.value, (mem_candidates_iff.mp hc).2⟩

theorem carried?_eq_none_iff {key : Gcm.Key} :
    carried? key headers = none ↔
      ∀ value, Readable headers value → Cookie.open? key ⟨cookieName, value⟩ = none := by
  rw [carried?, lastOpened?, List.findSome?_eq_none_iff]
  constructor
  · intro h value hvalue
    exact h _ (List.mem_reverse.mpr (mem_candidates_iff.mpr ⟨rfl, hvalue⟩))
  · intro h c hc
    obtain ⟨hname, hvalue⟩ := mem_candidates_iff.mp (List.mem_reverse.mp hc)
    obtain ⟨name, value⟩ := c
    obtain rfl : name = cookieName := hname
    exact h value hvalue

/-! ## What loading comes to -/

theorem accept_ne_undecryptable {now : Int64} {text : Bytes} :
    accept now text ≠ .error .undecryptable := by
  intro h
  rw [accept] at h
  split at h
  · cases h
  · rw [Payload.sessionAt] at h
    split at h
    · cases h
    · split at h
      · cases h
      · cases h

/-- Nothing is loaded exactly if no value can be read. -/
theorem load_none_iff :
    (m.load now headers).1 = .ok none ↔ ¬∃ value, Readable headers value := by
  rw [exists_readable_iff, not_not]
  cases load_loads m now headers with
  | absent missing load => simp [load, missing]
  | undecryptable present carried load => simp [load, present]
  | refused text e carried verdict load =>
    have hne := List.isEmpty_eq_false_iff.mp (candidates_ne_nil carried)
    simp [load, hne]
  | overflow text carried verdict load =>
    have hne := List.isEmpty_eq_false_iff.mp (candidates_ne_nil carried)
    simp [load, hne]
  | accepted text s carried verdict load =>
    have hne := List.isEmpty_eq_false_iff.mp (candidates_ne_nil carried)
    simp [load, hne]

theorem load_of_unreadable (h : ¬∃ value, Readable headers value) :
    m.load now headers = (.ok none, m) := by
  have hnone : (m.load now headers).1 = .ok none := load_none_iff.mpr h
  exact Prod.ext hnone (load_snd_of_ne fun s hs => by cases hnone.symm.trans hs)

/-- Loading fails for want of a value that opens exactly if some can be read and none of these
opens. -/
theorem load_undecryptable_iff :
    (m.load now headers).1 = .error .undecryptable ↔ (∃ value, Readable headers value) ∧
      ∀ value, Readable headers value → Cookie.open? m.key ⟨cookieName, value⟩ = none := by
  rw [exists_readable_iff, ← carried?_eq_none_iff]
  cases load_loads m now headers with
  | absent missing load => simp [load, missing]
  | undecryptable present carried load => simp [load, present, carried]
  | refused text e carried verdict load =>
    have he : e ≠ .undecryptable := by
      rintro rfl
      exact accept_ne_undecryptable verdict
    simp [load, carried, he]
  | overflow text carried verdict load => simp [load, carried]
  | accepted text s carried verdict load => simp [load, carried]

/-- Loading fails exactly if some value can be read, and the one that decides, if there is one, is
refused. -/
theorem load_error_iff :
    (∃ e, (m.load now headers).1 = .error e) ↔ (∃ value, Readable headers value) ∧
      ∀ c text, Decides m.key headers c text → ∃ e, accept now.second text = .error e := by
  rw [exists_readable_iff]
  cases load_loads m now headers with
  | absent missing load => simp [load, missing]
  | undecryptable present carried load =>
    refine ⟨fun _ => ⟨present, fun c text h => ?_⟩, fun _ => ⟨_, congrArg Prod.fst load⟩⟩
    cases carried.symm.trans h.carried
  | refused text e carried verdict load =>
    have hne := List.isEmpty_eq_false_iff.mp (candidates_ne_nil carried)
    refine ⟨fun _ => ⟨hne, fun c text' h => ⟨e, ?_⟩⟩, fun _ => ⟨_, congrArg Prod.fst load⟩⟩
    obtain rfl := Option.some.inj (carried.symm.trans h.carried)
    exact verdict
  | overflow text carried verdict load =>
    -- What was carried was carried by a cookie that decides, and that one is not refused.
    obtain ⟨c, hc⟩ := decides_of_carried carried
    refine ⟨fun ⟨e, he⟩ => ?_, fun h => ?_⟩
    · rw [load] at he
      cases he
    · obtain ⟨e, he⟩ := h.2 c text hc
      cases verdict.symm.trans he
  | accepted text s carried verdict load =>
    obtain ⟨c, hc⟩ := decides_of_carried carried
    refine ⟨fun ⟨e, he⟩ => ?_, fun h => ?_⟩
    · rw [load] at he
      cases he
    · obtain ⟨e, he⟩ := h.2 c text hc
      cases verdict.symm.trans he

/-- Loading breaks off exactly if the value that decides is too far away for its age to be told. -/
theorem load_overflow_iff :
    (m.load now headers).1 = .overflow ↔
      ∃ c text, Decides m.key headers c text ∧ accept now.second text = .overflow := by
  constructor
  · intro h
    cases load_loads m now headers with
    | absent missing load => rw [load] at h; cases h
    | undecryptable present carried load => rw [load] at h; cases h
    | refused text e carried verdict load => rw [load] at h; cases h
    | overflow text carried verdict load =>
      obtain ⟨c, hc⟩ := decides_of_carried carried
      exact ⟨c, text, hc, verdict⟩
    | accepted text s carried verdict load => rw [load] at h; cases h
  · rintro ⟨c, text, hc, hverdict⟩
    rw [load_of_verdict hc.carried, hverdict]

end Readable

end Session.Manager

namespace Http.Service

open Session (Manager Fresh)
open Session.Manager (Readable Decides)

variable {σ : Type} {v : Service σ Manager}

/-! ## What a request comes to -/

/-- Nobody is asked for a request whose session cannot be loaded, and nothing changes. -/
theorem frame_of_error (hv : v.keeper = Manager.keeper) {now : Moment} (fresh : Fresh)
    {request : Request} (st : State σ Manager) (hmethod : request.method ≠ "OPTIONS")
    {e : Session.Error} (hload : (st.sessions.load now request.cookies).1 = .error e) :
    (v.serve now fresh request st).asked = [] ∧ (v.serve now fresh request st).state = st := by
  obtain ⟨headers, hserve⟩ := serve_of_guarded (v := v) now fresh st hmethod
  have hpair : st.sessions.load now request.cookies = (.error e, st.sessions) :=
    Prod.ext hload (Manager.load_snd_of_ne fun s hs => by cases hload.symm.trans hs)
  rw [hserve, serveGuarded_of_error hv hpair]
  exact ⟨rfl, rfl⟩

/-- Nor for one that is given up. -/
theorem serve_of_overflow (hv : v.keeper = Manager.keeper) {now : Moment} (fresh : Fresh)
    {request : Request} (st : State σ Manager) (hmethod : request.method ≠ "OPTIONS")
    (hload : (st.sessions.load now request.cookies).1 = .overflow) :
    v.serve now fresh request st = ⟨none, [], st⟩ := by
  obtain ⟨headers, hserve⟩ := serve_of_guarded (v := v) now fresh st hmethod
  have hpair : st.sessions.load now request.cookies = (.overflow, st.sessions) :=
    Prod.ext hload (Manager.load_snd_of_ne fun s hs => by cases hload.symm.trans hs)
  rw [hserve, serveGuarded_of_overflow hv hpair]
  rfl

/-- Cookies matter only for what is loaded from them. -/
theorem serve_congr_cookies (now : Moment) (fresh : Fresh) {request : Request}
    {st : State σ Manager} {headers : List Bytes}
    (h : v.keeper.load now headers st.sessions = v.keeper.load now request.cookies st.sessions) :
    v.serve now fresh { request with cookies := headers } st = v.serve now fresh request st := by
  have henter : v.enter now { request with cookies := headers } st.sessions
      = v.enter now request st.sessions := by
    rw [enter, enter]
    dsimp only
    rw [h]
  have hguarded : v.serveGuarded now fresh { request with cookies := headers } st
      = v.serveGuarded now fresh request st := by
    rw [serveGuarded, serveGuarded, henter]
    rfl
  rw [serve, serve, hguarded]
  rfl

/-- **When a request is rejected.** Loading the session of a request fails exactly if some value of
its cookie can be read and the one that decides, if any opens, is refused; for want of one that
opens, exactly if some can be read and none of these opens. Then the request is answered with
status 400 and told to drop the cookie; nobody is asked, and nothing changes. It is given up
exactly if the one that decides is too far away for its age to be told; nobody is asked then
either, and nothing changes. But if no value can be read, the request is served as if it had sent
no cookie. -/
theorem rejected_iff_readable (hv : v.keeper = Manager.keeper) (now : Moment) (fresh : Fresh)
    {request : Request} (st : State σ Manager) (hmethod : request.method ≠ "OPTIONS") :
    let m := st.sessions
    let loaded := (m.load now request.cookies).1
    let served := v.serve now fresh request st
    ((∃ e, loaded = .error e) ↔ (∃ value, Readable request.cookies value) ∧
      ∀ c text, Decides m.key request.cookies c text →
        ∃ e, Manager.accept now.second text = .error e) ∧
    (loaded = .error .undecryptable ↔ (∃ value, Readable request.cookies value) ∧
      ∀ value, Readable request.cookies value →
        Cookie.open? m.key ⟨Session.cookieName, value⟩ = none) ∧
    (loaded = .overflow ↔ ∃ c text, Decides m.key request.cookies c text ∧
      Manager.accept now.second text = .overflow) ∧
    (∀ e, loaded = .error e →
      (∃ r, served.response = some r ∧ r.status = 400 ∧ r.body = [] ∧
        ∃ c, r.cookies = [c] ∧ m.Drops c) ∧ served.asked = [] ∧ served.state = st) ∧
    (loaded = .overflow → served = ⟨none, [], st⟩) ∧
    ((¬∃ value, Readable request.cookies value) →
      loaded = .ok none ∧ served = v.serve now fresh { request with cookies := [] } st) := by
  intro m loaded served
  refine ⟨Manager.load_error_iff, Manager.load_undecryptable_iff, Manager.load_overflow_iff,
    fun e he => ⟨drops_of_error hv fresh hmethod he, frame_of_error hv fresh st hmethod he⟩,
    fun hfar => serve_of_overflow hv fresh st hmethod hfar, fun hnone => ?_⟩
  have hnil : ¬∃ value, Readable [] value := by
    rintro ⟨value, header, hmem, -⟩
    cases hmem
  have hload : m.load now [] = m.load now request.cookies :=
    (Manager.load_of_unreadable hnil).trans (Manager.load_of_unreadable hnone).symm
  refine ⟨Manager.load_none_iff.mpr hnone, (serve_congr_cookies now fresh ?_).symm⟩
  rw [hv]
  exact hload

/-- A login that the service would grant, with a header of cookies. -/
def headedRequest (header : Bytes) : Request := { loginRequest with cookies := [header] }

/-- A value that was never sealed is rejected, whatever the provider would have said to
the login. -/
theorem rejected_iff_readable_garbage :
    let request := headedRequest (Utf8.encode "_id=garbage")
    let served := lenient.serve ⟨0, 0⟩ ⟨.zero, .replicate 12 0⟩ request
      ⟨(), .ofSecrets Secrets.sample true⟩
    request.method ≠ "OPTIONS" ∧ (∃ r, served.response = some r ∧ r.status = 400) ∧
      served.asked = [] := by
  intro request served
  have hmethod : request.method ≠ "OPTIONS" := by decide
  have hcands : Manager.candidates request.cookies
      = [⟨Session.cookieName, Utf8.encode "garbage"⟩] := by decide +kernel
  have hdecode : Base64.decode .standard .canonical (Utf8.encode "garbage")
      = .error .invalidPadding := by rfl
  have hread : ∃ value, Readable request.cookies value :=
    Manager.exists_readable_iff.mpr (by rw [hcands]; exact List.cons_ne_nil _ _)
  have hsealed : ∀ value, Readable request.cookies value →
      Cookie.open? Secrets.sample.key ⟨Session.cookieName, value⟩ = none := by
    intro value hvalue
    have hmem := (Manager.mem_candidates_iff (c := ⟨Session.cookieName, value⟩)).mpr ⟨rfl, hvalue⟩
    rw [hcands, List.mem_singleton] at hmem
    rw [hmem]
    exact Cookie.open?_of_decode hdecode
  obtain ⟨-, hundecryptable, -, hrejected, -⟩ := rejected_iff_readable (v := lenient) rfl ⟨0, 0⟩
    ⟨.zero, .replicate 12 0⟩ ⟨(), .ofSecrets Secrets.sample true⟩ hmethod
  obtain ⟨⟨r, hr, hstatus, -⟩, hasked, -⟩ := hrejected _ (hundecryptable.mpr ⟨hread, hsealed⟩)
  exact ⟨hmethod, ⟨r, hr, hstatus⟩, hasked⟩

/-- A value that decodes to no text does not open either, but it is not rejected. -/
theorem not_garbage_rejected : ¬∀ (now : Moment) (fresh : Fresh) (request : Request)
    (st : State Unit Manager), request.method ≠ "OPTIONS" →
      (∃ header ∈ request.cookies, ∃ value, Cookie.Spells header Session.cookieName value) →
      (∀ header ∈ request.cookies, ∀ value, Cookie.Spells header Session.cookieName value →
        Cookie.open? st.sessions.key ⟨Session.cookieName, Percent.decode value⟩ = none) →
      (∃ e, (st.sessions.load now request.cookies).1 = .error e) ∧
        (∃ r, (lenient.serve now fresh request st).response = some r ∧ r.status = 400 ∧
          r.cookies = [st.sessions.clear]) ∧
        (lenient.serve now fresh request st).asked = [] := by
  intro hrejected
  let header := Utf8.encode "_id=%FF"
  let m := Manager.ofSecrets Secrets.sample true
  -- The header has a part for the session, but it is passed over: there is nothing to open.
  have hcands : Manager.candidates [header] = [] := by decide +kernel
  have hdecode : Base64.decode .standard .canonical (Percent.decode (Utf8.encode "%FF"))
      = .error (.invalidByte 0 255) := by rfl
  have hspells : ∀ value, Cookie.Spells header Session.cookieName value ↔
      value = Utf8.encode "%FF" := by
    intro value
    have hparts : header.splitOn Cookie.semicolon = [header] := by decide +kernel
    have hhalves : Cookie.halves? header = some (Session.cookieName, Utf8.encode "%FF") := by
      decide +kernel
    rw [Cookie.Spells, hparts]
    simp only [List.mem_singleton, exists_eq_left, hhalves, Option.some.injEq, Prod.mk.injEq,
      true_and]
    exact eq_comm
  obtain ⟨⟨e, he⟩, -⟩ := hrejected ⟨0, 0⟩ ⟨.zero, .replicate 12 0⟩ (headedRequest header) ⟨(), m⟩
    (by decide) ⟨header, List.mem_singleton_self _, _, (hspells _).mpr rfl⟩ (by
      intro header' hheader value hvalue
      obtain rfl : header' = header := List.mem_singleton.mp hheader
      rw [(hspells value).mp hvalue]
      exact Cookie.open?_of_decode hdecode)
  have hnone : (m.load ⟨0, 0⟩ [header]).1 = .ok none :=
    Manager.load_none_iff.mpr fun hread => Manager.exists_readable_iff.mp hread hcands
  cases hnone.symm.trans he

end Http.Service

end SignIn
