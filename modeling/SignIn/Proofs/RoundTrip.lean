import SignIn.Proofs.Loading

/-!
# A session comes back

Writing a session and loading it are inverse to each other, whatever the session is: the printed
payload is sealed, the sealed value is percent-encoded, and a browser sends the pair back among
other cookies. The cookie that decides is the last one that is named for the session, so all that
is asked of the browser is that nothing behind the pair has that name.
-/

namespace SignIn

/-! ## What a browser sends -/

namespace Cookie

/-- The name of a part as it is decoded, if the part has one. -/
def decodedName? (part : Bytes) : Option Bytes := (halves? part).map fun h => Percent.decode h.1

theorem decodedName?_of_ofPart? {part : Bytes} {c : Cookie} (h : ofPart? part = some c) :
    decodedName? part = some c.name := by
  obtain ⟨name, value, hhalves, hc⟩ := ofPart?_eq_some_iff.mp h
  obtain ⟨-, -, -, hname, -⟩ := ofSpelling?_eq_some_iff.mp hc
  rw [decodedName?, hhalves, ← hname]
  rfl

/-- The headers send a pair in a header that is visible text, with blanks around it, and no part
behind it has a name that decodes to the given one. What stands before it may be anything. -/
def SendsLast (name pair : Bytes) (headers : List Bytes) : Prop :=
  ∃ (earlier later before after : List Bytes) (header lead trail : Bytes),
    headers = earlier ++ header :: later ∧ header.all isVisible = true ∧
    header.splitOn semicolon = before ++ (lead ++ pair ++ trail) :: after ∧
    (∀ b ∈ lead, isBlank b = true) ∧ (∀ b ∈ trail, isBlank b = true) ∧
    (∀ part ∈ after, decodedName? part ≠ some name) ∧
    ∀ h ∈ later, h.all isVisible = true →
      ∀ part ∈ h.splitOn semicolon, decodedName? part ≠ some name

/-- The pair may stand between other parts, such as an older cookie of the same name. -/
theorem sendsLast_between {name first last : Bytes} (c : CookieChange)
    (hfirst : first.all isVisible = true) (hlast : last.all isVisible = true)
    (hafter : ∀ part ∈ last.splitOn semicolon, decodedName? part ≠ some name) :
    SendsLast name c.pair [first ++ semicolon :: (c.pair ++ semicolon :: last)] := by
  have hpair : c.pair.all isVisible = true :=
    List.all_eq_true.mpr fun b hb => visible_of_graphic (CookieChange.graphic_of_mem_pair hb).1
  have hwhole : semicolon ∉ c.pair := fun hb => (CookieChange.graphic_of_mem_pair hb).2 rfl
  refine ⟨[], [], first.splitOn semicolon, last.splitOn semicolon, _, [], [], rfl, ?_, ?_,
    by simp, by simp, hafter, by simp⟩
  · rw [List.all_append, List.all_cons, List.all_append, List.all_cons, hfirst, hpair, hlast]
    rfl
  · rw [List.splitOn_append_cons_self, List.splitOn_append_cons_self_of_not_mem hwhole,
      List.nil_append, List.append_nil]

/-- Parts that do not have the name give no cookie of it. -/
theorem filter_parts_eq_nil {name : Bytes} {parts : List Bytes}
    (h : ∀ part ∈ parts, decodedName? part ≠ some name) :
    (parts.filterMap ofPart?).filter (·.name == name) = [] := by
  rw [List.filter_eq_nil_iff]
  intro c hc hn
  obtain ⟨part, hpart, hof⟩ := List.mem_filterMap.mp hc
  exact h part hpart (decodedName?_of_ofPart? hof ▸ congrArg some (beq_iff_eq.mp hn))

/-- Nor do headers, if the visible ones have no such part. -/
theorem filter_headers_eq_nil {name : Bytes} {headers : List Bytes}
    (h : ∀ header ∈ headers, header.all isVisible = true →
      ∀ part ∈ header.splitOn semicolon, decodedName? part ≠ some name) :
    (ofHeaders headers).filter (·.name == name) = [] := by
  rw [List.filter_eq_nil_iff]
  intro c hc hn
  obtain ⟨header, hmem, hc⟩ := List.mem_flatMap.mp hc
  rw [ofHeader] at hc
  split at hc
  · rename_i hvis
    obtain ⟨part, hpart, hof⟩ := List.mem_filterMap.mp hc
    exact h header hmem hvis part hpart
      (decodedName?_of_ofPart? hof ▸ congrArg some (beq_iff_eq.mp hn))
  · cases hc

/-- The pair is the last of the cookies that have its name. -/
theorem filter_of_sendsLast {c : CookieChange} {headers : List Bytes} (hne : c.name ≠ [])
    (hname : Utf8.IsText c.name) (hvalue : Utf8.IsText c.value)
    (h : SendsLast c.name c.pair headers) :
    ∃ cs, (ofHeaders headers).filter (·.name == c.name) = cs ++ [⟨c.name, c.value⟩] := by
  obtain ⟨earlier, later, before, after, header, lead, trail, rfl, hvis, hsplit, hlead, htrail,
    hafter, hlater⟩ := h
  have hpart := c.ofPart?_pair hne hname hvalue hlead htrail
  have hlast : (ofHeaders later).filter (·.name == c.name) = [] := filter_headers_eq_nil hlater
  have hthis : (ofHeader header).filter (·.name == c.name)
      = (before.filterMap ofPart?).filter (·.name == c.name) ++ [⟨c.name, c.value⟩] := by
    rw [ofHeader, if_pos hvis, hsplit, List.filterMap_append, List.filterMap_cons_some hpart,
      List.filter_append, List.filter_cons_of_pos (by simp), filter_parts_eq_nil hafter]
  -- Earlier headers and earlier parts of this one may hold cookies of the name, but they come
  -- first.
  refine ⟨(ofHeaders earlier).filter (·.name == c.name)
    ++ (before.filterMap ofPart?).filter (·.name == c.name), ?_⟩
  rw [ofHeaders, List.flatMap_append, List.flatMap_cons, List.filter_append, List.filter_append,
    hthis]
  rw [ofHeaders] at hlast
  rw [hlast, List.append_nil, ← List.append_assoc]
  rfl

/-- A pair on its own is one cookie. -/
theorem ofHeaders_pair (c : CookieChange) (hne : c.name ≠ []) (hname : Utf8.IsText c.name)
    (hvalue : Utf8.IsText c.value) : ofHeaders [c.pair] = [⟨c.name, c.value⟩] := by
  have hvis : c.pair.all isVisible = true :=
    List.all_eq_true.mpr fun b hb => visible_of_graphic (CookieChange.graphic_of_mem_pair hb).1
  have hwhole : semicolon ∉ c.pair := fun hb => (CookieChange.graphic_of_mem_pair hb).2 rfl
  have hpart : ofPart? c.pair = some ⟨c.name, c.value⟩ := by
    have hnil : ∀ b ∈ ([] : Bytes), isBlank b = true := by simp
    have h := c.ofPart?_pair hne hname hvalue hnil hnil
    rwa [List.nil_append, List.append_nil] at h
  rw [ofHeaders, List.flatMap_singleton, ofHeader, if_pos hvis, List.splitOn_eq_singleton hwhole,
    List.filterMap_cons_some hpart, List.filterMap_nil]

end Cookie

/-! ## Loading what was set -/

/-- Two secrets to try things with. -/
def Secrets.sample : Secrets where
  sign := ⟨List.replicate 32 1, by decide⟩
  encrypt := ⟨List.replicate 32 2, by decide⟩

namespace Session.Manager

theorem cookieName_ne_nil : cookieName ≠ [] := by decide

theorem text_cookieName : Utf8.IsText cookieName := Utf8.isText_encode _

/-- The pair of a cookie that the manager sets carries what was sealed. -/
theorem carried?_cookie {m : Manager} {nonce : Nonce} {p : Payload} {headers : List Bytes}
    (h : Cookie.SendsLast cookieName (m.cookie nonce p).pair headers) :
    carried? m.key headers = some p.print := by
  have hopen : Cookie.open? m.key ⟨cookieName, (m.cookie nonce p).value⟩ = some p.print :=
    Cookie.open?_sealed m.key nonce cookieName p.isText_print
  obtain ⟨cs, hcs⟩ := Cookie.filter_of_sendsLast (c := m.cookie nonce p) cookieName_ne_nil
    text_cookieName (Cookie.isText_sealed _ _ _ _) h
  have hcands : candidates headers = cs ++ [⟨cookieName, (m.cookie nonce p).value⟩] := hcs
  rw [carried?, hcands]
  exact lastOpened?_append hopen (by simp)

/-- The pair of a cookie that the manager sets is one cookie for the session, which decides. -/
theorem candidates_cookie (m : Manager) (nonce : Nonce) (p : Payload) :
    candidates [(m.cookie nonce p).pair] = [⟨cookieName, (m.cookie nonce p).value⟩] := by
  rw [candidates, Cookie.ofHeaders_pair (m.cookie nonce p) cookieName_ne_nil text_cookieName
    (Cookie.isText_sealed _ _ _ _)]
  exact List.filter_cons_of_pos (beq_self_eq_true cookieName)

theorem decides_cookie (m : Manager) (nonce : Nonce) (p : Payload) :
    Decides m.key [(m.cookie nonce p).pair] ⟨cookieName, (m.cookie nonce p).value⟩ p.print := by
  refine ⟨Cookie.open?_sealed m.key nonce cookieName p.isText_print, [], [], ?_, by simp⟩
  rw [candidates_cookie]
  rfl

/-- A cookie of the same key that has not expired is loaded. -/
theorem load_cookie (m m' : Manager) (hkey : m'.key = m.key) {n : Nonce} {p : Payload}
    {now : Moment} {age : Int} (hage : age? p.issuedAt now.second = some age)
    (hyoung : age ≤ maxAge) :
    m'.load now [(m.cookie n p).pair]
      = (.ok (some (m'.downgrade now p.session).1), (m'.downgrade now p.session).2) := by
  have hcarried : carried? m'.key [(m.cookie n p).pair] = some p.print := by
    rw [hkey]
    exact (decides_cookie m n p).carried
  exact load_of_young hcarried p.parse_print hage hyoung

/-- A session that is set by one manager and loaded by another with the same key. -/
theorem load_of_sendsLast (m₁ m₂ : Manager) (hkey : m₁.key = m₂.key) {s : Session} {nonce : Nonce}
    {t₁ t₂ : Moment} {headers : List Bytes}
    (hage : (t₂.wallSecond - t₁.wallSecond).natAbs ≤ maxAge)
    (hsent : Cookie.SendsLast cookieName (m₁.set t₁ nonce s).1.pair headers) :
    m₂.load t₂ headers = (.ok (some (m₂.downgrade t₂ s).1), (m₂.downgrade t₂ s).2) := by
  have hcarried : carried? m₂.key headers = some (Payload.mk s t₁.second).print := by
    rw [set_fst] at hsent
    rw [← hkey]
    exact carried?_cookie hsent
  -- The seconds are close to each other, so their difference does not overflow.
  have hmax : maxAge = 900 := rfl
  have hfits : age? t₁.second t₂.second = some (t₂.second.toInt - t₁.second.toInt) := by
    rw [age?_eq_some_iff, t₁.toInt_second, t₂.toInt_second]
    omega
  have hyoung : t₂.second.toInt - t₁.second.toInt ≤ maxAge := by
    rw [t₁.toInt_second, t₂.toInt_second]
    omega
  exact load_of_young hcarried (Payload.mk s t₁.second).parse_print hfits hyoung

/-- **A session comes back as it was written.** Two managers that were built from the same secrets,
whatever else is different about them, agree on every session: what one of them sets is loaded by
the other as the same session, logged out if the other has revoked its id. -/
theorem load_returned (secrets : Secrets) (secure₁ secure₂ : Bool) (r₁ r₂ : Revocations)
    (s : Session) (nonce : Nonce) (t₁ t₂ : Moment) (headers : List Bytes)
    (hage : (t₂.wallSecond - t₁.wallSecond).natAbs ≤ maxAge)
    (hsent : Cookie.SendsLast cookieName
      (CookieChange.returned ((Manager.mk secrets.key secure₁ r₁).set t₁ nonce s).1.header)
      headers) :
    ((Manager.mk secrets.key secure₂ r₂).load t₂ headers).1
      = .ok (some { s with
          isLoggedIn := s.isLoggedIn && !(r₂.contains s.id t₂.uptime).1 }) := by
  rw [CookieChange.returned_header] at hsent
  have hload := load_of_sendsLast ⟨secrets.key, secure₁, r₁⟩ ⟨secrets.key, secure₂, r₂⟩ rfl hage
    hsent
  rw [hload, downgrade_fst]

/-- A name that every layer has to escape, in a cookie that stands behind an older one. -/
theorem load_returned_quoted :
    ((Manager.mk Secrets.sample.key false (.empty revocationWindow)).load ⟨900000, 1⟩
      [Utf8.encode "theme=dark; _id=older" ++ Cookie.semicolon ::
        (CookieChange.returned ((Manager.mk Secrets.sample.key true ⟨5, []⟩).set ⟨0, 7⟩
          (.replicate 12 0) ⟨-1, "\"a\\b;c=d%e\n", true, .zero⟩).1.header ++
          Cookie.semicolon :: Utf8.encode " %5Fid2=x")]).1
      = .ok (some ⟨-1, "\"a\\b;c=d%e\n", true, .zero⟩) :=
  load_returned Secrets.sample true false ⟨5, []⟩ (.empty revocationWindow)
    ⟨-1, "\"a\\b;c=d%e\n", true, .zero⟩ (.replicate 12 0) ⟨0, 7⟩ ⟨900000, 1⟩ _ (by decide +kernel)
    (by
      rw [CookieChange.returned_header]
      exact Cookie.sendsLast_between _ (by decide +kernel) (by decide +kernel) (by decide +kernel))

end Session.Manager

end SignIn
