import SignIn.Proofs.JsonRecord
import SignIn.Proofs.ReplyText
import SignIn.Token.Inquiry

/-!
# When the provider vouches for a token

A token is accepted on the strength of one reply. That is the first one that does not redirect; of
a question no more than ten redirects are followed (`Network.Reaches`). Four things are looked at,
in this order: the status, whether the body arrived and can be read, whom the token was issued for,
and by whom. The first of them that is not as it should be is the reason given, whatever else is
wrong with the reply.
-/

namespace SignIn

namespace Status

theorem isSuccess_iff {code : Nat} : isSuccess code = true ↔ 200 ≤ code ∧ code ≤ 299 := by
  rw [isSuccess, beq_iff_eq]
  omega

theorem isRedirect_iff {code : Nat} :
    isRedirect code = true ↔ code ∈ [301, 302, 303, 307, 308] := by
  rw [isRedirect, List.contains_iff_mem]

end Status

namespace Token

/-! ## One check after the other -/

section Judge

variable {audience : String} {r : Reply}

theorem judge_of_failure (h : ¬Status.isSuccess r.status = true) :
    judge audience r = .error (.rejected (Status.text r.status)) := by
  rw [judge, if_pos h]

theorem judge_of_unreadable (h : Status.isSuccess r.status = true)
    (hread : ∀ body info, r.content? = some body → Info.parse body ≠ .ok info) :
    judge audience r = .error (.unanswered .decode) := by
  rw [judge, if_neg (by simpa using h)]
  cases hbody : r.content? with
  | none => rfl
  | some body =>
    cases hparse : Info.parse body with
    | error e => simp [hparse]
    | ok info => exact absurd hparse (hread body info hbody)

theorem judge_of_read (h : Status.isSuccess r.status = true) {body : Bytes} {info : Info}
    (hbody : r.content? = some body) (hparse : Info.parse body = .ok info) :
    judge audience r = info.check audience := by
  rw [judge, if_neg (by simpa using h), hbody, Option.map_some, hparse]

end Judge

theorem Info.check_of_ne {i : Info} {audience : String} (h : i.audience ≠ audience) :
    i.check audience = .error .wrongAudience := by
  rw [Info.check, if_pos h]

theorem Info.check_of_untrusted {i : Info} {audience : String} (h : i.audience = audience)
    (hissuer : i.issuer ∉ Info.trustedIssuers) :
    i.check audience = .error (.untrustedIssuer i.issuer) := by
  rw [Info.check, if_neg (by simpa using h), if_pos hissuer]

/-! ## Redirects -/

namespace Network

/-- A reply from an endpoint, with a status that redirects, names a place that leads somewhere or
nowhere. -/
def Leads (n : Network) (e : Endpoint) (status : Nat) (location : Option Bytes)
    (lead : Lead) : Prop :=
  status ∈ [301, 302, 303, 307, 308] ∧ ∃ place ∈ location, n.locate e place = lead

variable {n : Network} {audience : String} {e e' : Endpoint} {r : Reply}

/-! ### One reply -/

theorem lead_of_leads {lead : Lead} (h : n.Leads e r.status r.location lead) :
    n.lead e r = lead := by
  obtain ⟨hstatus, place, hplace, rfl⟩ := h
  rw [Network.lead, if_pos (Status.isRedirect_iff.mpr hstatus), Option.mem_def.mp hplace]
  rfl

theorem lead_cases (n : Network) (e : Endpoint) (r : Reply) :
    n.lead e r = .nowhere ∨ n.Leads e r.status r.location (n.lead e r) := by
  by_cases hstatus : r.status ∈ [301, 302, 303, 307, 308]
  · cases hlocation : r.location with
    | none =>
      left
      rw [lead, hlocation, Option.map_none, Option.getD_none, ite_self]
    | some place =>
      right
      have hleads : n.Leads e r.status r.location (n.locate e place) :=
        ⟨hstatus, place, hlocation, rfl⟩
      rw [lead_of_leads hleads, ← hlocation]
      exact hleads
  · left
    rw [lead, if_neg (mt Status.isRedirect_iff.mp hstatus)]

theorem conclude_of_nowhere (h : n.lead e r = .nowhere) (room redirects : Nat) :
    n.conclude audience room redirects e (some r) = judge audience r := by
  rw [conclude.eq_def]
  dsimp only
  rw [h]

theorem conclude_of_exhausted (h : n.lead e r ≠ .nowhere) (redirects : Nat) :
    n.conclude audience 0 redirects e (some r) = .error (.unanswered .redirect) := by
  rw [conclude.eq_def]
  dsimp only
  cases hlead : n.lead e r with
  | nowhere => exact absurd hlead h
  | astray stage => rfl
  | onward e' => rfl

theorem conclude_of_astray {stage : Stage} (h : n.lead e r = .astray stage)
    (room redirects : Nat) :
    n.conclude audience (room + 1) redirects e (some r) = .error (.unanswered stage) := by
  rw [conclude.eq_def]
  dsimp only
  rw [h]

theorem conclude_of_onward (h : n.lead e r = .onward e') (room redirects : Nat) :
    n.conclude audience (room + 1) redirects e (some r)
      = n.conclude audience room (redirects + 1) e' (n.hear (redirects + 1) e') := by
  rw [conclude.eq_def]
  dsimp only
  rw [h]

/-! ### One after the other -/

/-- A question that first goes to one endpoint goes to another after some redirects, of which there
are no more than ten. -/
inductive Reaches (n : Network) (first : Endpoint) : Nat → Endpoint → Prop
  | first : Reaches n first 0 first
  | redirect {redirects : Nat} {e e' : Endpoint} {status : Nat} {length : Option Nat}
      {location : Option Bytes} {received : Bytes} (reached : Reaches n first redirects e)
      (few : redirects < 10)
      (sent : Reply.Sent status length location received (n.reply redirects e (requestLine e)))
      (limit : ∀ l ∈ length, l < Head.lengthLimit)
      (leads : n.Leads e status location (.onward e')) : Reaches n first (redirects + 1) e'

variable {first : Endpoint} {redirects : Nat}

theorem Reaches.le (h : n.Reaches first redirects e) : redirects ≤ 10 := by
  cases h with
  | first => exact Nat.zero_le 10
  | redirect reached few => exact few

/-- What comes of the first reply is what comes of the one that redirects lead to. -/
theorem Reaches.conclude_eq (h : n.Reaches first redirects e) :
    n.conclude audience maxRedirects 0 first (n.hear 0 first)
      = n.conclude audience (maxRedirects - redirects) redirects e (n.hear redirects e) := by
  induction h with
  | first => rfl
  | redirect reached few sent limit leads ih =>
    rename_i redirects e e' status length location received
    have hmax : maxRedirects = 10 := rfl
    have hroom : maxRedirects - redirects = maxRedirects - (redirects + 1) + 1 := by omega
    have hheard : n.hear redirects e = some _ := sent.read? limit
    rw [ih, hroom, hheard]
    exact conclude_of_onward (lead_of_leads leads) _ redirects

/-- A question comes to an end: if every reply is one, then so is some last one, which leads to no
further endpoint or is the eleventh. -/
theorem exists_last (n : Network) (first : Endpoint)
    (h : ∀ redirects e, ∃ status length location received,
      Reply.Sent status length location received (n.reply redirects e (requestLine e)) ∧
        ∀ l ∈ length, l < Head.lengthLimit) :
    ∃ redirects last status length location received, n.Reaches first redirects last ∧
      Reply.Sent status length location received (n.reply redirects last (requestLine last)) ∧
      (∀ l ∈ length, l < Head.lengthLimit) ∧
      (redirects = 10 ∨ ∀ e, ¬n.Leads last status location (.onward e)) := by
  -- By induction on how many redirects may still follow, from any endpoint that was reached.
  have hfrom : ∀ room redirects e, redirects + room = 10 → n.Reaches first redirects e →
      ∃ redirects last status length location received, n.Reaches first redirects last ∧
        Reply.Sent status length location received (n.reply redirects last (requestLine last)) ∧
        (∀ l ∈ length, l < Head.lengthLimit) ∧
        (redirects = 10 ∨ ∀ e, ¬n.Leads last status location (.onward e)) := by
    intro room
    induction room with
    | zero =>
      intro redirects e hroom hreached
      obtain ⟨status, length, location, received, hsent, hlimit⟩ := h redirects e
      exact ⟨redirects, e, status, length, location, received, hreached, hsent, hlimit, .inl hroom⟩
    | succ room ih =>
      intro redirects e hroom hreached
      obtain ⟨status, length, location, received, hsent, hlimit⟩ := h redirects e
      by_cases honward : ∃ e', n.Leads e status location (.onward e')
      · obtain ⟨e', hleads⟩ := honward
        exact ih (redirects + 1) e' (by omega)
          (.redirect hreached (by omega) hsent hlimit hleads)
      · exact ⟨redirects, e, status, length, location, received, hreached, hsent, hlimit,
          .inr (not_exists.mp honward)⟩
  exact hfrom 10 0 first rfl .first

end Network

/-! ## The last reply -/

section Last

variable {url token audience : String} {network : Network} {first last : Endpoint}
  {redirects status : Nat} {length : Option Nat} {location : Option Bytes} {received : Bytes}

/-- A status of success does not redirect. -/
theorem stands_of_success (hsuccess : 200 ≤ status ∧ status ≤ 299) (lead : Lead)
    (h : network.Leads last status location lead) : lead = .nowhere := by
  have hstatus := h.1
  simp only [List.mem_cons, List.not_mem_nil, or_false] at hstatus
  omega

variable (hurl : inquiry url token = some first)
  (hreached : network.Reaches first redirects last)
  (hsent : Reply.Sent status length location received
    (network.reply redirects last (requestLine last)))
  (hlimit : ∀ l ∈ length, l < Head.lengthLimit)

include hurl hreached hsent hlimit

/-- The verdict is what comes of the reply that redirects lead to. -/
theorem verify_of_sent :
    verify url network token audience
      = network.conclude audience (Network.maxRedirects - redirects) redirects last
          (some ⟨status, location, Head.announced status length, received⟩) := by
  have hheard : network.hear redirects last = some _ := hsent.read? hlimit
  rw [verify, hurl, ← hheard]
  exact hreached.conclude_eq

/-- A reply that leads nowhere is judged. -/
theorem verify_of_judged (hstands : ∀ lead, network.Leads last status location lead →
    lead = .nowhere) :
    verify url network token audience
      = judge audience ⟨status, location, Head.announced status length, received⟩ := by
  let r : Reply := ⟨status, location, Head.announced status length, received⟩
  have hlead : network.lead last r = .nowhere := by
    rcases network.lead_cases last r with hnowhere | hleads
    · exact hnowhere
    · exact hstands _ hleads
  rw [verify_of_sent hurl hreached hsent hlimit, Network.conclude_of_nowhere hlead]

theorem verify_of_failure (hfailure : ¬(200 ≤ status ∧ status ≤ 299))
    (hstands : ∀ lead, network.Leads last status location lead → lead = .nowhere) :
    verify url network token audience = .error (.rejected (Status.text status)) := by
  rw [verify_of_judged hurl hreached hsent hlimit hstands]
  exact judge_of_failure (mt Status.isSuccess_iff.mp hfailure)

theorem verify_of_exhausted {lead : Lead} (hleads : network.Leads last status location lead)
    (hne : lead ≠ .nowhere) (hten : redirects = 10) :
    verify url network token audience = .error (.unanswered .redirect) := by
  let r : Reply := ⟨status, location, Head.announced status length, received⟩
  have hlead : network.lead last r = lead := Network.lead_of_leads hleads
  rw [verify_of_sent hurl hreached hsent hlimit, hten]
  exact Network.conclude_of_exhausted (hlead.symm ▸ hne) 10

theorem verify_of_astray {stage : Stage}
    (hleads : network.Leads last status location (.astray stage)) (hfew : redirects < 10) :
    verify url network token audience = .error (.unanswered stage) := by
  let r : Reply := ⟨status, location, Head.announced status length, received⟩
  have hlead : network.lead last r = .astray stage := Network.lead_of_leads hleads
  have hmax : Network.maxRedirects = 10 := rfl
  have hroom : Network.maxRedirects - redirects = 10 - redirects - 1 + 1 := by omega
  rw [verify_of_sent hurl hreached hsent hlimit, hroom]
  exact Network.conclude_of_astray hlead _ redirects

/-- Whatever a reply that is no success leads to, the token is not accepted. -/
theorem verify_ne_ok_of_failure (hfailure : ¬(200 ≤ status ∧ status ≤ 299))
    (hlast : redirects = 10 ∨ ∀ e, ¬network.Leads last status location (.onward e)) :
    verify url network token audience ≠ .ok () := by
  intro hok
  by_cases hstands : ∀ lead, network.Leads last status location lead → lead = .nowhere
  · cases (verify_of_failure hurl hreached hsent hlimit hfailure hstands).symm.trans hok
  · obtain ⟨lead, hleads, hne⟩ :
        ∃ lead, network.Leads last status location lead ∧ lead ≠ .nowhere := by
      simpa using hstands
    by_cases hten : redirects = 10
    · cases (verify_of_exhausted hurl hreached hsent hlimit hleads hne hten).symm.trans hok
    · have hfew : redirects < 10 := Nat.lt_of_le_of_ne hreached.le hten
      cases lead with
      | nowhere => exact hne rfl
      | astray stage =>
        cases (verify_of_astray hurl hreached hsent hlimit hleads hfew).symm.trans hok
      | onward e => exact hlast.resolve_left hten e hleads

end Last

/-- A reply says something of a token: its body has arrived, as long as was announced, and can be
read. Replies with status 204 have no body. -/
def Tells (status : Nat) (length : Option Nat) (received : Bytes) (info : Info) : Prop :=
  status ≠ 204 ∧ (∀ l ∈ length, l ≤ received.length) ∧
    Info.parse (received.take (length.getD received.length)) = .ok info

/-- What a reply with a status of success tells is what its content is read as. -/
theorem content?_iff_tells {status : Nat} {length : Option Nat} {location : Option Bytes}
    {received : Bytes} {info : Info} (hsuccess : 200 ≤ status ∧ status ≤ 299) :
    (∃ body, (Reply.mk status location (Head.announced status length) received).content?
      = some body
        ∧ Info.parse body = .ok info) ↔
      Tells status length received info := by
  by_cases hempty : status = 204
  · subst hempty
    -- The body is empty, and nothing can be read from that.
    have hnothing : Info.parse [] = .error .endInValue := by rfl
    constructor
    · rintro ⟨body, hbody, hparse⟩
      obtain rfl : [] = body := Option.some.inj hbody
      cases hnothing.symm.trans hparse
    · rintro ⟨hne, -⟩
      exact absurd rfl hne
  · have hbodied : Head.isBodiless status = false := by
      simp only [Head.isBodiless, Bool.or_eq_false_iff, beq_eq_false_iff_ne]
      omega
    rw [Head.announced, hbodied, if_neg (by decide)]
    cases length with
    | none =>
      have hwhole : received.take received.length = received := List.take_length
      constructor
      · rintro ⟨body, hbody, hparse⟩
        obtain rfl : received = body := Option.some.inj hbody
        exact ⟨hempty, by simp, hwhole.symm ▸ hparse⟩
      · rintro ⟨-, -, hparse⟩
        exact ⟨received, rfl, hwhole ▸ hparse⟩
    | some l =>
      have hcontent : (Reply.mk status location (.counted l) received).content?
          = if l ≤ received.length then some (received.take l) else none := rfl
      rw [Option.map_some, Option.getD_some, hcontent]
      constructor
      · rintro ⟨body, hbody, hparse⟩
        split at hbody
        · rename_i hle
          obtain rfl := Option.some.inj hbody
          exact ⟨hempty, fun _ hl => Option.some.inj hl ▸ hle, hparse⟩
        · cases hbody
      · rintro ⟨-, hle, hparse⟩
        exact ⟨_, if_pos (hle l rfl), hparse⟩

/-! ## What the provider may say -/

namespace Info

/-- The text in which the provider tells what it knows of a token. -/
def print (i : Info) : Bytes :=
  Json.printObject [("aud", Json.printString i.audience), ("iss", Json.printString i.issuer)]

/-- **What is told is read**, whatever the audience and the issuer are called. -/
theorem parse_print (i : Info) : parse i.print = .ok i := by
  let members : List (Json.Member Info) :=
    [.of "aud" Json.stringField (fun s i => { i with audience := s }) (Json.printString i.audience)
        i.audience (fun t _ => Json.stringField_printString i.audience t),
      .of "iss" Json.stringField (fun s i => { i with issuer := s }) (Json.printString i.issuer)
        i.issuer (fun t _ => Json.stringField_printString i.issuer t)]
  have hread := Json.Schema.read_printObject schema members (by simp [members]) rfl (by decide) []
  rw [List.append_nil] at hread
  have hwhole : schema.read i.print = .ok (i, []) := hread
  rw [parse, Json.Schema.parse, Json.Reader.whole, hwhole]
  rfl

end Info

/-- What comes with a reply that tells something: its body, and more bytes behind it. -/
def told (i : Info) : Bytes := i.print ++ Utf8.encode "zz"

/-- The reply, behind one that only announces it. -/
def telling (status : Nat) (i : Info) : Bytes :=
  Head.wire 103 [] [] (Head.wire status (Utf8.encode "Status")
    [(Utf8.encode "Content-Length", Json.digitBytes i.print.length)] (told i))

theorem sent_telling {status : Nat} (hlow : 200 ≤ status) (hhigh : status < 1000) (i : Info) :
    Reply.Sent status (some i.print.length) none (told i) (telling status i) := by
  have hdigit : ∀ b ∈ Json.digitBytes i.print.length, Chunked.isBlank b = false ∧
      Head.isLineByte b = true := by
    intro b hb
    have hb := Json.isDigit_digitBytes _ b hb
    exact ⟨(Head.plain_of_isDigit hb).2.2, Head.isLineByte_of_isDigit hb⟩
  have hnormal : Head.normal (Utf8.encode "Content-Length", Json.digitBytes i.print.length)
      = (Utf8.encode "content-length", Json.digitBytes i.print.length) := by
    rw [Head.normal, Blank.trimList_of_ends (fun b hb => (hdigit b (List.mem_of_mem_head? hb)).1)
      (fun b hb => (hdigit b (List.mem_of_mem_getLast? hb)).1)]
    rfl
  have hname : Head.IsField (Utf8.encode "Content-Length", []) :=
    ⟨by decide +kernel, by decide +kernel, by simp⟩
  refine .behind ⟨by decide, by decide, by decide, by simp, by decide⟩ (by decide) (by decide) ?_
  refine .final ⟨by omega, hhigh, by decide +kernel, ?_, by simp [Head.maxFields]⟩
    (.inl hlow) ?_ ?_
  · intro f hf
    rw [List.mem_singleton.mp hf]
    exact ⟨hname.name_ne_nil, hname.name, List.all_eq_true.mpr fun b hb => (hdigit b hb).2⟩
  · rw [List.map_singleton, hnormal]
    exact ⟨by rfl, by rfl⟩
  · rw [List.map_singleton, hnormal]
    rfl

/-- What is told in a reply of success is told, unless there can be no body. -/
theorem tells_told (status : Nat) (h : status ≠ 204) (i : Info) :
    Tells status (some i.print.length) (told i) i := by
  have hle : i.print.length ≤ (told i).length := by simp [told]
  have htake : (told i).take i.print.length = i.print := List.take_left
  refine ⟨h, fun l hl => Option.some.inj hl ▸ hle, ?_⟩
  rw [Option.getD_some, htake]
  exact i.parse_print

/-- The place that a reply names. -/
def elsewhere : Bytes := Utf8.encode "/u"

/-- A reply that names another place and has no body. -/
def moving : Bytes :=
  Head.wire 302 (Utf8.encode "Found") [(Utf8.encode "Location", elsewhere)] []

theorem sent_moving : Reply.Sent 302 none (some elsewhere) [] moving := by
  have hfield : Head.IsField (Utf8.encode "Location", elsewhere) :=
    ⟨by decide +kernel, by decide +kernel, by decide +kernel⟩
  refine .final ⟨by decide, by decide, by decide +kernel, ?_, by decide⟩ (.inl (by decide))
    ⟨by rfl, by rfl⟩ (by rfl)
  intro f hf
  rw [List.mem_singleton.mp hf]
  exact hfield

/-- A network in which the first reply names another place, and what is asked there is told. -/
def moved (e : Endpoint) (i : Info) : Network where
  reply redirects _ _ := if redirects = 0 then moving else telling 200 i
  locate _ _ := .onward e

theorem reaches_moved (first e : Endpoint) (i : Info) : (moved e i).Reaches first 1 e :=
  .redirect .first (by decide) sent_moving nofun ⟨by decide, elsewhere, rfl, rfl⟩

theorem isSome_inquiry : (inquiry "http://127.0.0.1/t" "token").isSome = true := by decide +kernel

/-- **When a token is accepted.** Of the last reply to the question about a token count the status,
the length that it announces, and the bytes that came. The token is accepted exactly if the status
is a success, the body has arrived and can be read, and it says that the token was issued for the
audience and by the provider. Otherwise the first of these that fails is the reason: a status that
is no success, whatever the body; then a body that did not arrive, is not there or cannot be read;
then the audience, whatever the issuer; then the issuer. Only a reply that names a place to ask
instead is not judged, if it is the last one because ten redirects were followed or no request is
sent to such a place. -/
theorem verify_by_checks {url token : String} (audience : String) {network : Network}
    {first last : Endpoint} {redirects status : Nat} {length : Option Nat}
    {location : Option Bytes} {received : Bytes} (hurl : inquiry url token = some first)
    (hreached : network.Reaches first redirects last)
    (hsent : Reply.Sent status length location received
      (network.reply redirects last (requestLine last)))
    (hlimit : ∀ l ∈ length, l < Head.lengthLimit)
    (hlast : redirects = 10 ∨ ∀ e, ¬network.Leads last status location (.onward e)) :
    let verdict := verify url network token audience
    let success := 200 ≤ status ∧ status ≤ 299
    let leads := network.Leads last status location
    let tells := Tells status length received
    let trusted := fun issuer =>
      issuer = "accounts.google.com" ∨ issuer = "https://accounts.google.com"
    (verdict = .ok () ↔
      success ∧ ∃ info, tells info ∧ info.audience = audience ∧ trusted info.issuer) ∧
    (¬success → (∀ lead, leads lead → lead = .nowhere) →
      verdict = .error (.rejected (Status.text status))) ∧
    (∀ lead, leads lead → lead ≠ .nowhere → redirects = 10 →
      verdict = .error (.unanswered .redirect)) ∧
    (∀ stage, leads (.astray stage) → redirects < 10 → verdict = .error (.unanswered stage)) ∧
    (success → (¬∃ info, tells info) → verdict = .error (.unanswered .decode)) ∧
    (∀ info, success → tells info → info.audience ≠ audience → verdict = .error .wrongAudience) ∧
    (∀ info, success → tells info → info.audience = audience → ¬trusted info.issuer →
      verdict = .error (.untrustedIssuer info.issuer)) := by
  intro verdict success leads tells trusted
  have htrusted : ∀ issuer, trusted issuer ↔ issuer ∈ Info.trustedIssuers := by
    intro issuer
    simp [trusted, Info.trustedIssuers]
  have hjudged : success → verdict = judge audience _ :=
    fun hs => verify_of_judged hurl hreached hsent hlimit (stands_of_success hs)
  have hunreadable : success → (¬∃ info, tells info) → verdict = .error (.unanswered .decode) := by
    intro hs hnone
    rw [hjudged hs]
    refine judge_of_unreadable (Status.isSuccess_iff.mpr hs) fun body info hbody hparse => ?_
    exact hnone ⟨info, (content?_iff_tells hs).mp ⟨body, hbody, hparse⟩⟩
  have hcheck : ∀ info, success → tells info → verdict = info.check audience := by
    intro info hs htells
    obtain ⟨body, hbody, hparse⟩ := (content?_iff_tells hs).mpr htells
    rw [hjudged hs]
    exact judge_of_read (Status.isSuccess_iff.mpr hs) hbody hparse
  refine ⟨⟨fun hok => ?_, ?_⟩, verify_of_failure hurl hreached hsent hlimit,
    fun lead hleads => verify_of_exhausted hurl hreached hsent hlimit hleads,
    fun stage hleads => verify_of_astray hurl hreached hsent hlimit hleads, hunreadable, ?_, ?_⟩
  · by_cases hs : success
    · by_cases htells : ∃ info, tells info
      · obtain ⟨info, htells⟩ := htells
        rw [hcheck info hs htells, Info.check_eq_ok_iff, ← htrusted] at hok
        exact ⟨hs, info, htells, hok⟩
      · cases (hunreadable hs htells).symm.trans hok
    · exact absurd hok (verify_ne_ok_of_failure hurl hreached hsent hlimit hs hlast)
  · rintro ⟨hs, info, htells, haudience, hissuer⟩
    rw [hcheck info hs htells]
    exact Info.check_eq_ok_iff.mpr ⟨haudience, (htrusted _).mp hissuer⟩
  · intro info hs htells hne
    rw [hcheck info hs htells, Info.check_of_ne hne]
  · intro info hs htells haudience hissuer
    rw [hcheck info hs htells, Info.check_of_untrusted haudience (mt (htrusted _).mpr hissuer)]

/-- A reply of success that says the right things, announced by another one, behind a redirect, to
two services. -/
theorem verify_by_checks_moved :
    let i : Info := ⟨"client", "accounts.google.com"⟩
    ∃ first last : Endpoint,
      inquiry "http://127.0.0.1/t" "token" = some first ∧ (moved last i).Reaches first 1 last ∧
      Reply.Sent 200 (some i.print.length) none (told i)
        ((moved last i).reply 1 last (requestLine last)) ∧
      i.print.length < Head.lengthLimit ∧
      (∀ e, ¬(moved last i).Leads last 200 none (.onward e)) ∧
      verify "http://127.0.0.1/t" (moved last i) "token" "client" = .ok () ∧
      verify "http://127.0.0.1/t" (moved last i) "token" "Client" = .error .wrongAudience := by
  intro i
  obtain ⟨e, hurl⟩ := Option.isSome_iff_exists.mp isSome_inquiry
  have hreached := reaches_moved e e i
  have hsent : Reply.Sent 200 (some i.print.length) none (told i)
      ((moved e i).reply 1 e (requestLine e)) := sent_telling (by decide) (by decide) i
  have hlength : i.print.length < Head.lengthLimit := by decide +kernel
  have hlimit : ∀ l ∈ some i.print.length, l < Head.lengthLimit :=
    fun l hl => Option.some.inj hl ▸ hlength
  have hlast : ∀ e', ¬(moved e i).Leads e 200 none (.onward e') := by
    rintro e' ⟨-, place, hplace, -⟩
    cases hplace
  have htells := tells_told 200 (by decide) i
  obtain ⟨haccepted, -⟩ := verify_by_checks "client" hurl hreached hsent hlimit (.inr hlast)
  obtain ⟨-, -, -, -, -, haudience, -⟩ :=
    verify_by_checks "Client" hurl hreached hsent hlimit (.inr hlast)
  exact ⟨e, e, hurl, hreached, hsent, hlength, hlast,
    haccepted.mpr ⟨by decide, i, htells, rfl, .inl rfl⟩,
    haudience i (by decide) htells (by decide)⟩

/-- The first reply is not judged by its status and its body alone. One with status 204 is a
success, but the same bytes behind it are no body; and one that redirects is no success, but the
token may still be accepted. -/
theorem not_judged_by_first_reply :
    (¬∀ (url token audience : String) (network : Network) (e : Endpoint) (status length : Nat)
      (location : Option Bytes) (received : Bytes), inquiry url token = some e →
      Reply.Sent status (some length) location received (network.reply 0 e (requestLine e)) →
      length < Head.lengthLimit →
      (200 ≤ status ∧ status ≤ 299) ∧ length ≤ received.length ∧
        (∃ info, Info.parse (received.take length) = .ok info ∧ info.audience = audience ∧
          info.issuer ∈ Info.trustedIssuers) → verify url network token audience = .ok ()) ∧
    ¬∀ (url token audience : String) (network : Network) (e : Endpoint) (status : Nat)
      (length : Option Nat) (location : Option Bytes) (received : Bytes),
      inquiry url token = some e →
      Reply.Sent status length location received (network.reply 0 e (requestLine e)) →
      (∀ l ∈ length, l < Head.lengthLimit) → ¬(200 ≤ status ∧ status ≤ 299) →
      verify url network token audience = .error (.rejected (Status.text status)) := by
  let i : Info := ⟨"client", "accounts.google.com"⟩
  obtain ⟨e, hurl⟩ := Option.isSome_iff_exists.mp isSome_inquiry
  have hlength : i.print.length < Head.lengthLimit := by decide +kernel
  have hlimit : ∀ l ∈ some i.print.length, l < Head.lengthLimit :=
    fun l hl => Option.some.inj hl ▸ hlength
  constructor
  · intro haccepted
    let network : Network := ⟨fun _ _ _ => telling 204 i, fun _ _ => .nowhere⟩
    have hsent : Reply.Sent 204 (some i.print.length) none (told i)
        (network.reply 0 e (requestLine e)) := sent_telling (by decide) (by decide) i
    obtain ⟨-, hle, hparse⟩ := tells_told 200 (by decide) i
    have hok := haccepted _ _ "client" network e 204 _ _ _ hurl hsent hlength
      ⟨by decide, hle _ rfl, i, hparse, rfl, by decide⟩
    have hverdict : verify "http://127.0.0.1/t" network "token" "client"
        = .error (.unanswered .decode) := by
      rw [verify_of_judged hurl .first hsent hlimit (stands_of_success (by decide))]
      exact judge_of_unreadable (by decide) fun body info hbody hparse =>
        ((content?_iff_tells (by decide)).mp ⟨body, hbody, hparse⟩).1 rfl
    cases hverdict.symm.trans hok
  · intro hrejected
    have hsent : Reply.Sent 302 none (some elsewhere) []
        ((moved e i).reply 0 e (requestLine e)) := sent_moving
    have hno := hrejected _ _ "client" (moved e i) e 302 _ _ _ hurl hsent nofun (by decide)
    have hnext : Reply.Sent 200 (some i.print.length) none (told i)
        ((moved e i).reply 1 e (requestLine e)) := sent_telling (by decide) (by decide) i
    obtain ⟨body, hbody, hparse⟩ : ∃ body, (Reply.mk 200 none _ (told i)).content? = some body ∧
        Info.parse body = .ok i :=
      (content?_iff_tells (by decide)).mpr (tells_told 200 (by decide) i)
    have hverdict : verify "http://127.0.0.1/t" (moved e i) "token" "client" = .ok () := by
      rw [verify_of_judged hurl (reaches_moved e e i) hnext hlimit (stands_of_success (by decide)),
        judge_of_read (by decide) hbody hparse]
      exact Info.check_eq_ok_iff.mpr ⟨rfl, by decide⟩
    cases hverdict.symm.trans hno

end Token

end SignIn
