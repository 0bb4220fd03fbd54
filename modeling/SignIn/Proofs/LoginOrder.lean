import SignIn.Login
import SignIn.Proofs.Hearing
import SignIn.Proofs.Issuing
import SignIn.Proofs.RoundTrip

/-!
# Logins keep to their order

A login asks the provider, then the store, and only then begins a session; each step is taken only
after the one before has succeeded. `Goes` lists the ways in which that can go, each with what is
heard on the way. Nothing is left half done: a login that fails has created nobody and revoked
nothing, and the first step that failed is the one that it fails with.
-/

namespace SignIn

/-! ## Finding or creating a user -/

namespace Identity

/-- What is heard while an identity is resolved, and what comes of it. -/
inductive Resolves (email : String) (name : Option String) :
    List Heard → Except Error Identity → Prop
  | found (u : User) : Resolves email name [.lookup email (.ok u)] (.ok (ofUser u))
  | broken (e : StoreError) (hard : e ≠ .notFound) :
      Resolves email name [.lookup email (.error e)] (.error (.lookup e))
  | nameless (named : name = none) :
      Resolves email name [.lookup email (.error .notFound)] (.error .missingName)
  | refused (n : String) (e : StoreError) (named : name = some n) :
      Resolves email name [.lookup email (.error .notFound), .creation email n (.error e)]
        (.error (.creation e))
  | created (n : String) (u : User) (named : name = some n) :
      Resolves email name [.lookup email (.error .notFound), .creation email n (.ok u)]
        (.ok (ofUser u))

theorem resolve_resolves {σ : Type} (answer : Answerer σ) (email : String) (name : Option String)
    (s : σ) : Resolves email name ((resolve email name).heard answer s)
      ((resolve email name).run answer s).value := by
  rw [resolve, Dialogue.heard_ask, Dialogue.value_ask]
  generalize (answer (.find email) s).2 = s'
  cases (answer (.find email) s).1 with
  | ok u => exact .found u
  | error e =>
    cases e with
    | notFound =>
      cases name with
      | none => exact .nameless rfl
      | some n =>
        show Resolves email (some n) [_, Heard.of _ (answer (.create email n) s').1]
          (ofCreation (answer (.create email n) s').1)
        cases (answer (.create email n) s').1 with
        | ok u => exact .created n u rfl
        | error e => exact .refused n e rfl
    | conflict => exact .broken .conflict (by decide)
    | database e => exact .broken (.database e) (by simp)

namespace Resolves

variable {email : String} {name : Option String} {heard : List Heard}
  {result : Except Error Identity}

theorem not_verdict (h : Resolves email name heard result) {t audience : String}
    {a : Except Token.Refusal Unit} : .verdict t audience a ∉ heard := by
  cases h <;> simp

/-- The one email is looked up, and nothing else. -/
theorem lookup_iff (h : Resolves email name heard result) (email' : String) :
    (∃ a, .lookup email' a ∈ heard) ↔ email' = email := by
  cases h <;> simp

theorem lookup_answer (h : Resolves email name heard result) {a b : Except StoreError User}
    (ha : .lookup email a ∈ heard) (hb : .lookup email b ∈ heard) : a = b := by
  cases h <;> simp_all

theorem asked_prefix (h : Resolves email name heard result) :
    ∃ n, heard.map Heard.question <+: [.find email, .create email n] := by
  cases h with
  | found | broken | nameless => exact ⟨"", [.create email ""], rfl⟩
  | refused n | created n => exact ⟨n, [], rfl⟩

theorem eq_lookup_iff (h : Resolves email name heard result) (e : StoreError) :
    result = .error (.lookup e) ↔ .lookup email (.error e) ∈ heard ∧ e ≠ .notFound := by
  cases h with
  | found u => simp
  | broken e' hard =>
    simp only [Except.error.injEq, Error.lookup.injEq, List.mem_singleton, Heard.lookup.injEq,
      true_and]
    exact ⟨fun he => ⟨he.symm, he ▸ hard⟩, fun he => he.1.symm⟩
  | nameless named => simp
  | refused n e' named => simp
  | created n u named => simp

theorem eq_missingName_iff (h : Resolves email name heard result) :
    result = .error .missingName ↔ .lookup email (.error .notFound) ∈ heard ∧ name = none := by
  cases h with
  | found u => simp
  | broken e hard => simp [Ne.symm hard]
  | nameless named => simp [named]
  | refused n e named => simp [named]
  | created n u named => simp [named]

theorem eq_creation_iff (h : Resolves email name heard result) (e : StoreError) :
    result = .error (.creation e) ↔ .lookup email (.error .notFound) ∈ heard ∧
      ∃ n, name = some n ∧ .creation email n (.error e) ∈ heard := by
  cases h with
  | found u => simp
  | broken e' hard => simp
  | nameless named => simp
  | refused n e' named => simp [named, eq_comm]
  | created n u named => simp

theorem creation_iff (h : Resolves email name heard result) (email' n : String) :
    (∃ a, .creation email' n a ∈ heard) ↔
      email' = email ∧ .lookup email (.error .notFound) ∈ heard ∧ name = some n := by
  cases h with
  | found u => simp
  | broken e hard => simp [Ne.symm hard]
  | nameless named => simp [named]
  | refused n' e named => simp [named, eq_comm]
  | created n' u named => simp [named, eq_comm]

theorem exists_of_ok (h : Resolves email name heard result) {who : Identity}
    (hwho : result = .ok who) : ∃ u, who = ofUser u ∧ (.lookup email (.ok u) ∈ heard ∨
      .lookup email (.error .notFound) ∈ heard ∧
        ∃ n, name = some n ∧ .creation email n (.ok u) ∈ heard) := by
  cases h with
  | found u => exact ⟨u, (Except.ok.inj hwho).symm, .inl (List.mem_singleton_self _)⟩
  | created n u named =>
    exact ⟨u, (Except.ok.inj hwho).symm, .inr ⟨List.mem_cons_self, n, named, by simp⟩⟩
  | broken | nameless | refused => cases hwho

/-- Nobody is created, or one user, who is then who the login leads to. -/
theorem created_cases (h : Resolves email name heard result) :
    heard.filterMap Heard.created? = [] ∨
      ∃ u, heard.filterMap Heard.created? = [u] ∧ result = .ok (ofUser u) := by
  cases h with
  | found u => exact .inl rfl
  | broken e hard => exact .inl rfl
  | nameless named => exact .inl rfl
  | refused n e named => exact .inl rfl
  | created n u named => exact .inr ⟨u, rfl, rfl⟩

end Resolves

end Identity

namespace Login

open Session (Manager)

/-! ## What a token claims -/

theorem eq_ok_of_toOption {ε α : Type} {x : Except ε α} {a : α} (h : x.toOption = some a) :
    x = .ok a := by
  cases x with
  | ok b => exact congrArg Except.ok (Option.some.inj h)
  | error e => cases h

theorem exists_error_of_toOption {ε α : Type} {x : Except ε α} (h : x.toOption = none) :
    ∃ e, x = .error e := by
  cases x with
  | ok b => cases h
  | error e => exact ⟨e, rfl⟩

theorem claimed_eq_ok_iff {t : String} {c : Claimed} :
    claimed t = .ok c ↔ ∃ claims, Token.claims t = .ok claims ∧
      claims.string "email" = .ok c.email ∧ (claims.string "name").toOption = c.name := by
  obtain ⟨email, name⟩ := c
  rw [claimed]
  cases Token.claims t with
  | error e => simp
  | ok claims =>
    dsimp only
    cases hemail : claims.string "email" with
    | error e => simp [hemail]
    | ok email' => simp [hemail]

theorem claimed_eq_error_iff {t : String} {e : Token.ClaimError} :
    claimed t = .error e ↔ Token.claims t = .error e ∨
      ∃ claims, Token.claims t = .ok claims ∧ claims.string "email" = .error e := by
  rw [claimed]
  cases Token.claims t with
  | error e => simp
  | ok claims =>
    dsimp only
    cases hemail : claims.string "email" with
    | error e => simp [hemail]
    | ok email => simp [hemail]

/-! ## The ways in which a login can go -/

/-- What is heard while a login request is identified, and what comes of it. -/
inductive Goes (audience : String) (body : Bytes) : List Heard → Except Error Identity → Prop
  | unread (e : Json.Error) (named : token body = .error e) :
      Goes audience body [] (.error (.invalidBody e))
  | refused (t : String) (e : Token.Refusal) (named : token body = .ok t) :
      Goes audience body [.verdict t audience (.error e)] (.error (.verification e))
  | unclaimed (t : String) (e : Token.ClaimError) (named : token body = .ok t)
      (claims : claimed t = .error e) :
      Goes audience body [.verdict t audience (.ok ())] (.error (.claims e))
  | resolved (t : String) (c : Claimed) (heard : List Heard)
      (result : Except Identity.Error Identity)
      (named : token body = .ok t) (claims : claimed t = .ok c)
      (resolves : Identity.Resolves c.email c.name heard result) :
      Goes audience body (.verdict t audience (.ok ()) :: heard) (result.mapError .identity)

theorem identify_goes {σ : Type} (answer : Answerer σ) (audience : String) (body : Bytes) (s : σ) :
    Goes audience body ((identify audience body).heard answer s)
      ((identify audience body).run answer s).value := by
  rw [identify]
  cases hnamed : token body with
  | error e => exact .unread e hnamed
  | ok t =>
    dsimp only
    rw [identifyToken, Dialogue.heard_ask, Dialogue.value_ask]
    generalize (answer (.verify t audience) s).2 = s'
    cases (answer (.verify t audience) s).1 with
    | error e => exact .refused t e hnamed
    | ok vouched =>
      show Goes audience body (_ :: (resolve t).heard answer s') ((resolve t).run answer s').value
      rw [resolve]
      cases hclaims : claimed t with
      | error e => exact .unclaimed t e hnamed hclaims
      | ok c =>
        dsimp only
        rw [Dialogue.heard_bind, Dialogue.value_bind]
        show Goes audience body (_ :: (_ ++ [])) _
        rw [List.append_nil]
        exact .resolved t c _ _ hnamed hclaims (Identity.resolve_resolves answer c.email c.name s')

/-! ## Steps -/

section Steps

variable (audience : String) (body : Bytes) (heard : List Heard)

/-- The provider vouches for the token that a body names. -/
structure Vouched (t : String) : Prop where
  named : token body = .ok t
  verdict : .verdict t audience (.ok ()) ∈ heard

/-- And the token claims an email. -/
structure Addressed (t : String) (claims : Token.Claims) (email : String) : Prop
    extends Vouched audience body heard t where
  claims_eq : Token.claims t = .ok claims
  email_eq : claims.string "email" = .ok email

/-- And the store has no user with that email. -/
structure Unknown (t : String) (claims : Token.Claims) (email : String) : Prop
    extends Addressed audience body heard t claims email where
  lookup : .lookup email (.error .notFound) ∈ heard

/-- The first step that fails, by the error that it fails with: all steps before have succeeded. -/
inductive FailsFirst : Error → Prop
  | body {e : Json.Error} (failed : token body = .error e) : FailsFirst (.invalidBody e)
  | verdict {t : String} {e : Token.Refusal} (named : token body = .ok t)
      (failed : .verdict t audience (.error e) ∈ heard) : FailsFirst (.verification e)
  | claims {t : String} {e : Token.ClaimError} (vouched : Vouched audience body heard t)
      (failed : Token.claims t = .error e) : FailsFirst (.claims e)
  | email {t : String} {claims : Token.Claims} {e : Token.ClaimError}
      (vouched : Vouched audience body heard t) (claims_eq : Token.claims t = .ok claims)
      (failed : claims.string "email" = .error e) : FailsFirst (.claims e)
  | lookup {t : String} {claims : Token.Claims} {email : String} {e : StoreError}
      (addressed : Addressed audience body heard t claims email)
      (failed : .lookup email (.error e) ∈ heard) (hard : e ≠ .notFound) :
      FailsFirst (.identity (.lookup e))
  | name {t : String} {claims : Token.Claims} {email : String} {e : Token.ClaimError}
      (unknown : Unknown audience body heard t claims email)
      (failed : claims.string "name" = .error e) : FailsFirst (.identity .missingName)
  | creation {t : String} {claims : Token.Claims} {email name : String} {e : StoreError}
      (unknown : Unknown audience body heard t claims email)
      (name_eq : claims.string "name" = .ok name)
      (failed : .creation email name (.error e) ∈ heard) : FailsFirst (.identity (.creation e))

end Steps

namespace Goes

variable {audience : String} {body : Bytes} {heard : List Heard} {result : Except Error Identity}

theorem of_addressed (h : Goes audience body heard result) {t email : String}
    {claims : Token.Claims} (ha : Addressed audience body heard t claims email) :
    ∃ rest r, Identity.Resolves email (claims.string "name").toOption rest r ∧
      heard = .verdict t audience (.ok ()) :: rest ∧ result = r.mapError .identity := by
  obtain ⟨⟨hnamed, hverdict⟩, hclaims, hemail⟩ := ha
  have hclaimed : claimed t = .ok ⟨email, (claims.string "name").toOption⟩ :=
    claimed_eq_ok_iff.mpr ⟨claims, hclaims, hemail, rfl⟩
  cases h with
  | unread e named => cases named.symm.trans hnamed
  | refused t' e named => simp at hverdict
  | unclaimed t' e named failed =>
    obtain rfl := Except.ok.inj (named.symm.trans hnamed)
    cases failed.symm.trans hclaimed
  | resolved t' c rest r named hc resolves =>
    obtain rfl := Except.ok.inj (named.symm.trans hnamed)
    obtain rfl := Except.ok.inj (hc.symm.trans hclaimed)
    exact ⟨rest, r, resolves, rfl, rfl⟩

theorem eq_claims_of_vouched (h : Goes audience body heard result) {t : String}
    (hv : Vouched audience body heard t) {e : Token.ClaimError} (he : claimed t = .error e) :
    result = .error (.claims e) := by
  obtain ⟨hnamed, hverdict⟩ := hv
  cases h with
  | unread e named => cases named.symm.trans hnamed
  | refused t' e named => simp at hverdict
  | unclaimed t' e' named failed =>
    obtain rfl := Except.ok.inj (named.symm.trans hnamed)
    rw [Except.error.inj (failed.symm.trans he)]
  | resolved t' c rest r named hc resolves =>
    obtain rfl := Except.ok.inj (named.symm.trans hnamed)
    cases hc.symm.trans he

theorem eq_verification (h : Goes audience body heard result) {t : String} {e : Token.Refusal}
    (failed : .verdict t audience (.error e) ∈ heard) : result = .error (.verification e) := by
  cases h with
  | unread e' named => cases failed
  | refused t' e' named => simp_all
  | unclaimed t' e' named claims => simp at failed
  | resolved t' c rest r named hc resolves =>
    rcases List.mem_cons.mp failed with hverdict | hrest
    · cases hverdict
    · exact absurd hrest resolves.not_verdict

theorem eq_of_failsFirst (h : Goes audience body heard result) {e : Error}
    (he : FailsFirst audience body heard e) : result = .error e := by
  cases he with
  | @body e failed =>
    cases h with
    | unread e' named => rw [Except.error.inj (named.symm.trans failed)]
    | refused t e' named => cases named.symm.trans failed
    | unclaimed t e' named => cases named.symm.trans failed
    | resolved t c rest r named => cases named.symm.trans failed
  | verdict named failed => exact h.eq_verification failed
  | claims vouched failed =>
    exact h.eq_claims_of_vouched vouched (claimed_eq_error_iff.mpr (.inl failed))
  | email vouched claims_eq failed =>
    exact h.eq_claims_of_vouched vouched (claimed_eq_error_iff.mpr (.inr ⟨_, claims_eq, failed⟩))
  | lookup addressed failed hard =>
    obtain ⟨rest, r, resolves, rfl, rfl⟩ := h.of_addressed addressed
    rw [(resolves.eq_lookup_iff _).mpr ⟨by simpa using failed, hard⟩]
    rfl
  | name unknown failed =>
    obtain ⟨rest, r, resolves, rfl, rfl⟩ := h.of_addressed unknown.toAddressed
    rw [resolves.eq_missingName_iff.mpr ⟨by simpa using unknown.lookup, by rw [failed]; rfl⟩]
    rfl
  | creation unknown name_eq failed =>
    obtain ⟨rest, r, resolves, rfl, rfl⟩ := h.of_addressed unknown.toAddressed
    rw [(resolves.eq_creation_iff _).mpr
      ⟨by simpa using unknown.lookup, _, by rw [name_eq]; rfl, by simpa using failed⟩]
    rfl

theorem failsFirst_of_resolves {t : String} {claims : Token.Claims} {email : String}
    {rest : List Heard} {r : Except Identity.Error Identity} {e : Identity.Error}
    (ha : Addressed audience body (.verdict t audience (.ok ()) :: rest) t claims email)
    (h : Identity.Resolves email (claims.string "name").toOption rest r) (hr : r = .error e) :
    FailsFirst audience body (.verdict t audience (.ok ()) :: rest) (.identity e) := by
  cases e with
  | lookup e =>
    obtain ⟨failed, hard⟩ := (h.eq_lookup_iff e).mp hr
    exact .lookup ha (List.mem_cons_of_mem _ failed) hard
  | missingName =>
    obtain ⟨lookup, hnone⟩ := h.eq_missingName_iff.mp hr
    obtain ⟨e, hname⟩ := exists_error_of_toOption hnone
    exact .name ⟨ha, List.mem_cons_of_mem _ lookup⟩ hname
  | creation e =>
    obtain ⟨lookup, n, hsome, failed⟩ := (h.eq_creation_iff e).mp hr
    exact .creation ⟨ha, List.mem_cons_of_mem _ lookup⟩ (eq_ok_of_toOption hsome)
      (List.mem_cons_of_mem _ failed)

/-- **A login fails with the error of the first step that fails.** -/
theorem fails_iff (h : Goes audience body heard result) (e : Error) :
    result = .error e ↔ FailsFirst audience body heard e := by
  refine ⟨fun he => ?_, h.eq_of_failsFirst⟩
  cases h with
  | unread e' named => cases he; exact .body named
  | refused t e' named => cases he; exact .verdict named (List.mem_singleton_self _)
  | unclaimed t e' named claims =>
    cases he
    have vouched : Vouched audience body [.verdict t audience (.ok ())] t :=
      ⟨named, List.mem_singleton_self _⟩
    rcases claimed_eq_error_iff.mp claims with hclaims | ⟨c, hclaims, hemail⟩
    · exact .claims vouched hclaims
    · exact .email vouched hclaims hemail
  | resolved t c rest r named claims resolves =>
    obtain ⟨cl, hclaims, hemail, hname⟩ := claimed_eq_ok_iff.mp claims
    rw [← hname] at resolves
    cases hr : r with
    | ok who => rw [hr] at he; cases he
    | error e' =>
      rw [hr] at he
      cases he
      exact failsFirst_of_resolves ⟨⟨named, List.mem_cons_self⟩, hclaims, hemail⟩ resolves hr

/-! ### What is asked -/

theorem asked_prefix (h : Goes audience body heard result) : ∃ t email name,
    heard.map Heard.question <+: [.verify t audience, .find email, .create email name] := by
  cases h with
  | unread e named => exact ⟨"", "", "", List.nil_prefix⟩
  | refused t e named => exact ⟨t, "", "", [.find "", .create "" ""], rfl⟩
  | unclaimed t e named claims => exact ⟨t, "", "", [.find "", .create "" ""], rfl⟩
  | resolved t c rest r named claims resolves =>
    obtain ⟨n, hprefix⟩ := resolves.asked_prefix
    exact ⟨t, c.email, n, List.prefix_cons_inj _ |>.mpr hprefix⟩

theorem verdict_iff (h : Goes audience body heard result) (t a : String) :
    (∃ answer, .verdict t a answer ∈ heard) ↔ token body = .ok t ∧ a = audience := by
  cases h with
  | unread e named => simp [named]
  | refused t' e named => simp [named, eq_comm]
  | unclaimed t' e named claims => simp [named, eq_comm]
  | resolved t' c rest r named claims resolves =>
    have hrest : ∀ answer, .verdict t a answer ∉ rest := fun _ => resolves.not_verdict
    simp [named, hrest, eq_comm]

/-- The store is asked when the provider has vouched for a token that claims an email. -/
theorem addressed_of_mem (h : Goes audience body heard result) {x : Heard} (hx : x ∈ heard)
    (hstore : ∀ t a answer, x ≠ .verdict t a answer) : ∃ t claims email rest r,
      Addressed audience body heard t claims email ∧
      Identity.Resolves email (claims.string "name").toOption rest r ∧
      heard = .verdict t audience (.ok ()) :: rest := by
  cases h with
  | unread e named => cases hx
  | refused t e named => exact absurd (List.mem_singleton.mp hx) (hstore _ _ _)
  | unclaimed t e named claims => exact absurd (List.mem_singleton.mp hx) (hstore _ _ _)
  | resolved t c rest r named claims resolves =>
    obtain ⟨cl, hclaims, hemail, hname⟩ := claimed_eq_ok_iff.mp claims
    rw [← hname] at resolves
    exact ⟨t, cl, c.email, rest, r, ⟨⟨named, List.mem_cons_self⟩, hclaims, hemail⟩, resolves, rfl⟩

theorem lookup_iff (h : Goes audience body heard result) (email : String) :
    (∃ a, .lookup email a ∈ heard) ↔ ∃ t claims, Addressed audience body heard t claims email := by
  constructor
  · rintro ⟨a, ha⟩
    obtain ⟨t, claims, email', rest, r, addressed, resolves, rfl⟩ :=
      h.addressed_of_mem ha (by simp)
    obtain rfl := (resolves.lookup_iff email).mp ⟨a, by simpa using ha⟩
    exact ⟨t, claims, addressed⟩
  · rintro ⟨t, claims, addressed⟩
    obtain ⟨rest, r, resolves, rfl, -⟩ := h.of_addressed addressed
    obtain ⟨a, ha⟩ := (resolves.lookup_iff email).mpr rfl
    exact ⟨a, List.mem_cons_of_mem _ ha⟩

theorem creation_iff (h : Goes audience body heard result) (email name : String) :
    (∃ a, .creation email name a ∈ heard) ↔
    ∃ t claims, Unknown audience body heard t claims email ∧
      claims.string "name" = .ok name := by
  constructor
  · rintro ⟨a, ha⟩
    obtain ⟨t, claims, email', rest, r, addressed, resolves, rfl⟩ :=
      h.addressed_of_mem ha (by simp)
    obtain ⟨rfl, lookup, hsome⟩ := (resolves.creation_iff email name).mp ⟨a, by simpa using ha⟩
    exact ⟨t, claims, ⟨addressed, List.mem_cons_of_mem _ lookup⟩, eq_ok_of_toOption hsome⟩
  · rintro ⟨t, claims, unknown, hname⟩
    obtain ⟨rest, r, resolves, rfl, -⟩ := h.of_addressed unknown.toAddressed
    obtain ⟨a, ha⟩ := (resolves.creation_iff email name).mpr
      ⟨rfl, by simpa using unknown.lookup, by rw [hname]; rfl⟩
    exact ⟨a, List.mem_cons_of_mem _ ha⟩

/-- Nobody is created after a lookup that went wrong. -/
theorem not_creation_of_hard (h : Goes audience body heard result) {email : String}
    {e : StoreError}
    (failed : .lookup email (.error e) ∈ heard) (hard : e ≠ .notFound) (email' name : String) :
    ¬∃ a, .creation email' name a ∈ heard := by
  intro hcreation
  obtain ⟨t, claims, unknown, -⟩ := (h.creation_iff email' name).mp hcreation
  obtain ⟨rest, r, resolves, rfl, -⟩ := h.of_addressed unknown.toAddressed
  have hlookup : .lookup email (.error e) ∈ rest := by simpa using failed
  obtain rfl := (resolves.lookup_iff email).mp ⟨_, hlookup⟩
  have heq := resolves.lookup_answer hlookup (by simpa using unknown.lookup)
  exact hard (Except.error.inj heq)

/-! ### What comes of it -/

/-- A login creates nobody, or the one user that it leads to. -/
theorem created_cases (h : Goes audience body heard result) :
    heard.filterMap Heard.created? = [] ∨
      ∃ u, heard.filterMap Heard.created? = [u] ∧ result = .ok (.ofUser u) := by
  cases h with
  | unread e named => exact .inl rfl
  | refused t e named => exact .inl rfl
  | unclaimed t e named claims => exact .inl rfl
  | resolved t c rest r named claims resolves =>
    rw [List.filterMap_cons_none rfl]
    rcases resolves.created_cases with hnone | ⟨u, hu, hr⟩
    · exact .inl hnone
    · exact .inr ⟨u, hu, by rw [hr]; rfl⟩

/-- A login that fails has created nobody. -/
theorem not_created_of_error (h : Goes audience body heard result) {e : Error}
    (he : result = .error e) : ∀ x ∈ heard, x.created? = none := by
  rcases h.created_cases with hnone | ⟨u, -, hok⟩
  · exact List.filterMap_eq_nil_iff.mp hnone
  · cases hok.symm.trans he

/-- A login leads to the user that the store answered with. -/
theorem exists_of_ok (h : Goes audience body heard result) {who : Identity}
    (hwho : result = .ok who) :
    ∃ t claims email u, Addressed audience body heard t claims email ∧ who = .ofUser u ∧
      (.lookup email (.ok u) ∈ heard ∨ Unknown audience body heard t claims email ∧
        ∃ name, claims.string "name" = .ok name ∧ .creation email name (.ok u) ∈ heard) := by
  cases h with
  | unread | refused | unclaimed => cases hwho
  | resolved t c rest r named claims resolves =>
    obtain ⟨cl, hclaims, hemail, hname⟩ := claimed_eq_ok_iff.mp claims
    have addressed : Addressed audience body (.verdict t audience (.ok ()) :: rest) t cl c.email :=
      ⟨⟨named, List.mem_cons_self⟩, hclaims, hemail⟩
    cases hr : r with
    | error e => rw [hr] at hwho; cases hwho
    | ok who' =>
      rw [hr] at hwho
      obtain rfl := Except.ok.inj hwho
      obtain ⟨u, rfl, found | ⟨lookup, n, hsome, created⟩⟩ := resolves.exists_of_ok hr
      · exact ⟨t, cl, c.email, u, addressed, rfl, .inl (List.mem_cons_of_mem _ found)⟩
      · rw [← hname] at hsome
        exact ⟨t, cl, c.email, u, addressed, rfl,
          .inr ⟨⟨addressed, List.mem_cons_of_mem _ lookup⟩, n,
          eq_ok_of_toOption hsome, List.mem_cons_of_mem _ created⟩⟩

end Goes

/-! ## From an identity to a session -/

theorem grantIf_ok (m : Manager) (now : Moment) (fresh : Session.Fresh) (who : Identity) :
    grantIf Manager.keeper now fresh (.ok who) m
      = (.ok ⟨who.name,
          [(m.set now fresh.nonce (.loggedIn who.userId who.name fresh.id)).1]⟩, m) :=
  rfl

/-- **Logins keep to their order.** What is asked begins with the provider, goes on to the store's
lookup and ends with its creation. The provider is asked about the token of the body, exactly when
the body has one; the store is asked for the email that the token claims, exactly when the provider
has vouched for it; and a user is created, with the name that the token claims, exactly when nobody
was found, never after another error of the store. A login fails with the error of the first step
that fails, and then it has changed neither the users nor the manager; one that succeeds begins a
session of the user that the store answered with, in one cookie, and revokes nothing. -/
theorem login_in_order {σ : Type} {answer : Answerer σ} {users : σ → List User}
    (careful : Careful answer users) (audience : String) (body : Bytes) (s : σ) (m : Manager)
    (now : Moment) (fresh : Session.Fresh) :
    let heard := (identify audience body).heard answer s
    let o := (identify audience body).run answer s
    let granted := grantIf Manager.keeper now fresh o.value m
    o.asked = heard.map Heard.question ∧
    (∃ t email name, o.asked <+: [.verify t audience, .find email, .create email name]) ∧
    (∀ t a, .verify t a ∈ o.asked ↔ token body = .ok t ∧ a = audience) ∧
    (∀ email, .find email ∈ o.asked ↔ ∃ t claims, Addressed audience body heard t claims email) ∧
    (∀ email name, .create email name ∈ o.asked ↔ ∃ t claims,
      Unknown audience body heard t claims email ∧ claims.string "name" = .ok name) ∧
    (∀ email e, .lookup email (.error e) ∈ heard → e ≠ .notFound →
      ∀ email' name, .create email' name ∉ o.asked) ∧
    (∀ e, granted.1 = .error e ↔ FailsFirst audience body heard e) ∧
    (∀ e, granted.1 = .error e → users o.state = users s ∧ granted.2 = m) ∧
    ∀ g, granted.1 = .ok g → granted.2 = m ∧ ∃ t claims email u,
      Addressed audience body heard t claims email ∧
      (.lookup email (.ok u) ∈ heard ∨ Unknown audience body heard t claims email ∧
        ∃ name, claims.string "name" = .ok name ∧ .creation email name (.ok u) ∈ heard) ∧
      g.name = u.name ∧ ∃ c, g.cookies = [c] ∧
      m.Issues now (.loggedIn u.id u.name fresh.id) c := by
  intro heard o granted
  have hgoes : Goes audience body heard o.value := identify_goes answer audience body s
  have hasked : o.asked = heard.map Heard.question := (Dialogue.map_question_heard answer _ s).symm
  have hgranted : ∀ e, granted.1 = .error e ↔ o.value = .error e := by
    intro e
    show (grantIf Manager.keeper now fresh o.value m).1 = _ ↔ _
    cases o.value with
    | error e' => simp [grantIf]
    | ok who => simp [grantIf_ok]
  refine ⟨hasked, ?_, ?_, ?_, ?_, ?_, fun e => (hgranted e).trans (hgoes.fails_iff e), ?_, ?_⟩
  · rw [hasked]
    exact hgoes.asked_prefix
  · intro t a
    rw [hasked, Heard.mem_map_question_iff]
    exact hgoes.verdict_iff t a
  · intro email
    rw [hasked, Heard.mem_map_question_iff]
    exact hgoes.lookup_iff email
  · intro email name
    rw [hasked, Heard.mem_map_question_iff]
    exact hgoes.creation_iff email name
  · intro email e failed hard email' name
    rw [hasked, Heard.mem_map_question_iff]
    exact hgoes.not_creation_of_hard failed hard email' name
  · intro e he
    have hvalue := (hgranted e).mp he
    refine ⟨careful.users_run _ s (hgoes.not_created_of_error hvalue), ?_⟩
    show (grantIf Manager.keeper now fresh o.value m).2 = m
    rw [hvalue]
    rfl
  · intro g hg
    obtain ⟨who, hvalue⟩ : ∃ who, o.value = .ok who := by
      cases hvalue : o.value with
      | ok who => exact ⟨who, rfl⟩
      | error e => cases hg.symm.trans ((hgranted e).mpr hvalue)
    obtain ⟨t, claims, email, u, addressed, rfl, answered⟩ := hgoes.exists_of_ok hvalue
    have hgrant : granted = (.ok ⟨u.name,
        [(m.set now fresh.nonce (.loggedIn u.id u.name fresh.id)).1]⟩, m) := by
      show grantIf Manager.keeper now fresh o.value m = _
      rw [hvalue]
      exact grantIf_ok m now fresh (.ofUser u)
    rw [hgrant] at hg ⊢
    obtain rfl := Except.ok.inj hg
    exact ⟨rfl, t, claims, email, u, addressed, answered, rfl, _, rfl,
      Manager.issues_set m now fresh.nonce _⟩

/-- A login that claims an email and a name. -/
def annBody : Bytes :=
  Utf8.encode "\x7b\"idToken\":\"e30.eyJlbWFpbCI6ImFAYi5jIiwibmFtZSI6IkFubiJ9.\"\x7d"

/-- The first login of a user. -/
theorem login_in_order_new_user :
    let m := Manager.ofSecrets Secrets.sample true
    let fresh : Session.Fresh := ⟨.zero, .replicate 12 0⟩
    let o := (identify "ours" annBody).run UserTable.answer ⟨[], 1⟩
    let granted := grantIf Manager.keeper ⟨999, 0⟩ fresh o.value m
    Careful UserTable.answer UserTable.users ∧
    o.asked = [.verify "e30.eyJlbWFpbCI6ImFAYi5jIiwibmFtZSI6IkFubiJ9." "ours", .find "a@b.c",
      .create "a@b.c" "Ann"] ∧
    o.state.users = [⟨1, "a@b.c", "Ann"⟩] ∧
    ∃ g c, granted.1 = .ok g ∧ g.name = "Ann" ∧ g.cookies = [c] ∧
      ∃ userId, m.Issues ⟨999, 0⟩ (.loggedIn userId "Ann" .zero) c := by
  intro m fresh o granted
  have hcareful : Careful UserTable.answer UserTable.users := UserTable.lawful.growing.toCareful
  have hname : granted.1.toOption.map Grant.name = some "Ann" := by decide +kernel
  obtain ⟨-, -, -, -, -, -, -, -, hok⟩ :=
    login_in_order hcareful "ours" annBody ⟨[], 1⟩ m ⟨999, 0⟩ fresh
  refine ⟨hcareful, by decide +kernel, by decide +kernel, ?_⟩
  cases hg : granted.1 with
  | error e => rw [hg] at hname; cases hname
  | ok g =>
    rw [hg] at hname
    have hann : g.name = "Ann" := Option.some.inj hname
    obtain ⟨-, -, -, -, u, -, -, hu, c, hc, hissues⟩ := hok g hg
    rw [← hu, hann] at hissues
    exact ⟨g, c, rfl, hann, hc, u.id, hissues⟩

end Login

end SignIn
