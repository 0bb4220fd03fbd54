import SignIn.Config
import SignIn.Proofs.Trimming

/-!
# The first fault is reported

Of an environment counts only what is left when the blanks around the values are taken off and the
blank values with them. Ten checks are made of what is left, in one order, and the first that fails
gives the error; what the variables of later checks hold makes no difference then.
-/

namespace SignIn

namespace Config

/-! ## What counts of an environment -/

/-- The environment without the blanks around values, and without the values that are blank. -/
def tidied (env : Environment) : Environment := fun v =>
  match env v with
  | none => none
  | some s => if s.toList.all Blank.isBlank then none else some (Blank.trim s)

theorem value?_eq_tidied (env : Environment) : value? env = tidied env := by
  funext v
  rw [value?, tidied]
  cases env v with
  | none => rfl
  | some s =>
    rw [Option.map_some]
    by_cases hblank : Blank.trim s = ""
    · rw [Option.filter_some, if_neg (by simpa using hblank)]
      dsimp only
      rw [if_pos (List.all_eq_true.mpr (Blank.trim_eq_empty_iff.mp hblank))]
    · rw [Option.filter_some, if_pos (by simpa using hblank)]
      dsimp only
      rw [if_neg fun hall => hblank (Blank.trim_eq_empty_iff.mpr (List.all_eq_true.mp hall))]

theorem value?_eq_some_iff {env : Environment} {v : Variable} {s : String} :
    value? env v = some s ↔ (∃ t, env v = some t ∧ Blank.trim t = s) ∧ s ≠ "" := by
  rw [value?, Option.filter_eq_some_iff, Option.map_eq_some_iff, decide_eq_true_iff]

theorem value?_tidied (env : Environment) : value? (tidied env) = value? env := by
  funext v
  rw [← value?_eq_tidied]
  cases hv : value? env v with
  | none => rw [value?, hv, Option.map_none, Option.filter_none]
  | some s =>
    obtain ⟨⟨t, -, rfl⟩, hne⟩ := value?_eq_some_iff.mp hv
    exact value?_eq_some_iff.mpr ⟨⟨_, hv, Blank.trim_trim t⟩, hne⟩

/-- Nothing else of an environment is looked at. -/
theorem ofEnvironment_congr {env env' : Environment} (h : value? env = value? env') :
    ofEnvironment env = ofEnvironment env' := by
  simp only [ofEnvironment, required, valueOr, readSecrets, h]

/-! ## The checks -/

/-- A check that an environment has to pass. -/
inductive Check where
  | databaseUrl
  | clientId
  | webUri
  | port
  | bindAddress
  | maxConnections
  /-- The two secrets are set together, whatever they are. -/
  | bothSecrets
  | signKey
  | encryptKey
  | cookieSecure
  deriving DecidableEq, Repr

namespace Check

/-- The checks in the order in which they are made. -/
def order : List Check :=
  [databaseUrl, clientId, webUri, port, bindAddress, maxConnections, bothSecrets, signKey,
    encryptKey, cookieSecure]

/-- The variables that a check looks at. -/
def reads : Check → List Variable
  | databaseUrl => [.databaseUrl]
  | clientId => [.clientId]
  | webUri => [.webUri]
  | port => [.port]
  | bindAddress => [.bindAddress]
  | maxConnections => [.maxConnections]
  | bothSecrets => [.signKey, .encryptKey]
  | signKey => [.signKey]
  | encryptKey => [.encryptKey]
  | cookieSecure => [.cookieSecure]

/-- The fault of a variable that has to be set, if it is not. -/
def absent? (env : Environment) (v : Variable) : Option Error :=
  match tidied env v with
  | none => some (.missing v)
  | some _ => none

/-- The fault of a variable that is set to what cannot be read. -/
def unread? {α : Type} (env : Environment) (v : Variable) (read : String → Except Reason α) :
    Option Error :=
  match tidied env v with
  | none => none
  | some s =>
    match read s with
    | .ok _ => none
    | .error reason => some (.invalid v reason)

/-- The fault that a check finds, whatever the other checks find. -/
def fault? (env : Environment) : Check → Option Error
  | databaseUrl => absent? env .databaseUrl
  | clientId => absent? env .clientId
  | webUri => unread? env .webUri readOrigin
  | port => unread? env .port readPort
  | bindAddress => unread? env .bindAddress readAddress
  | maxConnections => unread? env .maxConnections readConnections
  | bothSecrets =>
    if (tidied env .signKey).isSome = (tidied env .encryptKey).isSome then none
    else some .oneSecret
  | signKey => unread? env .signKey readSecret
  | encryptKey => unread? env .encryptKey readSecret
  | cookieSecure => unread? env .cookieSecure readBool

theorem mem_order (k : Check) : k ∈ order := by
  cases k <;> decide

/-- A check looks at its own variables only. -/
theorem fault?_congr {env env' : Environment} {k : Check}
    (h : ∀ v ∈ k.reads, tidied env v = tidied env' v) : k.fault? env = k.fault? env' := by
  cases k <;> simp only [reads, List.forall_mem_cons, List.not_mem_nil, false_imp_iff,
    implies_true, and_true] at h <;> simp only [fault?, absent?, unread?, h]

end Check

/-! ## One check after the other -/

/-- The error of a result, if it is one. -/
def error? {α : Type} : Except Error α → Option Error
  | .ok _ => none
  | .error e => some e

theorem error?_eq_none_iff {α : Type} {r : Except Error α} : error? r = none ↔ ∃ a, r = .ok a := by
  cases r <;> simp [error?]

theorem error?_eq_some_iff {α : Type} {r : Except Error α} {e : Error} :
    error? r = some e ↔ r = .error e := by
  cases r <;> simp [error?]

/-- What follows a step is faulty if the step is, and else for what comes next. -/
theorem error?_bind {α β : Type} {r : Except Error α} {f : α → Except Error β}
    {next : Option Error}
    (h : ∀ a, r = .ok a → error? (f a) = next) : error? (r >>= f) = (error? r).or next := by
  cases r with
  | error e => rfl
  | ok a => exact h a rfl

section Steps

variable (env : Environment)

theorem error?_required (v : Variable) : error? (required env v) = Check.absent? env v := by
  rw [required, value?_eq_tidied, Check.absent?]
  cases tidied env v <;> rfl

theorem error?_valueOr {α : Type} (v : Variable) (default : α) (read : String → Except Reason α) :
    error? (valueOr env v default read) = Check.unread? env v read := by
  rw [valueOr, value?_eq_tidied, Check.unread?]
  cases tidied env v with
  | none => rfl
  | some s =>
    dsimp only
    cases read s <;> rfl

theorem error?_secret {v : Variable} {s : String} (h : tidied env v = some s) :
    error? (secret v s) = Check.unread? env v readSecret := by
  rw [secret, Check.unread?, h]
  dsimp only
  cases readSecret s <;> rfl

/-- The two secrets are looked at only if both are there. -/
theorem error?_readSecrets : error? (readSecrets env) = (Check.fault? env .bothSecrets).or
    ((Check.fault? env .signKey).or (Check.fault? env .encryptKey)) := by
  simp only [readSecrets, value?_eq_tidied, Check.fault?]
  cases hsign : tidied env .signKey with
  | none =>
    cases hencrypt : tidied env .encryptKey with
    | none => simp [error?, Check.unread?, hsign, hencrypt]
    | some encrypt => simp [error?]
  | some sign =>
    cases hencrypt : tidied env .encryptKey with
    | none => simp [error?]
    | some encrypt =>
      rw [if_pos (by rfl), Option.none_or, ← error?_secret env hsign, ← error?_secret env hencrypt]
      refine error?_bind fun _ _ => ?_
      cases secret .encryptKey encrypt <;> rfl

/-- **The fault of an environment is the first that a check finds.** -/
theorem error?_ofEnvironment :
    error? (ofEnvironment env) = Check.order.findSome? (Check.fault? env) := by
  -- Whether cookies may go over any connection depends on the origin, but what is wrong does not.
  have hlast : ∀ (origin : String) (f : Bool → Config),
      error? (valueOr env .cookieSecure (isSecureOrigin origin) readBool >>= fun b => pure (f b))
        = Check.fault? env .cookieSecure := by
    intro origin f
    have hend : error? (valueOr env .cookieSecure (isSecureOrigin origin) readBool >>= fun b =>
          pure (f b))
        = (error? (valueOr env .cookieSecure (isSecureOrigin origin) readBool)).or none :=
      error?_bind fun _ _ => rfl
    rw [hend, Option.or_none]
    exact error?_valueOr env .cookieSecure _ readBool
  have hchain : error? (ofEnvironment env) = (error? (required env .databaseUrl)).or
      ((error? (required env .clientId)).or
      ((error? (valueOr env .webUri defaultOrigin readOrigin)).or
      ((error? (valueOr env .port defaultPort readPort)).or
      ((error? (valueOr env .bindAddress .loopback readAddress)).or
      ((error? (valueOr env .maxConnections defaultMaxConnections readConnections)).or
      ((error? (readSecrets env)).or (Check.fault? env .cookieSecure))))))) :=
    error?_bind fun _ _ => error?_bind fun _ _ => error?_bind fun origin _ =>
      error?_bind fun _ _ => error?_bind fun _ _ => error?_bind fun _ _ =>
        error?_bind fun _ _ => hlast origin _
  have horder : ∀ (k : Check) (l : List Check),
      (k :: l).findSome? (Check.fault? env)
        = (Check.fault? env k).or (l.findSome? (Check.fault? env)) := by
    intro k l
    rw [List.findSome?_cons]
    cases Check.fault? env k <;> rfl
  rw [hchain, error?_readSecrets]
  simp only [error?_required, error?_valueOr, Check.order, horder, List.findSome?_nil,
    Option.or_none, Option.or_assoc]
  rfl

end Steps

/-- **The first fault is the one that is reported, and blanks are no fault.** An environment means
what it means without the blanks around its values and without its blank values. It is a
configuration exactly if no check finds a fault; and otherwise the error is the fault that a check
finds before which no other finds one. So two environments in which the variables up to that check
hold the same, whatever the others hold, have the same error. -/
theorem first_fault_reported (env : Environment) :
    ofEnvironment env = ofEnvironment (tidied env) ∧
    ((∃ c, ofEnvironment env = .ok c) ↔ ∀ k : Check, k.fault? env = none) ∧
    (∀ e, ofEnvironment env = .error e ↔ ∃ before k after, Check.order = before ++ k :: after ∧
      (∀ k' ∈ before, k'.fault? env = none) ∧ k.fault? env = some e) ∧
    ∀ env' before k after e, Check.order = before ++ k :: after →
      (∀ k' ∈ before, k'.fault? env = none) → k.fault? env = some e →
      (∀ k' ∈ before ++ [k], ∀ v ∈ k'.reads, tidied env v = tidied env' v) →
      ofEnvironment env' = .error e := by
  have hfirst : ∀ (env : Environment) e, ofEnvironment env = .error e ↔
      ∃ before k after, Check.order = before ++ k :: after ∧
        (∀ k' ∈ before, k'.fault? env = none) ∧ k.fault? env = some e := by
    intro env e
    rw [← error?_eq_some_iff, error?_ofEnvironment, List.findSome?_eq_some_iff]
    simp only [and_comm]
  refine ⟨ofEnvironment_congr (value?_tidied env).symm, ?_, hfirst env, ?_⟩
  · rw [← error?_eq_none_iff, error?_ofEnvironment, List.findSome?_eq_none_iff]
    exact ⟨fun h k => h k k.mem_order, fun h k _ => h k⟩
  · intro env' before k after e horder hbefore hk hagree
    have hcongr : ∀ k' ∈ before ++ [k], k'.fault? env = k'.fault? env' :=
      fun k' hk' => Check.fault?_congr (hagree k' hk')
    refine (hfirst env' e).mpr ⟨before, k, after, horder, fun k' hk' => ?_, ?_⟩
    · rw [← hcongr k' (List.mem_append_left _ hk')]
      exact hbefore k' hk'
    · rw [← hcongr k (List.mem_append_right _ (List.mem_singleton_self k))]
      exact hk

/-- An environment with more than one fault: the port is no number, and of the secrets only one is
set. The origin is blank, which is none. -/
def faultyEnvironment : Environment
  | .databaseUrl => some " db\t"
  | .clientId => some "client"
  | .webUri => some " "
  | .port => some "80 80"
  | .signKey => some "00"
  | _ => none

/-- The port is reported, even if all that is checked after it is in order. -/
theorem first_fault_reported_port :
    let repaired : Environment := fun v => if v = .signKey then none else faultyEnvironment v
    Check.fault? faultyEnvironment .bothSecrets = some .oneSecret ∧
    Check.fault? repaired .bothSecrets = none ∧
    ofEnvironment faultyEnvironment = .error (.invalid .port (.number .invalidDigit)) ∧
    ofEnvironment repaired = .error (.invalid .port (.number .invalidDigit)) := by
  intro repaired
  obtain ⟨-, -, herror, hsame⟩ := first_fault_reported faultyEnvironment
  have hbefore : ∀ k' ∈ [Check.databaseUrl, .clientId, .webUri],
      k'.fault? faultyEnvironment = none := by decide +kernel
  have hport : Check.fault? faultyEnvironment .port
      = some (.invalid .port (.number .invalidDigit)) := by decide +kernel
  exact ⟨by decide +kernel, by decide +kernel,
    (herror _).mpr ⟨_, .port, _, rfl, hbefore, hport⟩,
    hsame repaired _ .port _ _ rfl hbefore hport (by decide +kernel)⟩

end Config

end SignIn
