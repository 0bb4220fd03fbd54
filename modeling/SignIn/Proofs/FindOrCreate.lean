import Mathlib.Data.List.Perm.Basic
import Mathlib.Logic.Function.Basic
import SignIn.User.Identity

/-!
# Logins that race

Several logins may look for a user at the same time. Each looks the email up first and creates a
user only if there is none; in between, another may have created the user. The store answers one
question at a time, in any order, and refuses to create a second user with an email.

The invariant is `Standing`: it says for each login how far it has come, and what it saw on the
way. A login that found nobody carries on with an answer that may be stale. What it knows for
certain is that whoever has the email by now was created since it looked.
-/

namespace SignIn

/-! ## Taking turns -/

/-- A question that was asked by one of several callers, and its answer. -/
structure Asked (ι : Type) where
  caller : ι
  question : Question
  answer : question.Answer

/-- The user that a question created. -/
def Question.created? : (q : Question) → q.Answer → Option User
  | .create _ _, answer => (show Except StoreError User from answer).toOption
  | _, _ => none

/-- Whether a question asks for a user to be created. -/
def Question.isCreate : Question → Bool
  | .create _ _ => true
  | _ => false

/-- A dialogue asks at most so many questions. -/
def Dialogue.Within {α : Type} : Nat → Dialogue α → Prop
  | _, .done _ => True
  | 0, .ask _ _ => False
  | n + 1, .ask _ next => ∀ a, (next a).Within n

/-- Several dialogues that take turns. -/
structure Race (ι σ α : Type) where
  store : σ
  /-- What each caller still has to ask. -/
  rest : ι → Dialogue α
  /-- What was asked so far, the latest first. -/
  trace : List (Asked ι)

namespace Race

variable {ι σ α : Type} [DecidableEq ι]

/-- The next question of one caller is answered. -/
def step (answer : Answerer σ) (w : Race ι σ α) (i : ι) : Race ι σ α :=
  match w.rest i with
  | .done _ => w
  | .ask q next =>
    ⟨(answer q w.store).2, Function.update w.rest i (next (answer q w.store).1),
      ⟨i, q, (answer q w.store).1⟩ :: w.trace⟩

/-- The callers take their turns. -/
def run (answer : Answerer σ) (w : Race ι σ α) (schedule : List ι) : Race ι σ α :=
  schedule.foldl (step answer) w

/-- A caller is done. -/
def Returns (w : Race ι σ α) (i : ι) (a : α) : Prop := w.rest i = .done a

theorem step_of_done (answer : Answerer σ) {w : Race ι σ α} {i : ι} {a : α}
    (h : w.rest i = .done a) : w.step answer i = w := by
  rw [step, h]

section Step

variable (answer : Answerer σ) {w : Race ι σ α} {i : ι} {q : Question}
  {next : q.Answer → Dialogue α}

theorem step_of_ask (h : w.rest i = .ask q next) :
    w.step answer i = ⟨(answer q w.store).2, Function.update w.rest i (next (answer q w.store).1),
      ⟨i, q, (answer q w.store).1⟩ :: w.trace⟩ := by
  rw [step, h]

theorem store_step (h : w.rest i = .ask q next) :
    (w.step answer i).store = (answer q w.store).2 := by
  rw [step_of_ask answer h]

theorem trace_step (h : w.rest i = .ask q next) :
    (w.step answer i).trace = ⟨i, q, (answer q w.store).1⟩ :: w.trace := by
  rw [step_of_ask answer h]

theorem rest_step (h : w.rest i = .ask q next) :
    (w.step answer i).rest i = next (answer q w.store).1 := by
  rw [step_of_ask answer h]
  exact Function.update_self ..

theorem rest_step_of_ne (h : w.rest i = .ask q next) {j : ι} (hj : j ≠ i) :
    (w.step answer i).rest j = w.rest j := by
  rw [step_of_ask answer h]
  exact Function.update_of_ne hj ..

end Step

/-! ### Coming to an end -/

/-- A caller that is not to ask more than `n` questions is done after `n` turns. -/
theorem exists_returns (answer : Answerer σ) {w : Race ι σ α} {i : ι} {n : Nat}
    (h : (w.rest i).Within n) {schedule : List ι} (hturns : n ≤ schedule.count i) :
    ∃ a, (w.run answer schedule).Returns i a := by
  induction schedule generalizing w n with
  | nil =>
    obtain rfl : n = 0 := Nat.le_zero.mp hturns
    cases hrest : w.rest i with
    | done a => exact ⟨a, hrest⟩
    | ask q next =>
      rw [hrest] at h
      exact h.elim
  | cons j schedule ih =>
    by_cases hj : j = i
    · subst hj
      rw [List.count_cons_self] at hturns
      cases hrest : w.rest j with
      | done a =>
        have hdone : ((w.step answer j).rest j).Within 0 := by
          rw [step_of_done answer hrest, hrest]
          trivial
        exact ih hdone (Nat.zero_le _)
      | ask q next =>
        rw [hrest] at h
        cases n with
        | zero => exact h.elim
        | succ n =>
          refine ih (n := n) ?_ (Nat.le_of_succ_le_succ hturns)
          rw [rest_step answer hrest]
          exact h _
    -- The turn of another caller leaves the questions of this one to be asked.
    · rw [List.count_cons_of_ne hj] at hturns
      refine ih (n := n) ?_ hturns
      cases hrest : w.rest j with
      | done a => rwa [step_of_done answer hrest]
      | ask q next => rwa [rest_step_of_ne answer hrest (Ne.symm hj)]

end Race

/-! ## Stores -/

/-- A store answers as it should: it finds exactly the user with an email, and creates one exactly
if there is none. -/
structure Lawful {σ : Type} (answer : Answerer σ) (users : σ → List User) : Prop where
  verify : ∀ token audience s, users (answer (.verify token audience) s).2 = users s
  find : ∀ email s, users (answer (.find email) s).2 = users s ∧
    ((∃ u ∈ users s, u.email = email ∧ (answer (.find email) s).1 = .ok u) ∨
      (∀ u ∈ users s, u.email ≠ email) ∧ (answer (.find email) s).1 = .error .notFound)
  create : ∀ email name s,
    ((∃ u ∈ users s, u.email = email) ∧ (answer (.create email name) s).1 = .error .conflict ∧
        users (answer (.create email name) s).2 = users s) ∨
      (∀ u ∈ users s, u.email ≠ email) ∧ ∃ u, u.email = email ∧ u.name = name ∧
        (answer (.create email name) s).1 = .ok u ∧
        (users (answer (.create email name) s).2).Perm (u :: users s)

namespace Lawful

variable {σ : Type} {answer : Answerer σ} {users : σ → List User}

/-- A question adds the user that it creates, and changes nothing else. -/
theorem perm (h : Lawful answer users) (q : Question) (s : σ) :
    (users (answer q s).2).Perm ((q.created? (answer q s).1).toList ++ users s) := by
  cases q with
  | verify token audience =>
    rw [h.verify]
    exact .refl _
  | find email =>
    rw [(h.find email s).1]
    exact .refl _
  | create email name =>
    rcases h.create email name s with ⟨-, hanswer, husers⟩ | ⟨-, u, -, -, hanswer, husers⟩
    · rw [husers, hanswer]
      exact .refl _
    · rw [hanswer]
      exact husers

theorem mem_iff (h : Lawful answer users) (q : Question) (s : σ) (u : User) :
    u ∈ users (answer q s).2 ↔ u ∈ users s ∨ q.created? (answer q s).1 = some u := by
  rw [(h.perm q s).mem_iff, List.mem_append, Option.mem_toList, or_comm]

/-- No email comes to have two users. -/
theorem nodup (h : Lawful answer users) (q : Question) {s : σ}
    (hs : ((users s).map User.email).Nodup) : ((users (answer q s).2).map User.email).Nodup := by
  rw [((h.perm q s).map User.email).nodup_iff]
  cases q with
  | verify token audience => exact hs
  | find email => exact hs
  | create email name =>
    rcases h.create email name s with ⟨-, hanswer, -⟩ | ⟨hnone, u, rfl, -, hanswer, -⟩
    · rw [hanswer]
      exact hs
    · rw [hanswer]
      refine List.nodup_cons.mpr ⟨?_, hs⟩
      rw [List.mem_map]
      rintro ⟨u', hu', hemail⟩
      exact hnone u' hu' hemail

end Lawful

namespace UserTable

/-- A table answers questions about its users, and takes every token to be in order. -/
def answer : Answerer UserTable
  | .verify _ _, t => (.ok (), t)
  | .find email, t => (t.find email, t)
  | .create email name, t => t.create email name

variable (t : UserTable) (email : String)

theorem find_cases : (∃ u ∈ t.users, u.email = email ∧ t.find email = .ok u) ∨
    (∀ u ∈ t.users, u.email ≠ email) ∧ t.find email = .error .notFound := by
  rw [find]
  cases hfind : t.users.find? (·.email == email) with
  | none => exact .inr ⟨by simpa using List.find?_eq_none.mp hfind, rfl⟩
  | some u =>
    exact .inl ⟨u, List.mem_of_find?_eq_some hfind, by simpa using List.find?_some hfind, rfl⟩

theorem lawful : Lawful answer users where
  verify _ _ _ := rfl
  find email t := ⟨rfl, t.find_cases email⟩
  create email name t := by
    rcases t.find_cases email with ⟨u, hu, hemail, hfind⟩ | ⟨hnone, hfind⟩
    · refine .inl ⟨⟨u, hu, hemail⟩, ?_⟩
      simp only [answer, create, hfind]
      exact ⟨rfl, trivial⟩
    · refine .inr ⟨hnone, ⟨t.nextId, email, name⟩, rfl, rfl, ?_⟩
      simp only [answer, create, hfind]
      exact ⟨rfl, List.perm_append_singleton ..⟩

end UserTable

/-! ## How far a login has come -/

namespace Identity

variable {ι σ : Type}

/-- Whether a question created a user with an email. -/
def Creates (x : Asked ι) (email : String) : Prop :=
  ∃ u, x.question.created? x.answer = some u ∧ u.email = email

/-- A caller asked none of these questions. -/
def Silent (i : ι) (l : List (Asked ι)) : Prop := ∀ x ∈ l, x.caller ≠ i

/-- A login looked an email up. -/
def lookedUp (i : ι) (email : String) (answer : Except StoreError User) : Asked ι :=
  ⟨i, .find email, answer⟩

/-- A login tried to create a user. -/
def tried (i : ι) (email name : String) (answer : Except StoreError User) : Asked ι :=
  ⟨i, .create email name, answer⟩

/-- Logins that race, each with an email and perhaps a name. -/
abbrev Logins (ι σ : Type) := Race ι σ (Except Error Identity)

variable (users : σ → List User) (email : ι → String) (name : ι → Option String)

/-- What a login has seen that is done, by what it came to. -/
inductive Settled (w : Logins ι σ) (i : ι) : Except Error Identity → Prop
  | found (u : User) (post pre : List (Asked ι)) (stored : u ∈ users w.store)
      (has : u.email = email i)
      (trace : w.trace = post ++ lookedUp i (email i) (.ok u) :: pre)
      (silentPost : Silent i post) (silentPre : Silent i pre) : Settled w i (.ok (ofUser u))
  | nameless (post pre : List (Asked ι)) (named : name i = none)
      (trace : w.trace = post ++ lookedUp i (email i) (.error .notFound) :: pre)
      (silentPost : Silent i post) (silentPre : Silent i pre) : Settled w i (.error .missingName)
  | created (n : String) (u : User) (post mid pre : List (Asked ι)) (named : name i = some n)
      (stored : u ∈ users w.store) (has : u.email = email i)
      (trace : w.trace = post ++ tried i (email i) n (.ok u) ::
        (mid ++ lookedUp i (email i) (.error .notFound) :: pre))
      (silentPost : Silent i post) (silentMid : Silent i mid) (silentPre : Silent i pre)
      (alone : ∀ x ∈ mid, ¬Creates x (email i)) : Settled w i (.ok (ofUser u))
  | conflicted (n : String) (post mid pre : List (Asked ι)) (named : name i = some n)
      (trace : w.trace = post ++ tried i (email i) n (.error .conflict) ::
        (mid ++ lookedUp i (email i) (.error .notFound) :: pre))
      (silentPost : Silent i post) (silentMid : Silent i mid) (silentPre : Silent i pre)
      (overtaken : ∃ x ∈ mid, Creates x (email i)) : Settled w i (.error (.creation .conflict))

/-- How far a login has come, and what it has seen. -/
inductive Standing (w : Logins ι σ) (i : ι) : Prop
  | unasked (rest : w.rest i = resolve (email i) (name i)) (silent : Silent i w.trace)
  /-- Whoever has the email by now was created since the login found nobody. -/
  | missed (n : String) (post pre : List (Asked ι)) (named : name i = some n)
      (rest : w.rest i = createWith (email i) (some n))
      (trace : w.trace = post ++ lookedUp i (email i) (.error .notFound) :: pre)
      (silentPost : Silent i post) (silentPre : Silent i pre)
      (since : ∀ u ∈ users w.store, u.email = email i → ∃ x ∈ post, Creates x (email i))
  | settled (a : Except Error Identity) (rest : w.Returns i a)
      (seen : Settled users email name w i a)

/-- The invariant of a race. -/
structure Fair (w : Logins ι σ) : Prop where
  unique : ((users w.store).map User.email).Nodup
  /-- Whoever was created is still there. -/
  stored : ∀ x ∈ w.trace, ∀ u, x.question.created? x.answer = some u → u ∈ users w.store
  standing : ∀ i, Standing users email name w i

variable {users email name}

section Other

variable {w w' : Logins ι σ} {i : ι} {x : Asked ι}

theorem Silent.cons {l : List (Asked ι)} (hx : x.caller ≠ i) (h : Silent i l) :
    Silent i (x :: l) :=
  List.forall_mem_cons.mpr ⟨hx, h⟩

theorem Settled.other {a : Except Error Identity} (h : Settled users email name w i a)
    (hx : x.caller ≠ i) (htrace : w'.trace = x :: w.trace)
    (husers : ∀ u, u ∈ users w'.store ↔ u ∈ users w.store ∨
      x.question.created? x.answer = some u) :
    Settled users email name w' i a := by
  cases h with
  | found u post pre stored has trace silentPost silentPre =>
    exact .found u (x :: post) pre ((husers u).mpr (.inl stored)) has (by rw [htrace, trace]; rfl)
      (silentPost.cons hx) silentPre
  | nameless post pre named trace silentPost silentPre =>
    exact .nameless (x :: post) pre named (by rw [htrace, trace]; rfl)
      (silentPost.cons hx) silentPre
  | created n u post mid pre named stored has trace silentPost silentMid silentPre alone =>
    exact .created n u (x :: post) mid pre named ((husers u).mpr (.inl stored)) has
      (by rw [htrace, trace]; rfl) (silentPost.cons hx) silentMid silentPre alone
  | conflicted n post mid pre named trace silentPost silentMid silentPre overtaken =>
    exact .conflicted n (x :: post) mid pre named (by rw [htrace, trace]; rfl) (silentPost.cons hx)
      silentMid silentPre overtaken

/-- A question of another caller changes nothing about a login. -/
theorem Standing.other (h : Standing users email name w i) (hx : x.caller ≠ i)
    (hrest : w'.rest i = w.rest i) (htrace : w'.trace = x :: w.trace)
    (husers : ∀ u, u ∈ users w'.store ↔ u ∈ users w.store ∨
      x.question.created? x.answer = some u) :
    Standing users email name w' i := by
  cases h with
  | unasked rest silent =>
    refine .unasked (hrest.trans rest) ?_
    rw [htrace]
    exact silent.cons hx
  | missed n post pre named rest trace silentPost silentPre since =>
    refine .missed n (x :: post) pre named (hrest.trans rest) (by rw [htrace, trace]; rfl)
      (silentPost.cons hx) silentPre ?_
    intro u hu hemail
    rcases (husers u).mp hu with hu | hcreated
    · obtain ⟨y, hy, hcreates⟩ := since u hu hemail
      exact ⟨y, List.mem_cons_of_mem _ hy, hcreates⟩
    -- The other caller has created the user just now.
    · exact ⟨x, List.mem_cons_self, u, hcreated, hemail⟩
  | settled a rest seen => exact .settled a (hrest.trans rest) (seen.other hx htrace husers)

end Other

/-- A question that splits a list in two parts in which its caller is silent is the only one. -/
theorem split_unique {i : ι} {p q p' q' : List (Asked ι)} {a a' : Asked ι}
    (h : p ++ a :: q = p' ++ a' :: q') (hp : Silent i p) (hq : Silent i q) (ha' : a'.caller = i) :
    p = p' ∧ a = a' ∧ q = q' := by
  -- Whichever list is longer would have a question of the caller where the other one is silent.
  induction p generalizing p' with
  | nil =>
    cases p' with
    | nil =>
      obtain ⟨rfl, rfl⟩ := List.cons.inj h
      exact ⟨rfl, rfl, rfl⟩
    | cons c p' =>
      obtain ⟨rfl, rfl⟩ := List.cons.inj h
      exact absurd ha' (hq a' (by simp))
  | cons c p ih =>
    obtain ⟨hc, hp⟩ := List.forall_mem_cons.mp hp
    cases p' with
    | nil =>
      obtain ⟨rfl, -⟩ := List.cons.inj h
      exact absurd ha' hc
    | cons c' p' =>
      obtain ⟨rfl, htail⟩ := List.cons.inj h
      obtain ⟨rfl, rest⟩ := ih htail hp
      exact ⟨rfl, rest⟩

/-- Nor can two questions be told apart from two others of their caller. -/
theorem between_unique {i : ι} {p q r p' q' r' : List (Asked ι)} {a b a' b' : Asked ι}
    (h : p ++ a :: (q ++ b :: r) = p' ++ a' :: (q' ++ b' :: r')) (hp : Silent i p)
    (hq : Silent i q) (hr : Silent i r) (ha' : a'.caller = i) (hb' : b'.caller = i) : q = q' := by
  induction p generalizing p' with
  | nil =>
    cases p' with
    | nil => exact (split_unique (List.cons.inj h).2 hq hr hb').1
    | cons c p' =>
      obtain ⟨-, -, rfl⟩ := split_unique (List.cons.inj h).2 hq hr ha'
      exact absurd hb' (hr b' (by simp))
  | cons c p ih =>
    obtain ⟨hc, hp⟩ := List.forall_mem_cons.mp hp
    cases p' with
    | nil =>
      obtain ⟨rfl, -⟩ := List.cons.inj h
      exact absurd ha' hc
    | cons c' p' => exact ih (List.cons.inj h).2 hp

/-- The logins before any has asked. -/
def logins (email : ι → String) (name : ι → Option String) (store : σ) : Logins ι σ :=
  ⟨store, fun i => resolve (email i) (name i), []⟩

/-- A login asks two questions at most. -/
theorem within_resolve (email : String) (name : Option String) :
    (resolve email name).Within 2 := by
  intro answer
  cases (answer : Except StoreError User) with
  | ok u => trivial
  | error e =>
    cases e with
    | notFound =>
      cases name with
      | none => trivial
      | some n =>
        intro answer
        trivial
    | conflict => trivial
    | database e => trivial

theorem fair_logins (email : ι → String) (name : ι → Option String) {store : σ}
    (h : ((users store).map User.email).Nodup) :
    Fair users email name (logins email name store) where
  unique := h
  stored _ hx := absurd hx List.not_mem_nil
  standing _ := .unasked rfl (List.forall_mem_nil _)

variable [DecidableEq ι] {answer : Answerer σ} {w : Logins ι σ}

/-- The lookup, on which all else depends. -/
theorem Standing.look (lawful : Lawful answer users) {i : ι}
    (rest : w.rest i = resolve (email i) (name i)) (silent : Silent i w.trace) :
    Standing users email name (w.step answer i) i := by
  have hstore := Race.store_step answer rest
  have htrace := Race.trace_step answer rest
  have hrest := Race.rest_step answer rest
  obtain ⟨husers, ⟨u, hu, hemail, hanswer⟩ | ⟨hnone, hanswer⟩⟩ := lawful.find (email i) w.store
  · rw [hanswer] at htrace hrest
    refine .settled _ hrest (.found u [] w.trace ?_ hemail htrace (List.forall_mem_nil _) silent)
    rw [hstore, husers]
    exact hu
  · rw [hanswer] at htrace hrest
    cases hname : name i with
    | none =>
      rw [hname] at hrest
      exact .settled _ hrest (.nameless [] w.trace hname htrace (List.forall_mem_nil _) silent)
    | some n =>
      rw [hname] at hrest
      refine .missed n [] w.trace hname hrest htrace (List.forall_mem_nil _) silent ?_
      intro u hu hemail
      rw [hstore, husers] at hu
      exact absurd hemail (hnone u hu)

/-- The creation. It is refused exactly if the user was created since the lookup. -/
theorem Standing.create (lawful : Lawful answer users) (h : Fair users email name w) {i : ι}
    {n : String} {post pre : List (Asked ι)} (named : name i = some n)
    (rest : w.rest i = createWith (email i) (some n))
    (trace : w.trace = post ++ lookedUp i (email i) (.error .notFound) :: pre)
    (silentPost : Silent i post) (silentPre : Silent i pre)
    (since : ∀ u ∈ users w.store, u.email = email i → ∃ x ∈ post, Creates x (email i)) :
    Standing users email name (w.step answer i) i := by
  have hstore := Race.store_step answer rest
  have htrace := Race.trace_step answer rest
  have hrest := Race.rest_step answer rest
  rcases lawful.create (email i) n w.store with
    ⟨⟨u, hu, hemail⟩, hanswer, -⟩ | ⟨hnone, u, hemail, -, hanswer, husers⟩
  · rw [hanswer] at htrace hrest
    exact .settled _ hrest (.conflicted n [] post pre named (by rw [htrace, trace]; rfl)
      (List.forall_mem_nil _) silentPost silentPre (since u hu hemail))
  · rw [hanswer] at htrace hrest
    refine .settled _ hrest (.created n u [] post pre named ?_ hemail (by rw [htrace, trace]; rfl)
      (List.forall_mem_nil _) silentPost silentPre ?_)
    · rw [hstore]
      exact husers.mem_iff.mpr List.mem_cons_self
    -- Whoever was created before is stored, and then the store would have refused.
    · rintro x hx ⟨u', hcreated, hemail'⟩
      have hmem : x ∈ w.trace := by rw [trace]; exact List.mem_append_left _ hx
      exact hnone u' (h.stored x hmem u' hcreated) hemail'

/-- **Every turn keeps the race fair.** -/
theorem Fair.step (lawful : Lawful answer users) (h : Fair users email name w) (i : ι) :
    Fair users email name (w.step answer i) := by
  cases hrest : w.rest i with
  | done a => rwa [Race.step_of_done answer hrest]
  | ask q next =>
    have hstore := Race.store_step answer hrest
    have htrace := Race.trace_step answer hrest
    have husers : ∀ u, u ∈ users (w.step answer i).store ↔
        u ∈ users w.store ∨ q.created? (answer q w.store).1 = some u := by
      intro u
      rw [hstore, lawful.mem_iff]
    constructor
    · rw [hstore]
      exact lawful.nodup q h.unique
    · intro x hx u hu
      rw [htrace] at hx
      rcases List.mem_cons.mp hx with rfl | hx
      · exact (husers u).mpr (.inr hu)
      · exact (husers u).mpr (.inl (h.stored x hx u hu))
    · intro j
      by_cases hj : i = j
      · subst hj
        cases h.standing i with
        | unasked rest silent => exact Standing.look lawful rest silent
        | missed n post pre named rest trace silentPost silentPre since =>
          exact Standing.create lawful h named rest trace silentPost silentPre since
        | settled a rest => cases hrest.symm.trans rest
      · exact (h.standing j).other hj
          (Race.rest_step_of_ne answer hrest (Ne.symm hj)) htrace husers

/-! ## What comes of a race -/

theorem Fair.run (lawful : Lawful answer users) (h : Fair users email name w) (schedule : List ι) :
    Fair users email name (w.run answer schedule) := by
  induction schedule generalizing w with
  | nil => exact h
  | cons i schedule ih => exact ih (h.step lawful i)

/-- Users stay, with their ids and names, whoever's turn it is. -/
theorem mem_run (lawful : Lawful answer users) {u : User} (h : u ∈ users w.store)
    (schedule : List ι) : u ∈ users (w.run answer schedule).store := by
  induction schedule generalizing w with
  | nil => exact h
  | cons i schedule ih =>
    refine ih ?_
    cases hrest : w.rest i with
    | done a => rwa [Race.step_of_done answer hrest]
    | ask q next =>
      rw [Race.store_step answer hrest]
      exact (lawful.mem_iff q w.store u).mpr (.inl h)

/-- Between its lookup and its creation, another login created the user. -/
def Overtaken (w : Logins ι σ) (i : ι) (email : String) : Prop :=
  ∃ (post mid pre : List (Asked ι)) (n : String) (a b : Except StoreError User),
    w.trace = post ++ tried i email n a :: (mid ++ lookedUp i email b :: pre) ∧
      ∃ x ∈ mid, x.caller ≠ i ∧ Creates x email

/-- The creations that a login asked for. -/
def creations (w : Logins ι σ) (i : ι) : List (Asked ι) :=
  w.trace.filter fun x => x.caller = i && x.question.isCreate

theorem mem_creations {i : ι} {x : Asked ι} :
    x ∈ creations w i ↔ x ∈ w.trace ∧ x.caller = i ∧ x.question.isCreate = true := by
  rw [creations, List.mem_filter, Bool.and_eq_true, decide_eq_true_iff]

theorem filter_silent {i : ι} {l : List (Asked ι)} (h : Silent i l) :
    l.filter (fun x => x.caller = i && x.question.isCreate) = [] := by
  rw [List.filter_eq_nil_iff]
  intro x hx
  simp [h x hx]

theorem creations_of_look {i : ι} {post pre : List (Asked ι)} {e : String}
    {a : Except StoreError User} (trace : w.trace = post ++ lookedUp i e a :: pre)
    (silentPost : Silent i post) (silentPre : Silent i pre) : creations w i = [] := by
  rw [creations, trace, List.filter_append, List.filter_cons, filter_silent silentPost,
    filter_silent silentPre]
  simp [lookedUp, Question.isCreate]

theorem creations_of_try {i : ι} {post mid pre : List (Asked ι)} {e n : String}
    {a b : Except StoreError User}
    (trace : w.trace = post ++ tried i e n a :: (mid ++ lookedUp i e b :: pre))
    (silentPost : Silent i post) (silentMid : Silent i mid) (silentPre : Silent i pre) :
    creations w i = [tried i e n a] := by
  rw [creations, trace, List.filter_append, List.filter_cons, List.filter_append, List.filter_cons,
    filter_silent silentPost, filter_silent silentMid, filter_silent silentPre]
  simp [lookedUp, tried, Question.isCreate]

namespace Standing

variable {i : ι}

/-- No login asks for more than one creation. -/
theorem length_creations (h : Standing users email name w i) : (creations w i).length ≤ 1 := by
  cases h with
  | unasked rest silent =>
    rw [creations, filter_silent silent]
    exact Nat.zero_le 1
  | missed n post pre named rest trace silentPost silentPre =>
    rw [creations_of_look trace silentPost silentPre]
    exact Nat.zero_le 1
  | settled a rest seen =>
    cases seen with
    | found u post pre stored has trace silentPost silentPre =>
      rw [creations_of_look trace silentPost silentPre]
      exact Nat.zero_le 1
    | nameless post pre named trace silentPost silentPre =>
      rw [creations_of_look trace silentPost silentPre]
      exact Nat.zero_le 1
    | created n u post mid pre named stored has trace silentPost silentMid silentPre =>
      rw [creations_of_try trace silentPost silentMid silentPre]
      exact Nat.le_refl 1
    | conflicted n post mid pre named trace silentPost silentMid silentPre =>
      rw [creations_of_try trace silentPost silentMid silentPre]
      exact Nat.le_refl 1

omit [DecidableEq ι] in
theorem settled_of_returns (h : Standing users email name w i) {a : Except Error Identity}
    (ha : w.Returns i a) : Settled users email name w i a := by
  cases h with
  | unasked rest => cases ha.symm.trans rest
  | missed n post pre named rest => cases ha.symm.trans rest
  | settled a' rest seen =>
    cases ha.symm.trans rest
    exact seen

omit [DecidableEq ι] in
theorem outcomes (h : Standing users email name w i) {a : Except Error Identity}
    (ha : w.Returns i a) : (∃ who, w.Returns i (.ok who)) ∨
      w.Returns i (.error (.creation .conflict)) ∨ w.Returns i (.error .missingName) := by
  cases h.settled_of_returns ha with
  | found u => exact .inl ⟨_, ha⟩
  | nameless => exact .inr (.inr ha)
  | created n u => exact .inl ⟨_, ha⟩
  | conflicted => exact .inr (.inl ha)

omit [DecidableEq ι] in
/-- Who a login leads to is stored under its email. -/
theorem exists_of_ok (h : Standing users email name w i) {who : Identity}
    (hwho : w.Returns i (.ok who)) : ∃ u ∈ users w.store, u.email = email i ∧ who = ofUser u := by
  cases h.settled_of_returns hwho with
  | found u post pre stored has => exact ⟨u, stored, has, rfl⟩
  | created n u post mid pre named stored has => exact ⟨u, stored, has, rfl⟩

/-- A creation is refused exactly if the login was overtaken. -/
theorem conflict_iff (h : Standing users email name w i) :
    w.Returns i (.error (.creation .conflict)) ↔ Overtaken w i (email i) := by
  constructor
  · intro hconflict
    cases h.settled_of_returns hconflict with
    | conflicted n post mid pre named trace silentPost silentMid silentPre overtaken =>
      obtain ⟨x, hx, hcreates⟩ := overtaken
      exact ⟨post, mid, pre, n, _, _, trace, x, hx, silentMid x hx, hcreates⟩
  · rintro ⟨post', mid', pre', n', a, b, htrace, x, hx, -, hcreates⟩
    have hmem : tried i (email i) n' a ∈ creations w i :=
      mem_creations.mpr ⟨by simp [htrace], rfl, rfl⟩
    cases h with
    | unasked rest silent => exact absurd rfl (silent _ (mem_creations.mp hmem).1)
    | missed n post pre named rest trace silentPost silentPre =>
      rw [creations_of_look trace silentPost silentPre] at hmem
      cases hmem
    | settled r rest seen =>
      cases seen with
      | found u post pre stored has trace silentPost silentPre =>
        rw [creations_of_look trace silentPost silentPre] at hmem
        cases hmem
      | nameless post pre named trace silentPost silentPre =>
        rw [creations_of_look trace silentPost silentPre] at hmem
        cases hmem
      | created n u post mid pre named stored has trace silentPost silentMid silentPre alone =>
        -- The lookup and the creation are the only ones, so what is between them is the same.
        have hmid : mid = mid' := between_unique (trace.symm.trans htrace) silentPost silentMid
          silentPre rfl rfl
        exact absurd hcreates (alone x (hmid ▸ hx))
      | conflicted n post mid pre named => exact rest

omit [DecidableEq ι] in
/-- A name is missing exactly if the lookup found nobody and there was none. -/
theorem missingName_iff (h : Standing users email name w i) :
    w.Returns i (.error .missingName) ↔
      lookedUp i (email i) (.error .notFound) ∈ w.trace ∧ name i = none := by
  constructor
  · intro hmissing
    cases h.settled_of_returns hmissing with
    | nameless post pre named trace => exact ⟨by simp [trace], named⟩
  · rintro ⟨hmem, hname⟩
    cases h with
    | unasked rest silent => exact absurd rfl (silent _ hmem)
    | missed n post pre named => cases hname.symm.trans named
    | settled a rest seen =>
      cases seen with
      | found u post pre stored has trace silentPost silentPre =>
        -- There is only one lookup, and that one found somebody.
        obtain ⟨post', pre', htrace⟩ := List.append_of_mem hmem
        obtain ⟨-, hlook, -⟩ := split_unique (trace.symm.trans htrace) silentPost silentPre rfl
        cases hlook
      | nameless post pre named => exact rest
      | created n u post mid pre named => cases hname.symm.trans named
      | conflicted n post mid pre named => cases hname.symm.trans named

/-- Nothing is created for want of a name. -/
theorem creations_of_missingName (h : Standing users email name w i)
    (hmissing : w.Returns i (.error .missingName)) : creations w i = [] := by
  cases h.settled_of_returns hmissing with
  | nameless post pre named trace silentPost silentPre =>
    exact creations_of_look trace silentPost silentPre

end Standing

/-- **Logins may race.** Whatever turns they take, on a store that starts with no two users of one
email: no email comes to have two users, and no user is lost or changed; a login that has had two
turns is done, and unless it succeeds, its creation was refused or its name is missing; every login
that succeeds leads to the one user of its email; a creation is refused exactly if another login
created the user since the lookup; a name is missing exactly if there was none to create a user
with, and then nothing is created; and no login creates twice. -/
theorem races_resolve (lawful : Lawful answer users) (email : ι → String)
    (name : ι → Option String)
    {store : σ} (hstart : ((users store).map User.email).Nodup) (schedule : List ι) :
    let w := (logins email name store).run answer schedule
    ((users w.store).map User.email).Nodup ∧
    (∀ later, ∀ u ∈ users w.store, u ∈ users (w.run answer later).store) ∧
    (∀ i, 2 ≤ schedule.count i → (∃ who, w.Returns i (.ok who)) ∨
      w.Returns i (.error (.creation .conflict)) ∨ w.Returns i (.error .missingName)) ∧
    (∀ i who, w.Returns i (.ok who) → ∃ u ∈ users w.store, u.email = email i ∧
      who = ⟨u.id, u.name⟩) ∧
    (∀ i, w.Returns i (.error (.creation .conflict)) ↔ Overtaken w i (email i)) ∧
    (∀ i, w.Returns i (.error .missingName) ↔
      lookedUp i (email i) (.error .notFound) ∈ w.trace ∧ name i = none) ∧
    (∀ i, w.Returns i (.error .missingName) → creations w i = []) ∧
    ∀ i, (creations w i).length ≤ 1 := by
  intro w
  have h : Fair users email name w := (fair_logins email name hstart).run lawful schedule
  refine ⟨h.unique, fun later _ hu => mem_run lawful hu later, ?_,
    fun i _ hwho => (h.standing i).exists_of_ok hwho, fun i => (h.standing i).conflict_iff,
    fun i => (h.standing i).missingName_iff, fun i => (h.standing i).creations_of_missingName,
    fun i => (h.standing i).length_creations⟩
  intro i hturns
  obtain ⟨a, ha⟩ := Race.exists_returns (w := logins email name store) answer
    (within_resolve (email i) (name i)) hturns
  exact (h.standing i).outcomes ha

/-- Two logins that both look before either creates: one creates the user, and the other is
refused. A third that comes later finds the user. -/
theorem races_resolve_conflict :
    let email : Fin 3 → String := fun _ => "ann@example.org"
    let name : Fin 3 → Option String := fun i => if i = 2 then none else some "Ann"
    let w := (logins email name ⟨[], 1⟩).run UserTable.answer [0, 1, 0, 1, 2]
    w.Returns 0 (.ok ⟨1, "Ann"⟩) ∧ w.Returns 1 (.error (.creation .conflict)) ∧
      w.Returns 2 (.ok ⟨1, "Ann"⟩) ∧ Overtaken w 1 "ann@example.org" ∧
      (w.store.users.map User.email).Nodup := by
  intro email name w
  have hstart : ((UserTable.users ⟨[], 1⟩).map User.email).Nodup := List.nodup_nil
  obtain ⟨hnodup, -, -, -, hconflict, -⟩ :=
    races_resolve UserTable.lawful email name hstart [0, 1, 0, 1, 2]
  have hrefused : w.Returns 1 (.error (.creation .conflict)) := rfl
  exact ⟨rfl, hrefused, rfl, (hconflict 1).mp hrefused, hnodup⟩

end Identity

end SignIn
