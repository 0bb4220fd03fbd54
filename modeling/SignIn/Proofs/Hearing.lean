import SignIn.Proofs.FindOrCreate

/-!
# What a dialogue hears

The outcome of a dialogue lists what was asked, but not what was answered. What is heard on the
way, questions and answers together, decides everything else about it: who answers is then of no
further interest, except for what becomes of the users. Of a store it is asked only that nothing
but a creation that succeeds writes to it (`Careful`), or that such a creation adds the user it
answers with (`Growing`). What was heard then says how the users have changed.
-/

namespace SignIn

/-! ## Questions with their answers -/

/-- A question and the answer to it. -/
inductive Heard where
  | verdict (token audience : String) (answer : Except Token.Refusal Unit)
  | lookup (email : String) (answer : Except StoreError User)
  | creation (email name : String) (answer : Except StoreError User)
  deriving DecidableEq, Repr

namespace Heard

def of : (q : Question) → q.Answer → Heard
  | .verify token audience, a => .verdict token audience a
  | .find email, a => .lookup email a
  | .create email name, a => .creation email name a

def question : Heard → Question
  | .verdict token audience _ => .verify token audience
  | .lookup email _ => .find email
  | .creation email name _ => .create email name

/-- The user that was created. -/
def created? : Heard → Option User
  | .creation _ _ answer => answer.toOption
  | _ => none

@[simp] theorem question_of (q : Question) (a : q.Answer) : (of q a).question = q := by
  cases q <;> rfl

@[simp] theorem created?_of (q : Question) (a : q.Answer) : (of q a).created? = q.created? a := by
  cases q <;> rfl

theorem mem_map_question_iff {l : List Heard} {q : Question} :
    q ∈ l.map question ↔ ∃ a : q.Answer, of q a ∈ l := by
  rw [List.mem_map]
  constructor
  · rintro ⟨x, hx, rfl⟩
    cases x <;> exact ⟨_, hx⟩
  · rintro ⟨a, ha⟩
    exact ⟨_, ha, question_of q a⟩

end Heard

namespace Dialogue

variable {α β σ : Type} (answer : Answerer σ)

/-- What is heard when a dialogue is held, in order. -/
def heard : Dialogue α → σ → List Heard
  | .done _, _ => []
  | .ask q next, s => .of q (answer q s).1 :: (next (answer q s).1).heard (answer q s).2

theorem heard_ask (q : Question) (next : q.Answer → Dialogue α) (s : σ) :
    (ask q next).heard answer s
      = .of q (answer q s).1 :: (next (answer q s).1).heard answer (answer q s).2 := rfl

theorem value_ask (q : Question) (next : q.Answer → Dialogue α) (s : σ) :
    ((ask q next).run answer s).value
      = ((next (answer q s).1).run answer (answer q s).2).value := rfl

theorem state_ask (q : Question) (next : q.Answer → Dialogue α) (s : σ) :
    ((ask q next).run answer s).state
      = ((next (answer q s).1).run answer (answer q s).2).state := rfl

/-- What was asked is what an answer was heard to. -/
theorem map_question_heard (d : Dialogue α) (s : σ) :
    (d.heard answer s).map Heard.question = (d.run answer s).asked := by
  induction d generalizing s with
  | done a => rfl
  | ask q next ih =>
    rw [heard_ask, List.map_cons, Heard.question_of, ih]
    rfl

/-! ## Going on with a value -/

variable (f : α → Dialogue β)

theorem heard_bind (d : Dialogue α) (s : σ) :
    (d.bind f).heard answer s
      = d.heard answer s ++ (f (d.run answer s).value).heard answer (d.run answer s).state := by
  induction d generalizing s with
  | done a => rfl
  | ask q next ih =>
    rw [bind, heard_ask, heard_ask, value_ask, state_ask, ih, List.cons_append]

theorem value_bind (d : Dialogue α) (s : σ) :
    ((d.bind f).run answer s).value
      = ((f (d.run answer s).value).run answer (d.run answer s).state).value := by
  induction d generalizing s with
  | done a => rfl
  | ask q next ih => rw [bind, value_ask, value_ask, state_ask, ih]

end Dialogue

/-! ## What becomes of the users -/

/-- Nothing but a creation that succeeds writes to a store. -/
structure Careful {σ : Type} (answer : Answerer σ) (users : σ → List User) : Prop where
  kept : ∀ q s, q.created? (answer q s).1 = none → users (answer q s).2 = users s

/-- And it adds the user that it answers with. -/
structure Growing {σ : Type} (answer : Answerer σ) (users : σ → List User) : Prop
    extends Careful answer users where
  added : ∀ q s u, q.created? (answer q s).1 = some u → (users (answer q s).2).Perm (u :: users s)

section Users

variable {α σ : Type} {answer : Answerer σ} {users : σ → List User}

theorem Lawful.growing (h : Lawful answer users) : Growing answer users where
  kept q s hnone := by
    cases q with
    | verify token audience => exact h.verify token audience s
    | find email => exact (h.find email s).1
    | create email name =>
      rcases h.create email name s with ⟨-, -, husers⟩ | ⟨-, u, -, -, hanswer, -⟩
      · exact husers
      · rw [hanswer] at hnone
        cases hnone
  added q s u hsome := by
    have hperm := h.perm q s
    rwa [hsome] at hperm

/-- A dialogue in which nobody was created leaves the users as they were. -/
theorem Careful.users_run (h : Careful answer users) (d : Dialogue α) (s : σ)
    (hnone : ∀ x ∈ d.heard answer s, x.created? = none) :
    users (d.run answer s).state = users s := by
  induction d generalizing s with
  | done a => rfl
  | ask q next ih =>
    rw [Dialogue.heard_ask, List.forall_mem_cons, Heard.created?_of] at hnone
    rw [Dialogue.state_ask, ih _ _ hnone.2, h.kept q s hnone.1]

/-- Whoever was created has been added, and nobody else. -/
theorem Growing.perm_run (h : Growing answer users) (d : Dialogue α) (s : σ) :
    (users (d.run answer s).state).Perm
      ((d.heard answer s).filterMap Heard.created? ++ users s) := by
  induction d generalizing s with
  | done a => exact .refl _
  | ask q next ih =>
    rw [Dialogue.heard_ask, Dialogue.state_ask]
    refine (ih _ _).trans ?_
    cases hcreated : q.created? (answer q s).1 with
    | none =>
      rw [List.filterMap_cons_none (by rw [Heard.created?_of]; exact hcreated),
        h.kept q s hcreated]
    | some u =>
      rw [List.filterMap_cons_some (by rw [Heard.created?_of]; exact hcreated)]
      exact ((h.added q s u hcreated).append_left _).trans List.perm_middle

end Users

end SignIn
