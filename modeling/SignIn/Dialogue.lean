import SignIn.Token.Verdict
import SignIn.User.Store

/-!
# Dialogues

What the service has to ask of others: the provider about a token, and the store about a user. A
dialogue is a computation that asks such questions and goes on with the answers. It does not say
who answers: it can be run against any `Answerer`, and it can be taken apart question by question,
as it has to be where several dialogues take turns.
-/

namespace SignIn

/-- A question to the provider or to the store. -/
inductive Question where
  | verify (token audience : String)
  | find (email : String)
  | create (email name : String)
  deriving DecidableEq, Repr

def Question.Answer : Question → Type
  | .verify _ _ => Except Token.Refusal Unit
  | .find _ => Except StoreError User
  | .create _ _ => Except StoreError User

/-- A computation that asks questions on its way to an `α`. -/
inductive Dialogue (α : Type) where
  | done (a : α)
  | ask (q : Question) (next : q.Answer → Dialogue α)

/-- What answers questions: its state is a `σ`. -/
def Answerer (σ : Type) := (q : Question) → σ → q.Answer × σ

namespace Dialogue

/-- Goes on with the value that a dialogue arrives at. -/
def bind {α β : Type} (f : α → Dialogue β) : Dialogue α → Dialogue β
  | .done a => f a
  | .ask q next => .ask q fun a => (next a).bind f

def question (q : Question) : Dialogue q.Answer := .ask q .done

/-- The outcome of a dialogue: where it arrived, and the questions that were asked, in order. -/
structure Outcome (α σ : Type) where
  value : α
  asked : List Question
  state : σ

/-- Holds a dialogue with an answerer. -/
def run {α σ : Type} (answer : Answerer σ) : Dialogue α → σ → Outcome α σ
  | .done a, s => ⟨a, [], s⟩
  | .ask q next, s =>
    let (a, s) := answer q s
    let o := (next a).run answer s
    { o with asked := q :: o.asked }

end Dialogue

end SignIn
