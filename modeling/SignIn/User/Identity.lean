import SignIn.Dialogue

/-!
# Who a login belongs to

A verified email is looked up in the store. A user who is not there yet is created, for which a
name is needed. A user who is there keeps the name that the store has. If another login creates the
same user in between, the creation fails and is not tried again.
-/

namespace SignIn

/-- The user that a login belongs to. -/
structure Identity where
  userId : Int64
  name : String
  deriving DecidableEq, Repr

namespace Identity

def ofUser (u : User) : Identity := ⟨u.id, u.name⟩

/-- Why a login belongs to no user. -/
inductive Error where
  | missingName
  | lookup (e : StoreError)
  | creation (e : StoreError)
  deriving DecidableEq, Repr

def Error.message : Error → String
  | .missingName => "a display name is required to create a new user"
  | .lookup e => "local-auth failed looking up user: " ++ e.message
  | .creation e => "local-auth failed creating user: " ++ e.message

/-- What the answer to a creation means. -/
def ofCreation : Except StoreError User → Except Error Identity
  | .ok u => .ok (ofUser u)
  | .error e => .error (.creation e)

/-- Creates a user who was not found. -/
def createWith (email : String) : Option String → Dialogue (Except Error Identity)
  | none => .done (.error .missingName)
  | some name => .ask (.create email name) fun answer => .done (ofCreation answer)

/-- Finds the user with an email, or creates one. -/
def resolve (email : String) (name : Option String) : Dialogue (Except Error Identity) :=
  .ask (.find email) fun answer =>
    match (answer : Except StoreError User) with
    | .ok u => .done (.ok (ofUser u))
    | .error .notFound => createWith email name
    | .error e => .done (.error (.lookup e))

end Identity

end SignIn
