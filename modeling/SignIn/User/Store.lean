import SignIn.Text.Utf8

/-!
# Users

The service needs two things of its store: to find the user with an email, and to create one. That
no user was found is an answer that is expected at every first login, so it has a name of its own
among the errors.
-/

namespace SignIn

structure User where
  id : Int64
  email : String
  name : String
  deriving DecidableEq, Repr

/-- What can be wrong with a database. -/
inductive DatabaseError where
  | noRow
  /-- An error that the database reports; it may be that a value which must be unique is taken. -/
  | reported (isTaken : Bool) (text : String)
  | poolTimedOut
  | poolClosed
  | workerCrashed
  | protocol (text : String)
  | noColumn (name : String)
  deriving DecidableEq, Repr

def DatabaseError.message : DatabaseError → String
  | .noRow => "no rows returned by a query that expected to return at least one row"
  | .reported _ text => "error returned from database: " ++ text
  | .poolTimedOut => "pool timed out while waiting for an open connection"
  | .poolClosed => "attempted to acquire a connection on a closed pool"
  | .workerCrashed => "attempted to communicate with a crashed background worker"
  | .protocol text => "encountered unexpected or invalid data: " ++ text
  | .noColumn name => "no column found for name: " ++ name

/-- Why the store did not give a user. -/
inductive StoreError where
  | notFound
  /-- The email is taken. -/
  | conflict
  | database (e : DatabaseError)
  deriving DecidableEq, Repr

namespace StoreError

def message : StoreError → String
  | .notFound => "no matching user"
  | .conflict => "a user with that email already exists"
  | .database e => "database error: " ++ e.message

/-- What an error of the database means for the store. -/
def ofDatabase : DatabaseError → StoreError
  | .noRow => .notFound
  | .reported true _ => .conflict
  | e => .database e

end StoreError

/-- A store that is a table in memory. -/
structure UserTable where
  users : List User
  /-- The id that the next user is given. -/
  nextId : Int64
  deriving DecidableEq, Repr

namespace UserTable

/-- The user with exactly this email. -/
def find (t : UserTable) (email : String) : Except StoreError User :=
  match t.users.find? (·.email == email) with
  | some u => .ok u
  | none => .error .notFound

/-- Adds a user, unless there is one with this email. Ids are given out in turn, and go on from the
least after the greatest. -/
def create (t : UserTable) (email name : String) : Except StoreError User × UserTable :=
  match t.find email with
  | .ok _ => (.error .conflict, t)
  | .error _ =>
    let u : User := ⟨t.nextId, email, name⟩
    (.ok u, ⟨t.users ++ [u], t.nextId + 1⟩)

end UserTable

end SignIn
