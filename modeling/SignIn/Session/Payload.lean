import SignIn.Json.Printer
import SignIn.Session.Basic

/-!
# What is sealed into a cookie

The text of a session and of the second it was written in.
-/

namespace SignIn.Session

/-- A session and the second it was written in. -/
structure Payload where
  session : Session
  issuedAt : Int64
  deriving DecidableEq, Repr

def print (s : Session) : Bytes :=
  Json.printObject
    [("userID", Json.printInt s.userId.toInt), ("name", Json.printString s.name),
      ("isLoggedIn", Json.printBool s.isLoggedIn), ("sid", Json.printString s.id.text)]

def Payload.print (p : Payload) : Bytes :=
  Json.printObject
    [("session", p.session.print), ("issued_at", Json.printInt p.issuedAt.toInt)]

def schema : Json.Schema Session where
  name := "Session"
  blank := ⟨0, "", false, .zero⟩
  fields :=
    [.of "userID" Json.intField fun n s => { s with userId := n },
      .of "name" Json.stringField fun n s => { s with name := n },
      .of "isLoggedIn" Json.boolField fun b s => { s with isLoggedIn := b },
      .of "sid" Uuid.jsonField fun u s => { s with id := u }]

def Payload.schema : Json.Schema Payload where
  name := "Sealed"
  blank := ⟨Session.schema.blank, 0⟩
  fields :=
    [.of "session" Session.schema.read fun s p => { p with session := s },
      .of "issued_at" Json.intField fun n p => { p with issuedAt := n }]

def Payload.parse (s : Bytes) : Except Json.Error Payload := Payload.schema.parse s

/-- The session of a payload in the second `now`, unless it has expired by then. -/
def Payload.sessionAt (p : Payload) (now : Int64) : Attempt Session :=
  match age? p.issuedAt now with
  | none => .overflow
  | some age => if maxAge < age then .error .expired else .ok p.session

end SignIn.Session
