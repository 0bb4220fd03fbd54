import SignIn.Http.Message

/-!
# Routes

Four paths are known, each with one method; a path that answers `GET` also answers `HEAD`. Paths
and methods are compared as they are spelled.
-/

namespace SignIn.Http

/-- A path that the service knows. -/
inductive Route where
  | signIn
  | whoAmI
  | logout
  | health
  deriving DecidableEq, Repr

namespace Route

def path : Route → String
  | .signIn => "/authGoogle"
  | .whoAmI => "/whoami"
  | .logout => "/logout"
  | .health => "/healthz"

def all : List Route := [.signIn, .whoAmI, .logout, .health]

def ofPath? (path : String) : Option Route := all.find? (·.path == path)

def methods : Route → List String
  | .signIn => ["POST"]
  | .whoAmI => ["GET", "HEAD"]
  | .logout => ["POST"]
  | .health => ["GET", "HEAD"]

/-- What a response says about the route if it does not answer the method of the request. -/
def allowHeader (request : Request) : List (String × Bytes) :=
  match ofPath? request.path with
  | some r =>
    if r.methods.contains request.method then []
    else [("allow", Utf8.encode (",".intercalate r.methods))]
  | none => []

end Route

end SignIn.Http
