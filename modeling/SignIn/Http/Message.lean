import SignIn.Cookie.Change

/-!
# Requests and responses

As much of them as the service looks at or decides on.
-/

namespace SignIn.Http

structure Request where
  method : String
  /-- What is asked for: a path, which begins with a slash, or a whole URL. -/
  target : String
  /-- The `Cookie` headers, in order. -/
  cookies : List Bytes
  body : Bytes
  deriving DecidableEq, Repr

/-- What follows the scheme of a URL and the two slashes behind it. -/
def afterScheme? (s : List Char) : Option (List Char) :=
  match s.dropWhile (· != ':') with
  | ':' :: '/' :: '/' :: r => some r
  | _ => none

/-- A character that ends the path. -/
def endsPath (c : Char) : Bool := c == '?' || c == '#'

/-- The path, without the query. A URL that names only a host has the path `/`; a target that is
neither a path nor a URL has none. -/
def Request.path (r : Request) : String :=
  let s := r.target.toList
  if s.head? = some '/' then String.ofList (s.takeWhile (!endsPath ·))
  else
    match afterScheme? s with
    | none => ""
    | some s =>
      match (s.dropWhile fun c => c != '/' && !endsPath c).takeWhile (!endsPath ·) with
      | [] => "/"
      | path => String.ofList path

structure Response where
  status : Nat
  /-- The headers other than `Set-Cookie`. -/
  headers : List (String × Bytes)
  /-- The cookies that it sets, one `Set-Cookie` header each. -/
  cookies : List CookieChange
  body : Bytes
  deriving DecidableEq, Repr

namespace Response

def ofStatus (status : Nat) : Response := ⟨status, [], [], []⟩

def text (status : Nat) (s : String) : Response :=
  ⟨status, [("content-type", Utf8.encode "text/plain; charset=utf-8")], [], Utf8.encode s⟩

def json (status : Nat) (body : Bytes) : Response :=
  ⟨status, [("content-type", Utf8.encode "application/json")], [], body⟩

def withCookies (r : Response) (cookies : List CookieChange) : Response :=
  { r with cookies := r.cookies ++ cookies }

def withHeaders (r : Response) (headers : List (String × Bytes)) : Response :=
  { r with headers := r.headers ++ headers }

def withoutBody (r : Response) : Response := { r with body := [] }

end Response

end SignIn.Http
