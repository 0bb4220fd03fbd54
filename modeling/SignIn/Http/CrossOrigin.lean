import SignIn.Http.Message

/-!
# Requests from another origin

One origin may send requests with credentials. Every response says so, whoever sent the request,
and any `OPTIONS` request is answered by saying so.
-/

namespace SignIn.Http.CrossOrigin

/-- What every response says. -/
def headers (origin : Bytes) : List (String × Bytes) :=
  [("access-control-allow-credentials", Utf8.encode "true"),
    ("access-control-allow-origin", origin),
    ("vary", Utf8.encode "origin, access-control-request-method, access-control-request-headers")]

/-- What the answer to an `OPTIONS` request says beyond that. -/
def permissions : List (String × Bytes) :=
  [("access-control-allow-headers", Utf8.encode "content-type"),
    ("access-control-allow-methods", Utf8.encode "GET,POST,OPTIONS")]

/-- Whether a request only asks what is allowed. -/
def isPreflight (request : Request) : Bool := request.method == "OPTIONS"

end SignIn.Http.CrossOrigin
