import SignIn.Net.Endpoint
import SignIn.Net.Reply
import SignIn.Net.Status
import SignIn.Token.Verdict

/-!
# Asking the provider

A token is sent to the provider as one more pair in the query of its endpoint, form-encoded, so
that nothing in it can be taken for anything but its value. A reply that redirects is followed to
the place that it names, as it stands; the token is not added there. The last reply is judged by
its status, then by its body.
-/

namespace SignIn.Token

/-- The key of the pair that carries the token. -/
def tokenKey : Bytes := Utf8.encode "id_token"

/-- The endpoint that a question about a token goes to, if the URL can be used. -/
def inquiry (url token : String) : Option Endpoint :=
  match Endpoint.parse? (Utf8.encode url) with
  | none => none
  | some e =>
    let e := e.withPair tokenKey (Utf8.encode token)
    if e.print.length ≤ Endpoint.maxLength then some e else none

/-- The first line of a request to an endpoint. -/
def requestLine (e : Endpoint) : Bytes :=
  Utf8.encode "GET " ++ e.target ++ Utf8.encode " HTTP/1.1"

/-- What a reply means for a token that should be for `audience`. -/
def judge (audience : String) (r : Reply) : Except Refusal Unit :=
  if ¬ Status.isSuccess r.status then .error (.rejected (Status.text r.status))
  else match r.content?.map Info.parse with
    | some (.ok info) => info.check audience
    | _ => .error (.unanswered .decode)

/-! ## The network -/

/-- What becomes of the place that a reply names. -/
inductive Lead where
  /-- It is no place that a request could be sent to, and is passed over. -/
  | nowhere
  /-- No request is sent to it, and with that the question has failed. -/
  | astray (stage : Stage)
  | onward (e : Endpoint)
  deriving DecidableEq, Repr

/-- What a question is asked over. -/
structure Network where
  /-- All that the other end sends, until it closes the connection, for the line of a request to an
  endpoint. It may depend on how many redirects led there. -/
  reply (redirects : Nat) (e : Endpoint) (line : Bytes) : Bytes
  /-- Reads the place that a reply names, which may be relative to the endpoint that it
  came from. -/
  locate (e : Endpoint) (location : Bytes) : Lead

namespace Network

/-- The reply to a request, if it can be read. -/
def hear (n : Network) (redirects : Nat) (e : Endpoint) : Option Reply :=
  Reply.read? (n.reply redirects e (requestLine e))

/-- Where a reply leads. -/
def lead (n : Network) (e : Endpoint) (r : Reply) : Lead :=
  if Status.isRedirect r.status then (r.location.map (n.locate e)).getD .nowhere else .nowhere

/-- How many redirects are followed for one question. -/
def maxRedirects : Nat := 10

/-- What comes of the reply from an endpoint that some redirects led to, if `room` more may be
followed. The one that leads nowhere is judged. -/
def conclude (n : Network) (audience : String) (room redirects : Nat) (e : Endpoint) :
    Option Reply → Except Refusal Unit
  | none => .error (.unanswered .send)
  | some r =>
    match room, n.lead e r with
    | _, .nowhere => judge audience r
    | 0, _ => .error (.unanswered .redirect)
    | _ + 1, .astray stage => .error (.unanswered stage)
    | room + 1, .onward e' =>
      n.conclude audience room (redirects + 1) e' (n.hear (redirects + 1) e')

end Network

/-- Asks the provider about a token over a network. -/
def verify (url : String) (network : Network) (token audience : String) : Except Refusal Unit :=
  match inquiry url token with
  | none => .error (.unanswered .build)
  | some e => network.conclude audience Network.maxRedirects 0 e (network.hear 0 e)

end SignIn.Token
