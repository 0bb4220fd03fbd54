import SignIn.Json.Record

/-!
# What the provider says of a token

The provider is asked about a token and answers with what it was issued for and by whom. A token is
accepted if it was issued for this service, by the provider.
-/

namespace SignIn.Token

/-- How far a question to the provider got before it failed. -/
inductive Stage where
  /-- There is no usable URL to send it to. -/
  | build
  /-- No answer came. -/
  | send
  /-- One answer after the other named another place to ask. -/
  | redirect
  /-- The answer is cut off, or does not say what was asked. -/
  | decode
  deriving DecidableEq, Repr

/-- Why a token is not accepted. -/
inductive Refusal where
  | rejected (reason : String)
  | wrongAudience
  | untrustedIssuer (issuer : String)
  | unanswered (stage : Stage)
  deriving DecidableEq, Repr

/-- How an error names a stage. -/
def Stage.name : Stage → String
  | .build => "builder error"
  | .send => "error sending request"
  | .redirect => "error following redirect"
  | .decode => "error decoding response body"

def Refusal.message : Refusal → String
  | .rejected reason => "token rejected by provider: " ++ reason
  | .wrongAudience => "token audience does not match"
  | .untrustedIssuer issuer => "token issuer " ++ Quoted.text issuer ++ " is not trusted"
  | .unanswered stage => "verifier request failed: " ++ stage.name

/-- What the provider knows of a token. -/
structure Info where
  audience : String
  issuer : String
  deriving DecidableEq, Repr

namespace Info

/-- The fields of the provider's answer. -/
def schema : Json.Schema Info where
  name := "TokenInfo"
  blank := ⟨"", ""⟩
  fields :=
    [.of "aud" Json.stringField fun s i => { i with audience := s },
      .of "iss" Json.stringField fun s i => { i with issuer := s }]

def parse (s : Bytes) : Except Json.Error Info := schema.parse s

/-- The names that the provider issues tokens under. -/
def trustedIssuers : List String := ["accounts.google.com", "https://accounts.google.com"]

/-- Accepts a token that was issued for `audience` by the provider. -/
def check (i : Info) (audience : String) : Except Refusal Unit :=
  if i.audience ≠ audience then .error .wrongAudience
  else if i.issuer ∉ trustedIssuers then .error (.untrustedIssuer i.issuer)
  else .ok ()

theorem check_eq_ok_iff {i : Info} {audience : String} :
    i.check audience = .ok () ↔ i.audience = audience ∧ i.issuer ∈ trustedIssuers := by
  unfold check
  split
  · simp_all
  · split <;> simp_all

end Info

end SignIn.Token
