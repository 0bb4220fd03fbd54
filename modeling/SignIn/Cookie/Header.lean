import SignIn.Text.Blank
import SignIn.Text.Percent

/-!
# Cookies in a request

A request may carry several `Cookie` headers, each with several cookies. A header that is not
visible text is passed over as a whole. Within one that is, a part is passed over on its own if it
has no `=`, no name, or does not decode to text.
-/

namespace SignIn

/-- A cookie: a name and a value, both of them UTF-8. -/
structure Cookie where
  name : Bytes
  value : Bytes
  deriving DecidableEq, Repr

namespace Cookie

/-- A byte of a header that is visible text: printable ASCII, or a tab. -/
def isVisible (b : UInt8) : Bool := (0x20 ≤ b && b ≤ 0x7E) || b == 0x09

/-- A blank in visible text. -/
def isBlank (b : UInt8) : Bool := b == 0x20 || b == 0x09

def semicolon : UInt8 := 0x3B

def equals : UInt8 := 0x3D

/-- The name and the value of a part as they are spelled, without blanks around them. -/
def halves? (part : Bytes) : Option (Bytes × Bytes) :=
  match part.dropWhile (· != equals) with
  | [] => none
  | _ :: value =>
    some (Blank.trimList isBlank (part.takeWhile (· != equals)), Blank.trimList isBlank value)

/-- The cookie of a name and a value as they are spelled. -/
def ofSpelling? (name value : Bytes) : Option Cookie :=
  let c : Cookie := ⟨Percent.decode name, Percent.decode value⟩
  if name ≠ [] ∧ (Utf8.decodeChars? c.name).isSome ∧ (Utf8.decodeChars? c.value).isSome then some c
  else none

/-- The cookie of a part. -/
def ofPart? (part : Bytes) : Option Cookie :=
  match halves? part with
  | none => none
  | some (name, value) => ofSpelling? name value

/-- The cookies of a header. -/
def ofHeader (header : Bytes) : List Cookie :=
  if header.all isVisible then (header.splitOn semicolon).filterMap ofPart? else []

def ofHeaders (headers : List Bytes) : List Cookie := headers.flatMap ofHeader

example : ofHeader (Utf8.encode "a=1; =2; b; %5Fid = x=y ;c=%ff") =
    [⟨Utf8.encode "a", Utf8.encode "1"⟩, ⟨Utf8.encode "_id", Utf8.encode "x=y"⟩] := by
  decide +kernel

end Cookie

end SignIn
