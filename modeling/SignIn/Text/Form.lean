import SignIn.Text.Percent

/-!
# Form fields

Form encoding is percent encoding with a plus sign for a space.
-/

namespace SignIn.Form

/-- The text of a form field. -/
def encode (s : Bytes) : Bytes :=
  s.flatMap fun b =>
    if b = 0x20 then [0x2B] else if Percent.keptInForm b then [b] else Percent.escape b

/-- The bytes that the text of a form field stands for. -/
def decode (s : Bytes) : Bytes := Percent.decode (s.map fun b => if b = 0x2B then 0x20 else b)

end SignIn.Form
