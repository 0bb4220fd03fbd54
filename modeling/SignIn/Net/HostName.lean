import SignIn.Net.NameMapping
import SignIn.Net.Punycode
import SignIn.Text.Direction
import SignIn.Text.Joining

/-!
# Host names

A name is a row of labels with points between them. It is looked up in letters of ASCII: a label
with other characters is encoded (`Punycode`) behind `xn--`. Not every label may be used: one that
is already encoded must stand for a label that is spelled as names are (`NameMapping`), no label
begins with a mark, joiners must make a difference, and in a name with text from right to left
every label must be in order. Hyphens may be anywhere, and labels may be empty.
-/

namespace SignIn.HostName

open NameMapping (isAscii)

/-- What stands before a label that is encoded. -/
def marker : List Char := ['x', 'n', '-', '-']

/-- The number of characters that a label outside ASCII may have. -/
def maxLength : Nat := 1000

/-- The number of characters that an encoded label may have behind the marker. -/
def maxEncoded : Nat := 2000

structure Label where
  /-- The label as it is looked up. -/
  sent : List Char
  /-- The label as it is read. -/
  read : List Char
  deriving DecidableEq, Repr

/-- Whether a label may be used as it is read, as far as that does not depend on other labels. -/
def isUsable (s : List Char) : Bool :=
  s.all isAscii ||
    (s.length ≤ maxLength && !s.head?.any Mark.isMark && Joining.isWellJoined [] s)

/-- The label that is encoded as `s`; it is not one of ASCII alone. -/
def decoded? (s : List Char) : Option (List Char) :=
  if maxEncoded < s.length then none
  else
    match Punycode.decode? s with
    | none => none
    | some t => if t.all isAscii ∨ NameMapping.name? t ≠ some t then none else some t

/-- The label that part of a name is. -/
def label? (s : List Char) : Option Label :=
  if marker.isPrefixOf s then
    ((decoded? (s.drop marker.length)).filter isUsable).map fun t => ⟨s, t⟩
  else if ¬ isUsable s then none
  else some ⟨if s.all isAscii then s else marker ++ Punycode.encode s, s⟩

/-- Whether text in a label runs from right to left. -/
def isRightToLeft (s : List Char) : Bool :=
  s.any fun c => !isAscii c && (Direction.ofChar c).isRightToLeft

/-- Whether the labels of a name keep together when they are shown. -/
def isOrdered (labels : List (List Char)) : Bool :=
  !labels.any isRightToLeft || labels.all fun s => Direction.isOrdered (s.map Direction.ofChar)

/-- The name that a text spells, as it is looked up. -/
def parse? (s : List Char) : Option (List Char) :=
  match NameMapping.name? s with
  | none => none
  | some name =>
    match (name.splitOn '.').mapM label? with
    | none => none
    | some labels =>
      if isOrdered (labels.map (·.read)) then some (['.'].intercalate (labels.map (·.sent)))
      else none

example : parse? "A_b.-.c--D.".toList = some "a_b.-.c--d.".toList := by decide +kernel
example : parse? "xn--".toList = none := by decide +kernel
example : parse? "xn--abc-".toList = none := by decide +kernel

end SignIn.HostName
