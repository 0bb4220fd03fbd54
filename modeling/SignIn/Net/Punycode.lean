/-!
# Punycode

A label with characters outside ASCII, written in letters, digits and hyphens (RFC 3492). First
come the characters of ASCII in it, then a hyphen if there are any, then a row of numbers. Each
number says how many places to step on before the next character is put in, where a place is a
position in the text so far together with a code point: behind the last position the next code
point begins.

A number is written with its lowest digit first, and each digit either ends it or does not. Which
digits end it depends on a bias, which follows the size of the numbers so far, so that usual
numbers are short.
-/

namespace SignIn.Punycode

/-! ## Digits -/

def base : Nat := 36

/-- A digit: the letters come first. -/
def digit (n : Nat) : Char := Char.ofNat (if n < 26 then 0x61 + n else 0x16 + n)

/-- The value of a digit; letters may be capitals. -/
def digitValue? (c : Char) : Option Nat :=
  let n := c.toNat
  if 0x61 ≤ n ∧ n ≤ 0x7A then some (n - 0x61)
  else if 0x41 ≤ n ∧ n ≤ 0x5A then some (n - 0x41)
  else if 0x30 ≤ n ∧ n ≤ 0x39 then some (n - 0x16)
  else none

/-- The least digit that does not end a number, at a position; the positions are `base` apart. -/
def threshold (bias position : Nat) : Nat := max 1 (min 26 (position - bias))

theorem threshold_pos (bias position : Nat) : 1 ≤ threshold bias position := by
  unfold threshold
  omega

/-- The bias for numbers of about the given size. -/
def biasOf (size bias : Nat) : Nat :=
  if 455 < size then biasOf (size / 35) (bias + base) else bias + base * size / (size + 38)
termination_by size
decreasing_by omega

/-- The bias after a number, which has put in the last of `count` characters. The first number is
much larger than those that follow it. -/
def nextBias (number count : Nat) (isFirst : Bool) : Nat :=
  let size := number / if isFirst then 700 else 2
  biasOf (size + size / count) 0

def firstBias : Nat := 72

/-- The first code point outside ASCII. -/
def firstCodePoint : Nat := 0x80

/-! ## Reading -/

/-- What has been read of a label. -/
structure Reading where
  text : List Char
  /-- The place after the last character that was put in: its code point and its position. -/
  codePoint : Nat
  position : Nat
  bias : Nat
  /-- The number that is being read, as far as it goes. -/
  number : Nat
  /-- What the next digit of it counts. -/
  weight : Nat
  /-- The position of the next digit. -/
  digitPosition : Nat
  deriving DecidableEq, Repr

/-- Puts in a character as many places on as `number` says. -/
def Reading.insert? (r : Reading) (number : Nat) : Option Reading :=
  let count := r.text.length + 1
  let steps := r.position + number
  let codePoint := r.codePoint + steps / count
  let position := steps % count
  if codePoint.isValidChar then
    some ⟨r.text.insertIdx position (Char.ofNat codePoint), codePoint, position + 1,
      nextBias number count (r.position == 0), 0, 1, base⟩
  else none

def Reading.digit? (r : Reading) (c : Char) : Option Reading :=
  match digitValue? c with
  | none => none
  | some d =>
    let number := r.number + d * r.weight
    let t := threshold r.bias r.digitPosition
    if d < t then r.insert? number
    else
      some { r with
        number, weight := r.weight * (base - t), digitPosition := r.digitPosition + base }

/-- The characters of ASCII that a label begins with, and the digits after them. -/
def split (s : List Char) : List Char × List Char :=
  let digits := (s.reverse.takeWhile (· != '-')).reverse
  let front := s.take (s.length - digits.length)
  if 1 < front.length then (front.dropLast, digits) else ([], s)

/-- The label that is written as `s`. -/
def decode? (s : List Char) : Option (List Char) :=
  let (text, digits) := split s
  match digits.foldlM Reading.digit? ⟨text, firstCodePoint, 0, firstBias, 0, 1, base⟩ with
  | none => none
  | some r => if r.digitPosition = base then some r.text else none

/-! ## Writing -/

/-- The digits of a number, from a position on. -/
def numberDigits (bias position number : Nat) : List Char :=
  let t := threshold bias position
  if number < t then [digit number]
  else digit (t + (number - t) % (base - t)) ::
    numberDigits bias (position + base) ((number - t) / (base - t))
termination_by number
decreasing_by
  have := threshold_pos bias position
  have := Nat.div_le_self (number - threshold bias position) (base - threshold bias position)
  omega

/-- What has been written of a label. -/
structure Writing where
  digits : List Char
  /-- The number of characters that are written. -/
  count : Nat
  /-- The number of places since the last of them. -/
  steps : Nat
  bias : Nat
  deriving DecidableEq, Repr

/-- Goes past a character of the label, and writes it if it has the given code point. The label has
`basic` characters of ASCII. -/
def Writing.pass (basic codePoint : Nat) (w : Writing) (c : Char) : Writing :=
  if c.toNat < codePoint then { w with steps := w.steps + 1 }
  else if c.toNat = codePoint then
    ⟨w.digits ++ numberDigits w.bias base w.steps, w.count + 1, 0,
      nextBias w.steps (w.count + 1) (w.count == basic)⟩
  else w

/-- Writes the characters of the given code points, in increasing order. The places are counted
from the code point `next` on. -/
def Writing.rounds (s : List Char) (basic : Nat) (w : Writing) (next : Nat) : List Nat → Writing
  | [] => w
  | n :: ns =>
    let w := s.foldl (pass basic n) { w with steps := w.steps + (n - next) * (w.count + 1) }
    rounds s basic { w with steps := w.steps + 1 } (n + 1) ns

/-- How a label is written. -/
def encode (s : List Char) : List Char :=
  let text := s.filter fun c => c.toNat < firstCodePoint
  let codePoints := (s.map Char.toNat).filter (firstCodePoint ≤ ·)
  let w := Writing.rounds s text.length ⟨[], text.length, 0, firstBias⟩ firstCodePoint
    codePoints.mergeSort.eraseDups
  text ++ (if text.isEmpty then [] else ['-']) ++ w.digits

example : encode "bücher".toList = "bcher-kva".toList := by cbv
example : decode? "bcher-kva".toList = some "bücher".toList := by cbv
example : decode? "fiqs8s".toList = some "中国".toList := by cbv
example : encode "中国".toList = "fiqs8s".toList := by cbv
example : decode? "-epa".toList = none := by cbv

end SignIn.Punycode
