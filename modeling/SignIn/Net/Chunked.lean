import SignIn.Text.Hex

/-!
# Bodies in chunks

A body whose length is not known beforehand is sent in chunks. Each begins with a line that says
how long it is, in hexadecimal digits; behind them the line may go on with blanks and an extension.
A chunk of length zero is the last one, and lines follow it up to an empty one. Every line ends
with a carriage return and a line feed, and so does every chunk.
-/

namespace SignIn.Chunked

def carriageReturn : UInt8 := 0x0D

def lineFeed : UInt8 := 0x0A

/-- A semicolon, which begins an extension. -/
def semicolon : UInt8 := 0x3B

def isBlank (b : UInt8) : Bool := b == 0x20 || b == 0x09

/-- What follows the end of a line. -/
def lineEnd? : Bytes → Option Bytes
  | b :: c :: r => if b = carriageReturn ∧ c = lineFeed then some r else none
  | _ => none

/-- The first line, up to its carriage return, and what follows its end. -/
def line? (s : Bytes) : Option (Bytes × Bytes) :=
  (lineEnd? (s.dropWhile (· != carriageReturn))).map fun r =>
    (s.takeWhile (· != carriageReturn), r)

def isExtension : Bytes → Bool
  | [] => true
  | b :: r => b == semicolon && !r.contains lineFeed

/-- The length that a line gives for its chunk. -/
def length? (line : Bytes) : Option Nat :=
  let digits := (line.takeWhile fun b => (Hex.value? b).isSome).filterMap Hex.value?
  let rest := (line.dropWhile fun b => (Hex.value? b).isSome).dropWhile isBlank
  if digits ≠ [] ∧ isExtension rest then some (digits.foldl (fun n d => n * 16 + d) 0) else none

/-- Whether lines follow up to an empty one, of which there can be no more than `fuel`. -/
def endsAfterLines (fuel : Nat) (s : Bytes) : Bool :=
  match fuel with
  | 0 => false
  | fuel + 1 =>
    match line? s with
    | none => false
    | some ([], _) => true
    | some (_, r) => endsAfterLines fuel r

/-- The chunks of a text, of which there can be no more than `fuel`, up to the last one. -/
def chunks? (fuel : Nat) (s : Bytes) : Option (List Bytes) :=
  match fuel with
  | 0 => none
  | fuel + 1 => do
    let (line, s) ← line? s
    let n ← length? line
    if n = 0 then (if endsAfterLines (fuel + 1) s then some [] else none)
    else if s.length < n then none
    else
      let rest ← lineEnd? (s.drop n)
      let more ← chunks? fuel rest
      pure (s.take n :: more)

/-- The body at the front of a text, unless it is cut off or malformed. -/
def body? (s : Bytes) : Option Bytes := (chunks? (s.length + 1) s).map List.flatten

example : body? (Utf8.encode "3;x=y\r\nabc\r\n1 \r\nd\r\n0\r\nz: 1\r\n\r\nrest") =
    some (Utf8.encode "abcd") := by decide +kernel
example : body? (Utf8.encode "3\r\nabc\r\n0\r\n") = none := by decide +kernel

end SignIn.Chunked
