import SignIn.Json.Error
import SignIn.Text.Hex

/-!
# The lexemes of JSON

Blanks, words, strings and numbers, read from the front of a byte string. A reader returns what it
read and the bytes after it. Where two things are wrong the first one in the text is reported; a
string is checked for being UTF-8 only at its closing quote.
-/

namespace SignIn.Json

/-- What a reader makes of a byte string: a value and the bytes after it. -/
abbrev Reader (α : Type) := Bytes → Except Error (α × Bytes)

/-- A blank of JSON: space, line feed, tab or carriage return. -/
def isBlank (b : UInt8) : Bool := b == 0x20 || b == 0x0A || b == 0x09 || b == 0x0D

/-- The text from its first byte that is not blank. -/
def skipBlanks (s : Bytes) : Bytes := s.dropWhile isBlank

def isDigit (b : UInt8) : Bool := 0x30 ≤ b && b ≤ 0x39

/-- Reads the rest `w` of a word. -/
def word (w s : Bytes) : Except Error Bytes :=
  match w, s with
  | [], s => .ok s
  | _ :: _, [] => .error .endInValue
  | c :: w, b :: s => if b = c then word w s else .error .expectedWord

/-! ## Strings -/

/-- What the next byte of a string is part of. -/
inductive StringMode where
  | plain
  /-- After a backslash. -/
  | escape
  /-- In `\uXXXX`: the digits so far, last first, and the leading surrogate before this escape. -/
  | unit (digits : Bytes) (high : Option Nat)
  /-- After a leading surrogate, at the backslash of the trailing one. -/
  | lowSlash (high : Nat)
  /-- After a leading surrogate and a backslash, at the `u` of the trailing one. -/
  | lowMark (high : Nat)
  deriving DecidableEq, Repr

/-- The value of four hexadecimal digits, the last one first. -/
def unitValue? (digits : Bytes) : Option Nat :=
  match digits.mapM Hex.value? with
  | some [d, c, b, a] => some (((a * 16 + b) * 16 + c) * 16 + d)
  | _ => none

/-- The byte that an escape of one letter stands for. -/
def escaped? (b : UInt8) : Option UInt8 :=
  if b = 0x22 ∨ b = 0x5C ∨ b = 0x2F then some b
  else if b = 0x62 then some 0x08
  else if b = 0x66 then some 0x0C
  else if b = 0x6E then some 0x0A
  else if b = 0x72 then some 0x0D
  else if b = 0x74 then some 0x09
  else none

/-- What follows when a byte of a string has been read. -/
inductive StringStep where
  /-- The string goes on; `text` is added to it. -/
  | more (mode : StringMode) (text : Bytes)
  | close
  | fail (e : Error)
  deriving DecidableEq, Repr

/-- What a `\uXXXX` of the given value adds to a string. -/
def unitStep (high : Option Nat) (n : Nat) : StringStep :=
  match high with
  | none =>
    if 0xDC00 ≤ n ∧ n ≤ 0xDFFF then .fail .loneSurrogate
    else if 0xD800 ≤ n ∧ n ≤ 0xDBFF then .more (.lowSlash n) []
    else .more .plain (Utf8.encodeChar (Char.ofNat n))
  | some h =>
    if 0xDC00 ≤ n ∧ n ≤ 0xDFFF then
      .more .plain (Utf8.encodeChar (Char.ofNat ((h - 0xD800) * 0x400 + (n - 0xDC00) + 0x10000)))
    else .fail .loneSurrogate

/-- Reads one byte of a string. -/
def StringMode.step (b : UInt8) : StringMode → StringStep
  | .plain =>
    if b = 0x22 then .close
    else if b = 0x5C then .more .escape []
    else if b < 0x20 then .fail .controlCharacter
    else .more .plain [b]
  | .escape =>
    if b = 0x75 then .more (.unit [] none) []
    else match escaped? b with
      | some c => .more .plain [c]
      | none => .fail .invalidEscape
  | .unit digits high =>
    if digits.length < 3 then .more (.unit (b :: digits) high) []
    else match unitValue? (b :: digits) with
      | some n => unitStep high n
      | none => .fail .invalidEscape
  | .lowSlash high => if b = 0x5C then .more (.lowMark high) [] else .fail .unpairedSurrogate
  | .lowMark high =>
    if b = 0x75 then .more (.unit [] (some high)) [] else .fail .unpairedSurrogate

/-- Reads to the closing quote, after the bytes in `acc` (last first). -/
def stringBytes (mode : StringMode) (acc : Bytes) : Reader Bytes
  | [] => .error .endInString
  | b :: r =>
    match mode.step b with
    | .more mode text => stringBytes mode (text.reverse ++ acc) r
    | .close => .ok (acc.reverse, r)
    | .fail e => .error e

/-- Reads a string after its opening quote. -/
def string : Reader String := fun s =>
  match stringBytes .plain [] s with
  | .error e => .error e
  | .ok (bytes, r) =>
    match Utf8.decode? bytes with
    | some t => .ok (t, r)
    | none => .error .invalidUtf8

/-! ## Numbers -/

/-- A number as it is spelled. -/
structure Numeral where
  negative : Bool
  /-- The digits before the point. -/
  whole : Bytes
  /-- The digits after the point, if there is one. -/
  fraction : Option Bytes
  /-- The sign and the digits of the exponent, if there is one. -/
  exponent : Option (Bool × Bytes)
  deriving DecidableEq, Repr

/-- Reads digits, of which there must be one; `atEnd` is the error when the text ends. -/
def digits (atEnd : Error) : Reader Bytes
  | [] => .error atEnd
  | b :: r =>
    if isDigit b then .ok (b :: r.takeWhile isDigit, r.dropWhile isDigit)
    else .error .invalidNumber

/-- Reads the digits before the point: a zero, or digits that do not begin with one. -/
def whole (atEnd : Error) : Reader Bytes
  | 0x30 :: r => if r.head?.any isDigit then .error .invalidNumber else .ok ([0x30], r)
  | s => digits atEnd s

/-- Reads a point and the digits after it, if there is one. -/
def fraction (atEnd : Error) : Reader (Option Bytes)
  | 0x2E :: r =>
    match digits atEnd r with
    | .ok (ds, r) => .ok (some ds, r)
    | .error e => .error e
  | s => .ok (none, s)

/-- Reads the sign of an exponent; without one it is positive. -/
def exponentSign : Bytes → Bool × Bytes
  | 0x2B :: r => (false, r)
  | 0x2D :: r => (true, r)
  | s => (false, s)

/-- Reads an exponent, if there is one. -/
def exponent (atEnd : Error) : Reader (Option (Bool × Bytes))
  | [] => .ok (none, [])
  | b :: r =>
    if b = 0x65 ∨ b = 0x45 then
      match digits atEnd (exponentSign r).2 with
      | .ok (ds, r') => .ok (some ((exponentSign r).1, ds), r')
      | .error e => .error e
    else .ok (none, b :: r)

/-- Reads a number after its minus sign, if it has one; `atEnd` is the error when the text ends. -/
def numeral (atEnd : Error) (negative : Bool) : Reader Numeral := fun s =>
  match whole atEnd s with
  | .error e => .error e
  | .ok (w, s) =>
    match fraction atEnd s with
    | .error e => .error e
    | .ok (f, s) =>
      match exponent atEnd s with
      | .error e => .error e
      | .ok (x, s) => .ok (⟨negative, w, f, x⟩, s)

end SignIn.Json
