import SignIn.Text.Utf8

/-!
# Decimal numbers

Bounded natural numbers in decimal text. A number may carry a plus sign. It is read from the left,
and the first thing wrong with it is what is reported: a character that is no digit, or a value
past the bound.
-/

namespace SignIn.Decimal

def digit? (c : Char) : Option Nat :=
  if '0' ≤ c ∧ c ≤ '9' then some (c.toNat - 0x30) else none

/-- Why a text is not a number within its bound. -/
inductive Error where
  | empty
  | invalidDigit
  | tooLarge
  deriving DecidableEq, Repr

def Error.message : Error → String
  | .empty => "cannot parse integer from empty string"
  | .invalidDigit => "invalid digit found in string"
  | .tooLarge => "number too large to fit in target type"

/-- Reads digits behind the value `n`, up to `bound`. -/
def readFrom (bound n : Nat) : List Char → Except Error Nat
  | [] => .ok n
  | c :: r =>
    match digit? c with
    | none => .error .invalidDigit
    | some d => if n * 10 + d ≤ bound then readFrom bound (n * 10 + d) r else .error .tooLarge

/-- The digits of a number without its sign; a sign alone is no number. -/
def unsigned (cs : List Char) : List Char :=
  match cs with
  | '+' :: c :: r => c :: r
  | cs => cs

/-- The number that a text stands for, if it is at most `bound`. -/
def read (bound : Nat) (s : String) : Except Error Nat :=
  match s.toList with
  | [] => .error .empty
  | cs => readFrom bound 0 (unsigned cs)

def ofNat (n : Nat) : String := String.ofList (Nat.toDigits 10 n)

def ofInt : Int → String
  | .ofNat n => ofNat n
  | .negSucc n => "-" ++ ofNat (n + 1)

example : read 65535 "+08" = .ok 8 := rfl
example : read 65535 "65536" = .error .tooLarge := rfl
example : read 65535 "99999x" = .error .tooLarge := rfl
example : read 65535 "-1" = .error .invalidDigit := rfl

end SignIn.Decimal
