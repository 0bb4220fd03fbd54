import SignIn.Json.Lexeme

/-!
# The value of a number

A numeral without point and exponent whose value fits 64 bits is an integer; every other numeral is
a floating-point number, and so is `-0`. The digits of a float are read as one natural number, as
far as 64 bits go: a digit of the whole part that no longer fits counts as a zero, one of the
fraction is dropped. That natural number is then multiplied or divided once by a power of ten.
-/

namespace SignIn.Json

inductive Number where
  | int (n : Int)
  | float (x : Binary64)
  deriving DecidableEq, Repr

/-- The number behind `n` and further digits, up to the first that takes it past the limit. -/
def absorb (limit n : Nat) : Bytes → Nat × Bytes
  | [] => (n, [])
  | b :: r =>
    let m := n * 10 + (b.toNat - 0x30)
    if m ≤ limit then absorb limit m r else (n, b :: r)

def maxSignificand : Nat := Nat.pow 2 64 - 1

/-- The largest exponent that is looked at; larger ones make a number zero or too large. -/
def maxExponent : Nat := Nat.pow 2 31 - 1

/-- The float of a magnitude, or the error of one that is too large. -/
def signed (negative : Bool) (x : Option Binary64) : Except Error Number :=
  match x with
  | some x => .ok (.float (if negative then x.neg else x))
  | none => .error .numberOutOfRange

/-- The magnitude `n · 10^shift` with a further exponent. -/
def scaledBy? (n : Nat) (shift : Int) (exponent : Option (Bool × Bytes)) : Option Binary64 :=
  match exponent with
  | none => Binary64.scaled? n shift
  | some (negative, ds) =>
    match absorb maxExponent 0 ds with
    | (e, []) => Binary64.scaled? n (if negative then shift - e else shift + e)
    | _ => if n ≠ 0 ∧ !negative then none else some (Binary64.ofNat 0)

def integerValue (negative : Bool) (n : Nat) : Number :=
  if !negative then .int n
  else if 0 < n ∧ n ≤ Nat.pow 2 63 then .int (-n)
  else .float (Binary64.ofNat n).neg

def Numeral.value (x : Numeral) : Except Error Number :=
  let (n, excess) := absorb maxSignificand 0 x.whole
  match x.fraction, x.exponent, excess with
  | none, none, [] => .ok (integerValue x.negative n)
  | fraction, exponent, excess =>
    let ds := fraction.getD []
    let (n, dropped) := absorb maxSignificand n ds
    let shift : Int := excess.length - (ds.length - dropped.length : Nat)
    signed x.negative (scaledBy? n shift exponent)

/-- Reads a number after its minus sign, if it has one. -/
def number (negative : Bool) : Reader Number := fun s =>
  match numeral .endInValue negative s with
  | .error e => .error e
  | .ok (x, s) =>
    match x.value with
    | .ok v => .ok (v, s)
    | .error e => .error e

end SignIn.Json
