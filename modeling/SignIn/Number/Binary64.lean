/-!
# Floating-point numbers of 64 bits

A number is known by its bits. A finite magnitude is `m · 2^q`, and the operations compute with it
exactly in natural numbers and then round once, to the nearest number and on a tie to the one whose
last bit is zero. Nothing here depends on the machine's own arithmetic.
-/

namespace SignIn

/-- A floating-point number: one sign bit, eleven of exponent, fifty-two of fraction. -/
structure Binary64 where
  bits : UInt64
  deriving DecidableEq, Repr

namespace Binary64

def infinity : Nat := 2047 * Nat.pow 2 52

/-- The bits without the sign. -/
def magnitude (x : Binary64) : Nat := x.bits.toNat % Nat.pow 2 63

def isNegative (x : Binary64) : Bool := Nat.pow 2 63 ≤ x.bits.toNat

def isZero (x : Binary64) : Bool := x.magnitude == 0

def isInfinite (x : Binary64) : Bool := x.magnitude == infinity

/-- The number with the given sign and the other bits. -/
def ofMagnitude (negative : Bool) (n : Nat) : Binary64 :=
  ⟨UInt64.ofNat (if negative then Nat.pow 2 63 + n else n)⟩

/-- The other number of the same magnitude. -/
def neg (x : Binary64) : Binary64 := ofMagnitude (!x.isNegative) x.magnitude

/-- The significand `m` of a finite magnitude `m · 2^q`. -/
def significand (x : Binary64) : Nat :=
  if x.magnitude < Nat.pow 2 52 then x.magnitude
  else Nat.pow 2 52 + x.magnitude % Nat.pow 2 52

/-- The exponent `q` of a finite magnitude `m · 2^q`. -/
def exponent (x : Binary64) : Int :=
  if x.magnitude < Nat.pow 2 52 then -1074 else (x.magnitude / Nat.pow 2 52 : Nat) - 1075

/-- A finite magnitude is `numerator / denominator`. -/
def numerator (x : Binary64) : Nat := x.significand * Nat.pow 2 x.exponent.toNat

def denominator (x : Binary64) : Nat := Nat.pow 2 (-x.exponent).toNat

/-- The natural number nearest to `num / den`, the even one on a tie. -/
def roundDiv (num den : Nat) : Nat :=
  let q := num / den
  let r := num % den
  if den < 2 * r ∨ (den = 2 * r ∧ q % 2 = 1) then q + 1 else q

/-- The greatest `e` with `2^e ≤ num / den`, for positive numbers. -/
def binaryExponent (num den : Nat) : Int :=
  let e : Int := (num.log2 : Int) - den.log2
  if den * Nat.pow 2 e.toNat ≤ num * Nat.pow 2 (-e).toNat then e else e - 1

/-- The bits of the magnitude nearest to `num / den`; past the largest number it is infinity. -/
def nearest (num den : Nat) : Nat :=
  if num = 0 then 0
  else
    let q := max (binaryExponent num den - 52) (-1074)
    let m := roundDiv (num * Nat.pow 2 (-q).toNat) (den * Nat.pow 2 q.toNat)
    min infinity ((q + 1074).toNat * Nat.pow 2 52 + m)

/-- The number nearest to a natural number. -/
def ofNat (n : Nat) : Binary64 := ofMagnitude false (nearest n 1)

/-- The product of two finite magnitudes, rounded once. -/
def mul (x y : Binary64) : Binary64 :=
  ofMagnitude false (nearest (x.numerator * y.numerator) (x.denominator * y.denominator))

/-- The quotient of a finite magnitude by a positive one, rounded once. -/
def div (x y : Binary64) : Binary64 :=
  ofMagnitude false (nearest (x.numerator * y.denominator) (x.denominator * y.numerator))

/-- The number nearest to a power of ten. -/
def powerOfTen (n : Nat) : Binary64 := ofNat (Nat.pow 10 n)

/--
The magnitude `x / 10^e`, computed by one division, or where the power is too large for a number by
a division for every 308 places and one for the rest.
-/
def shiftDown (x : Binary64) (e : Nat) : Binary64 :=
  if e ≤ 308 then x.div (powerOfTen e)
  else if x.isZero then x
  else shiftDown (x.div (powerOfTen 308)) (e - 308)
termination_by e

/-- The magnitude of `n · 10^e`, unless it is past the largest number. -/
def scaled? (n : Nat) (e : Int) : Option Binary64 :=
  let x := ofNat n
  if e < 0 then some (shiftDown x (-e).toNat)
  else if e.toNat ≤ 308 then
    let y := x.mul (powerOfTen e.toNat)
    if y.isInfinite then none else some y
  else if x.isZero then some x
  else none

example : (ofNat 1).bits = 0x3FF0000000000000 := by decide +kernel
example : (ofNat 18446744073709551616).bits = 0x43F0000000000000 := by decide +kernel
example : ((ofNat 15).div (powerOfTen 4)).bits = 0x3F589374BC6A7EFA := by decide +kernel

end Binary64

end SignIn
