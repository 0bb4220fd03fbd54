import SignIn.Number.Binary64
import SignIn.Text.Decimal

/-!
# The shortest decimal text of a floating-point number

The digits are the fewest that read back as the number, and of those the nearest to it. They are
found by looking, for one digit, two digits and so on, at the two neighbours of the number among
the decimals of that length; the comparison is exact. The text is positional for numbers from
`1e-5` to below `1e16` and always shows a fraction there; else it has an exponent with its sign.
-/

namespace SignIn.Shortest

open Binary64

/-- The decimal `digits · 10^exponent`. -/
structure Scientific where
  digits : Nat
  exponent : Int
  deriving DecidableEq, Repr

/-- How `a · 10^i` compares with `n · 2^j`. -/
def compareScaled (a : Nat) (i : Int) (n : Nat) (j : Int) : Ordering :=
  compare (a * Nat.pow 10 i.toNat * Nat.pow 2 (-j).toNat)
    (n * Nat.pow 2 j.toNat * Nat.pow 10 (-i).toNat)

/--
The decimal is among the reals that round to `x`: they reach halfway to the neighbours, the lower
of which is nearer below a power of two, and hold their ends when the significand is even.
-/
def readsBack (x : Binary64) (d : Scientific) : Bool :=
  let m := x.significand
  let narrow := m == Nat.pow 2 52 && x.exponent != -1074
  let low := if narrow then 4 * m - 1 else 4 * m - 2
  let ends := m % 2 == 0
  let l := compareScaled d.digits d.exponent low (x.exponent - 2)
  let h := compareScaled d.digits d.exponent (4 * m + 2) (x.exponent - 2)
  (l == .gt || (ends && l == .eq)) && (h == .lt || (ends && h == .eq))

/-- The least `k` with `x < 10^k`, searched upwards from `k`. -/
def decimalScale (x : Binary64) (fuel : Nat) (k : Int) : Int :=
  match fuel with
  | 0 => k
  | fuel + 1 =>
    if compareScaled 1 k x.significand x.exponent == .gt then k else decimalScale x fuel (k + 1)

/-- The nearest decimal on the grid `10^e` that reads back as `x`. -/
def onGrid? (x : Binary64) (e : Int) : Option Scientific :=
  let n := x.significand * Nat.pow 2 x.exponent.toNat * Nat.pow 10 (-e).toNat /
    (Nat.pow 2 (-x.exponent).toNat * Nat.pow 10 e.toNat)
  let below : Scientific := ⟨n, e⟩
  let above : Scientific := ⟨n + 1, e⟩
  match readsBack x below, readsBack x above with
  | true, false => some below
  | false, true => some above
  | true, true =>
    match compareScaled (2 * n + 1) e (2 * x.significand) x.exponent with
    | .gt => some below
    | .lt => some above
    | .eq => some (if n % 2 = 0 then below else above)
  | false, false => none

/-- The shortest digits of a positive finite number. -/
def digits (x : Binary64) : Scientific :=
  let estimate := (binaryExponent x.numerator x.denominator * 30103).fdiv 100000
  let k := decimalScale x 4 estimate
  let found := (List.range 18).findSome? fun n => onGrid? x (k - (n + 1 : Nat))
  found.getD ⟨x.numerator, 0⟩

/-- Zeros at the end of the digits go into the exponent. -/
def strip (fuel : Nat) (d : Scientific) : Scientific :=
  match fuel with
  | 0 => d
  | fuel + 1 =>
    if d.digits ≠ 0 ∧ d.digits % 10 = 0 then strip fuel ⟨d.digits / 10, d.exponent + 1⟩ else d

/-- Digits with a point after the first `n` of them. -/
def pointed (ds : List Char) (n : Nat) : List Char := ds.take n ++ '.' :: ds.drop n

/-- The exponent with its sign. -/
def exponentText (e : Int) : List Char :=
  (if e < 0 then '-' else '+') :: Nat.toDigits 10 e.natAbs

/-- The text of a positive decimal. -/
def Scientific.text (d : Scientific) : List Char :=
  let ds := Nat.toDigits 10 d.digits
  let length : Int := ds.length
  let point := length + d.exponent
  if 0 ≤ d.exponent ∧ point ≤ 16 then ds ++ List.replicate d.exponent.toNat '0' ++ ['.', '0']
  else if 0 < point ∧ point ≤ 16 then pointed ds point.toNat
  else if -5 < point ∧ point ≤ 0 then '0' :: '.' :: List.replicate (-point).toNat '0' ++ ds
  else (if ds.length = 1 then ds else pointed ds 1) ++ 'e' :: exponentText (point - 1)

def text (x : Binary64) : String :=
  let sign := if x.isNegative then ['-'] else []
  let size := if x.isZero then ['0', '.', '0'] else (strip 20 (digits x)).text
  String.ofList (sign ++ size)

example : text ⟨0x8000000000000000⟩ = "-0.0" := by decide +kernel
example : text (ofNat 18446744073709551616) = "1.8446744073709552e+19" := by decide +kernel
example : text ((ofNat 3).div (ofNat 2)) = "1.5" := by decide +kernel
example : text ((ofNat 3).div (ofNat 2000000)) = "1.5e-6" := by decide +kernel

end SignIn.Shortest
