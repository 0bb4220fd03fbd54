import SignIn.Text.Decimal
import SignIn.Text.Quoted

/-!
# Hexadecimal text

Two digits a byte, high half first. Reading takes digits of either case, and first checks that
their number is even; writing produces lower case.
-/

namespace SignIn.Hex

/-- The value of a digit of either case. -/
def value? (b : UInt8) : Option Nat :=
  let n := b.toNat
  if 0x30 ≤ n ∧ n ≤ 0x39 then some (n - 0x30)
  else if 0x41 ≤ n ∧ n ≤ 0x46 then some (n - 0x37)
  else if 0x61 ≤ n ∧ n ≤ 0x66 then some (n - 0x57)
  else none

/-- The lower-case digit of a number below sixteen. -/
def digit (n : Nat) : UInt8 := UInt8.ofNat (if n < 10 then 0x30 + n else 0x57 + n)

/-- The upper-case digit of a number below sixteen. -/
def upperDigit (n : Nat) : UInt8 := UInt8.ofNat (if n < 10 then 0x30 + n else 0x37 + n)

def encodeByte (b : UInt8) : Bytes := [digit (b.toNat / 16), digit (b.toNat % 16)]

def encode (s : Bytes) : Bytes := s.flatMap encodeByte

/-- Why a text is not hexadecimal. -/
inductive Error where
  | odd
  /-- A byte that is no digit, and its offset. -/
  | invalid (byte : UInt8) (offset : Nat)
  deriving DecidableEq, Repr

/-- The wording of an error. A byte is shown as the character with that code point. -/
def Error.message : Error → String
  | .odd => "Odd number of digits"
  | .invalid byte offset =>
    "Invalid character " ++ Quoted.char (Char.ofNat byte.toNat) ++ " at position " ++
      Decimal.ofNat offset

/-- Reads pairs of digits, the first of them at `offset`, after the bytes in `acc` (last first). -/
def decodeFrom (offset : Nat) (acc : Bytes) : Bytes → Except Error Bytes
  | [] => .ok acc.reverse
  | [_] => .error .odd
  | high :: low :: r =>
    match value? high, value? low with
    | none, _ => .error (.invalid high offset)
    | some _, none => .error (.invalid low (offset + 1))
    | some h, some l => decodeFrom (offset + 2) (UInt8.ofNat (h * 16 + l) :: acc) r

/-- The bytes that a text of digits stands for. -/
def decode (s : Bytes) : Except Error Bytes :=
  if s.length % 2 = 1 then .error .odd else decodeFrom 0 [] s

theorem value?_digit : ∀ n < 16, value? (digit n) = some n := by decide

theorem value?_upperDigit : ∀ n < 16, value? (upperDigit n) = some n := by decide

theorem decodeFrom_encode (s : Bytes) (offset : Nat) (acc : Bytes) :
    decodeFrom offset acc (encode s) = .ok (acc.reverse ++ s) := by
  induction s generalizing offset acc with
  | nil => simp [encode, decodeFrom]
  | cons b s ih =>
    have hb : b.toNat < 256 := b.toNat_lt
    have whole : UInt8.ofNat (b.toNat / 16 * 16 + b.toNat % 16) = b := by
      rw [Nat.div_add_mod']
      exact UInt8.ofNat_toNat
    have step : encode (b :: s) = digit (b.toNat / 16) :: digit (b.toNat % 16) :: encode s := rfl
    rw [step, decodeFrom, value?_digit _ (by omega), value?_digit _ (by omega)]
    simp only [whole]
    rw [ih]
    simp

theorem length_encode (s : Bytes) : (encode s).length = 2 * s.length := by
  induction s with
  | nil => rfl
  | cons b s ih =>
    have step : encode (b :: s) = digit (b.toNat / 16) :: digit (b.toNat % 16) :: encode s := rfl
    simp [step, ih]
    omega

/-- Writing and reading gives the bytes back. -/
theorem decode_encode (s : Bytes) : decode (encode s) = .ok s := by
  simp [decode, length_encode, decodeFrom_encode]

end SignIn.Hex
