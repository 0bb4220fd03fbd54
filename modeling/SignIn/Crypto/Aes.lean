import SignIn.Crypto.Sha256

/-!
# AES with a key of 256 bits

The block cipher, in the forward direction, which is the only one counter mode needs. A block is
four columns, each a word with its first row in the highest byte. A round substitutes every byte,
shifts row `r` by `r` columns, mixes each column, and adds a round key; the last round does not
mix.
-/

namespace SignIn.Aes

/-! ## The field of 256 elements -/

def double (a : UInt8) : UInt8 := (a <<< 1) ^^^ (if a < 0x80 then 0 else 0x1B)

/-- The product of two elements, of which the second has `n` bits left. -/
def mulFrom : Nat → UInt8 → UInt8 → UInt8
  | 0, _, _ => 0
  | n + 1, a, b => (if b % 2 = 1 then a else 0) ^^^ mulFrom n (double a) (b >>> 1)

def mul (a b : UInt8) : UInt8 := mulFrom 8 a b

/-- The product of the `n` powers `a ^ 2`, `a ^ 4`, `a ^ 8`, … -/
def squares : Nat → UInt8 → UInt8
  | 0, _ => 1
  | n + 1, a => mul (mul a a) (squares n (mul a a))

/-- The inverse of an element, which is its 254th power; zero is its own. -/
def inverse (a : UInt8) : UInt8 := squares 7 a

def rotate (a n : UInt8) : UInt8 := (a <<< n) ||| (a >>> (8 - n))

def substitute (a : UInt8) : UInt8 :=
  let b := inverse a
  b ^^^ rotate b 1 ^^^ rotate b 2 ^^^ rotate b 3 ^^^ rotate b 4 ^^^ 0x63

def substitutions : Vector UInt8 256 := Vector.ofFn fun i => substitute (UInt8.ofNat i)

def look (a : UInt8) : UInt32 := (substitutions.get ⟨a.toNat, a.toNat_lt⟩).toUInt32

/-! ## Blocks -/

/-- A block of four columns. -/
structure Block where
  c₀ : UInt32
  c₁ : UInt32
  c₂ : UInt32
  c₃ : UInt32
  deriving DecidableEq, Repr

def Block.add (x y : Block) : Block :=
  ⟨x.c₀ ^^^ y.c₀, x.c₁ ^^^ y.c₁, x.c₂ ^^^ y.c₂, x.c₃ ^^^ y.c₃⟩

def Block.bytes (x : Block) : Bytes := [x.c₀, x.c₁, x.c₂, x.c₃].flatMap Sha256.wordBytes

/-- Substitutes the bytes of the first row of `a`, the second of `b`, and so on: a column after the
rows have been shifted. -/
def column (a b c d : UInt32) : UInt32 :=
  (look (a >>> 24).toUInt8 <<< 24) ||| (look (b >>> 16).toUInt8 <<< 16) |||
    (look (c >>> 8).toUInt8 <<< 8) ||| look d.toUInt8

def doubleAll (w : UInt32) : UInt32 :=
  ((w &&& 0x7F7F7F7F) <<< 1) ^^^ (((w >>> 7) &&& 0x01010101) * 0x1B)

def rotateColumn (w n : UInt32) : UInt32 := (w <<< n) ||| (w >>> (32 - n))

/-- Mixes a column: each row becomes twice itself, thrice the next, and the other two. -/
def mixColumn (w : UInt32) : UInt32 :=
  doubleAll (w ^^^ rotateColumn w 8) ^^^ rotateColumn w 8 ^^^ rotateColumn w 16 ^^^
    rotateColumn w 24

def Block.shifted (x : Block) : Block :=
  ⟨column x.c₀ x.c₁ x.c₂ x.c₃, column x.c₁ x.c₂ x.c₃ x.c₀, column x.c₂ x.c₃ x.c₀ x.c₁,
    column x.c₃ x.c₀ x.c₁ x.c₂⟩

def Block.mixed (x : Block) : Block :=
  ⟨mixColumn x.c₀, mixColumn x.c₁, mixColumn x.c₂, mixColumn x.c₃⟩

/-! ## Keys -/

structure Schedule where
  /-- Added before the first round. -/
  first : Block
  /-- Added in the rounds that mix. -/
  middle : List Block
  /-- Added in the last round. -/
  last : Block
  deriving DecidableEq, Repr

def substituteWord (w : UInt32) : UInt32 := column w w w w

/-- Adds `n` words to the key's, which are kept last first; the next one has number `i`, and
`constant` is added to the next that begins a cycle of eight. -/
def stretch : Nat → Nat → UInt8 → List UInt32 → List UInt32
  | 0, _, _, ws => ws
  | n + 1, i, constant, ws =>
    let w := ws.getD 0 0
    let base := ws.getD 7 0
    if i % 8 = 0 then
      let t := substituteWord (rotateColumn w 8) ^^^ (constant.toUInt32 <<< 24)
      stretch n (i + 1) (double constant) ((base ^^^ t) :: ws)
    else if i % 8 = 4 then stretch n (i + 1) constant ((base ^^^ substituteWord w) :: ws)
    else stretch n (i + 1) constant ((base ^^^ w) :: ws)

/-- The block of the four words from number `i` on. -/
def blockAt (ws : List UInt32) (i : Nat) : Block :=
  ⟨ws.getD i 0, ws.getD (i + 1) 0, ws.getD (i + 2) 0, ws.getD (i + 3) 0⟩

def Schedule.ofKey (key : Bytes) : Schedule :=
  let ws := (stretch 52 8 1 (Sha256.words key).reverse).reverse
  ⟨blockAt ws 0, (List.range 13).map fun i => blockAt ws (4 * i + 4), blockAt ws 56⟩

def encipher (k : Schedule) (x : Block) : Block :=
  (k.middle.foldl (fun x key => x.shifted.mixed.add key) (x.add k.first)).shifted.add k.last

theorem length_bytes (x : Block) : x.bytes.length = 16 := rfl

end SignIn.Aes
