import SignIn.Crypto.Aes

/-!
# Authenticated encryption

Counter mode with a polynomial authentication code over the associated data and the sealed text.
The nonce has twelve bytes. Sealing adds a key stream to the text and appends the code; opening
checks the code and adds the same key stream again, so `decrypt?_encrypt` needs nothing of the
cipher but that it is a function.
-/

namespace SignIn.Gcm

/-! ## The field of the authentication code -/

/-- An element of the field, its coefficients from the highest bit of `high` down. -/
structure Element where
  high : UInt64
  low : UInt64
  deriving DecidableEq, Repr

def Element.add (x y : Element) : Element := ⟨x.high ^^^ y.high, x.low ^^^ y.low⟩

/-- Multiplies an element by the unknown. -/
def Element.shift (x : Element) : Element :=
  ⟨(x.high >>> 1) ^^^ (if x.low % 2 = 1 then 0xE100000000000000 else 0),
    (x.low >>> 1) ||| (x.high <<< 63)⟩

/-- Adds to `z` the multiples of `v` that the `n` highest bits of `w` choose, and shifts `v` past
them. -/
def accumulate : Nat → UInt64 → Element → Element → Element × Element
  | 0, _, z, v => (z, v)
  | n + 1, w, z, v =>
    accumulate n (w <<< 1) (if w < 0x8000000000000000 then z else z.add v) v.shift

def Element.mul (x y : Element) : Element :=
  let (z, v) := accumulate 64 x.high ⟨0, 0⟩ y
  (accumulate 64 x.low z v).1

def Element.ofBlock (x : Aes.Block) : Element :=
  ⟨(x.c₀.toUInt64 <<< 32) ||| x.c₁.toUInt64, (x.c₂.toUInt64 <<< 32) ||| x.c₃.toUInt64⟩

def Element.block (x : Element) : Aes.Block :=
  ⟨(x.high >>> 32).toUInt32, x.high.toUInt32, (x.low >>> 32).toUInt32, x.low.toUInt32⟩

/-- The block of the first sixteen bytes, with zeros for those that are missing. -/
def blockOf (s : Bytes) : Aes.Block :=
  let t := s.take 16
  Aes.blockAt (Sha256.words (t ++ List.replicate (16 - t.length) 0)) 0

/-- Absorbs `n` blocks of bytes into `y`. -/
def absorb (h : Element) : Nat → Element → Bytes → Element
  | 0, y, _ => y
  | n + 1, y, s => absorb h n ((y.add (.ofBlock (blockOf s))).mul h) (s.drop 16)

def blockCount (n : Nat) : Nat := (n + 15) / 16

/-! ## Sealing and opening -/

/-- A key, ready for use. -/
structure Key where
  schedule : Aes.Schedule
  /-- The element that the authentication code is a polynomial in. -/
  point : Element
  deriving DecidableEq, Repr

def Key.ofBytes (key : Bytes) : Key :=
  let schedule := Aes.Schedule.ofKey key
  ⟨schedule, .ofBlock (Aes.encipher schedule ⟨0, 0, 0, 0⟩)⟩

/-- The block of a nonce and a counter. -/
def counterBlock (nonce : Bytes) (i : Nat) : Aes.Block :=
  { blockOf (nonce.take 12) with c₃ := UInt32.ofNat i }

/-- A key stream of at least `n` bytes; the counter starts at 2. -/
def keyStream (k : Key) (nonce : Bytes) (n : Nat) : Bytes :=
  (List.range (blockCount n)).flatMap fun i =>
    (Aes.encipher k.schedule (counterBlock nonce (i + 2))).bytes

/-- Adds the key stream to a text. -/
def mask (k : Key) (nonce text : Bytes) : Bytes :=
  List.zipWith (· ^^^ ·) text (keyStream k nonce text.length)

/-- The authentication code of associated data and a masked text. -/
def tag (k : Key) (nonce data masked : Bytes) : Bytes :=
  let y := absorb k.point (blockCount data.length) ⟨0, 0⟩ data
  let y := absorb k.point (blockCount masked.length) y masked
  let lengths : Element := ⟨UInt64.ofNat (data.length * 8), UInt64.ofNat (masked.length * 8)⟩
  let y := (y.add lengths).mul k.point
  (y.block.add (Aes.encipher k.schedule (counterBlock nonce 1))).bytes

def tagLength : Nat := 16

def nonceLength : Nat := 12

/-- Seals a text together with associated data: the masked text and its code. -/
def encrypt (k : Key) (nonce data text : Bytes) : Bytes :=
  let masked := mask k nonce text
  masked ++ tag k nonce data masked

/-- Opens a sealed text, if its code is right for it and the associated data. -/
def decrypt? (k : Key) (nonce data sealed : Bytes) : Option Bytes :=
  let n := sealed.length - tagLength
  let masked := sealed.take n
  if tagLength ≤ sealed.length ∧ sealed.drop n = tag k nonce data masked then
    some (mask k nonce masked)
  else none

theorem length_tag (k : Key) (nonce data masked : Bytes) :
    (tag k nonce data masked).length = tagLength := rfl

/-- Blocks one after the other have sixteen bytes each. -/
theorem length_blocks (f : Nat → Aes.Block) (is : List Nat) :
    (is.flatMap fun i => (f i).bytes).length = 16 * is.length := by
  induction is with
  | nil => rfl
  | cons i is ih =>
    rw [List.flatMap_cons, List.length_append, ih, Aes.length_bytes, List.length_cons]
    omega

theorem length_keyStream (k : Key) (nonce : Bytes) (n : Nat) :
    (keyStream k nonce n).length = 16 * blockCount n := by
  rw [keyStream, length_blocks, List.length_range]

theorem length_mask (k : Key) (nonce text : Bytes) : (mask k nonce text).length = text.length := by
  rw [mask, List.length_zipWith, length_keyStream, blockCount]
  omega

/-- Adding a key stream twice gives the text back. -/
theorem zipWith_xor_cancel :
    ∀ (text key : Bytes), text.length ≤ key.length →
      List.zipWith (· ^^^ ·) (List.zipWith (· ^^^ ·) text key) key = text
  | [], _, _ => by simp
  | _ :: _, [], h => by simp at h
  | b :: text, c :: key, h => by
    have ih := zipWith_xor_cancel text key (by simpa using h)
    have same : b ^^^ c ^^^ c = b := by rw [UInt8.xor_assoc, UInt8.xor_self, UInt8.xor_zero]
    simp [ih, same]

theorem mask_mask (k : Key) (nonce text : Bytes) : mask k nonce (mask k nonce text) = text := by
  have h : text.length ≤ (keyStream k nonce text.length).length := by
    rw [length_keyStream, blockCount]
    omega
  rw [mask, length_mask, mask]
  exact zipWith_xor_cancel text _ h

/-- A sealed text opens to what was sealed. -/
theorem decrypt?_encrypt (k : Key) (nonce data text : Bytes) :
    decrypt? k nonce data (encrypt k nonce data text) = some text := by
  have h : (encrypt k nonce data text).length - tagLength = (mask k nonce text).length := by
    simp [encrypt, length_tag]
  have taken : (encrypt k nonce data text).take (mask k nonce text).length
      = mask k nonce text := by
    simp [encrypt]
  have dropped : (encrypt k nonce data text).drop (mask k nonce text).length =
      tag k nonce data (mask k nonce text) := by
    simp [encrypt]
  have long : tagLength ≤ (encrypt k nonce data text).length := by
    simp [encrypt, length_tag]
  simp only [decrypt?, h, taken, dropped, mask_mask]
  simp [long]

end SignIn.Gcm
