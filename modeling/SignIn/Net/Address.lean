import SignIn.Text.Hex

/-!
# Internet addresses

An address of version 4 is four decimal numbers with points between them. An address of version 6
is eight groups of up to four hexadecimal digits with colons between them; one run of zero groups
may be left out, which leaves two colons in its place, and the last two groups may be written as an
address of version 4. An address has many spellings of version 6 and one canonical text, `print`.
-/

namespace SignIn

inductive Address where
  | v4 (a b c d : UInt8)
  /-- The eight groups of version 6. -/
  | v6 (groups : Vector UInt16 8)
  deriving DecidableEq, Repr

namespace Address

def point : UInt8 := 0x2E

def colon : UInt8 := 0x3A

/-- The address of this host, 127.0.0.1. -/
def loopback : Address := .v4 127 0 0 1

/-! ## Writing -/

def printOctet (b : UInt8) : Bytes := Utf8.encode (Decimal.ofNat b.toNat)

def printV4 (a b c d : UInt8) : Bytes :=
  printOctet a ++ point :: printOctet b ++ point :: printOctet c ++ point :: printOctet d

/-- The four digits of a group. -/
def groupDigits (g : UInt16) : List Nat :=
  [g.toNat / 4096, g.toNat / 256 % 16, g.toNat / 16 % 16, g.toNat % 16]

/-- The text of a group: its digits without leading zeros, but at least one. -/
def printGroup (g : UInt16) : Bytes :=
  match (groupDigits g).dropWhile (· == 0) with
  | [] => [Hex.digit 0]
  | ds => ds.map Hex.digit

/-- The text of groups with colons between them. -/
def printGroups (gs : List UInt16) : Bytes := [colon].intercalate (gs.map printGroup)

/-- The number of zero groups from the group `i` on. -/
def zerosAt (gs : List UInt16) (i : Nat) : Nat := ((gs.drop i).takeWhile (· == 0)).length

/-- Where the longest run of zero groups begins; of runs of one length it is the first. -/
def longestRun (gs : List UInt16) : Nat :=
  (List.range gs.length).foldl (fun best i => if zerosAt gs best < zerosAt gs i then i else best) 0

/-- The text of groups; a run of more than one zero group is left out. -/
def printShortened (gs : List UInt16) : Bytes :=
  let start := longestRun gs
  let n := zerosAt gs start
  if 1 < n then
    printGroups (gs.take start) ++ [colon, colon] ++ printGroups (gs.drop (start + n))
  else printGroups gs

def upper (g : UInt16) : UInt8 := (g >>> 8).toUInt8

/-- The text of an address of version 6. One that stands for an address of version 4 shows it. -/
def printV6 (gs : List UInt16) : Bytes :=
  match gs with
  | [0, 0, 0, 0, 0, 0xFFFF, x, y] =>
    Utf8.encode "::ffff:" ++ printV4 (upper x) x.toUInt8 (upper y) y.toUInt8
  | gs => printShortened gs

def print : Address → Bytes
  | .v4 a b c d => printV4 a b c d
  | .v6 gs => printV6 gs.toList

/-! ## Reading -/

def decimal? (b : UInt8) : Option Nat :=
  if 0x30 ≤ b.toNat ∧ b.toNat ≤ 0x39 then some (b.toNat - 0x30) else none

/-- The longest front of `s` that consists of digits, as their values, and what follows it. -/
def digits (value? : UInt8 → Option Nat) (s : Bytes) : List Nat × Bytes :=
  ((s.takeWhile fun b => (value? b).isSome).filterMap value?,
    s.dropWhile fun b => (value? b).isSome)

/-- The number that digits spell. -/
def ofDigits (base : Nat) (ds : List Nat) : Nat := ds.foldl (fun n d => n * base + d) 0

/-- Reads a number below 256, of at most three digits and without a leading zero. -/
def octet? (s : Bytes) : Option (UInt8 × Bytes) :=
  let (ds, r) := digits decimal? s
  let n := ofDigits 10 ds
  if ds.length = 0 ∨ 3 < ds.length ∨ (ds.head? = some 0 ∧ 1 < ds.length) ∨ 255 < n then none
  else some (UInt8.ofNat n, r)

/-- Reads a group of one to four digits. -/
def group? (s : Bytes) : Option (UInt16 × Bytes) :=
  let (ds, r) := digits Hex.value? s
  if ds.length = 0 ∨ 4 < ds.length then none else some (UInt16.ofNat (ofDigits 16 ds), r)

def expect? (b : UInt8) : Bytes → Option Bytes
  | [] => none
  | c :: r => if c = b then some r else none

/-- Reads an address of version 4 from the front of a text. -/
def readV4? (s : Bytes) : Option ((UInt8 × UInt8 × UInt8 × UInt8) × Bytes) := do
  let (a, s) ← octet? s
  let (b, s) ← expect? point s >>= octet?
  let (c, s) ← expect? point s >>= octet?
  let (d, s) ← expect? point s >>= octet?
  pure ((a, b, c, d), s)

def joined (upper lower : UInt8) : UInt16 := upper.toUInt16 * 256 + lower.toUInt16

/-- What has been read of a row of groups. -/
structure Row where
  groups : List UInt16
  /-- Whether the last two groups were written as an address of version 4. -/
  endsInV4 : Bool
  rest : Bytes
  deriving DecidableEq, Repr

/-- Reads the colon before a group, unless it is the first. -/
def separated? (isFirst : Bool) (s : Bytes) : Option Bytes :=
  if isFirst then some s else expect? colon s

/-- Reads an address of version 4 as two groups. -/
def embedded? (s : Bytes) : Option (List UInt16 × Bytes) := do
  let ((a, b, c, d), s) ← readV4? s
  pure ([joined a b, joined c d], s)

/-- Reads at most `room` groups. An address of version 4 needs room for two. -/
def row (isFirst : Bool) : Nat → Bytes → Row
  | 0, s => ⟨[], false, s⟩
  | room + 1, s =>
    match (if 1 ≤ room then separated? isFirst s >>= embedded? else none) with
    | some (gs, s) => ⟨gs, true, s⟩
    | none =>
      match separated? isFirst s >>= group? with
      | none => ⟨[], false, s⟩
      | some (g, s) =>
        let r := row false room s
        { r with groups := g :: r.groups }

/-- Eight groups: those before the two colons, zeros, and those after them. -/
def filled (front back : List UInt16) : List UInt16 :=
  front ++ List.replicate (8 - front.length - back.length) 0 ++ back

/-- The address of eight groups. -/
def ofGroups? (gs : List UInt16) : Option Address :=
  if h : gs.length = 8 then some (.v6 ⟨gs.toArray, by simpa using h⟩) else none

/-- Reads an address of version 6 from the front of a text. -/
def readV6? (s : Bytes) : Option (Address × Bytes) := do
  let front := row true 8 s
  if front.groups.length = 8 then
    let a ← ofGroups? front.groups
    pure (a, front.rest)
  else if front.endsInV4 then none
  else
    let s ← expect? colon front.rest >>= expect? colon
    let back := row true (7 - front.groups.length) s
    let a ← ofGroups? (filled front.groups back.groups)
    pure (a, back.rest)

def read? (s : Bytes) : Option (Address × Bytes) :=
  match readV4? s with
  | some ((a, b, c, d), s) => some (.v4 a b c d, s)
  | none => readV6? s

def parse? (s : Bytes) : Option Address :=
  match read? s with
  | some (a, []) => some a
  | _ => none

example : (parse? (Utf8.encode "1:0:0:2:0:0:0:3")).map print =
    some (Utf8.encode "1:0:0:2::3") := by decide +kernel
example : (parse? (Utf8.encode "::FFFF:102:3")).map print =
    some (Utf8.encode "::ffff:1.2.0.3") := by decide +kernel
example : parse? (Utf8.encode "1.2.3.04") = none := by decide +kernel
example : parse? (Utf8.encode "1:2:3:4:5:6:7:8:9") = none := by decide +kernel
example : parse? (Utf8.encode "::1.2.3.4:5") = none := by decide +kernel

end Address

end SignIn
