import SignIn.Net.Address
import SignIn.Net.HostName
import SignIn.Text.Blank
import SignIn.Text.Form

/-!
# Endpoints

Where a request is sent: the parts of an absolute `http` or `https` URL. Reading a URL brings its
path into normal form: backslashes become slashes, dot segments are resolved, and bytes that may
not stand there are escaped. The host may be spelled in any way that host names are spelled; a name
that ends with a number is an address. What the fragment says is not sent, and a name and a
password are sent apart from the URL.
-/

namespace SignIn

/-- A host: an address, or a name of lower-case ASCII. -/
inductive Host where
  | address (a : Address)
  | name (n : Bytes)
  deriving DecidableEq, Repr

/-- The parts of a URL that a request is made of. -/
structure Endpoint where
  /-- Whether the connection is secured. -/
  secure : Bool
  host : Host
  /-- The port, if it is not the usual one. -/
  port : Option Nat
  /-- The path, which begins with a slash. -/
  path : Bytes
  query : Option Bytes
  fragment : Option Bytes
  deriving DecidableEq, Repr

namespace Endpoint

/-! ## Bytes of a URL -/

def slash : UInt8 := 0x2F

/-- A backslash, which counts as a slash. -/
def backslash : UInt8 := 0x5C

/-- A question mark, which begins the query. -/
def question : UInt8 := 0x3F

/-- A number sign, which begins the fragment. -/
def hash : UInt8 := 0x23

def isSlash (b : UInt8) : Bool := b == slash || b == backslash

def endsAuthority (b : UInt8) : Bool := isSlash b || b == question || b == hash

def endsPath (b : UInt8) : Bool := b == question || b == hash

def lower (b : UInt8) : UInt8 := if 0x41 ≤ b ∧ b ≤ 0x5A then b + 0x20 else b

/-- The URL without the controls and spaces around it, and without tabs and line ends. -/
def cleaned (s : Bytes) : Bytes :=
  (Blank.trimList (fun b => b ≤ 0x20) s).filter fun b => b != 0x09 && b != 0x0A && b != 0x0D

/-! ## Schemes -/

/-- Whether the connection is secured, and what follows the scheme. -/
def scheme? (s : Bytes) : Option (Bool × Bytes) :=
  let name := (s.takeWhile (· != Address.colon)).map lower
  match s.dropWhile (· != Address.colon) with
  | [] => none
  | _ :: r =>
    if name = Utf8.encode "http" then some (false, r)
    else if name = Utf8.encode "https" then some (true, r)
    else none

/-! ## Hosts -/

def isNameByte (b : UInt8) : Bool :=
  Percent.isAlphanumeric b || (Utf8.encode "-._~!$&'()*+,;=").contains b

/-- The number that a part of a numeric name spells, in base 16 behind `0x` and in base 8 behind a
zero. -/
def hostNumber? (part : Bytes) : Option Nat :=
  let spelled (base : Nat) (ds : Bytes) : Option Nat :=
    (ds.mapM fun b => (Hex.value? b).filter (· < base)).map (Address.ofDigits base)
  match part with
  | [] => none
  | [0x30] => some 0
  | 0x30 :: b :: r =>
    if b = 0x78 ∨ b = 0x58 then spelled 16 r else spelled 8 (b :: r)
  | ds => spelled 10 ds

/-- The parts of a name between its points; a point at the end is ignored. -/
def hostParts (n : Bytes) : List Bytes :=
  let parts := n.splitOn Address.point
  if parts.getLast? = some [] ∧ 1 < parts.length then parts.dropLast else parts

/-- Whether a name ends with a number, so that it has to be an address. -/
def endsInNumber (n : Bytes) : Bool :=
  (hostParts n).getLast?.any fun part =>
    (part ≠ [] ∧ part.all fun b => (Address.decimal? b).isSome) || (hostNumber? part).isSome

/-- The address of the numbers in a name; the last of them fills the bytes that are left. -/
def addressOfNumbers? (ns : List Nat) : Option Address :=
  let front := ns.dropLast
  let last := ns.getLast?.getD 0
  let room := 4 - front.length
  if 0 < ns.length ∧ ns.length ≤ 4 ∧ (∀ n ∈ front, n < 256) ∧ last < Nat.pow 256 room then
    match front ++ (List.range room).map fun i => last / Nat.pow 256 (room - 1 - i) % 256 with
    | [a, b, c, d] =>
      some (.v4 (UInt8.ofNat a) (UInt8.ofNat b) (UInt8.ofNat c) (UInt8.ofNat d))
    | _ => none
  else none

/-- The host of a name as it is looked up. -/
def hostOfName? (n : Bytes) : Option Host :=
  if n = [] ∨ ¬ n.all isNameByte then none
  else if endsInNumber n then
    ((hostParts n).mapM hostNumber? >>= addressOfNumbers?).map .address
  else some (.name n)

/-- The host that a name spells; bytes of it may be escaped. -/
def namedHost? (s : Bytes) : Option Host := do
  let spelled ← Utf8.decodeChars? (Percent.decode s)
  let name ← HostName.parse? spelled
  hostOfName? (Utf8.encodeChars name)

/-- The host that a text in brackets, or without them, spells. -/
def host? (s : Bytes) : Option Host :=
  match s with
  | 0x5B :: r =>
    if r.getLast? = some 0x5D then
      match Address.readV6? r.dropLast with
      | some (a, []) => some (.address a)
      | _ => none
    else none
  | s => namedHost? s

/-- The text of a host. An address of version 6 is in groups throughout. -/
def Host.print : Host → Bytes
  | .address (.v6 gs) => 0x5B :: Address.printShortened gs.toList ++ [0x5D]
  | .address a => a.print
  | .name n => n

/-! ## Authorities -/

/-- The port that is meant if none is given. -/
def usualPort (secure : Bool) : Nat := if secure then 443 else 80

/-- The port of a text of digits, which may be empty. -/
def port? (secure : Bool) (s : Bytes) : Option (Option Nat) :=
  let (ds, r) := Address.digits Address.decimal? s
  let n := Address.ofDigits 10 ds
  if r ≠ [] ∨ 65535 < n then none
  else if ds = [] ∨ n = usualPort secure then some none
  else some (some n)

/-- The length of the host at the front of an authority: it ends at the first colon that is not in
brackets. -/
def hostLength (inside : Bool) : Bytes → Nat
  | [] => 0
  | b :: r =>
    if b = Address.colon ∧ ¬ inside then 0
    else hostLength (b = 0x5B ∨ (inside ∧ b ≠ 0x5D)) r + 1

/-- The authority without the name and the password before its last `@`. -/
def withoutUser (s : Bytes) : Bytes := (s.splitOn 0x40).getLast?.getD []

/-- The host and the port of an authority. -/
def authority? (secure : Bool) (s : Bytes) : Option (Host × Option Nat) := do
  let s := withoutUser s
  let n := hostLength false s
  let host ← host? (s.take n)
  let port ← port? secure (s.drop (n + 1))
  pure (host, port)

/-! ## Paths -/

/-- A dot, which may be escaped, at the front of a segment; gives what follows it. -/
def dot? : Bytes → Option Bytes
  | 0x2E :: r => some r
  | 0x25 :: 0x32 :: b :: r => if b = 0x65 ∨ b = 0x45 then some r else none
  | _ => none

/-- A segment that stands for the directory itself. -/
def isDot (s : Bytes) : Bool := dot? s == some []

/-- A segment that stands for the directory above. -/
def isDoubleDot (s : Bytes) : Bool := (dot? s >>= dot?) == some []

/-- Resolves dot segments, after the segments in `acc` (last first). -/
def resolve (acc : List Bytes) : List Bytes → List Bytes
  | [] => acc.reverse
  | s :: r =>
    let above := if isDoubleDot s then acc.tail else acc
    if isDoubleDot s || isDot s then
      if r.isEmpty then ([] :: above).reverse else resolve above r
    else resolve (s :: above) r

def segments (s : Bytes) : List Bytes :=
  ((s.drop 1).map fun b => if b = backslash then slash else b).splitOn slash

/-- A path in normal form. -/
def normalPath (s : Bytes) : Bytes :=
  (resolve [] (segments s)).flatMap fun segment =>
    slash :: Percent.encode Percent.keptInPath segment

/-! ## URLs -/

/-- What follows the path, up to the fragment, if it is a query. -/
def query? : Bytes → Option Bytes
  | [] => none
  | b :: r =>
    if b = question then some (Percent.encode Percent.keptInQuery (r.takeWhile (· != hash)))
    else none

/-- What follows the number sign, if there is one. -/
def fragment? (s : Bytes) : Option Bytes :=
  match s.dropWhile (· != hash) with
  | [] => none
  | _ :: r => some (Percent.encode Percent.keptInFragment r)

/-- The endpoint that a URL names. -/
def parse? (url : Bytes) : Option Endpoint := do
  let (secure, s) ← scheme? (cleaned url)
  let s := s.dropWhile isSlash
  let (host, port) ← authority? secure (s.takeWhile (!endsAuthority ·))
  let s := s.dropWhile (!endsAuthority ·)
  let path := normalPath (s.takeWhile (!endsPath ·))
  let s := s.dropWhile (!endsPath ·)
  pure ⟨secure, host, port, path, query? s, fragment? s⟩

/-- The path and the query, as a request line has them. -/
def target (e : Endpoint) : Bytes :=
  match e.query with
  | none => e.path
  | some q => e.path ++ question :: q

def print (e : Endpoint) : Bytes :=
  Utf8.encode (if e.secure then "https://" else "http://") ++ Host.print e.host ++
    (match e.port with
      | none => []
      | some n => Address.colon :: Utf8.encode (Decimal.ofNat n)) ++ e.target ++
    match e.fragment with
    | none => []
    | some f => hash :: f

/-- The number of bytes that the URL of a request may have, with its fragment. -/
def maxLength : Nat := 65534

/-- Adds a pair to the query, behind those that it has. -/
def withPair (e : Endpoint) (key value : Bytes) : Endpoint :=
  let pair := Form.encode key ++ 0x3D :: Form.encode value
  let query := match e.query with
    | none => pair
    | some [] => pair
    | some q => q ++ 0x26 :: pair
  { e with query := some query }

example : (parse? (Utf8.encode " HTTP:\\\\Me@[::1]:80/a/./b/..\\c d?x='#y")).map print =
    some (Utf8.encode "http://[::1]/a/c%20d?x=%27#y") := by decide +kernel
example : (parse? (Utf8.encode "http://me:pw@h/?#`")).map print =
    some (Utf8.encode "http://h/?#%60") := by decide +kernel
example : parse? (Utf8.encode "http://127.0.0.1:99999/") = none := by decide +kernel
example : (parse? (Utf8.encode "https://0x7f.1")).map print =
    some (Utf8.encode "https://127.0.0.1/") := by decide +kernel

end Endpoint

end SignIn
