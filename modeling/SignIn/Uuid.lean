import SignIn.Json.Record

/-!
# UUIDs

Sixteen octets. They are written as 32 lower-case digits in five groups with hyphens between them;
they are read from that text in either case, bare, in braces or behind `urn:uuid:`, and from the 32
digits without hyphens.

A text that is none of these is looked through again to say what is wrong with it: first a text
that is too long for any spelling, then a character that belongs in no UUID, then the number of
groups, then the length of a group. Braces and name are set aside first, but not from a text of 36
bytes, which has to be five groups as it stands.
-/

namespace SignIn

structure Uuid where
  octets : Bytes
  length_octets : octets.length = 16
  deriving DecidableEq, Repr

namespace Uuid

/-- The hyphen between two groups. -/
def hyphen : UInt8 := 0x2D

/-- Puts hyphens between the groups of 32 digits. -/
def hyphenate (digits : Bytes) : Bytes :=
  digits.take 8 ++ hyphen :: (digits.drop 8).take 4 ++ hyphen :: (digits.drop 12).take 4 ++
    hyphen :: (digits.drop 16).take 4 ++ hyphen :: digits.drop 20

/-- The 36 bytes of its text. -/
def bytes (u : Uuid) : Bytes := hyphenate (Hex.encode u.octets)

def text (u : Uuid) : String := (Utf8.decode? u.bytes).getD ""

/-! ## Reading -/

/-- The UUID of 32 digits. -/
def ofDigits? (digits : Bytes) : Option Uuid :=
  match Hex.decode digits with
  | .error _ => none
  | .ok octets => if h : octets.length = 16 then some ⟨octets, h⟩ else none

/-- The UUID of five groups with hyphens between them. -/
def ofGroups? (s : Bytes) : Option Uuid :=
  let digits := s.filter (· != hyphen)
  if hyphenate digits = s then ofDigits? digits else none

/-- What stands before a UUID that is written as a name. -/
def urn : Bytes := Utf8.encode "urn:uuid:"

/-- An opening and a closing brace. -/
def braces : UInt8 × UInt8 := (0x7B, 0x7D)

/-- What stands between braces, if `s` is in braces. -/
def unbraced? (s : Bytes) : Option Bytes :=
  match s with
  | [] => none
  | b :: r => if b = braces.1 ∧ r.getLast? = some braces.2 then some r.dropLast else none

/-- What stands behind `urn:uuid:`, if `s` begins with it. -/
def unnamed? (s : Bytes) : Option Bytes :=
  if urn.isPrefixOf s then some (s.drop urn.length) else none

/-- The 36 bytes that have to be five groups, going by the length of a text and what it stands
in. -/
def grouped? (s : Bytes) : Option Bytes :=
  if s.length = 36 then some s
  else if s.length = 38 then unbraced? s
  else if s.length = 45 then unnamed? s
  else none

/-- The UUID that a byte string spells, if it does. -/
def read? (s : Bytes) : Option Uuid :=
  if s.length = 32 then ofDigits? s else grouped? s >>= ofGroups?

/-! ## What is wrong with a text -/

/-- Why a text is not a UUID. -/
inductive Error where
  /-- A character that is neither a digit nor a hyphen, and its offset. -/
  | character (c : Char) (offset : Nat)
  /-- A text that is too long, or one without hyphens whose length is wrong. -/
  | length (found : Nat)
  | groupCount (found : Nat)
  /-- A group, counted from zero, whose length is wrong. -/
  | groupLength (group expected found : Nat)
  deriving DecidableEq, Repr

def Error.message : Error → String
  | .character c offset =>
    "invalid character: found `" ++ String.singleton c ++ "` at " ++ Decimal.ofNat offset
  | .length found => "invalid length: found " ++ Decimal.ofNat found
  | .groupCount found => "invalid group count: expected 5, found " ++ Decimal.ofNat found
  | .groupLength group expected found =>
    "invalid group length in group " ++ Decimal.ofNat group ++ ": expected " ++
      Decimal.ofNat expected ++ ", found " ++ Decimal.ofNat found

/-- A character that may stand in a UUID. -/
def isAllowed (c : Char) : Bool :=
  c = '-' || ('0' ≤ c && c ≤ '9') || ('a' ≤ c && c ≤ 'f') || ('A' ≤ c && c ≤ 'F')

/-- The first character that may not, and its offset; the text begins at `offset`. -/
def stray? (offset : Nat) : List Char → Option (Char × Nat)
  | [] => none
  | c :: r =>
    if isAllowed c then stray? (offset + (Utf8.encodeChar c).length) r else some (c, offset)

/-- The lengths of the groups of a text. -/
def groupLengths (s : Bytes) : List Nat := (s.splitOn hyphen).map List.length

/-- The first group of a wrong length, the groups being counted from `i`. -/
def wrongGroup? (i : Nat) : List Nat → List Nat → Option Error
  | e :: expected, n :: found =>
    if n = e then wrongGroup? (i + 1) expected found else some (.groupLength i e n)
  | _, _ => none

/-- Says what is wrong with a text of `size` bytes that is not a UUID. The part `s` of it, which
should be the groups, begins at `offset`; a `bare` one may also go without any hyphen. -/
def diagnose (size offset : Nat) (bare : Bool) (s : Bytes) : Error :=
  match stray? offset ((Utf8.decode? s).getD "").toList with
  | some (c, offset) => .character c offset
  | none =>
    let found := groupLengths s
    if found.length = 1 ∧ bare then .length size
    else if found.length ≠ 5 then .groupCount found.length
    else (wrongGroup? 0 [8, 4, 4, 4] found).getD (.groupLength 4 12 (size - 24))

/-- The length of the longest spelling. -/
def maxLength : Nat := 45

/-- Says what is wrong with a text that is not a UUID. -/
def explain (s : Bytes) : Error :=
  if maxLength < s.length then .length s.length
  else
    match grouped? s, unbraced? s, unnamed? s with
    | some r, _, _ => diagnose r.length 0 false r
    | none, some r, _ => diagnose s.length 1 false r
    | none, none, some r => diagnose s.length urn.length false r
    | none, none, none => diagnose s.length 0 true s

/-- The UUID that a text stands for. -/
def parse (s : String) : Except Error Uuid :=
  match read? (Utf8.encode s) with
  | some u => .ok u
  | none => .error (explain (Utf8.encode s))

/-- Reads a UUID from a string of JSON. -/
def jsonField : Json.Reader Uuid := fun s =>
  match Json.front s with
  | .error e => .error e
  | .ok (.string t, s) =>
    match parse t with
    | .ok u => .ok (u, s)
    | .error e => .error (.refused ("UUID parsing failed: " ++ e.message))
  | .ok (f, _) => .error (.wrongType f.found "a formatted UUID string")

/-! ## Random UUIDs -/

/-- The UUID whose octets are zero. -/
def zero : Uuid := ⟨List.replicate 16 0, List.length_replicate⟩

/-- The random UUID made of sixteen octets: the version is 4, in the high half of octet 6, and the
variant is in the two high bits of octet 8. -/
def ofRandom (octets : Vector UInt8 16) : Uuid :=
  let version := (octets[6] &&& 0x0F) ||| 0x40
  let variant := (octets[8] &&& 0x3F) ||| 0x80
  ⟨((octets.set 6 version).set 8 variant).toList, by simp⟩

/-- The version, which is the high half of octet 6. -/
def version (u : Uuid) : Nat := (u.octets.getD 6 0).toNat / 16

example : (ofRandom (Vector.replicate 16 0xFF)).version = 4 := by decide

example : explain (Utf8.encode "00000000-0000-4000-8000-00000000000") = .groupLength 4 12 11 := by
  decide +kernel
example : explain (Utf8.encode "\x7b00000000_0000-4000-8000-000000000000\x7d") =
    .character '_' 8 := by decide +kernel

end Uuid

end SignIn
