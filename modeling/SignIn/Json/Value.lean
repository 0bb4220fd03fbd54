import SignIn.Json.Number
import Std.Data.TreeMap

/-!
# JSON values

Reading a whole text into a value. An object is kept in the order of its keys, each key once; where
a text repeats a key, the last member counts. Containers may be nested 127 deep.
-/

namespace SignIn.Json

inductive Value where
  | null
  | bool (b : Bool)
  | int (n : Int)
  | float (x : Binary64)
  | string (s : String)
  | list (elements : List Value)
  /-- The members in the order of their keys. -/
  | object (members : List (String × Value))
  deriving Repr

/-- The members in the order of their keys, of equal keys only the last. -/
def canonical {α : Type} (members : List (String × α)) : List (String × α) :=
  (Std.TreeMap.ofList members compare).toList

/-- The member of an object with the given key. -/
def member? {α : Type} (members : List (String × α)) (key : String) : Option α :=
  (members.find? (·.1 == key)).map (·.2)

/-! ## The front of a value -/

/-- A scalar that has been read, or a container that has been entered. -/
inductive Front where
  | null
  | bool (b : Bool)
  | number (n : Number)
  | string (s : String)
  | list
  | object
  deriving DecidableEq, Repr

/-- How an error names a value that is not what was asked for. -/
def Front.found : Front → Found
  | .null => .null
  | .bool b => .bool b
  | .number (.int n) => .integer n
  | .number (.float x) => .float x
  | .string s => .string s
  | .list => .list
  | .object => .object

/-- Keeps the front `f` of a value whose rest has been read. -/
def keep (f : Front) : Except Error Bytes → Except Error (Front × Bytes)
  | .ok s => .ok (f, s)
  | .error e => .error e

/-- Reads the number that begins a text, after its minus sign if it has one. -/
def numberFront (negative : Bool) : Reader Front := fun s =>
  match number negative s with
  | .ok (n, s) => .ok (.number n, s)
  | .error e => .error e

/-- Reads a scalar, or enters a container by its opening bracket. -/
def front : Reader Front := fun s =>
  match skipBlanks s with
  | [] => .error .endInValue
  | b :: r =>
    if b = 0x22 then
      match string r with
      | .ok (t, r) => .ok (.string t, r)
      | .error e => .error e
    else if b = 0x7B then .ok (.object, r)
    else if b = 0x5B then .ok (.list, r)
    else if b = 0x6E then keep .null (word [0x75, 0x6C, 0x6C] r)
    else if b = 0x74 then keep (.bool true) (word [0x72, 0x75, 0x65] r)
    else if b = 0x66 then keep (.bool false) (word [0x61, 0x6C, 0x73, 0x65] r)
    else if b = 0x2D then numberFront true r
    else if isDigit b then numberFront false (b :: r)
    else .error .expectedValue

/-! ## Containers -/

/-- Where a container goes on. -/
inductive Turn where
  /-- After its closing bracket. -/
  | close (rest : Bytes)
  /-- At its next element, or after the opening quote of its next key. -/
  | item (rest : Bytes)
  deriving DecidableEq, Repr

/-- Goes to the next element of a list, or past its end. -/
def listTurn (first : Bool) (s : Bytes) : Except Error Turn :=
  match skipBlanks s with
  | [] => .error .endInList
  | b :: r =>
    if b = 0x5D then .ok (.close r)
    else if first then .ok (.item (b :: r))
    else if b = 0x2C then
      match skipBlanks r with
      | [] => .error .endInValue
      | c :: r => if c = 0x5D then .error .trailingComma else .ok (.item (c :: r))
    else .error .expectedListSeparator

/-- Enters a key, which must begin with a quote. -/
def enterKey : Bytes → Except Error Turn
  | [] => .error .endInValue
  | b :: r =>
    if b = 0x22 then .ok (.item r)
    else if b = 0x7D then .error .trailingComma
    else .error .keyNotString

/-- Goes to the next key of an object, or past its end. -/
def objectTurn (first : Bool) (s : Bytes) : Except Error Turn :=
  match skipBlanks s with
  | [] => .error .endInObject
  | b :: r =>
    if b = 0x7D then .ok (.close r)
    else if first then enterKey (b :: r)
    else if b = 0x2C then enterKey (skipBlanks r)
    else .error .expectedObjectSeparator

/-- Reads the colon after a key. -/
def colon (s : Bytes) : Except Error Bytes :=
  match skipBlanks s with
  | [] => .error .endInObject
  | b :: r => if b = 0x3A then .ok r else .error .expectedColon

/-- Reads the elements of a list, at most `fuel` of them, after those in `acc` (last first). -/
def elements {α : Type} (item : Reader α) (fuel : Nat) (acc : List α) : Reader (List α) := fun s =>
  match fuel with
  | 0 => .error .endInList
  | fuel + 1 =>
    match listTurn acc.isEmpty s with
    | .error e => .error e
    | .ok (.close r) => .ok (acc.reverse, r)
    | .ok (.item r) =>
      match item r with
      | .error e => .error e
      | .ok (v, r) => elements item fuel (v :: acc) r

/-- Reads a key after its opening quote, the colon and the value. -/
def keyed {α : Type} (item : Reader α) : Reader (String × α) := fun s =>
  match string s with
  | .error e => .error e
  | .ok (key, s) =>
    match colon s with
    | .error e => .error e
    | .ok s =>
      match item s with
      | .error e => .error e
      | .ok (v, s) => .ok ((key, v), s)

/-- Reads the members of an object, at most `fuel` of them, after those in `acc` (last first). -/
def members {α : Type} (item : Reader α) (fuel : Nat) (acc : List (String × α)) :
    Reader (List (String × α)) := fun s =>
  match fuel with
  | 0 => .error .endInObject
  | fuel + 1 =>
    match objectTurn acc.isEmpty s with
    | .error e => .error e
    | .ok (.close r) => .ok (acc.reverse, r)
    | .ok (.item r) =>
      match keyed item r with
      | .error e => .error e
      | .ok (m, r) => members item fuel (m :: acc) r

/-! ## Values -/

def listValue : Except Error (List Value × Bytes) → Except Error (Value × Bytes)
  | .ok (vs, s) => .ok (.list vs, s)
  | .error e => .error e

def objectValue : Except Error (List (String × Value) × Bytes) → Except Error (Value × Bytes)
  | .ok (ms, s) => .ok (.object (canonical ms), s)
  | .error e => .error e

def Front.scalar? : Front → Option Value
  | .null => some .null
  | .bool b => some (.bool b)
  | .number (.int n) => some (.int n)
  | .number (.float x) => some (.float x)
  | .string s => some (.string s)
  | .list => none
  | .object => none

/--
Reads a value with at most `depth` containers inside one another, each of at most `fuel` items.
-/
def value (fuel depth : Nat) : Reader Value := fun s =>
  match front s with
  | .error e => .error e
  | .ok (f, s) =>
    match f.scalar?, depth with
    | some v, _ => .ok (v, s)
    | none, 0 => .error .tooDeep
    | none, depth + 1 =>
      if f = .list then listValue (elements (value fuel depth) fuel [] s)
      else objectValue (members (value fuel depth) fuel [] s)

/-- The number of containers that may be nested. -/
def maxDepth : Nat := 127

/-- Reads what `r` reads, and then only blanks. -/
def Reader.whole {α : Type} (r : Reader α) (s : Bytes) : Except Error α :=
  match r s with
  | .error e => .error e
  | .ok (a, s) => if (skipBlanks s).isEmpty then .ok a else .error .trailingText

def parse (s : Bytes) : Except Error Value := Reader.whole (value (s.length + 1) maxDepth) s

/-- Reads an object into its members. -/
def objectMembers (fuel depth : Nat) : Reader (List (String × Value)) := fun s =>
  match front s with
  | .error e => .error e
  | .ok (.object, s) =>
    match members (value fuel depth) fuel [] s with
    | .ok (ms, s) => .ok (canonical ms, s)
    | .error e => .error e
  | .ok (f, _) => .error (.wrongType f.found "a map")

/-- The members of a text that is an object. -/
def parseObject (s : Bytes) : Except Error (List (String × Value)) :=
  Reader.whole (objectMembers (s.length + 1) (maxDepth - 1)) s

end SignIn.Json
