import SignIn.Json.Skip

/-!
# Records

A record is read from an object that has each of its fields exactly once, in any order and among
any other members, or from a list that holds the values of its fields in order and nothing else.
-/

namespace SignIn.Json

/-! ## Scalars -/

def stringField : Reader String := fun s =>
  match front s with
  | .error e => .error e
  | .ok (.string t, s) => .ok (t, s)
  | .ok (f, _) => .error (.wrongType f.found "a string")

def boolField : Reader Bool := fun s =>
  match front s with
  | .error e => .error e
  | .ok (.bool b, s) => .ok (b, s)
  | .ok (f, _) => .error (.wrongType f.found "a boolean")

/-- Reads an integer of 64 bits with a sign. -/
def intField : Reader Int64 := fun s =>
  match front s with
  | .error e => .error e
  | .ok (.number (.int n), s) =>
    if n ≤ Int64.maxValue.toInt then .ok (Int64.ofInt n, s) else .error (.wrongValue n "i64")
  | .ok (f, _) => .error (.wrongType f.found "i64")

/-! ## Schemas -/

/-- A field of a record `α`: its key, and a reader of what it sets. -/
structure Field (α : Type) where
  key : String
  read : Reader (α → α)

/-- The field that is read by `r` and set by `set`. -/
def Field.of {α β : Type} (key : String) (r : Reader β) (set : β → α → α) : Field α where
  key
  read := fun s =>
    match r s with
    | .ok (b, s) => .ok (set b, s)
    | .error e => .error e

/-- What a record is called, the value it starts from, and its fields in order. -/
structure Schema (α : Type) where
  name : String
  blank : α
  fields : List (Field α)

/-- How an error names the record. -/
def Schema.expected {α : Type} (c : Schema α) : String := "struct " ++ c.name

/-- How an error names the record as a list. -/
def Schema.expectedList {α : Type} (c : Schema α) : String :=
  c.expected ++ " with " ++ Decimal.ofNat c.fields.length ++
    (if c.fields.length = 1 then " element" else " elements")

/-- Goes past the end of a list, of which all elements have been read. -/
def closeList (s : Bytes) : Except Error Bytes :=
  match skipBlanks s with
  | [] => .error .endInList
  | b :: r =>
    if b = 0x5D then .ok r
    else if b = 0x2C ∧ (skipBlanks r).head? = some 0x5D then .error .trailingComma
    else .error .trailingText

/-- Reads the fields from elements of a list, of which `count` have been read. -/
def readList {α : Type} (expected : String) (count : Nat) (a : α) :
    List (Field α) → Reader α
  | [], s =>
    match closeList s with
    | .ok s => .ok (a, s)
    | .error e => .error e
  | f :: fields, s =>
    match listTurn (count == 0) s with
    | .error e => .error e
    | .ok (.close _) => .error (.wrongLength count expected)
    | .ok (.item s) =>
      match f.read s with
      | .error e => .error e
      | .ok (set, s) => readList expected (count + 1) (set a) fields s

/-- Reads a member after the opening quote of its key: the key, and what the field sets. -/
def readMember {α : Type} (fields : List (Field α)) (seen : List String) :
    Reader (String × (α → α)) := fun s =>
  match string s with
  | .error e => .error e
  | .ok (key, s) =>
    match fields.find? (·.key == key) with
    | none =>
      match colon s with
      | .error e => .error e
      | .ok s =>
        match skipValue s with
        | .ok s => .ok ((key, id), s)
        | .error e => .error e
    | some f =>
      if seen.contains key then .error (.duplicateField key)
      else match colon s with
        | .error e => .error e
        | .ok s =>
          match f.read s with
          | .ok (set, s) => .ok ((key, set), s)
          | .error e => .error e

/-- Reads at most `fuel` members of an object; `seen` holds the fields that have been read. -/
def readMembers {α : Type} (fields : List (Field α)) (fuel : Nat) (first : Bool)
    (seen : List String) (a : α) : Reader α := fun s =>
  match fuel with
  | 0 => .error .endInObject
  | fuel + 1 =>
    match objectTurn first s with
    | .error e => .error e
    | .ok (.close s) =>
      match fields.find? fun f => !seen.contains f.key with
      | some f => .error (.missingField f.key)
      | none => .ok (a, s)
    | .ok (.item s) =>
      match readMember fields seen s with
      | .error e => .error e
      | .ok ((key, set), s) =>
        let seen := if fields.any (·.key == key) then key :: seen else seen
        readMembers fields fuel false seen (set a) s

def Schema.read {α : Type} (c : Schema α) : Reader α := fun s =>
  match front s with
  | .error e => .error e
  | .ok (.list, s) => readList c.expectedList 0 c.blank c.fields s
  | .ok (.object, s) => readMembers c.fields (s.length + 1) true [] c.blank s
  | .ok (f, _) => .error (.wrongType f.found c.expected)

/-- The record that a text stands for. -/
def Schema.parse {α : Type} (c : Schema α) (s : Bytes) : Except Error α := Reader.whole c.read s

end SignIn.Json
