import Std.Data.HashMap

/-!
# Sets and tables of code points

What a standard says of characters it says of long runs of code points. A set is kept as the code
points at which it begins and ends, a table as its entries. Both can be written down as text, in
words with spaces or line ends between them; all numbers are hexadecimal, in lower case.

* In a set, `300-36f` is a run of code points, and `483` is one of them. The runs are in order.
* In a table, `c0=41.300,41.301` sends U+00C0 to the two code points U+0041 U+0300, and the next
  code point, U+00C1, to U+0041 U+0301.
* In a table, `41-5a=61` sends U+0041 to U+0061, the next to the next, up to U+005A; and
  `100-12e/2=101` does so for every second code point only.
-/

namespace SignIn

/-- A set of code points. -/
structure CodePoints where
  /-- The code points at which the set begins or ends: it starts out absent at zero, and each
  entry, in increasing order, is the first code point of the next run inside or outside the set. -/
  turns : Array Nat

/-- What characters go to, for those that go anywhere. -/
structure CharTable where
  /-- The entries by their code points. -/
  entries : Std.HashMap Nat (List Char)

namespace CodePoints

/-- The number of entries of `turns` among indices `lo` to `hi` that are at most `n`, plus `lo`. -/
def rank (turns : Array Nat) (n : Nat) (fuel lo hi : Nat) : Nat :=
  match fuel with
  | 0 => lo
  | fuel + 1 =>
    if lo < hi then
      let mid := (lo + hi) / 2
      if turns.getD mid 0 ≤ n then rank turns n fuel (mid + 1) hi else rank turns n fuel lo mid
    else lo

def contains (s : CodePoints) (c : Char) : Bool :=
  rank s.turns c.toNat (s.turns.size.log2 + 1) 0 s.turns.size % 2 == 1

end CodePoints

/-! ## Reading them from text -/

namespace CodePoints

def digitValue (c : Char) : Nat := if c.toNat < 0x3A then c.toNat - 0x30 else c.toNat - 0x57

def number (ds : List Char) : Nat := ds.foldl (fun n d => n * 16 + digitValue d) 0

def words (s : String) : List (List Char) :=
  (s.toList.splitOnP fun c => c == ' ' || c == '\n').filter (· != [])

/-- Where a run begins, and where it has ended. -/
def bounds (word : List Char) : List Nat :=
  match word.splitOn '-' with
  | [a] => [number a, number a + 1]
  | [a, b] => [number a, number b + 1]
  | _ => []

def ofText (s : String) : CodePoints := ⟨((words s).flatMap bounds).toArray⟩

end CodePoints

namespace CharTable

open CodePoints (number words)

def find? (t : CharTable) (c : Char) : Option (List Char) := t.entries[c.toNat]?

/-- The characters that code points with full stops between them stand for. -/
def chars (s : List Char) : List Char := (s.splitOn '.').map fun ds => Char.ofNat (number ds)

/-- The entries for the code points from `first` on. -/
def listed (first : Nat) (targets : List (List Char)) : List (Nat × List Char) :=
  targets.zipIdx.map fun (t, i) => (first + i, chars t)

/-- The entries for every `step`-th code point from `first` to `last`. -/
def shifted (first last step target : Nat) : List (Nat × List Char) :=
  (List.range ((last - first) / step + 1)).map fun i =>
    (first + i * step, [Char.ofNat (target + i * step)])

/-- The entries that a word spells. -/
def entriesOf (word : List Char) : List (Nat × List Char) :=
  match word.splitOn '=' with
  | [key, targets] =>
    match key.splitOn '-' with
    | [a] => listed (number a) (targets.splitOn ',')
    | [a, b] =>
      match b.splitOn '/' with
      | [b, step] => shifted (number a) (number b) (number step) (number targets)
      | _ => shifted (number a) (number b) 1 (number targets)
    | _ => []
  | _ => []

/-- The table that a text spells. -/
def ofText (s : String) : CharTable := ⟨.ofList ((words s).flatMap entriesOf)⟩

end CharTable

namespace CodePoints

example : [(ofText "41-43 61").contains 'C', (ofText "41-43 61").contains 'D',
    (ofText "41-43 61").contains 'a'] = [true, false, true] := by decide +kernel
example : CharTable.entriesOf "61=62.63,64".toList = [(0x61, ['b', 'c']), (0x62, ['d'])] := by
  decide +kernel
example : CharTable.entriesOf "61-63/2=41".toList = [(0x61, ['A']), (0x63, ['C'])] := by
  decide +kernel

end CodePoints

end SignIn
