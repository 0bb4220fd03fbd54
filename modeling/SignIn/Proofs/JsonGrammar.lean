import Mathlib.Algebra.Group.Int.Defs
import Mathlib.Data.List.Induction
import SignIn.Json.Printer
import SignIn.Json.Value

/-!
# The texts of a value

The grammar of JSON, as relations between a value and a byte string that say nothing of how a text
is read. A value has many texts: blanks may stand between its lexemes, a character of a string may
be escaped in several ways, and the members of an object may come in any order. Two things go
beyond the grammar. Containers are counted, since only so many may be nested, and a key may be
repeated, in which case the last member with that key is the one that the object has.
-/

namespace SignIn.Json

/-! ## Putting texts together -/

section Sequences

variable {α : Type} (R : α → Bytes → Prop)

/-- The texts of several things, one behind the other. -/
inductive Each : List α → Bytes → Prop
  | nil : Each [] []
  | cons {a : α} {as : List α} {s t : Bytes} (head : R a s) (tail : Each as t) :
      Each (a :: as) (s ++ t)

/-- The texts of one thing or more, with commas between them. -/
inductive Separated : List α → Bytes → Prop
  | one {a : α} {t : Bytes} (last : R a t) : Separated [a] t
  | cons {a : α} {as : List α} {s t : Bytes} (head : R a s) (tail : Separated as t) :
      Separated (a :: as) (s ++ 0x2C :: t)

/-- Bytes that may stand between two lexemes. -/
def IsBlanks (w : Bytes) : Prop := ∀ b ∈ w, isBlank b = true

/-- A text with blanks around it. -/
def Padded (a : α) (t : Bytes) : Prop :=
  ∃ w u w', IsBlanks w ∧ R a u ∧ IsBlanks w' ∧ t = w ++ u ++ w'

/-- The texts of several things in brackets. -/
inductive Enclosed (opening closing : UInt8) : List α → Bytes → Prop
  | empty {w : Bytes} (blanks : IsBlanks w) :
      Enclosed opening closing [] (opening :: w ++ [closing])
  | items {as : List α} {t : Bytes} (items : Separated (Padded R) as t) :
      Enclosed opening closing as (opening :: t ++ [closing])

end Sequences

/-! ## Strings -/

/-- Four hexadecimal digits, of either case. -/
inductive SpellsUnit : Nat → Bytes → Prop
  | mk {a b c d : UInt8} {i j k l : Nat} (first : Hex.value? a = some i)
      (second : Hex.value? b = some j) (third : Hex.value? c = some k)
      (fourth : Hex.value? d = some l) :
      SpellsUnit (((i * 16 + j) * 16 + k) * 16 + l) [a, b, c, d]

/-- The letters that stand for a character behind a backslash: the quote, the backslash, the slash,
and `b`, `f`, `n`, `r` and `t`. -/
def shortEscapes : List (UInt8 × Nat) :=
  [(0x22, 0x22), (0x5C, 0x5C), (0x2F, 0x2F), (0x62, 0x08), (0x66, 0x0C),
    (0x6E, 0x0A), (0x72, 0x0D), (0x74, 0x09)]

/-- A character inside a string. -/
inductive SpellsChar (c : Char) : Bytes → Prop
  | plain (quote : c.toNat ≠ 0x22) (slash : c.toNat ≠ 0x5C) (high : 0x20 ≤ c.toNat) :
      SpellsChar c (Utf8.encodeChar c)
  | short {b : UInt8} (stands : (b, c.toNat) ∈ shortEscapes) : SpellsChar c [0x5C, b]
  | unit {t : Bytes} (digits : SpellsUnit c.toNat t) : SpellsChar c (0x5C :: 0x75 :: t)
  /-- A character past U+FFFF, by its surrogates. -/
  | pair {high low : Nat} {t u : Bytes} (leading : 0xD800 ≤ high ∧ high ≤ 0xDBFF)
      (trailing : 0xDC00 ≤ low ∧ low ≤ 0xDFFF)
      (code : c.toNat = (high - 0xD800) * 0x400 + (low - 0xDC00) + 0x10000)
      (first : SpellsUnit high t) (second : SpellsUnit low u) :
      SpellsChar c (0x5C :: 0x75 :: t ++ 0x5C :: 0x75 :: u)

/-- A string in quotes. -/
def SpellsString (s : String) (t : Bytes) : Prop :=
  ∃ u, Each SpellsChar s.toList u ∧ t = 0x22 :: u ++ [0x22]

/-! ## Numbers -/

/-- One digit or more. -/
def IsDigits (ds : Bytes) : Prop := ds ≠ [] ∧ ∀ b ∈ ds, isDigit b = true

/-- Digits that do not begin with a zero, unless they are a zero. -/
def IsWhole (ds : Bytes) : Prop := IsDigits ds ∧ (ds.head? = some 0x30 → ds = [0x30])

def minus (negative : Bool) : Bytes := if negative then [0x2D] else []

inductive SpellsFraction : Option Bytes → Bytes → Prop
  | absent : SpellsFraction none []
  | present {ds : Bytes} (digits : IsDigits ds) : SpellsFraction (some ds) (0x2E :: ds)

inductive SpellsExponent : Option (Bool × Bytes) → Bytes → Prop
  | absent : SpellsExponent none []
  | present {e : UInt8} {negative : Bool} {t ds : Bytes} (mark : e = 0x65 ∨ e = 0x45)
      (sign : t = minus negative ∨ t = [0x2B] ∧ negative = false) (digits : IsDigits ds) :
      SpellsExponent (some (negative, ds)) (e :: (t ++ ds))

/-- A number from its sign to the last digit. -/
inductive SpellsNumeral (x : Numeral) : Bytes → Prop
  | mk {f e : Bytes} (whole : IsWhole x.whole) (fraction : SpellsFraction x.fraction f)
      (exponent : SpellsExponent x.exponent e) :
      SpellsNumeral x (minus x.negative ++ (x.whole ++ (f ++ e)))

/-! ## Values -/

/-- The texts of a value that is no container. Integers of 64 bits are themselves, every other
number is the float that its numeral stands for. -/
inductive Scalar : Value → Bytes → Prop
  | null : Scalar .null (Utf8.encode "null")
  | bool (b : Bool) : Scalar (.bool b) (printBool b)
  | int {n : Int} (low : -2 ^ 63 ≤ n) (high : n < 2 ^ 64) : Scalar (.int n) (printInt n)
  | float {f : Binary64} {x : Numeral} {t : Bytes} (numeral : SpellsNumeral x t)
      (value : x.value = .ok (.float f)) : Scalar (.float f) t
  | string {s : String} {t : Bytes} (quoted : SpellsString s t) : Scalar (.string s) t

/-- A member of an object: a key, a colon and a value. -/
def Entry {α : Type} (R : α → Bytes → Prop) (m : String × α) (t : Bytes) : Prop :=
  ∃ q w w' u, SpellsString m.1 q ∧ IsBlanks w ∧ IsBlanks w' ∧ R m.2 u ∧
  t = q ++ (w ++ 0x3A :: (w' ++ u))

/-- The members that an object has, in the order of their keys: each key that occurs once, with the
last of the values that it occurs with. -/
structure Collects {α : Type} (ms collected : List (String × α)) : Prop where
  ordered : collected.Pairwise fun m n => m.1 < n.1
  last : ∀ key, member? collected key = member? ms.reverse key

/-- The texts of a value whose parts are spelled by `R`. -/
inductive Composed (R : Value → Bytes → Prop) : Value → Bytes → Prop
  | scalar {v : Value} {t : Bytes} (scalar : Scalar v t) : Composed R v t
  | list {vs : List Value} {t : Bytes} (items : Enclosed R 0x5B 0x5D vs t) :
      Composed R (.list vs) t
  | object {ms c : List (String × Value)} {t : Bytes} (items : Enclosed (Entry R) 0x7B 0x7D ms t)
      (collects : Collects ms c) : Composed R (.object c) t

/-- The texts of a value in which at most `depth` containers are nested. -/
def Spells (depth : Nat) : Value → Bytes → Prop :=
  match depth with
  | 0 => Scalar
  | depth + 1 => Composed (Spells depth)

/-- The texts that are an object with the given members, in the order in which they stand there,
with at most `depth` containers nested in each of them. -/
def Members (depth : Nat) (ms : List (String × Value)) : Bytes → Prop :=
  Padded (Enclosed (Entry (Spells depth)) 0x7B 0x7D) ms

/-- The texts that are an object which has the given members, with at most `depth` containers
nested, the object itself among them. -/
def Document (depth : Nat) (members : List (String × Value)) : Bytes → Prop :=
  Padded (Spells depth) (.object members)

theorem document_iff {depth : Nat} {c : List (String × Value)} {t : Bytes} :
    Document (depth + 1) c t ↔ ∃ ms, Members depth ms t ∧ Collects ms c := by
  constructor
  · rintro ⟨w, u, w', hw, hu, hw', rfl⟩
    cases hu with
    | scalar scalar => cases scalar
    | object items collects => exact ⟨_, ⟨w, u, w', hw, items, hw', rfl⟩, collects⟩
  · rintro ⟨ms, ⟨w, u, w', hw, hu, hw', rfl⟩, hcollects⟩
    exact ⟨w, u, w', hw, .object hu hcollects, hw', rfl⟩

/-! ## What an object has -/

section Collecting

variable {α : Type}

theorem member?_cons (m : String × α) (ms : List (String × α)) (key : String) :
    member? (m :: ms) key = if m.1 = key then some m.2 else member? ms key := by
  by_cases h : m.1 = key
  · rw [if_pos h, member?, List.find?_cons_of_pos (by simpa using h), Option.map_some]
  · rw [if_neg h, member?, List.find?_cons_of_neg (by simpa using h), member?]

/-- No two members have the same key. -/
def Distinct (ms : List (String × α)) : Prop := ms.Pairwise fun m n => m.1 ≠ n.1

theorem distinct_of_ordered {ms : List (String × α)} (h : ms.Pairwise fun m n => m.1 < n.1) :
    Distinct ms := by
  refine h.imp ?_
  intro m n hlt he
  rw [he] at hlt
  exact String.lt_irrefl _ hlt

theorem Distinct.nodup {ms : List (String × α)} (h : Distinct ms) : ms.Nodup :=
  h.imp fun hne he => hne (congrArg Prod.fst he)

theorem Distinct.reverse {ms : List (String × α)} (h : Distinct ms) : Distinct ms.reverse :=
  List.pairwise_reverse.mpr (h.imp Ne.symm)

/-- Where keys are distinct, a member is found by its key. -/
theorem Distinct.mem_iff {ms : List (String × α)} (h : Distinct ms) {key : String} {a : α} :
    (key, a) ∈ ms ↔ member? ms key = some a := by
  induction ms with
  | nil => simp [member?]
  | cons m ms ih =>
    obtain ⟨hfirst, hrest⟩ := List.pairwise_cons.mp h
    rw [member?_cons, List.mem_cons, ih hrest]
    by_cases hkey : m.1 = key
    · rw [if_pos hkey, Option.some.injEq]
      constructor
      · rintro (rfl | hmem)
        · rfl
        -- No member further on has the key of the first.
        · exact absurd hkey (hfirst _ ((ih hrest).mpr hmem))
      · rintro rfl
        exact .inl (by rw [← hkey])
    · rw [if_neg hkey]
      constructor
      · rintro (rfl | hmem)
        · exact absurd rfl hkey
        · exact hmem
      · exact .inr

theorem Collects.unique {ms c d : List (String × α)} (hc : Collects ms c) (hd : Collects ms d) :
    c = d := by
  have hdc := distinct_of_ordered hc.ordered
  have hdd := distinct_of_ordered hd.ordered
  have hperm : c.Perm d := by
    rw [List.perm_ext_iff_of_nodup hdc.nodup hdd.nodup]
    rintro ⟨key, a⟩
    rw [hdc.mem_iff, hdd.mem_iff, hc.last, hd.last]
  refine hperm.eq_of_pairwise (fun m n _ _ hmn hnm => ?_) hc.ordered hd.ordered
  exact absurd (String.lt_trans hmn hnm) (String.lt_irrefl _)

/-- Where no key is repeated, the order of the members does not matter. -/
theorem collects_of_perm {ms c : List (String × α)} (h : c.Pairwise fun m n => m.1 < n.1)
    (hperm : ms.Perm c) : Collects ms c := by
  have hdistinct := distinct_of_ordered h
  have hms : Distinct ms := (hperm.pairwise_iff Ne.symm).mpr hdistinct
  refine ⟨h, fun key => Option.ext fun a => ?_⟩
  rw [← hdistinct.mem_iff, ← hms.reverse.mem_iff, List.mem_reverse, hperm.mem_iff]

theorem compare_eq_lt {s t : String} : compare s t = .lt ↔ s < t := by
  show compareOfLessAndEq s t = .lt ↔ s < t
  rw [compareOfLessAndEq]
  split
  · simp [*]
  · split <;> simp [*]

/-- The tree of some members holds under each key what the last of them with that key has. -/
theorem getElem?_foldl_insert (ms : List (String × α)) (key : String) :
    (ms.foldl (fun (acc : Std.TreeMap String α compare) m => acc.insert m.1 m.2) ∅)[key]?
      = member? ms.reverse key := by
  induction ms using List.reverseRecOn with
  | nil => rfl
  | append_singleton ms m ih =>
    rw [List.foldl_append, List.foldl_cons, List.foldl_nil, Std.TreeMap.getElem?_insert, ih,
      List.reverse_append, List.reverse_singleton, List.singleton_append, member?_cons]
    simp only [Std.LawfulEqCmp.compare_eq_iff_eq]

/-- **What is kept of the members of an object is what the object has.** -/
theorem collects_canonical (ms : List (String × α)) : Collects ms (canonical ms) := by
  have hordered : (canonical ms).Pairwise fun m n => m.1 < n.1 :=
    Std.TreeMap.ordered_keys_toList.imp fun h => compare_eq_lt.mp h
  refine ⟨hordered, fun key => ?_⟩
  have htree : ∀ a, member? (canonical ms) key = some a ↔ member? ms.reverse key = some a := by
    intro a
    rw [← (distinct_of_ordered hordered).mem_iff, canonical,
      Std.TreeMap.mem_toList_iff_getElem?_eq_some,
      Std.TreeMap.ofList_equiv_foldl.getElem?_eq, getElem?_foldl_insert]
  exact Option.ext htree

theorem collects_iff {ms c : List (String × α)} : Collects ms c ↔ canonical ms = c := by
  constructor
  · exact (collects_canonical ms).unique
  · rintro rfl
    exact collects_canonical ms

end Collecting

end SignIn.Json
