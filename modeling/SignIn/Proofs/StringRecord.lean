import Mathlib.Data.List.Nodup
import SignIn.Json.Record
import SignIn.Proofs.JsonSkip

/-!
# Records of strings

What a record of strings reads from a text is a function of the tree of the text. Of an object it
is one of the members that the fields name, and of a list one of the elements: `gather` and `fill`
are these functions, and they never look into a value that is no string. So two objects that differ
in other members only are read alike, and a record is read exactly if every field has one member,
which is a string, or if the strings of its fields are what the list holds.
-/

namespace SignIn.Json

/-! ## One string -/

/-- The string that a tree is, or why it is none. -/
def Tree.asString (v : Tree) : Except Error String :=
  match v.front with
  | .error e => .error e
  | .ok (.string s) => .ok s
  | .ok f => .error (.wrongType f.found "a string")

theorem Tree.asString_eq_ok_iff {v : Tree} {s : String} : v.asString = .ok s ↔ v = .string s := by
  constructor
  · intro h
    cases v with
    | string t => rw [Except.ok.inj h]
    | number x =>
      rw [asString, front] at h
      cases hvalue : x.value with
      | error e =>
        rw [hvalue] at h
        cases h
      | ok n =>
        rw [hvalue] at h
        cases h
    | null => cases h
    | bool b => cases h
    | list vs => cases h
    | object ms => cases h
  · intro h
    rw [h]
    rfl

/-- **A string is read from the text of a tree that is one**, and from no other. -/
theorem stringField_tree {depth : Nat} {v : Tree} {w t r : Bytes} (hw : IsBlanks w)
    (h : Writes depth v t) (hr : Stops r) :
    stringField (w ++ (t ++ r)) = v.asString.map fun s => (s, r) := by
  obtain ⟨r', hfront, hleaf⟩ := exists_front h hr
  rw [stringField, front_append hw, hfront, Tree.asString]
  cases hv : v.front with
  | error e => rfl
  | ok f =>
    rw [hv] at hleaf
    cases f with
    | string s =>
      rw [hleaf (by simp) (by simp)]
      rfl
    | null => rfl
    | bool b => rfl
    | number n => rfl
    | list => rfl
    | object => rfl

/-! ## Records -/

/-- A field that is a string, with where a record keeps it. -/
structure StringField (α : Type) where
  key : String
  get : α → String
  set : String → α → α

variable {α : Type}

def StringField.field (f : StringField α) : Field α := .of f.key stringField f.set

/-- Each of the fields has its own key and its own place, and there is nothing else in a record. -/
structure FieldLaws (fs : List (StringField α)) : Prop where
  distinct : (fs.map StringField.key).Nodup
  get_set : ∀ {f}, f ∈ fs → ∀ s a, f.get (f.set s a) = s
  get_set_ne : ∀ {f g}, f ∈ fs → g ∈ fs → f.key ≠ g.key → ∀ s a, f.get (g.set s a) = f.get a
  ext : ∀ {a b}, (∀ f ∈ fs, f.get a = f.get b) → a = b

/-- The members with a key. -/
def called (key : String) (ms : List (String × Tree)) : List (String × Tree) :=
  ms.filter (·.1 == key)

/-- There is one member with that key, and it is that string. -/
def HasOnce (ms : List (String × Tree)) (key s : String) : Prop :=
  called key ms = [(key, .string s)]

theorem called_cons_self (key : String) (v : Tree) (ms : List (String × Tree)) :
    called key ((key, v) :: ms) = (key, v) :: called key ms :=
  List.filter_cons_of_pos (beq_self_eq_true key)

theorem called_cons_of_ne {key : String} {m : String × Tree} (h : m.1 ≠ key)
    (ms : List (String × Tree)) : called key (m :: ms) = called key ms :=
  List.filter_cons_of_neg (by simpa using h)

/-- What the fields take from the members of an object, after members with the keys in `seen` have
made `a`. -/
def gather (fs : List (StringField α)) (seen : List String) (a : α) :
    List (String × Tree) → Except Error α
  | [] =>
    match fs.find? fun f => !seen.contains f.key with
    | some f => .error (.missingField f.key)
    | none => .ok a
  | m :: ms =>
    match fs.find? (·.key == m.1) with
    | none => gather fs seen a ms
    | some f =>
      if seen.contains m.1 then .error (.duplicateField m.1)
      else match m.2.asString with
        | .error e => .error e
        | .ok s => gather fs (m.1 :: seen) (f.set s a) ms

/-- What the fields take from the elements of a list, after `count` elements have made `a`. -/
def fill (expected : String) (count : Nat) (a : α) :
    List (StringField α) → List Tree → Except Error α
  | [], [] => .ok a
  | [], _ :: _ => .error .trailingText
  | _ :: _, [] => .error (.wrongLength count expected)
  | f :: fs, v :: vs =>
    match v.asString with
    | .error e => .error e
    | .ok s => fill expected (count + 1) (f.set s a) fs vs

/-- What a record of strings is read as from a tree. -/
def Schema.ofTree (c : Schema α) (fs : List (StringField α)) (v : Tree) : Except Error α :=
  match v.front with
  | .error e => .error e
  | .ok f =>
    match v with
    | .list vs => fill c.expectedList 0 c.blank fs vs
    | .object ms => gather fs [] c.blank ms
    | _ => .error (.wrongType f.found c.expected)

/-! ## One member -/

section Members

variable {fs : List (StringField α)} {depth : Nat} {r : Bytes}

theorem find?_field (fs : List (StringField α)) (key : String) :
    (fs.map StringField.field).find? (·.key == key)
    = (fs.find? (·.key == key)).map StringField.field :=
  List.find?_map

theorem stringField_set {f : StringField α} {v : Tree} {w t : Bytes} (hw : IsBlanks w)
    (h : Writes depth v t) (hr : Stops r) :
    f.field.read (w ++ (t ++ r)) = v.asString.map fun s => (f.set s, r) := by
  rw [StringField.field, Field.of]
  dsimp only
  rw [stringField_tree hw h hr]
  cases v.asString <;> rfl

/-- What is read of a member behind the opening quote of its key. -/
theorem readMember_entry (fs : List (StringField α)) {m : String × Tree} {t : Bytes}
    (h : Entry (Writes depth) m t) (hr : Stops r) (seen : List String) :
    ∃ u, t ++ r = 0x22 :: u ∧ readMember (fs.map StringField.field) seen u =
      match fs.find? (·.key == m.1) with
      | none => .ok ((m.1, id), r)
      | some f =>
        if seen.contains m.1 then .error (.duplicateField m.1)
        else m.2.asString.map fun s => ((m.1, f.set s), r) := by
  obtain ⟨key, v⟩ := m
  obtain ⟨q, w, w', u, ⟨k, hk, rfl⟩, hw, hw', hv, rfl⟩ := h
  refine ⟨k ++ 0x22 :: (w ++ 0x3A :: (w' ++ (u ++ r))), by simp, ?_⟩
  rw [readMember, string_spelled hk]
  dsimp only
  rw [find?_field]
  cases fs.find? (·.key == key) with
  | none =>
    rw [Option.map_none]
    dsimp only
    rw [colon_append hw]
    dsimp only
    rw [skipValue_tree hw' hv hr]
  | some f =>
    rw [Option.map_some]
    dsimp only
    by_cases hseen : seen.contains key = true
    · rw [if_pos hseen, if_pos hseen]
    · rw [if_neg hseen, if_neg hseen, colon_append hw]
      dsimp only
      rw [stringField_set hw' hv hr]
      cases v.asString <;> rfl

/-! ## All members -/

theorem objectTurn_of_keyTurn {first : Bool} {s : Bytes} {x : Turn}
    (h : keyTurn first s = .ok x.reopen) : objectTurn first s = .ok x := by
  unfold keyTurn at h
  cases hturn : objectTurn first s with
  | error e =>
    rw [hturn] at h
    cases h
  | ok y =>
    rw [hturn] at h
    have hreopen : y.reopen = x.reopen := Except.ok.inj h
    cases y <;> cases x <;> cases hreopen <;> rfl

theorem any_field (fs : List (StringField α)) (key : String) :
    (fs.map StringField.field).any (·.key == key) = (fs.find? (·.key == key)).isSome := by
  rw [List.any_map, List.isSome_find?]
  rfl

variable {ms : List (String × Tree)} {t s : Bytes} {first : Bool}

/-- The closing brace: every field must have been seen. -/
theorem readMembers_end (hturn : keyTurn first s = .ok (.close r)) (fuel : Nat)
    (seen : List String) (a : α) :
    readMembers (fs.map StringField.field) (fuel + 1) first seen a s
      = (gather fs seen a []).map fun b => (b, r) := by
  have hclose : objectTurn first s = .ok (.close r) := objectTurn_of_keyTurn (x := .close r) hturn
  have hfind : (fs.map StringField.field).find? (fun f => !seen.contains f.key)
      = (fs.find? fun f => !seen.contains f.key).map StringField.field := List.find?_map
  rw [readMembers, hclose, gather]
  dsimp only
  rw [hfind]
  cases fs.find? fun f => !seen.contains f.key <;> rfl

/-- One member, if the rest is read as it should be. -/
theorem readMembers_entry {m : String × Tree} {r' : Bytes} (h : Entry (Writes depth) m t)
    (hr : Stops r) (hturn : keyTurn first s = .ok (.item (t ++ r))) {fuel : Nat}
    (hrest : ∀ seen a, readMembers (fs.map StringField.field) fuel false seen a r
      = (gather fs seen a ms).map fun b => (b, r')) (seen : List String) (a : α) :
    readMembers (fs.map StringField.field) (fuel + 1) first seen a s
      = (gather fs seen a (m :: ms)).map fun b => (b, r') := by
  obtain ⟨u, hu, hread⟩ := readMember_entry fs h hr seen
  rw [hu] at hturn
  have hitem : objectTurn first s = .ok (.item u) := objectTurn_of_keyTurn (x := .item u) hturn
  have hany := any_field fs m.1
  rw [readMembers, hitem, gather]
  dsimp only
  rw [hread]
  cases hfind : fs.find? (·.key == m.1) with
  | none =>
    rw [hfind, Option.isSome_none] at hany
    dsimp only
    rw [if_neg (Bool.eq_false_iff.mp hany)]
    exact hrest seen a
  | some f =>
    rw [hfind, Option.isSome_some] at hany
    dsimp only
    by_cases hseen : seen.contains m.1 = true
    · rw [if_pos hseen, if_pos hseen]
      rfl
    · rw [if_neg hseen, if_neg hseen]
      cases m.2.asString with
      | error e => rfl
      | ok v =>
        dsimp only [Except.map]
        rw [if_pos hany]
        exact hrest (m.1 :: seen) (f.set v a)

theorem readMembers_rest (h : Rest (Entry (Writes depth)) ms t) (r : Bytes) {fuel : Nat}
    (hfuel : t.length < fuel) (seen : List String) (a : α) :
    readMembers (fs.map StringField.field) fuel false seen a (t ++ 0x7D :: r)
      = (gather fs seen a ms).map fun b => (b, r) := by
  induction fuel generalizing ms t seen a with
  | zero => omega
  | succ fuel ih =>
    cases h with
    | close blanks => exact readMembers_end (turns_object.close blanks) fuel seen a
    | @more ms w t blanks items =>
      obtain ⟨m, ms, w', u, v, rfl, rfl, hw', hm, hrest⟩ := items.exists_rest
      simp only [List.length_append, List.length_cons] at hfuel
      have hturn : keyTurn false (w ++ 0x2C :: (w' ++ (u ++ v)) ++ 0x7D :: r)
          = .ok (.item (u ++ (v ++ 0x7D :: r))) := turns_object.next_item blanks hw' (hm.begins _)
      exact readMembers_entry hm (hrest.stops (.inr rfl) r) hturn
        (fun seen a => ih hrest (by omega) seen a) seen a

/-- **The members of an object are read as `gather` takes them.** -/
theorem readMembers_enclosed (h : Enclosed (Entry (Writes depth)) 0x7B 0x7D ms t) :
    ∃ u, t = 0x7B :: u ∧ ∀ (r : Bytes) (a : α),
      readMembers (fs.map StringField.field) ((u ++ r).length + 1) true [] a (u ++ r)
        = (gather fs [] a ms).map fun b => (b, r) := by
  cases h with
  | @empty w blanks =>
    refine ⟨w ++ [0x7D], rfl, fun r a => ?_⟩
    have hturn : keyTurn true (w ++ [0x7D] ++ r) = .ok (.close r) := by
      rw [List.append_assoc]
      exact turns_object.close blanks
    exact readMembers_end hturn _ [] a
  | @items _ t items =>
    refine ⟨t ++ [0x7D], rfl, fun r a => ?_⟩
    obtain ⟨m, ms, w, u, v, rfl, rfl, hw, hm, hrest⟩ := items.exists_rest
    have hturn : keyTurn true (w ++ (u ++ v) ++ [0x7D] ++ r)
      = .ok (.item (u ++ (v ++ 0x7D :: r))) :=
      turns_object.first_item hw (hm.begins _)
    have hroom : v.length < (w ++ (u ++ v) ++ [0x7D] ++ r).length := by
      simp only [List.length_append, List.length_cons]
      omega
    exact readMembers_entry hm (hrest.stops (.inr rfl) r) hturn
      (fun seen a => readMembers_rest hrest r hroom seen a) [] a

end Members

/-! ## All elements -/

section Elements

variable {fs : List (StringField α)} {depth : Nat} {expected : String} {vs : List Tree}
  {s t r : Bytes}

/-- A list that has more elements than fields is refused. -/
theorem closeList_rest (h : Rest (Writes depth) vs t) (r : Bytes) :
    closeList (t ++ 0x5D :: r) = if vs = [] then .ok r else .error .trailingText := by
  cases h with
  | close blanks =>
    rw [closeList, skipBlanks_append blanks, skipBlanks_cons (by decide)]
    rfl
  | @more vs w t blanks items =>
    obtain ⟨v, vs, w', u, t, rfl, rfl, hw', hv, hrest⟩ := items.exists_rest
    obtain ⟨b, u', hu, hblank, hbracket⟩ := hv.begins (t ++ 0x5D :: r)
    have hskip : skipBlanks (w' ++ (u ++ t) ++ 0x5D :: r) = b :: u' := by
      rw [List.append_assoc, skipBlanks_append hw', List.append_assoc, hu, skipBlanks_cons hblank]
    rw [List.append_assoc, closeList, skipBlanks_append blanks, List.cons_append,
      skipBlanks_cons (by decide)]
    dsimp only
    rw [hskip, if_neg (by decide), if_neg (by simpa using hbracket), if_neg (by simp)]

theorem readList_end {f : StringField α} {count : Nat}
    (hturn : listTurn (count == 0) s = .ok (.close r)) (a : α) :
    readList expected count a ((f :: fs).map StringField.field) s
      = .error (.wrongLength count expected) := by
  rw [List.map_cons, readList, hturn]

/-- One element, if the rest is read as it should be. -/
theorem readList_item {f : StringField α} {v : Tree} {r' : Bytes} {count : Nat}
    (h : Writes depth v t) (hr : Stops r) (hturn : listTurn (count == 0) s = .ok (.item (t ++ r)))
    (hrest : ∀ a, readList expected (count + 1) a (fs.map StringField.field) r
      = (fill expected (count + 1) a fs vs).map fun b => (b, r')) (a : α) :
    readList expected count a ((f :: fs).map StringField.field) s
      = (fill expected count a (f :: fs) (v :: vs)).map fun b => (b, r') := by
  have hread : f.field.read (t ++ r) = v.asString.map fun s => (f.set s, r) :=
    stringField_set isBlanks_nil h hr
  rw [List.map_cons, readList, hturn, fill]
  dsimp only
  rw [hread]
  cases v.asString with
  | error e => rfl
  | ok s => exact hrest (f.set s a)

theorem readList_rest (h : Rest (Writes depth) vs t) (r : Bytes) (count : Nat) (a : α) :
    readList expected (count + 1) a (fs.map StringField.field) (t ++ 0x5D :: r)
      = (fill expected (count + 1) a fs vs).map fun b => (b, r) := by
  induction fs generalizing vs t count a with
  | nil =>
    rw [List.map_nil, readList, closeList_rest h]
    cases vs <;> rfl
  | cons f fs ih =>
    cases h with
    | close blanks => exact readList_end (turns_list.close blanks) a
    | @more vs w t blanks items =>
      obtain ⟨v, vs, w', u, t, rfl, rfl, hw', hv, hrest⟩ := items.exists_rest
      have hnext : (count + 1 == 0) = false := beq_false_of_ne (Nat.succ_ne_zero count)
      have hturn : listTurn (count + 1 == 0) (w ++ 0x2C :: (w' ++ (u ++ t)) ++ 0x5D :: r)
          = .ok (.item (u ++ (t ++ 0x5D :: r))) := by
        rw [hnext]
        exact turns_list.next_item blanks hw' (hv.begins _)
      exact readList_item hv (hrest.stops (.inl rfl) r) hturn
        (fun a => ih hrest (count + 1) a) a

/-- **The elements of a list are read as `fill` takes them.** -/
theorem readList_enclosed (hne : fs ≠ []) (h : Enclosed (Writes depth) 0x5B 0x5D vs t) :
    ∃ u, t = 0x5B :: u ∧ ∀ (r : Bytes) (a : α),
      readList expected 0 a (fs.map StringField.field) (u ++ r)
        = (fill expected 0 a fs vs).map fun b => (b, r) := by
  obtain ⟨f, fs, rfl⟩ := List.exists_cons_of_ne_nil hne
  cases h with
  | @empty w blanks =>
    refine ⟨w ++ [0x5D], rfl, fun r a => ?_⟩
    rw [List.append_assoc]
    exact readList_end (turns_list.close blanks) a
  | @items _ t items =>
    refine ⟨t ++ [0x5D], rfl, fun r a => ?_⟩
    obtain ⟨v, vs, w, u, t, rfl, rfl, hw, hv, hrest⟩ := items.exists_rest
    have hturn : listTurn (0 == 0) (w ++ (u ++ t) ++ [0x5D] ++ r)
        = .ok (.item (u ++ (t ++ 0x5D :: r))) := turns_list.first_item hw (hv.begins _)
    exact readList_item hv (hrest.stops (.inl rfl) r) hturn
      (fun a => readList_rest hrest r 0 a) a

end Elements

/-! ## The whole text -/

section Texts

variable {c : Schema α} {fs : List (StringField α)} {v : Tree} {s : Bytes}

theorem Schema.read_tree (hfields : c.fields = fs.map StringField.field)
    (hne : fs ≠ []) {depth : Nat}
    {w t r : Bytes} (hw : IsBlanks w) (h : Writes depth v t) (hr : Stops r) :
    c.read (w ++ (t ++ r)) = (c.ofTree fs v).map fun a => (a, r) := by
  have hleaf : Leaf v t → c.read (w ++ (t ++ r)) = (c.ofTree fs v).map fun a => (a, r) := by
    intro hv
    rw [Schema.read, front_append hw, front_leaf hv hr, ofTree]
    cases hv with
    | null => rfl
    | bool b => rfl
    | @number x _ numeral =>
      rw [Tree.front]
      cases x.value <;> rfl
    | string quoted => rfl
  cases depth with
  | zero => exact hleaf h
  | succ depth =>
    cases h with
    | leaf leaf => exact hleaf leaf
    | list items =>
      obtain ⟨u, rfl, hread⟩ := readList_enclosed hne items
      have hfront : front (0x5B :: u ++ r) = .ok (.list, u ++ r) := rfl
      rw [Schema.read, front_append hw, hfront, hfields]
      exact hread r c.blank
    | object items =>
      obtain ⟨u, rfl, hread⟩ := readMembers_enclosed items
      have hfront : front (0x7B :: u ++ r) = .ok (.object, u ++ r) := rfl
      rw [Schema.read, front_append hw, hfront, hfields]
      exact hread r c.blank

/-- **Reading a record of strings is a function of the tree of the text.** -/
theorem Schema.parse_eq (hfields : c.fields = fs.map StringField.field) (hne : fs ≠ [])
    (h : TextOf v s) : c.parse s = c.ofTree fs v := by
  obtain ⟨depth, w, t, w', hw, ht, hw', rfl⟩ := h
  have hnil : Stops [] := fun b hb => by cases hb
  have hstops : Stops w' := by
    have := hw'.stops hnil
    rwa [List.append_nil] at this
  have hend : (skipBlanks w').isEmpty = true := by
    rw [skipBlanks_eq_nil_iff.mpr hw']
    rfl
  rw [parse, Reader.whole, List.append_assoc, c.read_tree hfields hne hw ht hstops]
  cases c.ofTree fs v with
  | error e => rfl
  | ok a => exact if_pos hend

end Texts

/-! ## When a record is read -/

section Outcome

variable {fs : List (StringField α)} {seen : List String} {a b : α} {ms : List (String × Tree)}

/-- What the members still to come make of a field, if they lead from `a` to `b`. -/
def Settles (seen : List String) (a b : α) (ms : List (String × Tree))
    (f : StringField α) : Prop :=
  if f.key ∈ seen then called f.key ms = [] ∧ f.get b = f.get a else HasOnce ms f.key (f.get b)

theorem gather_nil (fs : List (StringField α)) (hall : ∀ f ∈ fs, f.key ∈ seen) (a : α) :
    gather fs seen a [] = .ok a := by
  have hnone : fs.find? (fun f => !seen.contains f.key) = none := by
    rw [List.find?_eq_none]
    intro f hf
    simpa using hall f hf
  rw [gather, hnone]

theorem gather_missing {f : StringField α} (hf : f ∈ fs) (hmissing : f.key ∉ seen) (a : α) :
    ∃ e, gather fs seen a [] = .error e := by
  cases hfind : fs.find? fun f => !seen.contains f.key with
  | none =>
    rw [List.find?_eq_none] at hfind
    exact absurd (hfind f hf) (by simpa using hmissing)
  | some g => exact ⟨.missingField g.key, by rw [gather, hfind]⟩

/-- A member that no field names settles nothing. -/
theorem settles_other {m : String × Tree} {f : StringField α} (h : m.1 ≠ f.key) :
    Settles seen a b (m :: ms) f ↔ Settles seen a b ms f := by
  rw [Settles, Settles, HasOnce, HasOnce, called_cons_of_ne h]

/-- Where a member sets its field, the fields are settled before it as they are behind it. -/
theorem settles_set (hfs : FieldLaws fs) {f g : StringField α} (hf : f ∈ fs) (hg : g ∈ fs)
    (hnew : g.key ∉ seen) (s : String) :
    Settles seen a b ((g.key, .string s) :: ms) f ↔
    Settles (g.key :: seen) (g.set s a) b ms f := by
  by_cases hkey : f.key = g.key
  · obtain rfl := List.inj_on_of_nodup_map hfs.distinct hf hg hkey
    rw [Settles, if_neg hnew, HasOnce, called_cons_self, Settles, if_pos List.mem_cons_self,
      hfs.get_set hf]
    constructor
    · intro h
      obtain ⟨hmember, hrest⟩ := List.cons.inj h
      obtain ⟨-, hstring⟩ := Prod.mk.inj hmember
      exact ⟨hrest, (Tree.string.inj hstring).symm⟩
    · intro h
      obtain ⟨hrest, hget⟩ := h
      rw [hrest, hget]
  · have hseen : f.key ∈ g.key :: seen ↔ f.key ∈ seen := by
      rw [List.mem_cons]
      exact or_iff_right hkey
    rw [settles_other (fun h => hkey h.symm)]
    unfold Settles
    rw [hfs.get_set_ne hf hg hkey, if_congr hseen rfl rfl]

/-- **Members are taken exactly if they settle every field.** -/
theorem gather_eq_ok_iff (hfs : FieldLaws fs) :
    gather fs seen a ms = .ok b ↔ ∀ f ∈ fs, Settles seen a b ms f := by
  induction ms generalizing seen a with
  | nil =>
    by_cases hall : ∀ f ∈ fs, f.key ∈ seen
    · rw [gather_nil fs hall]
      constructor
      · intro h f hf
        rw [Settles, if_pos (hall f hf), Except.ok.inj h]
        exact ⟨rfl, rfl⟩
      · intro h
        refine congrArg Except.ok (hfs.ext fun f hf => ?_)
        have hf' := h f hf
        rw [Settles, if_pos (hall f hf)] at hf'
        exact hf'.2.symm
    · obtain ⟨f, hf, hmissing⟩ : ∃ f ∈ fs, f.key ∉ seen := by simpa using hall
      obtain ⟨e, he⟩ := gather_missing hf hmissing a
      rw [he]
      constructor
      · intro h
        cases h
      · intro h
        have hf' := h f hf
        rw [Settles, if_neg hmissing] at hf'
        cases hf'
  | cons m ms ih =>
    cases hfind : fs.find? (·.key == m.1) with
    | none =>
      have hother : ∀ f ∈ fs, m.1 ≠ f.key := by
        rw [List.find?_eq_none] at hfind
        intro f hf he
        exact hfind f hf (by simpa using he.symm)
      rw [gather, hfind]
      dsimp only
      rw [ih]
      exact forall₂_congr fun f hf => (settles_other (hother f hf)).symm
    | some g =>
      have hg : g ∈ fs := List.mem_of_find?_eq_some hfind
      have hkey : g.key = m.1 := by simpa using List.find?_some hfind
      obtain ⟨key, v⟩ := m
      obtain rfl : g.key = key := hkey
      rw [gather, hfind]
      dsimp only
      by_cases hseen : g.key ∈ seen
      · -- The key is repeated, so the field could only be settled if no member had it.
        rw [if_pos (by simpa using hseen)]
        constructor
        · intro h
          cases h
        · intro h
          have hg' := h g hg
          rw [Settles, if_pos hseen, called_cons_self] at hg'
          cases hg'.1
      · rw [if_neg (by simpa using hseen)]
        cases hv : v.asString with
        | ok s =>
          obtain rfl := Tree.asString_eq_ok_iff.mp hv
          dsimp only
          rw [ih]
          exact forall₂_congr fun f hf => (settles_set hfs hf hg hseen s).symm
        | error e =>
          constructor
          · intro h
            cases h
          · intro h
            have hg' := h g hg
            rw [Settles, if_neg hseen, HasOnce, called_cons_self] at hg'
            obtain ⟨hmember, -⟩ := List.cons.inj hg'
            obtain ⟨-, rfl⟩ := Prod.mk.inj hmember
            cases hv

/-- **Elements are taken exactly if they are the strings of the fields.** -/
theorem fill_eq_ok_iff {expected : String} {count : Nat} {before : List (StringField α)}
    (hfs : FieldLaws (before ++ fs)) {vs : List Tree} :
    fill expected count a fs vs = .ok b ↔
      vs = fs.map (fun f => .string (f.get b)) ∧ ∀ f ∈ before, f.get b = f.get a := by
  induction fs generalizing before vs count a with
  | nil =>
    cases vs with
    | nil =>
      constructor
      · intro h
        rw [Except.ok.inj h]
        exact ⟨rfl, fun _ _ => rfl⟩
      · intro h
        refine congrArg Except.ok (hfs.ext fun f hf => ?_)
        rw [List.append_nil] at hf
        exact (h.2 f hf).symm
    | cons v vs =>
      constructor
      · intro h
        cases h
      · intro h
        cases h.1
  | cons f fs ih =>
    have hf : f ∈ before ++ f :: fs := List.mem_append_right _ List.mem_cons_self
    cases vs with
    | nil =>
      constructor
      · intro h
        cases h
      · intro h
        cases h.1
    | cons v vs =>
      rw [fill]
      cases hv : v.asString with
      | error e =>
        constructor
        · intro h
          cases h
        · intro h
          obtain ⟨rfl, -⟩ := List.cons.inj h.1
          cases hv
      | ok s =>
        obtain rfl := Tree.asString_eq_ok_iff.mp hv
        have hassoc : before ++ f :: fs = (before ++ [f]) ++ fs := by simp
        have hkept : ∀ g ∈ before, g.get (f.set s a) = g.get a := by
          intro g hg
          have hdistinct := hfs.distinct
          rw [List.map_append, List.nodup_append] at hdistinct
          have hkey : g.key ≠ f.key :=
            hdistinct.2.2 g.key (List.mem_map_of_mem hg) f.key (by simp)
          exact hfs.get_set_ne (List.mem_append_left _ hg) hf hkey s a
        dsimp only
        rw [hassoc] at hfs
        rw [ih hfs]
        constructor
        · intro h
          obtain ⟨hvs, hbefore⟩ := h
          have hset : f.get b = s := (hbefore f (by simp)).trans (hfs.get_set (by simp) s a)
          refine ⟨by rw [hvs, List.map_cons, hset], fun g hg => ?_⟩
          rw [hbefore g (List.mem_append_left _ hg), hkept g hg]
        · intro h
          obtain ⟨hvs, hbefore⟩ := h
          obtain ⟨hstring, hrest⟩ := List.cons.inj hvs
          refine ⟨hrest, fun g hg => ?_⟩
          rcases List.mem_append.mp hg with hg | hg
          · rw [hbefore g hg, hkept g hg]
          · obtain rfl := List.mem_singleton.mp hg
            rw [hfs.get_set (by simp)]
            exact (Tree.string.inj hstring).symm

/-- A field has the key of the member. -/
def names (fs : List (StringField α)) (m : String × Tree) : Bool := fs.any (·.key == m.1)

/-- Members that no field names are passed over. -/
theorem gather_filter (fs : List (StringField α)) (seen : List String) (a : α)
    (ms : List (String × Tree)) : gather fs seen a (ms.filter (names fs))
    = gather fs seen a ms := by
  induction ms generalizing seen a with
  | nil => rfl
  | cons m ms ih =>
    have hany : names fs m = (fs.find? (·.key == m.1)).isSome := List.isSome_find?.symm
    cases hfind : fs.find? (·.key == m.1) with
    | none =>
      rw [hfind, Option.isSome_none] at hany
      rw [List.filter_cons_of_neg (Bool.eq_false_iff.mp hany), ih, gather, hfind]
    | some f =>
      rw [hfind, Option.isSome_some] at hany
      rw [List.filter_cons_of_pos hany, gather, gather, hfind]
      dsimp only
      simp only [ih]

/-- A tree that is no container is no record. -/
theorem Schema.ofTree_scalar (c : Schema α) (fs : List (StringField α)) {v : Tree}
    (hobject : ∀ ms, v ≠ .object ms) (hlist : ∀ vs, v ≠ .list vs) :
    ∃ e, c.ofTree fs v = .error e := by
  cases v with
  | object ms => exact absurd rfl (hobject ms)
  | list vs => exact absurd rfl (hlist vs)
  | null => exact ⟨_, rfl⟩
  | bool b => exact ⟨_, rfl⟩
  | string s => exact ⟨_, rfl⟩
  | number x =>
    rw [ofTree, Tree.front]
    cases x.value with
    | error e => exact ⟨e, rfl⟩
    | ok n => exact ⟨_, rfl⟩

theorem Schema.ofTree_eq_ok_iff {c : Schema α} (hfs : FieldLaws fs) {v : Tree} :
    c.ofTree fs v = .ok a ↔
      (∃ ms, v = .object ms ∧ ∀ f ∈ fs, HasOnce ms f.key (f.get a)) ∨
      v = .list (fs.map fun f => .string (f.get a)) := by
  by_cases hobject : ∃ ms, v = .object ms
  · obtain ⟨ms, rfl⟩ := hobject
    have hgather : c.ofTree fs (.object ms) = gather fs [] c.blank ms := rfl
    rw [hgather, gather_eq_ok_iff hfs]
    constructor
    · intro h
      refine .inl ⟨ms, rfl, fun f hf => ?_⟩
      have hf' := h f hf
      rwa [Settles, if_neg List.not_mem_nil] at hf'
    · intro h f hf
      rcases h with ⟨ms', hms, hall⟩ | hvs
      · rw [Settles, if_neg List.not_mem_nil, Tree.object.inj hms]
        exact hall f hf
      · cases hvs
  by_cases hlist : ∃ vs, v = .list vs
  · obtain ⟨vs, rfl⟩ := hlist
    have hfill : c.ofTree fs (.list vs) = fill c.expectedList 0 c.blank fs vs := rfl
    have hall : FieldLaws ([] ++ fs) := hfs
    rw [hfill, fill_eq_ok_iff hall]
    constructor
    · intro h
      rw [h.1]
      exact .inr rfl
    · intro h
      rcases h with ⟨ms, hms, -⟩ | hvs
      · cases hms
      · exact ⟨Tree.list.inj hvs, fun f hf => absurd hf List.not_mem_nil⟩
  · obtain ⟨e, he⟩ := c.ofTree_scalar fs (not_exists.mp hobject) (not_exists.mp hlist)
    rw [he]
    constructor
    · intro h
      cases h
    · intro h
      rcases h with ⟨ms, hms, -⟩ | hvs
      · exact absurd ⟨ms, hms⟩ hobject
      · exact absurd ⟨_, hvs⟩ hlist

end Outcome

section Texts

variable {c : Schema α} {fs : List (StringField α)} {ms ms' : List (String × Tree)} {s s' : Bytes}

/-- **When a record of strings is read**, and which one it is. -/
theorem Schema.parse_eq_ok_iff (hfields : c.fields = fs.map StringField.field) (hne : fs ≠ [])
    (hfs : FieldLaws fs) {v : Tree} (h : TextOf v s) {a : α} :
    c.parse s = .ok a ↔
      (∃ ms, v = .object ms ∧ ∀ f ∈ fs, HasOnce ms f.key (f.get a)) ∨
      v = .list (fs.map fun f => .string (f.get a)) := by
  rw [parse_eq hfields hne h, ofTree_eq_ok_iff hfs]

/-- **Objects that differ in other members only are read alike**, errors included. -/
theorem Schema.parse_congr (hfields : c.fields = fs.map StringField.field) (hne : fs ≠ [])
    (h : TextOf (.object ms) s) (h' : TextOf (.object ms') s')
    (heq : ms.filter (names fs) = ms'.filter (names fs)) : c.parse s = c.parse s' := by
  rw [parse_eq hfields hne h, parse_eq hfields hne h']
  show gather fs [] c.blank ms = gather fs [] c.blank ms'
  rw [← gather_filter, heq, gather_filter]

/-- **A key that is repeated is an error**, whichever of its values come first or last. -/
theorem Schema.parse_repeated (hfields : c.fields = fs.map StringField.field) (hfs : FieldLaws fs)
    (h : TextOf (.object ms) s) {f : StringField α} (hf : f ∈ fs)
    (hrepeated : 1 < (called f.key ms).length) : ∃ e, c.parse s = .error e := by
  have hne : fs ≠ [] := List.ne_nil_of_mem hf
  cases hparse : c.parse s with
  | error e => exact ⟨e, rfl⟩
  | ok a =>
    rcases (parse_eq_ok_iff hfields hne hfs h).mp hparse with ⟨ms', hms, hall⟩ | hvs
    · have honce := hall f hf
      rw [← Tree.object.inj hms, HasOnce] at honce
      rw [honce] at hrepeated
      exact absurd hrepeated (Nat.lt_irrefl 1)
    · cases hvs

end Texts

end SignIn.Json
