import SignIn.Proofs.JsonScalar

/-!
# Printed records are read back

A record is printed as an object whose members stand in the order of its fields. Reading it back
takes the members one by one: each key names a field that has not been seen yet, and what the field
reads from its value is what was printed. `Member` packs a field with a value that it reads, so
that the induction over the members needs nothing of what the fields are.
-/

namespace SignIn.Json

variable {α : Type}

/-- A field together with a printed value and what reading that value sets. -/
structure Member (α : Type) where
  field : Field α
  value : Bytes
  set : α → α
  reads : ∀ r, Closes r → field.read (value ++ r) = .ok (set, r)

namespace Member

/-- The key of a member. -/
def key (m : Member α) : String := m.field.key

/-- The member of a field that is read by `r` and set by `s`. -/
def of {β : Type} (k : String) (r : Reader β) (s : β → α → α) (v : Bytes) (b : β)
    (h : ∀ t, Closes t → r (v ++ t) = .ok (b, t)) : Member α where
  field := .of k r s
  value := v
  set := s b
  reads := by
    intro t ht
    show (match r (v ++ t) with
      | .ok (b, s') => Except.ok (s b, s')
      | .error e => .error e) = _
    rw [h t ht]

/-- The text of a member. -/
def bytes (m : Member α) : Bytes := printString m.key ++ 0x3A :: m.value

/-- The text of the members after the first, and of what closes the object. -/
def tail (ms : List (Member α)) (r : Bytes) : Bytes :=
  ms.flatMap (fun m => 0x2C :: m.bytes) ++ 0x7D :: r

theorem closes_tail (ms : List (Member α)) (r : Bytes) : Closes (tail ms r) := by
  cases ms with
  | nil => exact closes_brace r
  | cons m ms =>
    rw [tail, List.flatMap_cons, List.append_assoc]
    exact closes_comma _

theorem tail_cons (m : Member α) (ms : List (Member α)) (r : Bytes) :
    tail (m :: ms) r = 0x2C :: (m.bytes ++ tail ms r) := by
  simp [tail]

theorem bytes_append (m : Member α) (r : Bytes) :
    m.bytes ++ r = 0x22 :: (m.key.toList.flatMap printChar ++ 0x22 :: 0x3A :: (m.value ++ r)) := by
  simp [bytes, printString]

end Member

/-! ## One member -/

theorem find?_key {fields : List (Field α)} (hnd : (fields.map Field.key).Nodup) {f : Field α}
    (hf : f ∈ fields) : fields.find? (·.key == f.key) = some f := by
  induction fields with
  | nil => cases hf
  | cons g fields ih =>
    rw [List.map_cons, List.nodup_cons] at hnd
    rcases List.mem_cons.mp hf with rfl | hmem
    · simp
    · have hne : g.key ≠ f.key := fun he => hnd.1 (he ▸ List.mem_map_of_mem hmem)
      rw [List.find?_cons_of_neg (by simpa using hne)]
      exact ih hnd.2 hmem

theorem readMember_printed {fields : List (Field α)} (hnd : (fields.map Field.key).Nodup)
    {m : Member α} (hm : m.field ∈ fields) {seen : List String} (hs : m.key ∉ seen) {r : Bytes}
    (hr : Closes r) :
    readMember fields seen
        (m.key.toList.flatMap printChar ++ 0x22 :: 0x3A :: (m.value ++ r))
      = .ok ((m.key, m.set), r) := by
  have hfind : fields.find? (·.key == m.key) = some m.field := find?_key hnd hm
  have hseen : ¬seen.contains m.key = true := by simpa using hs
  have hcolon : colon (0x3A :: (m.value ++ r)) = .ok (m.value ++ r) := rfl
  rw [readMember, string_printed]
  dsimp only
  rw [hfind]
  dsimp only
  rw [if_neg hseen, hcolon]
  dsimp only
  rw [m.reads r hr]

theorem objectTurn_first (m : Member α) (r : Bytes) :
    objectTurn true (m.bytes ++ r)
      = .ok (.item (m.key.toList.flatMap printChar ++ 0x22 :: 0x3A :: (m.value ++ r))) := by
  rw [m.bytes_append]
  rfl

theorem objectTurn_next (m : Member α) (r : Bytes) :
    objectTurn false (0x2C :: (m.bytes ++ r))
      = .ok (.item (m.key.toList.flatMap printChar ++ 0x22 :: 0x3A :: (m.value ++ r))) := by
  rw [m.bytes_append]
  rfl

/-! ## All members -/

section Members

variable {fields : List (Field α)} {seen : List String} {r : Bytes}

/-- One turn of the reader, whichever way it came to the member. -/
theorem readMembers_step (hnd : (fields.map Field.key).Nodup) {m : Member α}
    (hm : m.field ∈ fields) (hs : m.key ∉ seen) (hr : Closes r) {first : Bool} {s : Bytes}
    (hturn : objectTurn first s
      = .ok (.item (m.key.toList.flatMap printChar ++ 0x22 :: 0x3A :: (m.value ++ r))))
    (fuel : Nat) (a : α) :
    readMembers fields (fuel + 1) first seen a s
      = readMembers fields fuel false (m.key :: seen) (m.set a) r := by
  have hany : (fields.any fun f => f.key == m.key) = true :=
    List.any_eq_true.mpr ⟨m.field, hm, beq_self_eq_true _⟩
  rw [readMembers, hturn]
  dsimp only
  rw [readMember_printed hnd hm hs hr]
  dsimp only
  rw [if_pos hany]

/-- The closing brace, when every field has been seen. -/
theorem readMembers_close (hall : ∀ f ∈ fields, f.key ∈ seen) (fuel : Nat) (a : α) :
    readMembers fields (fuel + 1) false seen a (0x7D :: r) = .ok (a, r) := by
  have hnone : fields.find? (fun f => !seen.contains f.key) = none := by
    rw [List.find?_eq_none]
    intro f hf
    simpa using hall f hf
  have hturn : objectTurn false (0x7D :: r) = .ok (.close r) := rfl
  rw [readMembers, hturn]
  dsimp only
  rw [hnone]

/-- The members still to come set their fields one after the other. -/
theorem readMembers_tail (hnd : (fields.map Field.key).Nodup) {ms : List (Member α)}
    (hms : ∀ m ∈ ms, m.field ∈ fields) (hkeys : (ms.map Member.key).Nodup)
    (hnew : ∀ m ∈ ms, m.key ∉ seen)
    (hall : ∀ f ∈ fields, f.key ∈ seen ∨ f.key ∈ ms.map Member.key)
    {fuel : Nat} (hfuel : ms.length < fuel) (a : α) :
    readMembers fields fuel false seen a (Member.tail ms r)
      = .ok (ms.foldl (fun a m => m.set a) a, r) := by
  -- Every turn adds a key to those that were seen, so the fields that are still owed become fewer.
  induction ms generalizing seen fuel a with
  | nil =>
    obtain ⟨fuel, rfl⟩ : ∃ n, fuel = n + 1 := ⟨fuel - 1, by simp at hfuel; omega⟩
    exact readMembers_close (fun f hf => (hall f hf).resolve_right (by simp)) fuel a
  | cons m ms ih =>
    obtain ⟨fuel, rfl⟩ : ∃ n, fuel = n + 1 := ⟨fuel - 1, by simp at hfuel; omega⟩
    rw [List.map_cons, List.nodup_cons] at hkeys
    rw [Member.tail_cons, readMembers_step hnd (hms m (by simp)) (hnew m (by simp))
      (Member.closes_tail ms r) (objectTurn_next m _)]
    refine ih (fun x hx => hms x (by simp [hx])) hkeys.2 ?_ ?_ (by simpa using hfuel) _
    · intro x hx hmem
      rcases List.mem_cons.mp hmem with he | hmem
      · exact hkeys.1 (he ▸ List.mem_map_of_mem hx)
      · exact hnew x (by simp [hx]) hmem
    · intro f hf
      rcases hall f hf with h | h
      · exact .inl (List.mem_cons_of_mem _ h)
      · rcases List.mem_cons.mp h with he | h
        · exact .inl (he ▸ List.mem_cons_self)
        · exact .inr h

end Members

/-! ## The object -/

/-- What is printed for an object's members. -/
def Member.entry (m : Member α) : String × Bytes := (m.key, m.value)

theorem printMembers_eq (m : Member α) (ms : List (Member α)) (r : Bytes) :
    printMembers ((m :: ms).map Member.entry) ++ 0x7D :: r = m.bytes ++ Member.tail ms r := by
  induction ms generalizing m with
  | nil => simp [printMembers, Member.entry, Member.bytes, Member.tail]
  | cons n ms ih =>
    have hn := ih n
    rw [List.map_cons] at hn
    rw [List.map_cons, List.map_cons, Member.tail_cons, ← hn]
    simp [printMembers, Member.entry, Member.bytes]

theorem length_tail (ms : List (Member α)) (r : Bytes) :
    ms.length < (Member.tail ms r).length := by
  induction ms with
  | nil => simp [Member.tail]
  | cons m ms ih =>
    rw [Member.tail_cons]
    simp only [List.length_cons, List.length_append]
    omega

/-- **A printed record is read back**, whatever follows it. -/
theorem Schema.read_printObject (c : Schema α) (ms : List (Member α)) (hne : ms ≠ [])
    (hfields : c.fields = ms.map Member.field) (hnd : (c.fields.map Field.key).Nodup)
    (r : Bytes) :
    c.read (printObject (ms.map Member.entry) ++ r)
      = .ok (ms.foldl (fun a m => m.set a) c.blank, r) := by
  obtain ⟨m, ms, rfl⟩ := List.exists_cons_of_ne_nil hne
  have hkeys : ((m :: ms).map Member.key).Nodup := by
    rw [hfields, List.map_map] at hnd
    exact hnd
  have hmem : ∀ x ∈ m :: ms, x.field ∈ c.fields := by
    intro x hx
    rw [hfields]
    exact List.mem_map_of_mem hx
  have hobj : printObject ((m :: ms).map Member.entry) ++ r
      = 0x7B :: (m.bytes ++ Member.tail ms r) := by
    rw [← printMembers_eq]
    simp [printObject]
  have hfront : front (0x7B :: (m.bytes ++ Member.tail ms r))
      = .ok (.object, m.bytes ++ Member.tail ms r) := rfl
  rw [hobj, Schema.read, hfront]
  dsimp only
  -- No comma stands before the first member, so its turn is not one of `readMembers_tail`.
  rw [readMembers_step hnd (hmem m (by simp)) (by simp) (Member.closes_tail ms r)
    (objectTurn_first m _)]
  rw [List.map_cons, List.nodup_cons] at hkeys
  refine readMembers_tail hnd (fun x hx => hmem x (by simp [hx])) hkeys.2 ?_ ?_ ?_ _
  · intro x hx hs
    rw [List.mem_singleton] at hs
    exact hkeys.1 (hs ▸ List.mem_map_of_mem hx)
  · intro f hf
    rw [hfields] at hf
    obtain ⟨x, hx, rfl⟩ := List.mem_map.mp hf
    rcases List.mem_cons.mp hx with rfl | hx
    · exact .inl (by simp [Member.key])
    · exact .inr (List.mem_map_of_mem (f := Member.key) hx)
  · have := length_tail ms r
    rw [List.length_append]
    omega

end SignIn.Json
