import SignIn.Proofs.JsonReading

/-!
# The tree of a text

What a text says as JSON before anything is made of it: numbers as they are spelled, however large
they are, and members of objects in the order in which they stand there and as often as they do.
Containers may be nested to any depth. The texts of a tree are all that the grammar allows; a
string has only those that stand for characters, so a surrogate that is escaped on its own is in no
text of any tree.
-/

namespace SignIn.Json

inductive Tree where
  | null
  | bool (b : Bool)
  | number (x : Numeral)
  | string (s : String)
  | list (items : List Tree)
  /-- The members as they stand in the text. -/
  | object (members : List (String × Tree))

/-- The texts of a tree that is no container. -/
inductive Leaf : Tree → Bytes → Prop
  | null : Leaf .null (Utf8.encode "null")
  | bool (b : Bool) : Leaf (.bool b) (printBool b)
  | number {x : Numeral} {t : Bytes} (numeral : SpellsNumeral x t) : Leaf (.number x) t
  | string {s : String} {t : Bytes} (quoted : SpellsString s t) : Leaf (.string s) t

/-- The texts of a tree whose parts are written by `R`. -/
inductive Branch (R : Tree → Bytes → Prop) : Tree → Bytes → Prop
  | leaf {v : Tree} {t : Bytes} (leaf : Leaf v t) : Branch R v t
  | list {vs : List Tree} {t : Bytes} (items : Enclosed R 0x5B 0x5D vs t) : Branch R (.list vs) t
  | object {ms : List (String × Tree)} {t : Bytes} (items : Enclosed (Entry R) 0x7B 0x7D ms t) :
      Branch R (.object ms) t

/-- The texts of a tree in which at most `depth` containers are nested, without blanks
around it. -/
def Writes (depth : Nat) : Tree → Bytes → Prop :=
  match depth with
  | 0 => Leaf
  | depth + 1 => Branch (Writes depth)

/-- The text is one of the tree. -/
def TextOf (v : Tree) (s : Bytes) : Prop := ∃ depth, Padded (Writes depth) v s

/-! ## How a tree begins -/

/-- What is found at the front of a tree. A number may be too large to have a value. -/
def Tree.front : Tree → Except Error Front
  | .null => .ok .null
  | .bool b => .ok (.bool b)
  | .number x => x.value.map .number
  | .string s => .ok (.string s)
  | .list _ => .ok .list
  | .object _ => .ok .object

theorem Leaf.begins {v : Tree} {t : Bytes} (h : Leaf v t) (r : Bytes) : BeginsValue (t ++ r) := by
  cases h with
  | null => exact ⟨0x6E, _, rfl, by decide, by decide⟩
  | bool b => exact begins_printBool b r
  | number numeral => exact numeral.begins r
  | string quoted => exact quoted.begins r

theorem Writes.begins {depth : Nat} {v : Tree} {t : Bytes} (h : Writes depth v t) (r : Bytes) :
    BeginsValue (t ++ r) := by
  cases depth with
  | zero => exact Leaf.begins h r
  | succ depth =>
    cases h with
    | leaf leaf => exact leaf.begins r
    | list items => exact items.begins (.inl rfl) r
    | object items => exact items.begins (.inr rfl) r

/-- **A leaf is read from whatever writes it**, before what cannot extend it. -/
theorem front_leaf {v : Tree} {t r : Bytes} (h : Leaf v t) (hr : Stops r) :
    front (t ++ r) = v.front.map fun f => (f, r) := by
  cases h with
  | null => rfl
  | bool b => cases b <;> rfl
  | @number x t numeral =>
    rw [front_numeral_map numeral hr, Tree.front]
    cases x.value <;> rfl
  | string quoted => exact front_spelled quoted r

/-- Of any tree its front is found; what is left behind it is what follows the tree, if that is no
container. -/
theorem exists_front {depth : Nat} {v : Tree} {t r : Bytes} (h : Writes depth v t) (hr : Stops r) :
    ∃ r', front (t ++ r) = (v.front.map fun f => (f, r')) ∧
      (v.front ≠ .ok .list → v.front ≠ .ok .object → r' = r) := by
  have hleaf : Leaf v t → ∃ r', front (t ++ r) = (v.front.map fun f => (f, r')) ∧
      (v.front ≠ .ok .list → v.front ≠ .ok .object → r' = r) :=
    fun hv => ⟨r, front_leaf hv hr, fun _ _ => rfl⟩
  cases depth with
  | zero => exact hleaf h
  | succ depth =>
    cases h with
    | leaf leaf => exact hleaf leaf
    | list items =>
      obtain ⟨u, rfl⟩ := items.exists_cons
      exact ⟨u ++ r, rfl, fun hlist => absurd rfl hlist⟩
    | object items =>
      obtain ⟨u, rfl⟩ := items.exists_cons
      exact ⟨u ++ r, rfl, fun _ hobject => absurd rfl hobject⟩

/-! ## Every text has a tree -/

section Lifting

variable {α β : Type} {R : α → Bytes → Prop} {S : β → Bytes → Prop} {as : List α} {t : Bytes}

theorem exists_separated (hitem : ∀ a t, R a t → ∃ b, S b t) (h : Separated (Padded R) as t) :
    ∃ bs, Separated (Padded S) bs t := by
  have hpadded : ∀ {a t}, Padded R a t → ∃ b, Padded S b t := by
    intro a t ha
    obtain ⟨w, u, w', hw, hu, hw', ht⟩ := ha
    obtain ⟨b, hb⟩ := hitem a u hu
    exact ⟨b, w, u, w', hw, hb, hw', ht⟩
  induction h with
  | one last =>
    obtain ⟨b, hb⟩ := hpadded last
    exact ⟨[b], .one hb⟩
  | cons head tail ih =>
    obtain ⟨b, hb⟩ := hpadded head
    obtain ⟨bs, hbs⟩ := ih
    exact ⟨b :: bs, .cons hb hbs⟩

theorem Enclosed.lift {opening closing : UInt8} (hitem : ∀ a t, R a t → ∃ b, S b t)
    (h : Enclosed R opening closing as t) : ∃ bs, Enclosed S opening closing bs t := by
  cases h with
  | empty blanks => exact ⟨[], .empty blanks⟩
  | items items =>
    obtain ⟨bs, hbs⟩ := exists_separated hitem items
    exact ⟨bs, .items hbs⟩

end Lifting

theorem Scalar.exists_leaf {v : Value} {t : Bytes} (h : Scalar v t) : ∃ x, Leaf x t := by
  cases h with
  | null => exact ⟨_, .null⟩
  | bool b => exact ⟨_, .bool b⟩
  | int low high =>
    obtain ⟨x, hspells, -⟩ := spellsNumeral_printInt low high
    exact ⟨_, .number hspells⟩
  | float numeral => exact ⟨_, .number numeral⟩
  | string quoted => exact ⟨_, .string quoted⟩

theorem Spells.exists_tree {depth : Nat} {v : Value} {t : Bytes} (h : Spells depth v t) :
    ∃ x, Writes depth x t := by
  induction depth generalizing v t with
  | zero => exact Scalar.exists_leaf h
  | succ depth ih =>
    cases h with
    | scalar scalar =>
      obtain ⟨x, hx⟩ := scalar.exists_leaf
      exact ⟨x, .leaf hx⟩
    | list items =>
      obtain ⟨xs, hxs⟩ := items.lift fun v t hv => ih hv
      exact ⟨_, .list hxs⟩
    | object items =>
      have hentry : ∀ m t, Entry (Spells depth) m t → ∃ m', Entry (Writes depth) m' t := by
        intro m t hm
        obtain ⟨q, w, w', u, hq, hw, hw', hu, ht⟩ := hm
        obtain ⟨x, hx⟩ := ih hu
        exact ⟨(m.1, x), q, w, w', u, hq, hw, hw', hx, ht⟩
      obtain ⟨ms, hms⟩ := items.lift hentry
      exact ⟨_, .object hms⟩

/-- **Whatever is read as a value is the text of a tree.** -/
theorem exists_textOf {fuel depth : Nat} {s : Bytes} {v : Value}
    (h : Reader.whole (value fuel depth) s = .ok v) : ∃ x, TextOf x s := by
  obtain ⟨w', hw', hread⟩ := whole_eq_ok_iff.mp h
  obtain ⟨w, t, hw, ht, rfl⟩ := onlyReads_value fuel depth hread
  obtain ⟨x, hx⟩ := ht.exists_tree
  exact ⟨x, depth, w, t, w', hw, hx, hw', (List.append_assoc _ _ _).symm⟩

end SignIn.Json
