import SignIn.Proofs.JsonContainer
import SignIn.Proofs.JsonScalar

/-!
# What is read is what is spelled

A text is read as an object with certain members exactly if the grammar has it as a text of them.
Both directions go by the depth that is left: a scalar is told from a container by its first byte,
and what a container encloses is read by the same reader with one level less. Nothing else is lost
at the depth limit, and the limit is met exactly.
-/

namespace SignIn.Json

/-! ## Scalars -/

theorem word_eq_ok_iff {w s r : Bytes} : word w s = .ok r ↔ s = w ++ r := by
  induction w generalizing s with
  | nil => simp [word, eq_comm]
  | cons c w ih =>
    cases s with
    | nil => simp [word]
    | cons b s =>
      rw [word]
      split
      · rename_i hb
        rw [ih, hb, List.cons_append, List.cons_inj_right]
      · rename_i hb
        simp [hb]

theorem keep_eq_ok_iff {f g : Front} {w s r : Bytes} :
    keep f (word w s) = .ok (g, r) ↔ g = f ∧ s = w ++ r := by
  rw [← word_eq_ok_iff]
  cases word w s <;> simp [keep, eq_comm]

theorem front_append {w : Bytes} (h : IsBlanks w) (s : Bytes) : front (w ++ s) = front s := by
  rw [front, skipBlanks_append h, front]

/-- **A scalar is read from whatever spells it.** -/
theorem front_scalar {v : Value} {t r : Bytes} (h : Scalar v t) (hr : Stops r) :
    ∃ f, front (t ++ r) = .ok (f, r) ∧ f.scalar? = some v := by
  cases h with
  | null => exact ⟨.null, rfl, rfl⟩
  | bool b =>
    refine ⟨.bool b, ?_, rfl⟩
    cases b <;> rfl
  | int low high =>
    obtain ⟨x, hspells, hvalue⟩ := spellsNumeral_printInt low high
    exact ⟨_, front_numeral hspells hvalue hr, rfl⟩
  | float numeral value => exact ⟨_, front_numeral numeral value hr, rfl⟩
  | string quoted => exact ⟨_, front_spelled quoted r, rfl⟩

/-- The text of what a value begins with: the whole of a scalar, or an opening bracket. -/
inductive Opens : Front → Bytes → Prop
  | scalar {f : Front} {v : Value} {t : Bytes} (value : f.scalar? = some v) (spells : Scalar v t) :
      Opens f t
  | list : Opens .list [0x5B]
  | object : Opens .object [0x7B]

theorem opens_of_number {negative : Bool} {f : Front} {s r : Bytes}
    (h : numberFront negative s = .ok (f, r)) : ∃ t, Opens f (minus negative ++ t) ∧
    s = t ++ r := by
  rw [numberFront] at h
  split at h
  · rename_i n s' hnumber
    obtain ⟨rfl, rfl⟩ := Prod.mk.inj (Except.ok.inj h)
    rw [number] at hnumber
    split at hnumber
    · cases hnumber
    · rename_i x s'' hnumeral
      split at hnumber
      · rename_i m hvalue
        obtain ⟨rfl, rfl⟩ := Prod.mk.inj (Except.ok.inj hnumber)
        obtain ⟨t, ht, rfl⟩ := spells_of_numeral hnumeral
        refine ⟨t, ?_, rfl⟩
        cases m with
        | int n =>
          obtain ⟨hprint, hlow, hhigh⟩ := eq_printInt_of_value ht hvalue
          rw [hprint]
          exact .scalar rfl (.int hlow hhigh)
        | float x => exact .scalar rfl (.float ht hvalue)
      · cases hnumber
  · cases h

/-- **Nothing is read at the front of a text but what opens it**, behind blanks. -/
theorem opens_of_front {f : Front} {s r : Bytes} (h : front s = .ok (f, r)) :
    ∃ w t, IsBlanks w ∧ Opens f t ∧ s = w ++ (t ++ r) := by
  rw [front] at h
  split at h
  · cases h
  · rename_i b s' hs
    obtain ⟨w, hw, rfl⟩ := exists_blanks_cons hs
    suffices hopens : ∃ t, Opens f t ∧ b :: s' = t ++ r by
      obtain ⟨t, ht, heq⟩ := hopens
      exact ⟨w, t, hw, ht, by rw [heq]⟩
    split_ifs at h with hquote hbrace hbracket hnull htrue hfalse hminus hdigit
    · split at h
      · rename_i hstring
        obtain ⟨rfl, rfl⟩ := Prod.mk.inj (Except.ok.inj h)
        obtain ⟨u, hu, rfl⟩ := spells_of_string hstring
        exact ⟨_, .scalar rfl (.string ⟨u, hu, rfl⟩), by rw [hquote]; simp⟩
      · cases h
    · obtain ⟨rfl, rfl⟩ := Prod.mk.inj (Except.ok.inj h)
      exact ⟨_, .object, by rw [hbrace]; rfl⟩
    · obtain ⟨rfl, rfl⟩ := Prod.mk.inj (Except.ok.inj h)
      exact ⟨_, .list, by rw [hbracket]; rfl⟩
    · obtain ⟨rfl, rfl⟩ := keep_eq_ok_iff.mp h
      exact ⟨_, .scalar rfl .null, by rw [hnull]; rfl⟩
    · obtain ⟨rfl, rfl⟩ := keep_eq_ok_iff.mp h
      exact ⟨_, .scalar rfl (.bool true), by rw [htrue]; rfl⟩
    · obtain ⟨rfl, rfl⟩ := keep_eq_ok_iff.mp h
      exact ⟨_, .scalar rfl (.bool false), by rw [hfalse]; rfl⟩
    · obtain ⟨t, ht, rfl⟩ := opens_of_number h
      exact ⟨_, ht, by rw [hminus]; rfl⟩
    · obtain ⟨t, ht, heq⟩ := opens_of_number h
      exact ⟨t, ht, heq⟩

/-! ## Members -/

section Members

variable {α : Type} {item : Reader α} {R : α → Bytes → Prop}

theorem colon_append {w : Bytes} (h : IsBlanks w) (s : Bytes) :
    colon (w ++ 0x3A :: s) = .ok s := by
  rw [colon, skipBlanks_append h, skipBlanks_cons (by decide)]
  rfl

/-- A member begins with the quote of its key. -/
theorem Entry.begins {m : String × α} {t : Bytes} (h : Entry R m t) (r : Bytes) :
    ∃ u, t ++ r = 0x22 :: u := by
  obtain ⟨q, w, w', u, ⟨k, -, rfl⟩, -, -, -, rfl⟩ := h
  exact ⟨_, rfl⟩

/-- **A member is read from whatever spells it.** -/
theorem reads_entry {limit : Nat} (hitem : Reads limit item R)
    (hblanks : ∀ {w} s, IsBlanks w → item (w ++ s) = item s) :
    Reads limit (entry item) (Entry R) := by
  rintro ⟨key, a⟩ t r ⟨q, w, w', u, ⟨k, hk, rfl⟩, hw, hw', ha, rfl⟩ hlength hr
  simp only [List.length_append, List.length_cons] at hlength
  have htext : 0x22 :: k ++ [0x22] ++ (w ++ 0x3A :: (w' ++ u)) ++ r
      = 0x22 :: (k ++ 0x22 :: (w ++ 0x3A :: (w' ++ (u ++ r)))) := by simp
  rw [htext, entry, keyed, string_spelled hk]
  dsimp only
  rw [colon_append hw]
  dsimp only
  rw [hblanks _ hw', hitem ha (by omega) hr]

/-- **Nothing else is read as a member.** -/
theorem onlyReads_entry (hitem : OnlyReads item R) : OnlyReads (entry item) (Entry R) := by
  rintro ⟨key, a⟩ s r h
  unfold entry at h
  split at h
  · rw [keyed] at h
    split at h
    · cases h
    · rename_i hstring
      obtain ⟨k, hk, rfl⟩ := spells_of_string hstring
      split at h
      · cases h
      · rename_i s' hcolon
        rw [colon] at hcolon
        split at hcolon
        · cases hcolon
        · rename_i b t hs
          obtain ⟨w, hw, rfl⟩ := exists_blanks_cons hs
          split at hcolon
          · rename_i hb
            obtain rfl := Except.ok.inj hcolon
            split at h
            · cases h
            · rename_i hread
              obtain ⟨⟨rfl, rfl⟩, rfl⟩ := Prod.mk.inj (Except.ok.inj h)
              obtain ⟨w', u, hw', ha, rfl⟩ := hitem hread
              refine ⟨[], _, isBlanks_nil, ⟨_, w, w', u, ⟨k, hk, rfl⟩, hw, hw', ha, rfl⟩, ?_⟩
              rw [hb]
              simp
          · cases hcolon
  · cases h

end Members

/-! ## Values -/

section Value

variable {fuel depth : Nat} {s r : Bytes}

theorem value_append {w : Bytes} (h : IsBlanks w) (s : Bytes) :
    value fuel depth (w ++ s) = value fuel depth s := by
  rw [value, front_append h, ← value]

theorem value_of_scalar {f : Front} {v : Value} (h : front s = .ok (f, r))
    (hv : f.scalar? = some v) :
    value fuel depth s = .ok (v, r) := by
  rw [value, h]
  dsimp only
  rw [hv]

theorem value_list (s : Bytes) : value fuel (depth + 1) (0x5B :: s)
    = listValue (series .endInList listTurn (value fuel depth) fuel [] s) := by
  rw [← elements_eq_series, value, show front (0x5B :: s) = .ok (.list, s) from rfl]
  rfl

theorem value_object (s : Bytes) : value fuel (depth + 1) (0x7B :: s)
    = objectValue (series .endInObject keyTurn (entry (value fuel depth)) fuel [] s) := by
  rw [← members_eq_series, value, show front (0x7B :: s) = .ok (.object, s) from rfl]
  rfl

/-- Where no container may be entered, none is. -/
theorem value_tooDeep {opening : UInt8} (h : opening = 0x5B ∨ opening = 0x7B) (s : Bytes) :
    value fuel 0 (opening :: s) = .error .tooDeep := by
  rcases h with rfl | rfl <;> rfl

theorem SpellsNumeral.begins {x : Numeral} {t : Bytes} (h : SpellsNumeral x t) (r : Bytes) :
    BeginsValue (t ++ r) := by
  obtain ⟨negative, w, fraction, exponent⟩ := x
  obtain ⟨hwhole, -, -⟩ := h
  cases negative with
  | true => exact ⟨0x2D, _, rfl, by decide, by decide⟩
  | false =>
    obtain ⟨b, w, rfl⟩ := List.exists_cons_of_ne_nil hwhole.1.1
    have hb := hwhole.1.2 b (by simp)
    refine ⟨b, _, rfl, isBlank_of_isDigit hb, ?_⟩
    rintro rfl
    exact absurd hb (by decide)

theorem SpellsString.begins {s : String} {t : Bytes} (h : SpellsString s t) (r : Bytes) :
    BeginsValue (t ++ r) := by
  obtain ⟨u, -, rfl⟩ := h
  exact ⟨0x22, _, rfl, by decide, by decide⟩

theorem begins_printBool (b : Bool) (r : Bytes) : BeginsValue (printBool b ++ r) := by
  cases b <;> exact ⟨_, _, rfl, by decide, by decide⟩

theorem Scalar.begins {v : Value} {t : Bytes} (h : Scalar v t) (r : Bytes) :
    BeginsValue (t ++ r) := by
  cases h with
  | null => exact ⟨0x6E, _, rfl, by decide, by decide⟩
  | bool b => exact begins_printBool b r
  | int low high =>
    obtain ⟨x, hspells, -⟩ := spellsNumeral_printInt low high
    exact hspells.begins r
  | float numeral => exact numeral.begins r
  | string quoted => exact quoted.begins r

theorem Enclosed.exists_cons {α : Type} {R : α → Bytes → Prop}
    {opening closing : UInt8} {as : List α}
    {t : Bytes} (h : Enclosed R opening closing as t) : ∃ u, t = opening :: u := by
  cases h <;> exact ⟨_, rfl⟩

/-- A container begins with its bracket. -/
theorem Enclosed.begins {α : Type} {R : α → Bytes → Prop} {opening closing : UInt8} {as : List α}
    {t : Bytes} (h : Enclosed R opening closing as t) (hopening : opening = 0x5B ∨ opening = 0x7B)
    (r : Bytes) : BeginsValue (t ++ r) := by
  obtain ⟨u, rfl⟩ := h.exists_cons
  rcases hopening with rfl | rfl <;> exact ⟨_, _, rfl, by decide, by decide⟩

theorem Spells.begins {v : Value} {t r : Bytes} (h : Spells depth v t) : BeginsValue (t ++ r) := by
  cases depth with
  | zero => exact Scalar.begins h r
  | succ depth =>
    cases h with
    | scalar scalar => exact scalar.begins r
    | list items => exact items.begins (.inl rfl) r
    | object items => exact items.begins (.inr rfl) r

/-- **A value is read from whatever spells it**, as deep as it may be. -/
theorem reads_value (limit depth : Nat) : Reads limit (value limit depth) (Spells depth) := by
  induction depth with
  | zero =>
    intro v t r h _ hr
    obtain ⟨f, hf, hv⟩ := front_scalar h hr
    exact value_of_scalar hf hv
  | succ depth ih =>
    intro v t r h hlength hr
    cases h with
    | scalar scalar =>
      obtain ⟨f, hf, hv⟩ := front_scalar scalar hr
      exact value_of_scalar hf hv
    | list items =>
      obtain ⟨u, rfl, hread⟩ := series_enclosed turns_list (.inl rfl) ih (fun h => h.begins) items
        hlength hlength
      rw [List.cons_append, value_list, hread]
      rfl
    | @object ms c t items collects =>
      have hentry := reads_entry ih fun s hw => value_append hw s
      obtain ⟨u, rfl, hread⟩ := series_enclosed turns_object (.inr rfl) hentry
        (fun h => h.begins _) items hlength hlength
      rw [List.cons_append, value_object, hread, objectValue, collects_iff.mp collects]

/-- What is read is a scalar, or a container behind its opening bracket. -/
theorem value_cases {v : Value} (h : value fuel depth s = .ok (v, r)) :
    ∃ w, IsBlanks w ∧ ((∃ t, Scalar v t ∧ s = w ++ (t ++ r)) ∨
      ∃ opening s', (opening = 0x5B ∨ opening = 0x7B) ∧ s = w ++ opening :: s' ∧
        value fuel depth (opening :: s') = .ok (v, r)) := by
  cases hfront : front s with
  | error e =>
    rw [value, hfront] at h
    cases h
  | ok p =>
    obtain ⟨f, s'⟩ := p
    obtain ⟨w, t, hw, hopens, rfl⟩ := opens_of_front hfront
    refine ⟨w, hw, ?_⟩
    cases hopens with
    | scalar hv spells =>
      rw [value_of_scalar hfront hv] at h
      obtain ⟨rfl, rfl⟩ := Prod.mk.inj (Except.ok.inj h)
      exact .inl ⟨t, spells, rfl⟩
    | list =>
      rw [value_append hw] at h
      exact .inr ⟨_, s', .inl rfl, rfl, h⟩
    | object =>
      rw [value_append hw] at h
      exact .inr ⟨_, s', .inr rfl, rfl, h⟩

/-- **Nothing else is read as a value.** -/
theorem onlyReads_value (fuel depth : Nat) : OnlyReads (value fuel depth) (Spells depth) := by
  induction depth with
  | zero =>
    intro v s r h
    obtain ⟨w, hw, ⟨t, ht, rfl⟩ | ⟨opening, s', hopening, rfl, hvalue⟩⟩ := value_cases h
    · exact ⟨w, t, hw, ht, rfl⟩
    · rw [value_tooDeep hopening] at hvalue
      cases hvalue
  | succ depth ih =>
    intro v s r h
    obtain ⟨w, hw, ⟨t, ht, rfl⟩ | ⟨opening, s', rfl | rfl, rfl, hvalue⟩⟩ := value_cases h
    · exact ⟨w, t, hw, .scalar ht, rfl⟩
    · rw [value_list] at hvalue
      cases hread : series .endInList listTurn (value fuel depth) fuel [] s' with
      | error e => simp [hread, listValue] at hvalue
      | ok p =>
        rw [hread] at hvalue
        obtain ⟨rfl, rfl⟩ := Prod.mk.inj (Except.ok.inj hvalue)
        obtain ⟨t, ht, rfl⟩ := enclosed_of_series turns_list ih 0x5B hread
        exact ⟨w, _, hw, .list ht, rfl⟩
    · rw [value_object] at hvalue
      cases hread : series .endInObject keyTurn (entry (value fuel depth)) fuel [] s' with
      | error e => simp [hread, objectValue] at hvalue
      | ok p =>
        rw [hread] at hvalue
        obtain ⟨rfl, rfl⟩ := Prod.mk.inj (Except.ok.inj hvalue)
        obtain ⟨t, ht, rfl⟩ := enclosed_of_series turns_object (onlyReads_entry ih) 0x7B hread
        exact ⟨w, _, hw, .object ht (collects_canonical _), rfl⟩

end Value

/-! ## Whole texts -/

theorem whole_eq_ok_iff {α : Type} {r : Reader α} {s : Bytes} {a : α} :
    Reader.whole r s = .ok a ↔ ∃ w, IsBlanks w ∧ r s = .ok (a, w) := by
  rw [Reader.whole]
  cases r s with
  | error e => simp
  | ok p =>
    obtain ⟨b, w⟩ := p
    dsimp only
    have hblanks : (skipBlanks w).isEmpty = true ↔ IsBlanks w := by
      rw [List.isEmpty_iff, skipBlanks_eq_nil_iff]
    split
    · rename_i hempty
      simp [hblanks.mp hempty]
    · rename_i hrest
      simp only [reduceCtorEq, Except.ok.injEq, Prod.mk.injEq, false_iff]
      rintro ⟨w', hw', -, rfl⟩
      exact hrest (hblanks.mpr hw')

/-- The members of an object are read like the object. -/
theorem objectMembers_eq_ok_iff {fuel depth : Nat} {s r : Bytes} {c : List (String × Value)} :
    objectMembers fuel depth s = .ok (c, r) ↔ value fuel (depth + 1) s = .ok (.object c, r) := by
  rw [objectMembers, value]
  cases front s with
  | error e => simp
  | ok p =>
    obtain ⟨f, s'⟩ := p
    cases f with
    | object =>
      dsimp only [Front.scalar?]
      rw [if_neg (by decide)]
      cases members (value fuel depth) fuel [] s' <;> simp [objectValue]
    | list =>
      dsimp only [Front.scalar?]
      rw [if_pos rfl]
      cases elements (value fuel depth) fuel [] s' <;> simp [listValue]
    | number n => cases n <;> simp [Front.scalar?]
    | _ => simp [Front.scalar?]

/-- **What is read as an object is what the grammar has as one**, with at most 127 containers
nested. -/
theorem parseObject_eq_ok_iff {s : Bytes} {c : List (String × Value)} :
    parseObject s = .ok c ↔ Document maxDepth c s := by
  rw [parseObject, whole_eq_ok_iff]
  constructor
  · rintro ⟨w', hw', hread⟩
    obtain ⟨w, t, hw, ht, rfl⟩ := onlyReads_value _ _ (objectMembers_eq_ok_iff.mp hread)
    exact ⟨w, t, w', hw, ht, hw', by simp⟩
  · rintro ⟨w, t, w', hw, ht, hw', rfl⟩
    refine ⟨w', hw', objectMembers_eq_ok_iff.mpr ?_⟩
    rw [List.append_assoc, value_append hw]
    refine reads_value _ _ ht (by simp; omega) ?_
    have hend := hw'.stops (r := []) (by simp [Stops])
    rwa [List.append_nil] at hend

/-! ## The texts that there are -/

/-- A value that JSON texts can be written for without loss: no float, only integers of 64 bits,
the members of an object in the order of their keys, and at most so many containers nested. -/
inductive Value.Exact : Nat → Value → Prop
  | null {depth : Nat} : Exact depth .null
  | bool {depth : Nat} (b : Bool) : Exact depth (.bool b)
  | int {depth : Nat} {n : Int} (low : -2 ^ 63 ≤ n) (high : n < 2 ^ 64) : Exact depth (.int n)
  | string {depth : Nat} (s : String) : Exact depth (.string s)
  | list {depth : Nat} {vs : List Value} (parts : ∀ v ∈ vs, Exact depth v) :
      Exact (depth + 1) (.list vs)
  | object {depth : Nat} {ms : List (String × Value)} (ordered : ms.Pairwise fun m n => m.1 < n.1)
      (parts : ∀ m ∈ ms, Exact depth m.2) : Exact (depth + 1) (.object ms)

theorem exists_enclosed {α : Type} {R : α → Bytes → Prop} (opening closing : UInt8) {as : List α}
    (h : ∀ a ∈ as, ∃ t, R a t) : ∃ t, Enclosed R opening closing as t := by
  cases as with
  | nil => exact ⟨_, .empty isBlanks_nil⟩
  | cons a as =>
    suffices hitems : ∃ t, Separated (Padded R) (a :: as) t by
      obtain ⟨t, ht⟩ := hitems
      exact ⟨_, .items ht⟩
    induction as generalizing a with
    | nil =>
      obtain ⟨t, ht⟩ := h a (by simp)
      exact ⟨t, .one (.bare ht)⟩
    | cons b as ih =>
      obtain ⟨t, ht⟩ := h a (by simp)
      obtain ⟨u, hu⟩ := ih b fun x hx => h x (by simp [hx])
      exact ⟨_, .cons (.bare ht) hu⟩

theorem exists_entry {α : Type} {R : α → Bytes → Prop} (m : String × α) (h : ∃ t, R m.2 t) :
    ∃ t, Entry R m t := by
  obtain ⟨t, ht⟩ := h
  exact ⟨_, .bare (spellsString_printString m.1) ht⟩

theorem Spells.of_scalar {v : Value} {t : Bytes} (h : Scalar v t) (depth : Nat) :
    Spells depth v t := by
  cases depth with
  | zero => exact h
  | succ depth => exact .scalar h

/-- **Every such value has a text.** -/
theorem Value.Exact.exists_spells {depth : Nat} {v : Value} (h : v.Exact depth) :
    ∃ t, Spells depth v t := by
  induction h with
  | null => exact ⟨_, .of_scalar .null _⟩
  | bool b => exact ⟨_, .of_scalar (.bool b) _⟩
  | int low high => exact ⟨_, .of_scalar (.int low high) _⟩
  | string s => exact ⟨_, .of_scalar (.string (spellsString_printString s)) _⟩
  | list parts ih =>
    obtain ⟨t, ht⟩ := exists_enclosed 0x5B 0x5D ih
    exact ⟨t, .list ht⟩
  | object ordered parts ih =>
    obtain ⟨t, ht⟩ := exists_enclosed 0x7B 0x7D fun m hm => exists_entry m (ih m hm)
    exact ⟨t, .object ht (collects_of_perm ordered (.refl _))⟩

/-- The members of an object may be written in any order. -/
theorem Value.Exact.exists_members {depth : Nat} {ms c : List (String × Value)}
    (h : (Value.object c).Exact (depth + 1)) (hperm : ms.Perm c) :
    Collects ms c ∧ ∃ t, Members depth ms t := by
  cases h with
  | object ordered parts =>
    refine ⟨collects_of_perm ordered hperm, ?_⟩
    obtain ⟨t, ht⟩ := exists_enclosed 0x7B 0x7D fun m hm =>
      exists_entry m (parts m (hperm.mem_iff.mp hm)).exists_spells
    exact ⟨t, .bare ht⟩

/-- An object with one string is read back as it was printed. -/
theorem parseObject_printObject (key s : String) :
    parseObject (printObject [(key, printString s)]) = .ok [(key, .string s)] := by
  have hentry : Entry (Spells 126) (key, .string s) (printString key ++ 0x3A :: printString s) :=
    .bare (spellsString_printString key) (.of_scalar (.string (spellsString_printString s)) _)
  have hobject : Spells maxDepth (.object [(key, .string s)])
      (printObject [(key, printString s)]) :=
    .object (.items (.one (.bare hentry)))
      (collects_of_perm (List.pairwise_singleton _ _) (.refl _))
  exact parseObject_eq_ok_iff.mpr (.bare hobject)

/-! ## The limit of the depth -/

/-- Lists within one another, so many of them, around `null`. -/
def nest : Nat → Value
  | 0 => .null
  | n + 1 => .list [nest n]

def nestText : Nat → Bytes
  | 0 => Utf8.encode "null"
  | n + 1 => 0x5B :: nestText n ++ [0x5D]

theorem spells_nest (n : Nat) : Spells n (nest n) (nestText n) := by
  induction n with
  | zero => exact Scalar.null
  | succ n ih =>
    exact .list (.items (.one (.bare ih)))

/-- **One list too many is not read**, whatever comes behind it. -/
theorem value_nest {fuel : Nat} (hfuel : 0 < fuel) (depth n : Nat) (r : Bytes) :
    value fuel depth (nestText (depth + 1 + n) ++ r) = .error .tooDeep := by
  obtain ⟨fuel, rfl⟩ : ∃ k, fuel = k + 1 := ⟨fuel - 1, by omega⟩
  induction depth generalizing r with
  | zero =>
    rw [Nat.zero_add, Nat.add_comm 1 n, nestText, List.cons_append, List.cons_append]
    exact value_tooDeep (.inl rfl) _
  | succ depth ih =>
    rw [Nat.add_right_comm (depth + 1) 1 n, nestText, List.cons_append, List.cons_append,
      List.append_assoc, value_list, series]
    have hturn : listTurn ([] : List Value).isEmpty (nestText (depth + 1 + n) ++ ([0x5D] ++ r))
        = .ok (.item (nestText (depth + 1 + n) ++ ([0x5D] ++ r))) :=
      turns_list.first isBlanks_nil (spells_nest _).begins
    rw [hturn]
    dsimp only
    rw [ih]
    rfl

/-- An object whose only member is nested. -/
def nestDocument (n : Nat) : Bytes := 0x7B :: (printString "a" ++ 0x3A :: nestText n) ++ [0x7D]

theorem document_nest (n : Nat) : Document (n + 1) [("a", nest n)] (nestDocument n) := by
  have hentry : Entry (Spells n) ("a", nest n) (printString "a" ++ 0x3A :: nestText n) :=
    .bare (spellsString_printString "a") (spells_nest n)
  have hobject : Spells (n + 1) (.object [("a", nest n)]) (nestDocument n) :=
    .object (.items (.one (.bare hentry)))
      (collects_of_perm (List.pairwise_singleton _ _) (.refl _))
  exact .bare hobject

theorem objectMembers_nest (fuel depth : Nat) :
    objectMembers (fuel + 1) depth (nestDocument (depth + 1)) = .error .tooDeep := by
  have hentry : entry (value (fuel + 1) depth)
      (printString "a" ++ 0x3A :: (nestText (depth + 1) ++ [0x7D])) = .error .tooDeep := by
    have hcolon : colon (0x3A :: (nestText (depth + 1) ++ [0x7D]))
        = .ok (nestText (depth + 1) ++ [0x7D]) := rfl
    rw [printString_append, entry, keyed, string_printed]
    dsimp only
    rw [hcolon]
    dsimp only
    rw [value_nest (Nat.succ_pos _) depth 0]
  have hturn : keyTurn ([] : List (String × Value)).isEmpty
      (printString "a" ++ 0x3A :: (nestText (depth + 1) ++ [0x7D]))
      = .ok (.item (printString "a" ++ 0x3A :: (nestText (depth + 1) ++ [0x7D]))) :=
    turns_object.first isBlanks_nil ⟨_, rfl⟩
  have hfront : front (nestDocument (depth + 1))
      = .ok (.object, printString "a" ++ 0x3A :: (nestText (depth + 1) ++ [0x7D])) := by
    rw [nestDocument, List.cons_append, List.append_assoc, List.cons_append]
    rfl
  rw [objectMembers, hfront]
  dsimp only
  rw [members_eq_series, series, hturn]
  dsimp only
  rw [hentry]

theorem parseObject_nest : parseObject (nestDocument maxDepth) = .error .tooDeep := by
  have hmembers : objectMembers ((nestDocument maxDepth).length + 1) (maxDepth - 1)
      (nestDocument maxDepth) = .error .tooDeep := objectMembers_nest _ (maxDepth - 1)
  rw [parseObject, Reader.whole, hmembers]

end SignIn.Json
