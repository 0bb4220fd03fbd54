import SignIn.Proofs.JsonNumber
import SignIn.Proofs.JsonString

/-!
# A container is read as the items that it encloses

Lists and objects are read by the same loop: it goes to the next item or past the closing bracket,
reads the item, and starts over. `series` is that loop, with what differs between the two as
parameters. What it reads is stated once, for any reader of items that reads exactly what some
relation spells; the reader has room for as many items as the text has bytes, which is more than
there can be.
-/

namespace SignIn.Json

/-! ## Blanks -/

theorem isBlanks_nil : IsBlanks [] := by simp [IsBlanks]

theorem IsBlanks.append {w w' : Bytes} (h : IsBlanks w) (h' : IsBlanks w') : IsBlanks (w ++ w') :=
  List.forall_mem_append.mpr ⟨h, h'⟩

theorem skipBlanks_append {w : Bytes} (h : IsBlanks w) (s : Bytes) :
    skipBlanks (w ++ s) = skipBlanks s := List.dropWhile_append_of_pos h

theorem skipBlanks_cons {b : UInt8} (h : isBlank b = false) (s : Bytes) :
    skipBlanks (b :: s) = b :: s := List.dropWhile_cons_of_neg (by simp [h])

/-- No blanks need to be there. -/
theorem Padded.bare {α : Type} {R : α → Bytes → Prop} {a : α} {t : Bytes} (h : R a t) :
    Padded R a t := ⟨[], t, [], isBlanks_nil, h, isBlanks_nil, (List.append_nil t).symm⟩

theorem Entry.bare {α : Type} {R : α → Bytes → Prop} {key : String} {a : α} {q t : Bytes}
    (hkey : SpellsString key q) (h : R a t) : Entry R (key, a) (q ++ 0x3A :: t) :=
  ⟨q, [], [], t, hkey, isBlanks_nil, isBlanks_nil, h, rfl⟩

theorem exists_blanks (s : Bytes) : ∃ w, IsBlanks w ∧ s = w ++ skipBlanks s :=
  ⟨s.takeWhile isBlank, List.all_eq_true.mp List.all_takeWhile,
    List.takeWhile_append_dropWhile.symm⟩

theorem skipBlanks_eq_nil_iff {w : Bytes} : skipBlanks w = [] ↔ IsBlanks w := by
  constructor
  · intro h
    obtain ⟨w', hw', hw⟩ := exists_blanks w
    rw [h, List.append_nil] at hw
    rwa [hw]
  · intro h
    have hskip := skipBlanks_append h []
    rwa [List.append_nil] at hskip

theorem IsBlanks.stops {w r : Bytes} (h : IsBlanks w) (hr : Stops r) : Stops (w ++ r) := by
  cases w with
  | nil => exact hr
  | cons b w =>
    rintro c ⟨⟩
    exact .inl (h b (by simp))

/-! ## The loop -/

section Series

variable {α : Type}

/-- Reads items, at most `fuel` of them, after those in `acc` (last first). -/
def series (atEnd : Error) (turn : Bool → Bytes → Except Error Turn) (item : Reader α) (fuel : Nat)
    (acc : List α) : Reader (List α) := fun s =>
  match fuel with
  | 0 => .error atEnd
  | fuel + 1 =>
    match turn acc.isEmpty s with
    | .error e => .error e
    | .ok (.close r) => .ok (acc.reverse, r)
    | .ok (.item r) =>
      match item r with
      | .error e => .error e
      | .ok (a, r) => series atEnd turn item fuel (a :: acc) r

/-- Goes back before the opening quote of a key. -/
def Turn.reopen : Turn → Turn
  | .close r => .close r
  | .item r => .item (0x22 :: r)

/-- The turn of an object that stops before the opening quote of a key. -/
def keyTurn (first : Bool) (s : Bytes) : Except Error Turn := (objectTurn first s).map Turn.reopen

/-- Reads a member from its opening quote. -/
def entry (item : Reader α) : Reader (String × α)
  | 0x22 :: r => keyed item r
  | _ => .error .keyNotString

theorem elements_eq_series (item : Reader α) (fuel : Nat) (acc : List α) (s : Bytes) :
    elements item fuel acc s = series .endInList listTurn item fuel acc s := by
  induction fuel generalizing acc s with
  | zero => rfl
  | succ fuel ih =>
    rcases hturn : listTurn acc.isEmpty s with e | r | r
    · simp only [elements, series, hturn]
    · simp only [elements, series, hturn]
    · cases hitem : item r with
      | error e => simp only [elements, series, hturn, hitem]
      | ok x => simp only [elements, series, hturn, hitem, ih]

theorem members_eq_series (item : Reader α) (fuel : Nat) (acc : List (String × α)) (s : Bytes) :
    members item fuel acc s = series .endInObject keyTurn (entry item) fuel acc s := by
  induction fuel generalizing acc s with
  | zero => rfl
  | succ fuel ih =>
    rcases hturn : objectTurn acc.isEmpty s with e | r | r
    · simp only [members, series, keyTurn, hturn, Except.map]
    · simp only [members, series, keyTurn, hturn, Except.map, Turn.reopen]
    · cases hitem : keyed item r with
      | error e =>
        simp only [members, series, keyTurn, hturn, Except.map, Turn.reopen, entry, hitem]
      | ok x =>
        simp only [members, series, keyTurn, hturn, Except.map, Turn.reopen, entry, hitem, ih]

section Steps

variable {atEnd : Error} {turn : Bool → Bytes → Except Error Turn} {item : Reader α} {fuel : Nat}
  {acc as : List α} {s r : Bytes}

theorem series_close (h : turn acc.isEmpty s = .ok (.close r)) :
    series atEnd turn item (fuel + 1) acc s = .ok (acc.reverse, r) := by
  rw [series, h]

theorem series_item {s' : Bytes} {a : α} (h : turn acc.isEmpty s = .ok (.item s'))
    (hitem : item s' = .ok (a, r)) :
    series atEnd turn item (fuel + 1) acc s = series atEnd turn item fuel (a :: acc) r := by
  rw [series, h]
  dsimp only
  rw [hitem]

/-- The loop ends behind the closing bracket, or goes on behind an item. -/
theorem series_cases (h : series atEnd turn item fuel acc s = .ok (as, r)) :
    (turn acc.isEmpty s = .ok (.close r) ∧ as = acc.reverse) ∨
    ∃ s' a s'' fuel', fuel = fuel' + 1 ∧ turn acc.isEmpty s = .ok (.item s') ∧
      item s' = .ok (a, s'') ∧ series atEnd turn item fuel' (a :: acc) s'' = .ok (as, r) := by
  cases fuel with
  | zero => cases h
  | succ fuel =>
    rw [series] at h
    split at h
    · cases h
    · rename_i hturn
      obtain ⟨rfl, rfl⟩ := Prod.mk.inj (Except.ok.inj h)
      exact .inl ⟨hturn, rfl⟩
    · rename_i hturn
      split at h
      · cases h
      · rename_i hitem
        exact .inr ⟨_, _, _, _, rfl, hturn, hitem, h⟩

end Steps

/-! ## Turns -/

/-- What stands before the place that a turn goes to: the closing bracket, or blanks before the
first item, or a comma before another one. -/
inductive Turned (closing : UInt8) : Bool → Bytes → Turn → Prop
  | close {first : Bool} {w r : Bytes} (blanks : IsBlanks w) :
      Turned closing first (w ++ closing :: r) (.close r)
  | first {w r : Bytes} (blanks : IsBlanks w) : Turned closing true (w ++ r) (.item r)
  | next {w w' r : Bytes} (before : IsBlanks w) (behind : IsBlanks w') :
      Turned closing false (w ++ 0x2C :: (w' ++ r)) (.item r)

/-- What `turn` does between items, in a container with the given closing bracket whose items begin
as `Begins` says. -/
structure Turns (turn : Bool → Bytes → Except Error Turn) (closing : UInt8)
    (Begins : Bytes → Prop) :
    Prop where
  close : ∀ {first w r}, IsBlanks w → turn first (w ++ closing :: r) = .ok (.close r)
  first : ∀ {w s}, IsBlanks w → Begins s → turn true (w ++ s) = .ok (.item s)
  next : ∀ {w w' s}, IsBlanks w → IsBlanks w' → Begins s →
    turn false (w ++ 0x2C :: (w' ++ s)) = .ok (.item s)
  turned : ∀ {first s x}, turn first s = .ok x → Turned closing first s x

namespace Turns

variable {turn : Bool → Bytes → Except Error Turn} {closing : UInt8} {Begins : Bytes → Prop}
  {w w' u v r : Bytes}

/-- The turn to the first item, in a container that is written out to its end. -/
theorem first_item (h : Turns turn closing Begins) (hw : IsBlanks w)
    (hbegins : Begins (u ++ (v ++ closing :: r))) :
    turn true (w ++ (u ++ v) ++ [closing] ++ r) = .ok (.item (u ++ (v ++ closing :: r))) := by
  rw [← h.first hw hbegins]
  simp

theorem next_item (h : Turns turn closing Begins) (hw : IsBlanks w) (hw' : IsBlanks w')
    (hbegins : Begins (u ++ (v ++ closing :: r))) :
    turn false (w ++ 0x2C :: (w' ++ (u ++ v)) ++ closing :: r)
      = .ok (.item (u ++ (v ++ closing :: r))) := by
  rw [← h.next hw hw' hbegins]
  simp

end Turns

/-- The beginning of a value: no blank, and no bracket that closes a list. -/
def BeginsValue (s : Bytes) : Prop := ∃ b r, s = b :: r ∧ isBlank b = false ∧ b ≠ 0x5D

theorem exists_blanks_cons {s r : Bytes} {b : UInt8} (h : skipBlanks s = b :: r) :
    ∃ w, IsBlanks w ∧ s = w ++ b :: r := by
  obtain ⟨w, hw, hs⟩ := exists_blanks s
  exact ⟨w, hw, by rw [← h]; exact hs⟩

theorem turned_of_listTurn {first : Bool} {s : Bytes} {x : Turn} (h : listTurn first s = .ok x) :
    Turned 0x5D first s x := by
  rw [listTurn] at h
  split at h
  · cases h
  · rename_i b t hs
    obtain ⟨w, hw, rfl⟩ := exists_blanks_cons hs
    split_ifs at h with hclose hfirst hcomma
    · obtain rfl := Except.ok.inj h
      rw [hclose]
      exact .close hw
    · obtain rfl := Except.ok.inj h
      rw [hfirst]
      exact .first hw
    · split at h
      · cases h
      · rename_i c u ht
        obtain ⟨w', hw', rfl⟩ := exists_blanks_cons ht
        split_ifs at h
        obtain rfl := Except.ok.inj h
        rw [Bool.eq_false_iff.mpr hfirst, hcomma]
        exact .next hw hw'

theorem turns_list : Turns listTurn 0x5D BeginsValue where
  close hw := by
    rw [listTurn, skipBlanks_append hw, skipBlanks_cons (by decide)]
    rfl
  first := by
    rintro w s hw ⟨b, r, rfl, hb, hne⟩
    rw [listTurn, skipBlanks_append hw, skipBlanks_cons hb]
    dsimp only
    rw [if_neg hne, if_pos rfl]
  next := by
    rintro w w' s hw hw' ⟨b, r, rfl, hb, hne⟩
    rw [listTurn, skipBlanks_append hw, skipBlanks_cons (by decide)]
    dsimp only
    rw [if_neg (by decide), if_neg (by decide), if_pos rfl, skipBlanks_append hw',
      skipBlanks_cons hb]
    dsimp only
    rw [if_neg hne]
  turned := turned_of_listTurn

/-- A key begins with a quote. -/
theorem enterKey_eq_ok {s : Bytes} {x : Turn} (h : enterKey s = .ok x) :
    ∃ r, s = 0x22 :: r ∧ x = .item r := by
  cases s with
  | nil => cases h
  | cons b s =>
    rw [enterKey] at h
    split_ifs at h with hquote
    obtain rfl := Except.ok.inj h
    exact ⟨s, by rw [hquote], rfl⟩

theorem turned_of_objectTurn {first : Bool} {s : Bytes} {x : Turn}
    (h : objectTurn first s = .ok x) :
    Turned 0x7D first s x.reopen := by
  rw [objectTurn] at h
  split at h
  · cases h
  · rename_i b t hs
    obtain ⟨w, hw, rfl⟩ := exists_blanks_cons hs
    split_ifs at h with hclose hfirst hcomma
    · obtain rfl := Except.ok.inj h
      rw [hclose]
      exact .close hw
    · obtain ⟨r, hr, rfl⟩ := enterKey_eq_ok h
      rw [hfirst, hr]
      exact .first hw
    · obtain ⟨r, hr, rfl⟩ := enterKey_eq_ok h
      obtain ⟨w', hw', rfl⟩ := exists_blanks_cons hr
      rw [Bool.eq_false_iff.mpr hfirst, hcomma]
      exact .next hw hw'

theorem turns_object : Turns keyTurn 0x7D fun s => ∃ r, s = 0x22 :: r where
  close hw := by
    rw [keyTurn, objectTurn, skipBlanks_append hw, skipBlanks_cons (by decide)]
    rfl
  first := by
    rintro w s hw ⟨r, rfl⟩
    rw [keyTurn, objectTurn, skipBlanks_append hw, skipBlanks_cons (by decide)]
    rfl
  next := by
    rintro w w' s hw hw' ⟨r, rfl⟩
    rw [keyTurn, objectTurn, skipBlanks_append hw, skipBlanks_cons (by decide)]
    dsimp only
    rw [if_neg (by decide), if_neg (by decide), if_pos rfl, skipBlanks_append hw',
      skipBlanks_cons (by decide)]
    rfl
  turned := by
    intro first s x h
    cases hturn : objectTurn first s with
    | error e =>
      rw [keyTurn, hturn] at h
      cases h
    | ok y =>
      rw [keyTurn, hturn] at h
      obtain rfl := Except.ok.inj h
      exact turned_of_objectTurn hturn

/-! ## What a reader of items reads -/

/-- Whatever `R` spells is read by `item`, if it is shorter than `limit` and nothing behind it
could extend it. -/
def Reads (limit : Nat) (item : Reader α) (R : α → Bytes → Prop) : Prop :=
  ∀ ⦃a t r⦄, R a t → t.length < limit → Stops r → item (t ++ r) = .ok (a, r)

/-- Nothing is read by `item` but what `R` spells, behind blanks. -/
def OnlyReads (item : Reader α) (R : α → Bytes → Prop) : Prop :=
  ∀ ⦃a s r⦄, item s = .ok (a, r) → ∃ w t, IsBlanks w ∧ R a t ∧ s = w ++ (t ++ r)

/-- The text behind an item: the end of the container, or a comma and more items. -/
inductive Rest (R : α → Bytes → Prop) : List α → Bytes → Prop
  | close {w : Bytes} (blanks : IsBlanks w) : Rest R [] w
  | more {as : List α} {w t : Bytes} (blanks : IsBlanks w) (items : Separated (Padded R) as t) :
      Rest R as (w ++ 0x2C :: t)

section Enclosing

variable {R : α → Bytes → Prop} {as : List α} {t : Bytes}

theorem Rest.separated {a : α} {w u : Bytes} (hrest : Rest R as t) (hw : IsBlanks w) (ha : R a u) :
    Separated (Padded R) (a :: as) (w ++ (u ++ t)) := by
  cases hrest with
  | close blanks => exact .one ⟨w, u, t, hw, ha, blanks, by simp⟩
  | @more as w' t blanks items =>
    have hcons := Separated.cons (R := Padded R) ⟨w, u, w', hw, ha, blanks, rfl⟩ items
    simpa using hcons

theorem Separated.exists_rest (h : Separated (Padded R) as t) :
    ∃ a bs w u v, as = a :: bs ∧ t = w ++ (u ++ v) ∧ IsBlanks w ∧ R a u ∧ Rest R bs v := by
  cases h with
  | one last =>
    obtain ⟨w, u, w', hw, ha, hw', rfl⟩ := last
    exact ⟨_, [], w, u, w', rfl, by simp, hw, ha, .close hw'⟩
  | cons head tail =>
    obtain ⟨w, u, w', hw, ha, hw', rfl⟩ := head
    exact ⟨_, _, w, u, _, rfl, by simp, hw, ha, .more hw' tail⟩

variable {atEnd : Error} {turn : Bool → Bytes → Except Error Turn} {opening closing : UInt8}
  {Begins : Bytes → Prop} {limit : Nat} {item : Reader α}

theorem Rest.stops (h : Rest R as t) (hclosing : closing = 0x5D ∨ closing = 0x7D) (r : Bytes) :
    Stops (t ++ closing :: r) := by
  cases h with
  | close blanks =>
    refine blanks.stops ?_
    rintro b ⟨⟩
    exact .inr (.inr hclosing)
  | more blanks =>
    rw [List.append_assoc]
    refine blanks.stops ?_
    rintro b ⟨⟩
    exact .inr (.inl rfl)

theorem series_rest (hturn : Turns turn closing Begins)
    (hclosing : closing = 0x5D ∨ closing = 0x7D)
    (hitem : Reads limit item R) (hbegins : ∀ {a t r}, R a t → Begins (t ++ r)) (h : Rest R as t)
    {fuel : Nat} (hfuel : t.length < fuel) (hlimit : t.length < limit) {acc : List α}
    (hacc : acc ≠ []) (r : Bytes) :
    series atEnd turn item fuel acc (t ++ closing :: r) = .ok (acc.reverse ++ as, r) := by
  have hnext : acc.isEmpty = false := by rwa [List.isEmpty_eq_false_iff]
  -- Every item is behind a comma, so there are fewer of them than bytes.
  induction fuel generalizing as t acc with
  | zero => omega
  | succ fuel ih =>
    cases h with
    | close blanks =>
      rw [List.append_nil]
      exact series_close (hturn.close blanks)
    | @more as w t blanks items =>
      obtain ⟨a, as, w', u, v, rfl, rfl, hw', ha, hrest⟩ := items.exists_rest
      simp only [List.length_append, List.length_cons] at hfuel hlimit
      have hgo : turn acc.isEmpty (w ++ 0x2C :: (w' ++ (u ++ v)) ++ closing :: r)
          = .ok (.item (u ++ (v ++ closing :: r))) := by
        rw [hnext]
        exact hturn.next_item blanks hw' (hbegins ha)
      rw [series_item hgo (hitem ha (by omega) (hrest.stops hclosing r)),
        ih hrest (by omega) (by omega) (by simp) rfl]
      simp

/-- **What is enclosed is read.** -/
theorem series_enclosed (hturn : Turns turn closing Begins)
    (hclosing : closing = 0x5D ∨ closing = 0x7D) (hitem : Reads limit item R)
    (hbegins : ∀ {a t r}, R a t → Begins (t ++ r)) (h : Enclosed R opening closing as t)
    {fuel : Nat} (hfuel : t.length < fuel) (hlimit : t.length < limit) :
    ∃ u, t = opening :: u ∧ ∀ r, series atEnd turn item fuel [] (u ++ r) = .ok (as, r) := by
  obtain ⟨fuel, rfl⟩ : ∃ n, fuel = n + 1 := ⟨fuel - 1, by omega⟩
  cases h with
  | @empty w blanks =>
    refine ⟨w ++ [closing], rfl, fun r => ?_⟩
    rw [List.append_assoc]
    exact series_close (hturn.close blanks)
  | @items _ t items =>
    refine ⟨t ++ [closing], rfl, fun r => ?_⟩
    obtain ⟨a, as, w, u, v, rfl, rfl, hw, ha, hrest⟩ := items.exists_rest
    simp only [List.length_append, List.length_cons] at hfuel hlimit
    have hgo : turn ([] : List α).isEmpty (w ++ (u ++ v) ++ [closing] ++ r)
        = .ok (.item (u ++ (v ++ closing :: r))) := hturn.first_item hw (hbegins ha)
    rw [series_item hgo (hitem ha (by omega) (hrest.stops hclosing r)),
      series_rest hturn hclosing hitem hbegins hrest (by omega) (by omega) (by simp)]
    rfl

theorem rest_of_series (hturn : Turns turn closing Begins) (hitem : OnlyReads item R) {fuel : Nat}
    {acc : List α} {s r : Bytes} (hacc : acc ≠ [])
    (h : series atEnd turn item fuel acc s = .ok (as, r)) :
    ∃ bs t, as = acc.reverse ++ bs ∧ Rest R bs t ∧ s = t ++ closing :: r := by
  have hnext : acc.isEmpty = false := by rwa [List.isEmpty_eq_false_iff]
  induction fuel generalizing acc s with
  | zero => cases h
  | succ fuel ih =>
    rcases series_cases h with ⟨hclose, rfl⟩ | ⟨s', a, s'', n, hn, hgo, hread, hrest⟩
    · rw [hnext] at hclose
      cases hturn.turned hclose with
      | close blanks => exact ⟨[], _, (List.append_nil _).symm, .close blanks, rfl⟩
    · obtain rfl := Nat.succ.inj hn
      rw [hnext] at hgo
      cases hturn.turned hgo with
      | next before behind =>
        obtain ⟨v, t, hv, ha, rfl⟩ := hitem hread
        obtain ⟨bs, u, rfl, hu, rfl⟩ := ih (by simp) hrest rfl
        exact ⟨a :: bs, _, by simp, .more before (hu.separated (behind.append hv) ha), by simp⟩

/-- **Nothing is read but what is enclosed.** -/
theorem enclosed_of_series (hturn : Turns turn closing Begins) (hitem : OnlyReads item R)
    (opening : UInt8) {fuel : Nat} {s r : Bytes}
    (h : series atEnd turn item fuel [] s = .ok (as, r)) :
    ∃ t, Enclosed R opening closing as (opening :: t) ∧ s = t ++ r := by
  rcases series_cases h with ⟨hclose, rfl⟩ | ⟨s', a, s'', n, -, hgo, hread, hrest⟩
  · cases hturn.turned hclose with
    | @close _ w _ blanks => exact ⟨w ++ [closing], .empty blanks, by simp⟩
  · rw [List.isEmpty_nil] at hgo
    cases hturn.turned hgo with
    | first blanks =>
      obtain ⟨v, t, hv, ha, rfl⟩ := hitem hread
      obtain ⟨bs, u, rfl, hu, rfl⟩ := rest_of_series hturn hitem (by simp) hrest
      exact ⟨_, .items (hu.separated (blanks.append hv) ha), by simp⟩

end Enclosing

end Series

end SignIn.Json
