import Mathlib.Data.List.Infix
import SignIn.Number.Shortest
import SignIn.Proofs.JsonNumber
import SignIn.Text.Quoted

/-!
# Texts that are shown in messages

A message shows a text in quotes, and numbers as they are. What is put into a message besides has
no points, so the points that a message has are those of the texts in it, and one more for a
fraction. A text with more points than that is not in the message; and what stands between two
points of a message stands between two points of the text that it shows.
-/

namespace SignIn

/-! ## Pieces of lists -/

section Infix

variable {α : Type} {l r s : List α} {a : α}

/-- What begins with something that is not in front stands behind it. -/
theorem infix_right_of_head (hl : l.head? = some a) (ha : a ∉ r) (h : l <:+: r ++ s) :
    l <:+: s := by
  obtain ⟨l, rfl⟩ := List.head?_eq_some_iff.mp hl
  rcases List.infix_append_iff.mp h with hr | hs | ⟨u, v, huv, hu, hv⟩
  · exact absurd (hr.subset List.mem_cons_self) ha
  · exact hs
  · cases u with
    | nil =>
      rw [List.nil_append] at huv
      exact huv ▸ hv.isInfix
    | cons b u =>
      obtain ⟨rfl, -⟩ := List.cons.inj huv
      exact absurd (hu.subset List.mem_cons_self) ha

/-- What ends with something that is not behind stands in front of it. -/
theorem infix_left_of_last (hl : l.getLast? = some a) (ha : a ∉ s) (h : l <:+: r ++ s) :
    l <:+: r := by
  rw [← List.reverse_infix, List.reverse_append] at h
  rw [← List.reverse_infix]
  exact infix_right_of_head (by rwa [List.head?_reverse]) (by rwa [List.mem_reverse]) h

/-- What does not have what the front ends with stands in front, or behind. -/
theorem infix_append_iff_of_last (hr : r.getLast? = some a) (ha : a ∉ l) :
    l <:+: r ++ s ↔ l <:+: r ∨ l <:+: s := by
  constructor
  · intro h
    rcases List.infix_append_iff.mp h with hr | hs | ⟨u, v, rfl, ⟨w, rfl⟩, hv⟩
    · exact .inl hr
    · exact .inr hs
    · cases u using List.reverseRecOn with
      | nil => exact .inr hv.isInfix
      | append_singleton u b =>
        rw [← List.append_assoc, List.getLast?_concat] at hr
        obtain rfl := Option.some.inj hr
        exact absurd (by simp) ha
  · rintro (h | h)
    · exact List.infix_append_of_infix_left h
    · exact List.infix_append_of_infix_right h

/-- What does not have what the back begins with stands in front, or behind. -/
theorem infix_append_iff_of_head (hs : s.head? = some a) (ha : a ∉ l) :
    l <:+: r ++ s ↔ l <:+: r ∨ l <:+: s := by
  rw [← List.reverse_infix, List.reverse_append,
    infix_append_iff_of_last (by rwa [List.getLast?_reverse]) (by rwa [List.mem_reverse]),
    List.reverse_infix, List.reverse_infix, or_comm]

end Infix

/-! ## Texts in texts -/

/-- One text stands somewhere in another. -/
def Occurs (t s : String) : Prop := t.toList <:+: s.toList

instance (t s : String) : Decidable (Occurs t s) :=
  inferInstanceAs (Decidable (t.toList <:+: s.toList))

/-- The number of points in a text. It is counted by the lemmas below, not by unfolding long
messages. -/
@[irreducible]
def points (s : String) : Nat := s.toList.count '.'

/-- A text that is written out has the points of its characters. -/
theorem points_ofList {cs : List Char} {n : Nat} (h : cs.count '.' = n) :
    points (String.ofList cs) = n := by
  rw [points, String.toList_ofList, h]

theorem points_ofList_le {cs : List Char} {n : Nat} (h : cs.count '.' ≤ n) :
    points (String.ofList cs) ≤ n := by
  rwa [points_ofList rfl]

theorem points_append (s t : String) : points (s ++ t) = points s + points t := by
  rw [points, String.toList_append, List.count_append, points, points]

theorem points_front {front : String} (h : points front = 0) (s : String) :
    points (front ++ s) = points s := by
  rw [points_append, h, Nat.zero_add]

theorem points_between {front back : String} (hfront : points front = 0) (hback : points back = 0)
    (s : String) : points (front ++ s ++ back) = points s := by
  rw [points_append, points_front hfront, hback, Nat.add_zero]

theorem points_eq_zero_iff {s : String} : points s = 0 ↔ '.' ∉ s.toList := by
  rw [points, List.count_eq_zero]

theorem Occurs.points_le {t s : String} (h : Occurs t s) : points t ≤ points s := by
  rw [points, points]
  exact h.sublist.count_le '.'

/-! ## Numbers -/

theorem points_ofNat (n : Nat) : points (Decimal.ofNat n) = 0 := by
  rw [points_eq_zero_iff, Decimal.ofNat, String.toList_ofList]
  intro h
  exact absurd (Json.isDigit_toDigits _ h) (by decide)

theorem points_ofInt (n : Int) : points (Decimal.ofInt n) = 0 := by
  cases n with
  | ofNat n => exact points_ofNat n
  | negSucc n =>
    have hsign : points "-" = 0 := points_ofList rfl
    rw [Decimal.ofInt, points_append, points_ofNat, hsign]

namespace Shortest

theorem count_toDigits (n : Nat) : (Nat.toDigits 10 n).count '.' = 0 := by
  have hpoints := points_ofNat n
  rwa [points, Decimal.ofNat, String.toList_ofList] at hpoints

theorem count_pointed (ds : List Char) (n : Nat) :
    (pointed ds n).count '.' = ds.count '.' + 1 := by
  have hsplit := congrArg (List.count '.') (List.take_append_drop n ds)
  rw [List.count_append] at hsplit
  rw [pointed, List.count_append, List.count_cons_self]
  omega

theorem count_exponentText (e : Int) : (exponentText e).count '.' = 0 := by
  rw [exponentText]
  split_ifs
  · rw [List.count_cons_of_ne (by decide), count_toDigits]
  · rw [List.count_cons_of_ne (by decide), count_toDigits]

theorem count_text (d : Scientific) : d.text.count '.' ≤ 1 := by
  have hzeros : ∀ n, (List.replicate n '0').count '.' = 0 := fun n =>
    List.count_eq_zero.mpr fun h => absurd (List.eq_of_mem_replicate h) (by decide)
  rw [Scientific.text]
  split_ifs
  · rw [List.count_append, List.count_append, count_toDigits, hzeros]
    decide
  · rw [count_pointed, count_toDigits]
  · rw [List.cons_append, List.cons_append, List.count_cons_of_ne (by decide),
      List.count_cons_self, List.count_append, hzeros, count_toDigits]
  · rw [List.count_append, count_toDigits, List.count_cons_of_ne (by decide), count_exponentText]
    decide
  · rw [List.count_append, count_pointed, count_toDigits, List.count_cons_of_ne (by decide),
      count_exponentText]

/-- **A number has at most one point.** -/
theorem points_text (x : Binary64) : points (text x) ≤ 1 := by
  have hsign : (if x.isNegative then ['-'] else []).count '.' = 0 := by split <;> rfl
  rw [points, text, String.toList_ofList, List.count_append, hsign, Nat.zero_add]
  split_ifs
  · decide
  · exact count_text _

end Shortest

/-! ## Quotes -/

namespace Quoted

/-- The characters of a text as they are shown in quotes. -/
def escaped (cs : List Char) : List Char := cs.flatMap (escape double)

theorem toList_text (s : String) : (text s).toList = double :: (escaped s.toList ++ [double]) := by
  rw [text, String.toList_ofList, List.cons_append, escaped]

theorem point_not_mem_toDigits (n : Nat) : '.' ∉ Nat.toDigits 16 n := by
  induction n using Nat.strongRecOn with
  | ind n ih =>
    have hdigit : ∀ m, '.' ≠ Nat.digitChar m := fun m => (Nat.digitChar_ne '.' (by decide)).symm
    by_cases hn : n < 16
    · rw [Nat.toDigits_of_lt_base hn, List.mem_singleton]
      exact hdigit n
    · rw [Nat.toDigits_of_base_le (by decide) (by omega), List.mem_append, List.mem_singleton]
      rintro (h | h)
      · exact ih (n / 16) (by omega) h
      · exact hdigit _ h

/-- A character shows as itself, or behind a backslash without a point. -/
theorem escape_cases (c : Char) :
    escape double c = [c] ∨ ∃ r, escape double c = '\\' :: r ∧ '.' ∉ r := by
  unfold escape
  split_ifs with hnull htab hreturn hline hmark hinvisible
  · exact .inr ⟨_, rfl, by decide⟩
  · exact .inr ⟨_, rfl, by decide⟩
  · exact .inr ⟨_, rfl, by decide⟩
  · exact .inr ⟨_, rfl, by decide⟩
  · refine .inr ⟨_, rfl, fun h => ?_⟩
    rw [← List.mem_singleton.mp h] at hmark
    exact absurd hmark (by decide)
  · refine .inr ⟨'u' :: Char.ofNat 0x7B :: (codePoint c ++ [Char.ofNat 0x7D]), rfl, fun h => ?_⟩
    simp only [List.mem_cons, List.mem_append, List.not_mem_nil, or_false] at h
    rcases h with h | h | h | h
    · exact absurd h (by decide)
    · exact absurd h (by decide)
    · exact point_not_mem_toDigits _ h
    · exact absurd h (by decide)
  · exact .inl rfl

theorem escaped_cons (c : Char) (cs : List Char) :
    escaped (c :: cs) = escape double c ++ escaped cs :=
  List.flatMap_cons

/-- A point that is shown is a point of the text. -/
theorem split_of_escaped {cs u v : List Char} (h : escaped cs = u ++ '.' :: v) :
    ∃ ds es, cs = ds ++ '.' :: es ∧ escaped ds = u ∧ escaped es = v := by
  induction cs generalizing u with
  | nil => exact absurd h (by simp [escaped])
  | cons c cs ih =>
    rw [escaped_cons] at h
    rcases List.append_eq_append_iff.mp h with ⟨u', rfl, hrest⟩ | ⟨b, hb, hrest⟩
    · obtain ⟨ds, es, rfl, hds, hes⟩ := ih hrest
      exact ⟨c :: ds, es, rfl, by rw [escaped_cons, hds], hes⟩
    · cases b with
      | nil =>
        rw [List.append_nil] at hb
        obtain ⟨ds, es, rfl, hds, hes⟩ := ih (u := []) hrest.symm
        exact ⟨c :: ds, es, rfl, by rw [escaped_cons, hds, hb, List.append_nil], hes⟩
      | cons b bs =>
        obtain ⟨rfl, rfl⟩ := List.cons.inj hrest
        rcases escape_cases c with hself | ⟨r, hr, hpoint⟩
        · rw [hself, List.singleton_eq_append_iff] at hb
          rcases hb with ⟨rfl, hb⟩ | ⟨-, hb⟩
          · obtain ⟨rfl, rfl⟩ := List.cons.inj hb
            exact ⟨[], cs, rfl, rfl, rfl⟩
          · cases hb
        · have hmem : '.' ∈ '\\' :: r := by
            rw [← hr, hb]
            simp
          rcases List.mem_cons.mp hmem with hslash | hmem
          · exact absurd hslash (by decide)
          · exact absurd hmem hpoint

/-- A text that is shown without a backslash is shown as it is. -/
theorem eq_of_escaped {cs : List Char} (h : '\\' ∉ escaped cs) : escaped cs = cs := by
  induction cs with
  | nil => rfl
  | cons c cs ih =>
    rw [escaped_cons, List.mem_append, not_or] at h
    rcases escape_cases c with hself | ⟨r, hr, -⟩
    · rw [escaped_cons, hself, ih h.2, List.singleton_append]
    · rw [hr] at h
      exact absurd List.mem_cons_self h.1

/-- **What a message shows between two points is between two points of the text that it quotes**,
if no backslash is in it, and the message has no points of its own. -/
theorem between_of_infix {front back text : String} {p : List Char} (hfront : points front = 0)
    (hback : points back = 0) (hp : '\\' ∉ p)
    (h : '.' :: (p ++ ['.']) <:+: (front ++ Quoted.text text ++ back).toList) :
    '.' :: (p ++ ['.']) <:+: text.toList := by
  have hlast : ('.' :: (p ++ ['.'])).getLast? = some '.' := by
    rw [← List.cons_append, List.getLast?_concat]
  -- The points can only be those of the text.
  have hfront' : '.' ∉ front.toList ++ [double] := by
    rw [List.mem_append, not_or]
    exact ⟨points_eq_zero_iff.mp hfront, by decide⟩
  have hback' : '.' ∉ double :: back.toList := by
    rw [List.mem_cons, not_or]
    exact ⟨by decide, points_eq_zero_iff.mp hback⟩
  have hmessage : (front ++ Quoted.text text ++ back).toList
      = (front.toList ++ [double]) ++ (escaped text.toList ++ (double :: back.toList)) := by
    simp [toList_text]
  rw [hmessage] at h
  obtain ⟨u, v, huv⟩ := infix_left_of_last hlast hback' (infix_right_of_head rfl hfront' h)
  have hsplit : escaped text.toList = u ++ '.' :: (p ++ '.' :: v) := by
    rw [← huv]
    simp
  obtain ⟨ds, es, htext, -, hes⟩ := split_of_escaped hsplit
  obtain ⟨ms, ns, rfl, hms, -⟩ := split_of_escaped hes
  rw [← hms] at hp ⊢
  rw [eq_of_escaped hp, htext]
  exact ⟨ds, ns, by simp⟩

end Quoted

end SignIn
