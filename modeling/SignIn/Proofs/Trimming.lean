import Mathlib.Data.List.TakeWhile
import SignIn.Text.Blank

/-!
# Trimming

Trimming takes off what is put around a text, as long as the text has nothing to trim at its own
ends; and what it leaves has nothing to trim there.
-/

namespace SignIn.Blank

section List

variable {α : Type} {p : α → Bool}

/-- Nothing at either end of a list satisfies `p`. -/
structure Bare (p : α → Bool) (l : List α) : Prop where
  head : ∀ a ∈ l.head?, p a = false
  last : ∀ a ∈ l.getLast?, p a = false

theorem bare_iff {l : List α} :
    Bare p l ↔ l.head?.all (!p ·) = true ∧ l.getLast?.all (!p ·) = true := by
  simp only [Option.all_eq_true, Bool.not_eq_true']
  exact ⟨fun h => ⟨h.head, h.last⟩, fun h => ⟨h.1, h.2⟩⟩

instance {l : List α} : Decidable (Bare p l) := decidable_of_iff' _ bare_iff

theorem Bare.of_all {l : List α} (h : ∀ a ∈ l, p a = false) : Bare p l :=
  ⟨fun a ha => h a (List.mem_of_head? ha), fun a ha => h a (List.mem_of_getLast? ha)⟩

theorem Bare.trimList {l : List α} (h : Bare p l) : trimList p l = l :=
  trimList_of_ends h.head h.last

/-- Changes that `p` does not see do not matter. -/
theorem Bare.of_map {f : α → α} (hf : ∀ a, p (f a) = p a) {l : List α} (h : Bare p (l.map f)) :
    Bare p l := by
  refine ⟨fun a ha => ?_, fun a ha => ?_⟩
  · rw [← hf a]
    exact h.head _ (by rw [List.head?_map]; exact Option.mem_map_of_mem f ha)
  · rw [← hf a]
    exact h.last _ (by rw [List.getLast?_map]; exact Option.mem_map_of_mem f ha)

/-- Trimming takes what was put around a list that has nothing to trim. -/
theorem Bare.trimList_around {lead l trail : List α} (h : Bare p l)
    (hlead : ∀ a ∈ lead, p a = true)
    (htrail : ∀ a ∈ trail, p a = true) : Blank.trimList p (lead ++ l ++ trail) = l := by
  rw [Blank.trimList, List.append_assoc, List.dropWhile_append_of_pos hlead]
  -- If there is nothing between the blanks, all of them go from the front.
  cases l with
  | nil =>
    rw [List.nil_append, List.dropWhile_eq_nil_iff.mpr htrail]
    rfl
  | cons a l =>
    have hkeep : (a :: l).reverse.dropWhile p = (a :: l).reverse := by
      have hlast := h.last
      rw [← List.head?_reverse] at hlast
      cases hl : (a :: l).reverse with
      | nil => rfl
      | cons b m =>
        rw [hl] at hlast
        exact List.dropWhile_cons_of_neg (by rw [hlast b rfl]; decide)
    rw [List.cons_append, List.dropWhile_cons_of_neg (by rw [h.head a rfl]; decide),
      ← List.cons_append, List.reverse_append,
      List.dropWhile_append_of_pos (fun b hb => htrail b (List.mem_reverse.mp hb)), hkeep,
      List.reverse_reverse]

theorem head_dropWhile (l : List α) : ∀ a ∈ (l.dropWhile p).head?, p a = false := by
  intro a ha
  have hkept := List.head?_dropWhile_not p l
  rwa [Option.mem_def.mp ha] at hkept

/-- What the second pass leaves is the front of what the first pass left. -/
theorem trimList_front (l : List α) : trimList p l <+: l.dropWhile p := by
  have hsuffix : (l.dropWhile p).reverse.dropWhile p <:+ (l.dropWhile p).reverse :=
    List.dropWhile_suffix p
  refine List.reverse_suffix.mp ?_
  rwa [Blank.trimList, List.reverse_reverse]

/-- Trimming only takes away. -/
theorem sublist_trimList (l : List α) : (trimList p l).Sublist l :=
  (trimList_front l).sublist.trans (List.dropWhile_suffix p).sublist

/-- **Trimming leaves nothing to trim.** -/
theorem bare_trimList (l : List α) : Bare p (trimList p l) := by
  refine ⟨fun a ha => head_dropWhile (p := p) l a ?_, ?_⟩
  · obtain ⟨t, ht⟩ := trimList_front (p := p) l
    rw [← ht, List.head?_append]
    simp [Option.mem_def.mp ha]
  · rw [Blank.trimList, List.getLast?_reverse]
    exact head_dropWhile _

theorem trimList_eq_nil_iff {l : List α} : trimList p l = [] ↔ ∀ a ∈ l, p a = true := by
  rw [trimList, List.reverse_eq_nil_iff, List.dropWhile_eq_nil_iff]
  simp only [List.mem_reverse]
  constructor
  · intro h
    -- Whatever the first pass leaves begins with an element that is kept.
    have hnil : l.dropWhile p = [] := by
      cases hl : l.dropWhile p with
      | nil => rfl
      | cons a m =>
        have hkept := head_dropWhile (p := p) l a (by rw [hl]; rfl)
        rw [h a (by rw [hl]; exact List.mem_cons_self)] at hkept
        cases hkept
    exact List.dropWhile_eq_nil_iff.mp hnil
  · intro h a ha
    exact h a ((List.dropWhile_suffix p).subset ha)

end List

theorem toList_trim (s : String) : (trim s).toList = trimList isBlank s.toList := by
  rw [trim, String.toList_ofList]

theorem trim_trim (s : String) : trim (trim s) = trim s := by
  rw [← String.toList_inj, toList_trim, toList_trim, (bare_trimList _).trimList]

theorem trim_eq_empty_iff {s : String} : trim s = "" ↔ ∀ c ∈ s.toList, isBlank c = true := by
  rw [← String.toList_inj, toList_trim, String.toList_empty, trimList_eq_nil_iff]

end SignIn.Blank
