/-!
# Blank characters

The Unicode property White_Space, and trimming by it. The property has 25 members; the zero-width
characters U+200B and U+FEFF are not among them.
-/

namespace SignIn.Blank

/-- A character with the Unicode property White_Space. -/
def isBlank (c : Char) : Bool :=
  let n := c.toNat
  (9 ≤ n && n ≤ 13) || n == 0x20 || n == 0x85 || n == 0xA0 || n == 0x1680 ||
    (0x2000 ≤ n && n ≤ 0x200A) || n == 0x2028 || n == 0x2029 || n == 0x202F || n == 0x205F ||
    n == 0x3000

/-- Drops the leading elements, and the trailing ones, that satisfy `p`. -/
def trimList {α : Type} (p : α → Bool) (l : List α) : List α :=
  ((l.dropWhile p).reverse.dropWhile p).reverse

/-- The text without its leading and trailing blanks. -/
def trim (s : String) : String := String.ofList (trimList isBlank s.toList)

theorem trimList_of_ends {α : Type} {p : α → Bool} {l : List α}
    (hd : ∀ a ∈ l.head?, p a = false) (tl : ∀ a ∈ l.getLast?, p a = false) :
    trimList p l = l := by
  have front : ∀ m : List α, (∀ a ∈ m.head?, p a = false) → m.dropWhile p = m := by
    intro m hm
    cases m with
    | nil => rfl
    | cons a m => simp [hm a (by simp)]
  rw [trimList, front l hd, front _ (by simpa using tl), List.reverse_reverse]

end SignIn.Blank
