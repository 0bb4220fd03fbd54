import SignIn.Text.CombiningClass
import SignIn.Text.Decomposition

/-!
# Composed text

The same text can be written with marks apart from their letters or together with them, and with
marks in one order or another. `compose` gives the one form in which everything that can be
together is together (Normalization Form C): first every character is taken apart, then marks are
put into order, then each character is put together with the last base before it, unless something
stands in between.
-/

namespace SignIn.Composed

/-- Takes a character apart, and its parts again up to the given depth. -/
def decomposeWithin (depth : Nat) (c : Char) : List Char :=
  match depth with
  | 0 => [c]
  | depth + 1 =>
    match Decomposition.find? c with
    | none => [c]
    | some cs => cs.flatMap (decomposeWithin depth)

/-- Takes a character apart. No character is put together in more than four steps. -/
def decomposeChar (c : Char) : List Char := decomposeWithin 4 c

/-- Puts a character in front of text whose marks are in order: it goes behind the marks of lower
classes. -/
def insertMark (c : Char) : List Char → List Char
  | [] => [c]
  | d :: r =>
    if 0 < CombiningClass.ofChar d ∧ CombiningClass.ofChar d < CombiningClass.ofChar c then
      d :: insertMark c r
    else c :: d :: r

/-- Puts marks into the order of their classes; those of one class keep their order. -/
def order (s : List Char) : List Char := s.foldr insertMark []

/-- Puts text together whose first base is `base`. The marks that could not be put together with it
so far are in `marks`, the last of them first. -/
def composeFrom (base : Char) (marks : List Char) : List Char → List Char
  | [] => base :: marks.reverse
  | c :: r =>
    let isBlocked := marks.head?.any fun m => CombiningClass.ofChar c ≤ CombiningClass.ofChar m
    match if isBlocked then none else Decomposition.compose? base c with
    | some b => composeFrom b marks r
    | none =>
      if CombiningClass.ofChar c = 0 then base :: marks.reverse ++ composeFrom c [] r
      else composeFrom base (c :: marks) r

/-- Puts text together whose marks are in order. -/
def composeOrdered : List Char → List Char
  | [] => []
  | c :: r => if CombiningClass.ofChar c = 0 then composeFrom c [] r else c :: composeOrdered r

def compose (s : List Char) : List Char := composeOrdered (order (s.flatMap decomposeChar))

end SignIn.Composed
