import SignIn.Json.Printer
import SignIn.Json.Record
import SignIn.Proofs.JsonNumber
import SignIn.Proofs.JsonString

/-!
# Printed scalars are read back

A string is printed as one of the texts that spell it. An integer is read as far as its digits go,
so what follows it must not be able to extend it: inside an object that is a comma or the closing
brace.
-/

namespace SignIn.Json

/-! ## Strings -/

theorem printString_append (s : String) (r : Bytes) :
    printString s ++ r = 0x22 :: (s.toList.flatMap printChar ++ 0x22 :: r) := by
  simp [printString]

/-- **A string is read from whatever spells it.** -/
theorem front_spelled {s : String} {t : Bytes} (h : SpellsString s t) (r : Bytes) :
    front (t ++ r) = .ok (.string s, r) := by
  obtain ⟨u, hu, rfl⟩ := h
  have htext : 0x22 :: u ++ [0x22] ++ r = 0x22 :: (u ++ 0x22 :: r) := by simp
  have hquote : skipBlanks (0x22 :: (u ++ 0x22 :: r)) = 0x22 :: (u ++ 0x22 :: r) :=
    List.dropWhile_cons_of_neg (by decide)
  rw [htext, front, hquote]
  dsimp only
  rw [if_pos rfl, string_spelled hu]

theorem front_printString (s : String) (r : Bytes) :
    front (printString s ++ r) = .ok (.string s, r) := front_spelled (spellsString_printString s) r

theorem stringField_printString (s : String) (r : Bytes) :
    stringField (printString s ++ r) = .ok (s, r) := by
  rw [stringField, front_printString]

/-! ## Truth values -/

theorem boolField_printBool (b : Bool) (r : Bytes) :
    boolField (printBool b ++ r) = .ok (b, r) := by
  have ht : printBool true = 0x74 :: [0x72, 0x75, 0x65] := by decide
  have hf : printBool false = 0x66 :: [0x61, 0x6C, 0x73, 0x65] := by decide
  cases b with
  | true => rw [ht, boolField, front]; simp [skipBlanks, isBlank, word, keep]
  | false => rw [hf, boolField, front]; simp [skipBlanks, isBlank, word, keep]

/-! ## Integers -/

/-- A continuation that cannot extend a number: a comma, or the end of an object. -/
def Closes (r : Bytes) : Prop := ∃ b t, r = b :: t ∧ (b = 0x2C ∨ b = 0x7D)

theorem closes_comma (r : Bytes) : Closes (0x2C :: r) := ⟨_, _, rfl, .inl rfl⟩

theorem closes_brace (r : Bytes) : Closes (0x7D :: r) := ⟨_, _, rfl, .inr rfl⟩

theorem Closes.stops {r : Bytes} (h : Closes r) : Stops r := by
  obtain ⟨b, t, rfl, hb⟩ := h
  rintro c ⟨⟩
  exact .inr (hb.elim .inl fun hb => .inr (.inr hb))

theorem isBlank_of_isDigit {b : UInt8} (h : isDigit b = true) : isBlank b = false := by
  rw [Bool.eq_false_iff]
  intro hb
  simp only [isBlank, Bool.or_eq_true, beq_iff_eq] at hb
  rcases hb with ((rfl | rfl) | rfl) | rfl <;> exact absurd h (by decide)

theorem front_digit {b : UInt8} (h : isDigit b = true) (s : Bytes) :
    front (b :: s) = numberFront false (b :: s) := by
  -- The bytes that begin something else are no digits.
  have hne : ∀ c : UInt8, isDigit c = false → b ≠ c := by
    intro c hc he
    rw [he, hc] at h
    exact Bool.false_ne_true h
  rw [front, skipBlanks, List.dropWhile_cons_of_neg (by rw [isBlank_of_isDigit h]; decide)]
  dsimp only
  rw [if_neg (hne _ (by decide)), if_neg (hne _ (by decide)), if_neg (hne _ (by decide)),
    if_neg (hne _ (by decide)), if_neg (hne _ (by decide)), if_neg (hne _ (by decide)),
    if_neg (hne _ (by decide)), if_pos h]

theorem front_minus (s : Bytes) : front (0x2D :: s) = numberFront true s := by
  rw [front, skipBlanks, List.dropWhile_cons_of_neg (by decide)]
  rfl

/-- **A number is read from whatever spells it**, before what cannot extend it. It has a value
unless it is too large. -/
theorem front_numeral_map {x : Numeral} {t : Bytes} (h : SpellsNumeral x t) {r : Bytes}
    (hr : Stops r) : front (t ++ r) = x.value.map fun n => (.number n, r) := by
  obtain ⟨negative, w, fraction, exponent⟩ := x
  obtain ⟨hwhole, hfraction, hexponent⟩ := h
  have hnumber := numeral_spelled .endInValue _ hwhole hfraction hexponent hr
  cases negative with
  | true =>
    show front (0x2D :: (w ++ _) ++ r) = _
    rw [List.cons_append, front_minus, numberFront, number, hnumber]
    dsimp only
    cases Numeral.value _ <;> rfl
  | false =>
    obtain ⟨b, w, rfl⟩ := List.exists_cons_of_ne_nil hwhole.1.1
    show front (b :: (w ++ _) ++ r) = _
    rw [List.cons_append, front_digit (hwhole.1.2 b (by simp)), numberFront, number]
    rw [List.cons_append, List.cons_append] at hnumber
    rw [hnumber]
    dsimp only
    cases Numeral.value _ <;> rfl

theorem front_numeral {x : Numeral} {n : Number} {t : Bytes} (h : SpellsNumeral x t)
    (hvalue : x.value = .ok n) {r : Bytes} (hr : Stops r) : front (t ++ r)
    = .ok (.number n, r) := by
  rw [front_numeral_map h hr, hvalue]
  rfl

/-- **A printed integer of 64 bits is read back**, before what cannot extend it. -/
theorem intField_printInt (i : Int64) {r : Bytes} (hr : Closes r) :
    intField (printInt i.toInt ++ r) = .ok (i, r) := by
  have hlo := i.le_toInt
  have hhi := i.toInt_lt
  have hback : Int64.ofInt i.toInt = i := Int64.ofInt_toInt i
  have htop : Int64.maxValue.toInt = 9223372036854775807 := by decide
  obtain ⟨x, hspells, hvalue⟩ := spellsNumeral_printInt (n := i.toInt) hlo (by omega)
  rw [intField, front_numeral hspells hvalue hr.stops]
  dsimp only
  rw [if_pos (by omega), hback]

end SignIn.Json
