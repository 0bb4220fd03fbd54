import SignIn.Proofs.JsonGrammar
import SignIn.Proofs.Utf8

/-!
# A number is read as what it spells

A number is read as far as its digits go, so what follows it must not be able to extend it: a
blank, a comma, a closing bracket, or the end of the text. What is read is its numeral, the digits
as they stand there. That an integer of 64 bits is spelled by its decimal digits alone rests on one
fact: digits that do not begin with a zero are the digits of their value.
-/

namespace SignIn.Json

/-! ## Digits -/

/-- The bytes of a number's decimal digits. -/
def digitBytes (n : Nat) : Bytes := Utf8.encode (Decimal.ofNat n)

theorem isDigit_bounds {c : Char} (h : c.isDigit) : 0x30 ≤ c.toNat ∧ c.toNat ≤ 0x39 :=
  Char.isDigit_iff_toNat.mp h

/-- Digits are spelled by one byte each. -/
theorem encodeChars_digits {cs : List Char} (h : ∀ c ∈ cs, c.isDigit) :
    Utf8.encodeChars cs = cs.map fun c => UInt8.ofNat c.toNat := by
  induction cs with
  | nil => rfl
  | cons c cs ih =>
    have hc := (isDigit_bounds (h c (by simp))).2
    rw [Utf8.encodeChars_cons, Utf8.encodeChar_ascii (by omega), ih fun x hx => h x (by simp [hx]),
      List.map_cons, List.singleton_append]

theorem isDigit_toDigits {n : Nat} : ∀ c ∈ Nat.toDigits 10 n, c.isDigit :=
  fun _ hc => Nat.isDigit_of_mem_toDigits (by decide) (by decide) hc

theorem digitBytes_eq (n : Nat) :
    digitBytes n = (Nat.toDigits 10 n).map fun c => UInt8.ofNat c.toNat := by
  rw [digitBytes, Utf8.encode, Decimal.ofNat, String.toList_ofList,
    encodeChars_digits isDigit_toDigits]

theorem isDigit_byte {c : Char} (h : c.isDigit) : isDigit (UInt8.ofNat c.toNat) = true := by
  obtain ⟨h1, h2⟩ := isDigit_bounds h
  have hv : (UInt8.ofNat c.toNat).toNat = c.toNat := Utf8.toNat_byte (by omega)
  have hlo : (0x30 : UInt8) ≤ UInt8.ofNat c.toNat := by
    rw [UInt8.le_iff_toNat_le, hv]; exact h1
  have hhi : UInt8.ofNat c.toNat ≤ (0x39 : UInt8) := by
    rw [UInt8.le_iff_toNat_le, hv]; exact h2
  simp [isDigit, hlo, hhi]

theorem isDigit_digitBytes (n : Nat) : ∀ b ∈ digitBytes n, isDigit b = true := by
  intro b hb
  rw [digitBytes_eq] at hb
  obtain ⟨c, hc, rfl⟩ := List.mem_map.mp hb
  exact isDigit_byte (isDigit_toDigits c hc)

/-- Further digits never make a number smaller. -/
theorem le_ofDigitChars (cs : List Char) (n : Nat) : n ≤ Nat.ofDigitChars 10 cs n := by
  rw [Nat.ofDigitChars_eq_ofDigitChars_zero]
  have := Nat.le_mul_of_pos_left n (Nat.pow_pos (n := cs.length) (show 0 < 10 by decide))
  omega

/-- Digits are absorbed whole while their value stays within the limit. -/
theorem absorb_digits {limit : Nat} {cs : List Char} (h : ∀ c ∈ cs, c.isDigit) (n : Nat)
    (hle : Nat.ofDigitChars 10 cs n ≤ limit) :
    absorb limit n (cs.map fun c => UInt8.ofNat c.toNat) = (Nat.ofDigitChars 10 cs n, []) := by
  induction cs generalizing n with
  | nil => rfl
  | cons c cs ih =>
    obtain ⟨h1, h2⟩ := isDigit_bounds (h c (by simp))
    have hv : (UInt8.ofNat c.toNat).toNat = c.toNat := Utf8.toNat_byte (by omega)
    have hz : '0'.toNat = 0x30 := rfl
    have hm : n * 10 + (c.toNat - 0x30) = 10 * n + (c.toNat - '0'.toNat) := by omega
    rw [Nat.ofDigitChars_cons] at hle ⊢
    -- The value only grows with further digits, so it is within the limit after the first of them.
    have hfirst : 10 * n + (c.toNat - '0'.toNat) ≤ limit := Nat.le_trans (le_ofDigitChars cs _) hle
    rw [List.map_cons, absorb, hv, hm, if_pos hfirst]
    exact ih (fun x hx => h x (by simp [hx])) _ hle

theorem absorb_digitBytes {limit n : Nat} (h : n ≤ limit) :
    absorb limit 0 (digitBytes n) = (n, []) := by
  rw [digitBytes_eq, absorb_digits isDigit_toDigits 0 (by rwa [Nat.ofDigitChars_ten_toDigits]),
    Nat.ofDigitChars_ten_toDigits]

/-- Only zero begins with a zero. -/
theorem head_toDigits {n : Nat} (h : n ≠ 0) : (Nat.toDigits 10 n).head? ≠ some '0' := by
  induction n using Nat.strongRecOn with
  | ind n ih =>
    rw [Nat.toDigits_eq_if (by decide)]
    split
    · rename_i hn
      have hd : n = 1 ∨ n = 2 ∨ n = 3 ∨ n = 4 ∨ n = 5 ∨ n = 6 ∨ n = 7 ∨ n = 8 ∨ n = 9 := by omega
      rcases hd with rfl | rfl | rfl | rfl | rfl | rfl | rfl | rfl | rfl <;> decide
    -- With one digit more a number still begins as it did.
    · have h10 := ih (n / 10) (by omega) (by omega)
      obtain ⟨c, cs, hcs⟩ := List.exists_cons_of_ne_nil
        (Nat.toDigits_ne_nil (n := n / 10) (b := 10))
      rw [hcs] at h10 ⊢
      exact h10

theorem isWhole_digitBytes (n : Nat) : IsWhole (digitBytes n) := by
  have hne : digitBytes n ≠ [] := by simp [digitBytes_eq, Nat.toDigits_ne_nil]
  refine ⟨⟨hne, isDigit_digitBytes n⟩, fun hzero => ?_⟩
  by_cases hn : n = 0
  · subst hn
    decide
  -- No other number begins with a zero.
  · obtain ⟨c, cs, hcs⟩ := List.exists_cons_of_ne_nil (Nat.toDigits_ne_nil (n := n) (b := 10))
    have hhead := head_toDigits hn
    have hd : c.isDigit := isDigit_toDigits c (by rw [hcs]; simp)
    have hlt := (isDigit_bounds hd).2
    rw [digitBytes_eq, hcs, List.map_cons, List.head?_cons, Option.some.injEq] at hzero
    have hv : c.toNat = 0x30 := by
      rw [← Utf8.toNat_byte (show c.toNat < 256 by omega), hzero]
      rfl
    have hz : c = '0' := by rw [← Char.ofNat_toNat c, hv]
    rw [hcs, hz] at hhead
    exact absurd rfl hhead

theorem digit_bounds {b : UInt8} (h : isDigit b = true) : 0x30 ≤ b.toNat ∧ b.toNat ≤ 0x39 := by
  rw [isDigit, Bool.and_eq_true, decide_eq_true_eq, decide_eq_true_eq, UInt8.le_iff_toNat_le,
    UInt8.le_iff_toNat_le] at h
  exact h

/-- A digit is all that there is of its value. -/
theorem digitBytes_digit {b : UInt8} (h : isDigit b = true) :
    digitBytes (b.toNat - 0x30) = [b] := by
  have hall : ∀ n < 256, isDigit (UInt8.ofNat n) = true →
      digitBytes (n - 0x30) = [UInt8.ofNat n] := by
    decide +kernel
  have hb := hall b.toNat b.toNat_lt
  rw [UInt8.ofNat_toNat] at hb
  exact hb h

/-- With one digit more. -/
theorem digitBytes_snoc {m : Nat} (hm : 0 < m) {b : UInt8} (h : isDigit b = true) :
    digitBytes (m * 10 + (b.toNat - 0x30)) = digitBytes m ++ [b] := by
  obtain ⟨hlow, hhigh⟩ := digit_bounds h
  rw [← digitBytes_digit h, digitBytes_eq, digitBytes_eq, digitBytes_eq, ← List.map_append,
    Nat.toDigits_append_toDigits (by decide) hm (by omega), Nat.mul_comm]

/-- What is absorbed whole behind a positive number. -/
theorem digitBytes_append_of_absorb {limit m n : Nat} {ds : Bytes} (hm : 0 < m) (hle : m ≤ limit)
    (hds : ∀ b ∈ ds, isDigit b = true) (h : absorb limit m ds = (n, [])) :
    digitBytes n = digitBytes m ++ ds ∧ n ≤ limit := by
  induction ds generalizing m with
  | nil =>
    obtain rfl := (Prod.mk.inj h).1
    exact ⟨(List.append_nil _).symm, hle⟩
  | cons b ds ih =>
    rw [absorb] at h
    split at h
    · rename_i hnext
      obtain ⟨heq, hn⟩ := ih (by omega) hnext (fun x hx => hds x (by simp [hx])) h
      exact ⟨by rw [heq, digitBytes_snoc hm (hds b (by simp)), List.append_assoc]; rfl, hn⟩
    · cases h

/-- **Digits that do not begin with a zero are the digits of their value.** -/
theorem digitBytes_of_absorb {limit n : Nat} {ds : Bytes} (hds : IsWhole ds)
    (h : absorb limit 0 ds = (n, [])) : digitBytes n = ds ∧ n ≤ limit := by
  obtain ⟨⟨hne, hall⟩, hzero⟩ := hds
  cases ds with
  | nil => exact absurd rfl hne
  | cons b ds =>
    have hb := hall b (by simp)
    obtain ⟨hlow, hhigh⟩ := digit_bounds hb
    rw [absorb, Nat.zero_mul, Nat.zero_add] at h
    split at h
    · rename_i hle
      by_cases hfirst : b = 0x30
      · obtain ⟨-, rfl⟩ := List.cons.inj (hzero (by rw [hfirst]; rfl))
        obtain rfl := (Prod.mk.inj h).1
        exact ⟨digitBytes_digit hb, hle⟩
      · have hpos : 0 < b.toNat - 0x30 := by
          have hne : b.toNat ≠ 0x30 := fun he => hfirst (UInt8.toNat_inj.mp he)
          omega
        obtain ⟨heq, hn⟩ :=
          digitBytes_append_of_absorb hpos hle (fun x hx => hall x (by simp [hx])) h
        exact ⟨by rw [heq, digitBytes_digit hb]; rfl, hn⟩
    · cases h

/-! ## What may follow -/

/-- What cannot extend digits. -/
def NoDigit (r : Bytes) : Prop := ∀ b ∈ r.head?, isDigit b = false

/-- What cannot extend a number: a blank, a comma, a closing bracket, or nothing at all. -/
def Stops (r : Bytes) : Prop := ∀ b ∈ r.head?, isBlank b = true ∨ b = 0x2C ∨ b = 0x5D ∨ b = 0x7D

/-- What a byte that may follow a number is not. -/
theorem Stops.head {r : Bytes} (h : Stops r) :
    ∀ b ∈ r.head?, isDigit b = false ∧ b ≠ 0x2E ∧ b ≠ 0x65 ∧ b ≠ 0x45 := by
  intro b hb
  rcases h b hb with hblank | rfl | rfl | rfl
  · simp only [isBlank, Bool.or_eq_true, beq_iff_eq] at hblank
    rcases hblank with ((rfl | rfl) | rfl) | rfl <;> decide
  all_goals decide

theorem Stops.noDigit {r : Bytes} (h : Stops r) : NoDigit r := fun b hb => (h.head b hb).1

section Following

variable {r t : Bytes}

theorem noDigit_fraction {f : Option Bytes} (h : SpellsFraction f t) (hr : NoDigit r) :
    NoDigit (t ++ r) := by
  cases h with
  | absent => exact hr
  | present => rintro b ⟨⟩; decide

/-- Behind the digits that may have a point comes none, and no digit either. -/
theorem noPoint_exponent {x : Option (Bool × Bytes)} (h : SpellsExponent x t) (hr : Stops r) :
    ∀ b ∈ (t ++ r).head?, isDigit b = false ∧ b ≠ 0x2E := by
  cases h with
  | absent => exact fun b hb => ⟨(hr.head b hb).1, (hr.head b hb).2.1⟩
  | present mark =>
    rintro b ⟨⟩
    rcases mark with rfl | rfl <;> decide

end Following

/-! ## Every spelling is read -/

section Spelled

variable (e : Error) {r t : Bytes}

theorem digits_spelled {ds : Bytes} (h : IsDigits ds) (hr : NoDigit r) :
    digits e (ds ++ r) = .ok (ds, r) := by
  obtain ⟨hne, hall⟩ := h
  obtain ⟨b, ds, rfl⟩ := List.exists_cons_of_ne_nil hne
  have hrest : ∀ x ∈ ds, isDigit x = true := fun x hx => hall x (by simp [hx])
  have htake : r.takeWhile isDigit = [] ∧ r.dropWhile isDigit = r := by
    cases r with
    | nil => exact ⟨rfl, rfl⟩
    | cons c r => simp [hr c rfl]
  rw [List.cons_append, digits, if_pos (hall b (by simp)), List.takeWhile_append_of_pos hrest,
    List.dropWhile_append_of_pos hrest, htake.1, htake.2, List.append_nil]

theorem whole_spelled {ds : Bytes} (h : IsWhole ds) (hr : NoDigit r) :
    whole e (ds ++ r) = .ok (ds, r) := by
  by_cases hzero : ds.head? = some 0x30
  · rw [h.2 hzero, List.singleton_append, whole, if_neg]
    rw [Option.any_eq_true]
    rintro ⟨b, hb, hdigit⟩
    rw [hr b hb] at hdigit
    cases hdigit
  · obtain ⟨b, ds, rfl⟩ := List.exists_cons_of_ne_nil h.1.1
    rw [whole]
    · exact digits_spelled e h.1 hr
    · rintro r' hr'
      exact hzero (by rw [(List.cons.inj hr').1]; rfl)

theorem fraction_spelled {f : Option Bytes} (h : SpellsFraction f t)
    (hr : ∀ b ∈ r.head?, isDigit b = false ∧ b ≠ 0x2E) : fraction e (t ++ r) = .ok (f, r) := by
  cases h with
  | absent =>
    rw [List.nil_append, fraction]
    rintro r' rfl
    exact (hr _ rfl).2 rfl
  | present hds =>
    rw [List.cons_append, fraction, digits_spelled e hds fun b hb => (hr b hb).1]

theorem exponentSign_spelled {negative : Bool} {ds : Bytes}
    (h : t = minus negative ∨ t = [0x2B] ∧ negative = false) (hds : IsDigits ds) :
    exponentSign (t ++ (ds ++ r)) = (negative, ds ++ r) := by
  obtain ⟨b, ds, rfl⟩ := List.exists_cons_of_ne_nil hds.1
  have hb := hds.2 b (by simp)
  rcases h with rfl | ⟨rfl, rfl⟩
  · cases negative with
    | true => rfl
    | false =>
      show exponentSign (b :: (ds ++ r)) = _
      rw [exponentSign]
      · rfl
      · rintro r' hr'
        rw [(List.cons.inj hr').1] at hb
        exact absurd hb (by decide)
      · rintro r' hr'
        rw [(List.cons.inj hr').1] at hb
        exact absurd hb (by decide)
  · rfl

theorem exponent_spelled {x : Option (Bool × Bytes)} (h : SpellsExponent x t) (hr : Stops r) :
    exponent e (t ++ r) = .ok (x, r) := by
  cases h with
  | absent =>
    cases r with
    | nil => rfl
    | cons b r =>
      obtain ⟨-, -, hlower, hupper⟩ := hr.head b rfl
      rw [List.nil_append, exponent, if_neg (by simp [hlower, hupper])]
  | present mark sign hds =>
    rw [List.cons_append, List.append_assoc, exponent, if_pos mark, exponentSign_spelled sign hds]
    dsimp only
    rw [digits_spelled e hds hr.noDigit]

/-- **A numeral is read from whatever spells it**, behind its minus sign. -/
theorem numeral_spelled (x : Numeral) {f t : Bytes} (hwhole : IsWhole x.whole)
    (hfraction : SpellsFraction x.fraction f) (hexponent : SpellsExponent x.exponent t)
    (hr : Stops r) : numeral e x.negative (x.whole ++ (f ++ t) ++ r) = .ok (x, r) := by
  have hpoint := noPoint_exponent hexponent hr
  rw [List.append_assoc, List.append_assoc, numeral,
    whole_spelled e hwhole (noDigit_fraction hfraction fun b hb => (hpoint b hb).1)]
  dsimp only
  rw [fraction_spelled e hfraction hpoint]
  dsimp only
  rw [exponent_spelled e hexponent hr]

end Spelled

/-! ## Nothing else is read -/

section Read

variable {e : Error} {s r : Bytes}

theorem spells_of_digits {ds : Bytes} (h : digits e s = .ok (ds, r)) :
    IsDigits ds ∧ s = ds ++ r := by
  cases s with
  | nil => cases h
  | cons b s =>
    rw [digits] at h
    split at h
    · rename_i hb
      obtain ⟨rfl, rfl⟩ := Prod.mk.inj (Except.ok.inj h)
      refine ⟨⟨by simp, List.forall_mem_cons.mpr ⟨hb, ?_⟩⟩, by simp⟩
      exact List.all_eq_true.mp List.all_takeWhile
    · cases h

theorem spells_of_whole {ds : Bytes} (h : whole e s = .ok (ds, r)) : IsWhole ds ∧ s = ds ++ r := by
  unfold whole at h
  split at h
  · split at h
    · cases h
    · obtain ⟨rfl, rfl⟩ := Prod.mk.inj (Except.ok.inj h)
      exact ⟨⟨⟨by decide, List.forall_mem_singleton.mpr (by decide)⟩, fun _ => rfl⟩, rfl⟩
  · rename_i hzero
    obtain ⟨hds, rfl⟩ := spells_of_digits h
    refine ⟨⟨hds, fun hhead => ?_⟩, rfl⟩
    obtain ⟨b, ds, rfl⟩ := List.exists_cons_of_ne_nil hds.1
    exact absurd (by rw [Option.some.inj hhead]; rfl) (hzero (ds ++ r))

theorem spells_of_fraction {f : Option Bytes} (h : fraction e s = .ok (f, r)) :
    ∃ t, SpellsFraction f t ∧ s = t ++ r := by
  unfold fraction at h
  split at h
  · split at h
    · rename_i hds
      obtain ⟨rfl, rfl⟩ := Prod.mk.inj (Except.ok.inj h)
      obtain ⟨hdigits, rfl⟩ := spells_of_digits hds
      exact ⟨_, .present hdigits, rfl⟩
    · cases h
  · obtain ⟨rfl, rfl⟩ := Prod.mk.inj (Except.ok.inj h)
    exact ⟨[], .absent, rfl⟩

theorem spells_of_exponentSign (s : Bytes) :
    ∃ t, s = t ++ (exponentSign s).2 ∧
      (t = minus (exponentSign s).1 ∨ t = [0x2B] ∧ (exponentSign s).1 = false) := by
  unfold exponentSign
  split
  · exact ⟨[0x2B], rfl, .inr ⟨rfl, rfl⟩⟩
  · exact ⟨[0x2D], rfl, .inl rfl⟩
  · exact ⟨[], rfl, .inl rfl⟩

theorem spells_of_exponent {x : Option (Bool × Bytes)} (h : exponent e s = .ok (x, r)) :
    ∃ t, SpellsExponent x t ∧ s = t ++ r := by
  cases s with
  | nil =>
    obtain ⟨rfl, rfl⟩ := Prod.mk.inj (Except.ok.inj h)
    exact ⟨[], .absent, rfl⟩
  | cons b s =>
    rw [exponent] at h
    split at h
    · rename_i hmark
      split at h
      · rename_i hds
        obtain ⟨rfl, rfl⟩ := Prod.mk.inj (Except.ok.inj h)
        obtain ⟨hdigits, hrest⟩ := spells_of_digits hds
        obtain ⟨t, ht, hsign⟩ := spells_of_exponentSign s
        rw [hrest] at ht
        exact ⟨_, .present hmark hsign hdigits, by rw [ht]; simp⟩
      · cases h
    · obtain ⟨rfl, rfl⟩ := Prod.mk.inj (Except.ok.inj h)
      exact ⟨[], .absent, rfl⟩

/-- **What is read as a numeral spells it.** -/
theorem spells_of_numeral {negative : Bool} {x : Numeral} (h : numeral e negative s = .ok (x, r)) :
    ∃ t, SpellsNumeral x (minus negative ++ t) ∧ s = t ++ r := by
  rw [numeral] at h
  split at h
  · cases h
  · rename_i hwhole
    split at h
    · cases h
    · rename_i hfraction
      split at h
      · cases h
      · rename_i hexponent
        obtain ⟨rfl, rfl⟩ := Prod.mk.inj (Except.ok.inj h)
        obtain ⟨hw, rfl⟩ := spells_of_whole hwhole
        obtain ⟨f, hf, rfl⟩ := spells_of_fraction hfraction
        obtain ⟨t, ht, rfl⟩ := spells_of_exponent hexponent
        exact ⟨_, .mk hw hf ht, by simp⟩

end Read

/-! ## Integers -/

theorem minus_digitBytes_natAbs (n : Int) :
    minus (decide (n < 0)) ++ digitBytes n.natAbs = printInt n := by
  cases n with
  | ofNat n => rfl
  | negSucc n =>
    rw [printInt, Decimal.ofInt, Utf8.encode_append, decide_eq_true (Int.negSucc_lt_zero n)]
    rfl

/-- An integer of 64 bits is spelled by a numeral of its own. -/
theorem spellsNumeral_printInt {n : Int} (low : -2 ^ 63 ≤ n) (high : n < 2 ^ 64) :
    ∃ x : Numeral, SpellsNumeral x (printInt n) ∧ x.value = .ok (.int n) := by
  have hmax : maxSignificand = 18446744073709551615 := by decide
  have hpow : Nat.pow 2 63 = 9223372036854775808 := by decide
  refine ⟨⟨decide (n < 0), digitBytes n.natAbs, none, none⟩, ?_, ?_⟩
  · have hspells : SpellsNumeral ⟨decide (n < 0), digitBytes n.natAbs, none, none⟩ _ :=
      .mk (isWhole_digitBytes n.natAbs) .absent .absent
    rwa [List.append_nil, List.append_nil, minus_digitBytes_natAbs] at hspells
  · rw [Numeral.value, absorb_digitBytes (by omega)]
    dsimp only
    rw [integerValue]
    by_cases hneg : n < 0
    · rw [decide_eq_true hneg, if_neg (by decide), if_pos ⟨by omega, by omega⟩]
      congr
      omega
    · rw [decide_eq_false hneg, if_pos (by decide)]
      congr
      omega

theorem spells_of_integerValue {negative : Bool} {m : Nat} {n : Int}
    (h : integerValue negative m = .int n) (hm : m ≤ maxSignificand) :
    minus negative ++ digitBytes m = printInt n ∧ -2 ^ 63 ≤ n ∧ n < 2 ^ 64 := by
  have hmax : maxSignificand = 18446744073709551615 := by decide
  have hpow : Nat.pow 2 63 = 9223372036854775808 := by decide
  rw [integerValue] at h
  split at h
  · rename_i hpositive
    obtain rfl := Number.int.inj h
    rw [Bool.not_eq_true'] at hpositive
    exact ⟨by rw [hpositive]; rfl, by omega, by omega⟩
  · rename_i hnegative
    split at h
    · rename_i hrange
      obtain rfl := Number.int.inj h
      rw [Bool.not_eq_true, Bool.not_eq_false'] at hnegative
      refine ⟨?_, by omega, by omega⟩
      rw [hnegative, ← minus_digitBytes_natAbs, decide_eq_true (by omega), Int.natAbs_neg,
        Int.natAbs_natCast]
    · cases h

theorem signed_ne_int (negative : Bool) (x : Option Binary64) (n : Int) :
    signed negative x ≠ .ok (.int n) := by
  unfold signed
  split <;> simp

/-- **An integer is spelled by its decimal digits alone.** -/
theorem eq_printInt_of_value {x : Numeral} {n : Int} {t : Bytes} (h : SpellsNumeral x t)
    (hvalue : x.value = .ok (.int n)) : t = printInt n ∧ -2 ^ 63 ≤ n ∧ n < 2 ^ 64 := by
  obtain ⟨negative, w, fraction, exponent⟩ := x
  obtain ⟨hwhole, hfraction, hexponent⟩ := h
  obtain ⟨m, excess, habsorb⟩ : ∃ m excess, absorb maxSignificand 0 w = (m, excess) := ⟨_, _, rfl⟩
  rw [Numeral.value] at hvalue
  simp only [habsorb] at hvalue
  split at hvalue
  · obtain ⟨hdigits, hm⟩ := digitBytes_of_absorb hwhole habsorb
    obtain ⟨hprint, hrange⟩ := spells_of_integerValue (Except.ok.inj hvalue) hm
    cases hfraction
    cases hexponent
    rw [List.append_nil, List.append_nil]
    exact ⟨by rw [← hprint, hdigits], hrange⟩
  · exact absurd hvalue (signed_ne_int _ _ _)

end SignIn.Json
