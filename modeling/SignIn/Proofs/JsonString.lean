import SignIn.Json.Lexeme
import SignIn.Proofs.JsonGrammar
import SignIn.Proofs.Utf8

/-!
# A string is read as what it spells

The automaton that reads a string goes from its plain mode back to its plain mode over each
character, however that is spelled, and adds the bytes of the character. The other way round a text
that is read comes apart at the places where the automaton is in its plain mode, but only into
bytes and escapes: what the bytes between two escapes spell is decided at the closing quote, when
the whole is found to be UTF-8. No escape can stand inside a character, since its first byte
continues none.
-/

namespace SignIn.Json

/-! ## One step -/

/-- What is read behind a byte. -/
def resume (acc r : Bytes) : StringStep → Except Error (Bytes × Bytes)
  | .more mode text => stringBytes mode (text.reverse ++ acc) r
  | .close => .ok (acc.reverse, r)
  | .fail e => .error e

theorem stringBytes_cons (mode : StringMode) (acc : Bytes) (b : UInt8) (r : Bytes) :
    stringBytes mode acc (b :: r) = resume acc r (mode.step b) := by
  rw [stringBytes]
  cases mode.step b <;> rfl

/-! ## Bytes that stand for themselves -/

/-- A byte that stands for itself. -/
def IsPlain (b : UInt8) : Prop := b ≠ 0x22 ∧ b ≠ 0x5C ∧ ¬b < 0x20

theorem stringBytes_plain {s : Bytes} (h : ∀ b ∈ s, IsPlain b) (acc r : Bytes) :
    stringBytes .plain acc (s ++ r) = stringBytes .plain (s.reverse ++ acc) r := by
  induction s generalizing acc with
  | nil => rfl
  | cons b s ih =>
    obtain ⟨h1, h2, h3⟩ := h b (by simp)
    have hstep : StringMode.plain.step b = .more .plain [b] := by
      rw [StringMode.step, if_neg h1, if_neg h2, if_neg h3]
    rw [List.cons_append, stringBytes_cons, hstep, resume, ih fun x hx => h x (by simp [hx])]
    simp

/-- Every byte of a character that is not escaped stands for itself. -/
theorem isPlain_encodeChar {c : Char} (h1 : c.toNat ≠ 0x22) (h2 : c.toNat ≠ 0x5C)
    (h3 : ¬c.toNat < 0x20) : ∀ b ∈ Utf8.encodeChar c, IsPlain b := by
  have hplain : ∀ n, n < 256 → n ≠ 0x22 → n ≠ 0x5C → 0x20 ≤ n → IsPlain (UInt8.ofNat n) := by
    intro n hn hq hs hl
    have hv := Utf8.toNat_byte hn
    refine ⟨?_, ?_, ?_⟩
    · intro he; rw [he] at hv; exact hq hv.symm
    · intro he; rw [he] at hv; exact hs hv.symm
    · rw [UInt8.lt_iff_toNat_lt, hv]; exact Nat.not_lt.mpr hl
  have hc := Utf8.toNat_lt c
  have hv : c.val.toNat = c.toNat := rfl
  intro b hb
  unfold Utf8.encodeChar String.utf8EncodeChar at hb
  simp only [hv] at hb
  split at hb
  · rw [List.mem_singleton] at hb
    subst hb
    exact hplain _ (by omega) h1 h2 (by omega)
  -- the bytes of a longer sequence are all at least 0x80
  split at hb
  · simp only [List.mem_cons, List.not_mem_nil, or_false] at hb
    rcases hb with rfl | rfl <;> exact hplain _ (by omega) (by omega) (by omega) (by omega)
  split at hb
  · simp only [List.mem_cons, List.not_mem_nil, or_false] at hb
    rcases hb with rfl | rfl | rfl <;> exact hplain _ (by omega) (by omega) (by omega) (by omega)
  · simp only [List.mem_cons, List.not_mem_nil, or_false] at hb
    rcases hb with rfl | rfl | rfl | rfl <;>
      exact hplain _ (by omega) (by omega) (by omega) (by omega)

/-! ## Escapes -/

theorem stringBytes_escaped {b c : UInt8} (hb : b ≠ 0x75) (h : escaped? b = some c)
    (acc r : Bytes) :
    stringBytes .plain acc (0x5C :: b :: r) = stringBytes .plain (c :: acc) r := by
  have hescape : StringMode.plain.step 0x5C = .more .escape [] := by decide
  have hletter : StringMode.escape.step b = .more .plain [c] := by
    rw [StringMode.step, if_neg hb, h]
  rw [stringBytes_cons, hescape, resume, stringBytes_cons, hletter]
  rfl

theorem unitValue?_eq_some_iff {a b c d : UInt8} {n : Nat} :
    unitValue? [d, c, b, a] = some n ↔ SpellsUnit n [a, b, c, d] := by
  constructor
  · intro h
    cases ha : Hex.value? a with
    | none => simp [unitValue?, ha] at h
    | some i =>
      cases hb : Hex.value? b with
      | none => simp [unitValue?, hb] at h
      | some j =>
        cases hc : Hex.value? c with
        | none => simp [unitValue?, hc] at h
        | some k =>
          cases hd : Hex.value? d with
          | none => simp [unitValue?, hd] at h
          | some l =>
            simp only [unitValue?, List.mapM_cons, List.mapM_nil, ha, hb, hc, hd, Option.pure_def,
              Option.bind_eq_bind, Option.bind_some, Option.some.injEq] at h
            subst h
            exact .mk ha hb hc hd
  · rintro ⟨ha, hb, hc, hd⟩
    simp [unitValue?, ha, hb, hc, hd]

theorem value?_bounds {b : UInt8} {n : Nat} (h : Hex.value? b = some n) :
    n < 16 ∧ b.toNat < 0x80 := by
  simp only [Hex.value?] at h
  split_ifs at h with hdigit hupper hlower
  all_goals
    have := Option.some.inj h
    omega

theorem SpellsUnit.lt {n : Nat} {t : Bytes} (h : SpellsUnit n t) : n < 0x10000 := by
  obtain ⟨ha, hb, hc, hd⟩ := h
  have := (value?_bounds ha).1
  have := (value?_bounds hb).1
  have := (value?_bounds hc).1
  have := (value?_bounds hd).1
  omega

theorem SpellsUnit.isText {n : Nat} {t : Bytes} (h : SpellsUnit n t) : Utf8.IsText t := by
  obtain ⟨ha, hb, hc, hd⟩ := h
  exact .cons (value?_bounds ha).2 (.cons (value?_bounds hb).2 (.cons (value?_bounds hc).2
    (.cons (value?_bounds hd).2 .nil)))

/-- Four digits are taken together. -/
theorem stringBytes_digits (high : Option Nat) (acc r : Bytes) (a b c d : UInt8) :
    stringBytes (.unit [] high) acc (a :: b :: c :: d :: r)
      = resume acc r (match unitValue? [d, c, b, a] with
          | some n => unitStep high n
          | none => .fail .invalidEscape) := rfl

theorem stringBytes_unitDigits {n : Nat} {t : Bytes} (h : SpellsUnit n t) (high : Option Nat)
    (acc r : Bytes) :
    stringBytes (.unit [] high) acc (t ++ r) = resume acc r (unitStep high n) := by
  have hv := h
  obtain ⟨-, -, -, -⟩ := h
  rw [List.cons_append, List.cons_append, List.cons_append, List.cons_append, List.nil_append,
    stringBytes_digits, unitValue?_eq_some_iff.mpr hv]

/-- If anything is read behind a `u`, the four bytes there are digits. -/
theorem digits_of_stringBytes {high : Option Nat} {acc s : Bytes} {x : Bytes × Bytes}
    (h : stringBytes (.unit [] high) acc s = .ok x) :
    ∃ n t r, SpellsUnit n t ∧ s = t ++ r ∧ resume acc r (unitStep high n) = .ok x := by
  match s, h with
  | a :: b :: c :: d :: r, h =>
    rw [stringBytes_digits] at h
    cases hn : unitValue? [d, c, b, a] with
    | none => simp [hn, resume] at h
    | some n =>
      rw [hn] at h
      exact ⟨n, _, r, unitValue?_eq_some_iff.mp hn, rfl, h⟩

/-- A number that is no surrogate stands for its character. -/
theorem unitStep_char {n : Nat} (h : ¬(0xD800 ≤ n ∧ n ≤ 0xDFFF)) :
    unitStep none n = .more .plain (Utf8.encodeChar (Char.ofNat n)) := by
  unfold unitStep
  rw [if_neg (by omega), if_neg (by omega)]

theorem unitStep_high {n : Nat} (h : 0xD800 ≤ n ∧ n ≤ 0xDBFF) :
    unitStep none n = .more (.lowSlash n) [] := by
  unfold unitStep
  rw [if_neg (by omega), if_pos h]

theorem unitStep_lone {n : Nat} (h : 0xDC00 ≤ n ∧ n ≤ 0xDFFF) :
    unitStep none n = .fail .loneSurrogate := if_pos h

theorem unitStep_low {high n : Nat} (h : 0xDC00 ≤ n ∧ n ≤ 0xDFFF) :
    unitStep (some high) n = .more .plain
      (Utf8.encodeChar (Char.ofNat ((high - 0xD800) * 0x400 + (n - 0xDC00) + 0x10000))) := if_pos h

theorem unitStep_unpaired {high n : Nat} (h : ¬(0xDC00 ≤ n ∧ n ≤ 0xDFFF)) :
    unitStep (some high) n = .fail .loneSurrogate := if_neg h

theorem escaped?_of_mem {b : UInt8} {n : Nat} (h : (b, n) ∈ shortEscapes) :
    b.toNat < 0x80 ∧ b ≠ 0x75 ∧ n < 0x80 ∧ escaped? b = some (UInt8.ofNat n) := by
  have hall : ∀ p ∈ shortEscapes, p.1.toNat < 0x80 ∧ p.1 ≠ 0x75 ∧ p.2 < 0x80 ∧
      escaped? p.1 = some (UInt8.ofNat p.2) := by decide
  exact hall _ h

theorem mem_of_escaped? {b d : UInt8} (h : escaped? b = some d) : (b, d.toNat) ∈ shortEscapes := by
  have hall : ∀ n < 256, (escaped? (UInt8.ofNat n)).all
      (fun d => decide ((UInt8.ofNat n, d.toNat) ∈ shortEscapes)) = true := by decide +kernel
  have hb := hall b.toNat b.toNat_lt
  rw [UInt8.ofNat_toNat, h, Option.all_some, decide_eq_true_eq] at hb
  exact hb

/-- However a character is spelled, that is text. -/
theorem SpellsChar.isText {c : Char} {t : Bytes} (h : SpellsChar c t) : Utf8.IsText t := by
  cases h with
  | plain => exact Utf8.isText_encodeChar c
  | short stands => exact .cons (by decide) (.cons (escaped?_of_mem stands).1 .nil)
  | unit digits => exact .cons (by decide) (.cons (by decide) digits.isText)
  | pair _ _ _ first second =>
    exact (first.isText.cons (by decide)).cons (by decide) |>.append
      ((second.isText.cons (by decide)).cons (by decide))

/-- No character is a surrogate. -/
theorem not_surrogate (c : Char) : ¬(0xD800 ≤ c.toNat ∧ c.toNat ≤ 0xDFFF) := by
  have hv : c.val.toNat = c.toNat := rfl
  rcases c.valid with h | ⟨h, -⟩ <;> omega

/-! ## Every spelling is read -/

/-- **A character is read from whatever spells it.** -/
theorem stringBytes_char {c : Char} {t : Bytes} (h : SpellsChar c t) (acc r : Bytes) :
    stringBytes .plain acc (t ++ r)
      = stringBytes .plain ((Utf8.encodeChar c).reverse ++ acc) r := by
  have hno := not_surrogate c
  cases h with
  | plain quote slash high =>
    exact stringBytes_plain (isPlain_encodeChar quote slash (by omega)) acc r
  | short stands =>
    obtain ⟨-, hb, hlow, hescaped⟩ := escaped?_of_mem stands
    rw [Utf8.encodeChar_ascii hlow]
    exact stringBytes_escaped hb hescaped acc r
  | @unit t digits =>
    show stringBytes (.unit [] none) acc (t ++ r) = _
    rw [stringBytes_unitDigits digits, unitStep_char hno, Char.ofNat_toNat]
    rfl
  | @pair high low t u leading trailing code first second =>
    rw [List.append_assoc, List.cons_append, List.cons_append]
    show stringBytes (.unit [] none) acc (t ++ 0x5C :: 0x75 :: (u ++ r)) = _
    rw [stringBytes_unitDigits first, unitStep_high leading]
    show stringBytes (.unit [] (some high)) acc (u ++ r) = _
    rw [stringBytes_unitDigits second, unitStep_low trailing, ← code, Char.ofNat_toNat]
    rfl

theorem stringBytes_chars {cs : List Char} {t : Bytes} (h : Each SpellsChar cs t) (acc r : Bytes) :
    stringBytes .plain acc (t ++ 0x22 :: r) = .ok (acc.reverse ++ Utf8.encodeChars cs, r) := by
  induction h generalizing acc with
  | nil =>
    show Except.ok (acc.reverse, r) = _
    rw [Utf8.encodeChars, List.flatMap_nil, List.append_nil]
  | cons head _ ih =>
    rw [List.append_assoc, stringBytes_char head, ih, Utf8.encodeChars_cons, List.reverse_append,
      List.reverse_reverse, List.append_assoc]

/-- **A string is read from whatever spells it**, behind its opening quote. -/
theorem string_spelled {s : String} {t : Bytes} (h : Each SpellsChar s.toList t) (r : Bytes) :
    string (t ++ 0x22 :: r) = .ok (s, r) := by
  have hd : Utf8.decode? (Utf8.encodeChars s.toList) = some s := Utf8.decode?_encode s
  rw [string, stringBytes_chars h, List.reverse_nil, List.nil_append]
  dsimp only
  rw [hd]

/-! ## Nothing else is read -/

/-- The bytes `m` that are put down for a text `t`: one for each byte that stands for itself, and
those of a character for an escape. -/
inductive Puts : Bytes → Bytes → Prop
  | nil : Puts [] []
  | byte {b : UInt8} {m t : Bytes} (plain : IsPlain b) (rest : Puts m t) : Puts (b :: m) (b :: t)
  | char {c : Char} {s m t : Bytes} (spelled : SpellsChar c s) (rest : Puts m t) :
      Puts (Utf8.encodeChar c ++ m) (s ++ t)

section Inversion

variable {acc s : Bytes} {x : Bytes × Bytes}

/-- Behind a leading surrogate comes a trailing one. -/
theorem low_of_stringBytes {high : Nat} (h : stringBytes (.lowSlash high) acc s = .ok x) :
    ∃ low u r, s = 0x5C :: 0x75 :: u ++ r ∧ SpellsUnit low u ∧ (0xDC00 ≤ low ∧ low ≤ 0xDFFF) ∧
      resume acc r (unitStep (some high) low) = .ok x := by
  match s, h with
  | [b], h =>
    rw [stringBytes_cons, StringMode.step] at h
    split at h <;> cases h
  | b :: c :: s, h =>
    rw [stringBytes_cons, StringMode.step] at h
    split at h
    · rename_i hb
      rw [resume, stringBytes_cons, StringMode.step] at h
      split at h
      · rename_i hc
        obtain ⟨low, u, r, hlow, rfl, hstep⟩ := digits_of_stringBytes h
        by_cases htrailing : 0xDC00 ≤ low ∧ low ≤ 0xDFFF
        · exact ⟨low, u, r, by rw [hb, hc]; rfl, hlow, htrailing, hstep⟩
        · rw [unitStep_unpaired htrailing] at hstep
          cases hstep
      · cases h
    · cases h

/-- The number behind a `u` is that of a character, or of its surrogates one after the other. -/
theorem char_of_unit (h : stringBytes (.unit [] none) acc s = .ok x) :
    ∃ c t r, s = t ++ r ∧ SpellsChar c (0x5C :: 0x75 :: t) ∧
      stringBytes .plain ((Utf8.encodeChar c).reverse ++ acc) r = .ok x := by
  obtain ⟨n, t, r, hn, rfl, hstep⟩ := digits_of_stringBytes h
  have hlt := hn.lt
  by_cases hhigh : 0xD800 ≤ n ∧ n ≤ 0xDBFF
  · rw [unitStep_high hhigh] at hstep
    obtain ⟨low, u, r, rfl, hlow, htrailing, hrest⟩ := low_of_stringBytes hstep
    rw [unitStep_low htrailing] at hrest
    have hvalid : ((n - 0xD800) * 0x400 + (low - 0xDC00) + 0x10000).isValidChar :=
      .inr ⟨by omega, by omega⟩
    exact ⟨_, t ++ 0x5C :: 0x75 :: u, r, by simp,
      .pair hhigh htrailing (Utf8.toNat_ofNat hvalid) hn hlow, hrest⟩
  · by_cases hlone : 0xDC00 ≤ n ∧ n ≤ 0xDFFF
    · rw [unitStep_lone hlone] at hstep
      cases hstep
    · rw [unitStep_char (by omega)] at hstep
      have hvalid : n.isValidChar := by
        by_cases hlow : n < 0xD800
        · exact .inl hlow
        · exact .inr ⟨by omega, by omega⟩
      exact ⟨_, t, r, rfl, .unit (by rwa [Utf8.toNat_ofNat hvalid]), hstep⟩

theorem char_of_escape (h : stringBytes .escape acc s = .ok x) :
    ∃ c t r, s = t ++ r ∧ SpellsChar c (0x5C :: t) ∧
      stringBytes .plain ((Utf8.encodeChar c).reverse ++ acc) r = .ok x := by
  cases s with
  | nil => cases h
  | cons b s =>
    rw [stringBytes_cons, StringMode.step] at h
    split at h
    · rename_i hu
      obtain ⟨c, t, r, rfl, hc, hrest⟩ := char_of_unit h
      exact ⟨c, b :: t, r, rfl, by rwa [hu], hrest⟩
    · cases hd : escaped? b with
      | none => simp [hd, resume] at h
      | some d =>
        simp only [hd] at h
        have hmem := mem_of_escaped? hd
        have hlow := (escaped?_of_mem hmem).2.2.1
        refine ⟨Char.ofNat d.toNat, [b], s, rfl, .short (by rwa [Utf8.toNat_ofByte hlow]), ?_⟩
        rw [Utf8.encodeChar_ascii (by rwa [Utf8.toNat_ofByte hlow]), Utf8.toNat_ofByte hlow,
          UInt8.ofNat_toNat]
        exact h

/-- What a text begins with, when it is read in the plain mode. -/
theorem plain_cases (h : stringBytes .plain acc s = .ok x) :
    (s = 0x22 :: x.2 ∧ x.1 = acc.reverse) ∨
    (∃ b r, s = b :: r ∧ IsPlain b ∧ stringBytes .plain (b :: acc) r = .ok x) ∨
    (∃ c t r, s = 0x5C :: t ++ r ∧ SpellsChar c (0x5C :: t) ∧
      stringBytes .plain ((Utf8.encodeChar c).reverse ++ acc) r = .ok x) := by
  cases s with
  | nil => cases h
  | cons b s =>
    rw [stringBytes_cons, StringMode.step] at h
    split at h
    · rename_i hquote
      obtain rfl := Except.ok.inj h
      exact .inl ⟨by rw [hquote], rfl⟩
    split at h
    · rename_i hslash
      obtain ⟨c, t, r, rfl, hc, hrest⟩ := char_of_escape h
      exact .inr (.inr ⟨c, t, r, by rw [hslash]; rfl, hc, hrest⟩)
    split at h
    · cases h
    · rename_i hquote hslash hcontrol
      exact .inr (.inl ⟨b, s, rfl, ⟨hquote, hslash, hcontrol⟩, h⟩)

end Inversion

theorem puts_of_stringBytes {acc s bytes r : Bytes}
    (h : stringBytes .plain acc s = .ok (bytes, r)) :
    ∃ m t, Puts m t ∧ s = t ++ 0x22 :: r ∧ bytes = acc.reverse ++ m := by
  -- An escape takes several bytes at once, so the induction is on the length of the text.
  induction hn : s.length using Nat.strongRecOn generalizing acc s with
  | ind n ih =>
    subst hn
    rcases plain_cases h with ⟨rfl, rfl⟩ | ⟨b, s, rfl, hplain, hrest⟩ | ⟨c, t, s, rfl, hc, hrest⟩
    · exact ⟨[], [], .nil, rfl, (List.append_nil _).symm⟩
    · obtain ⟨m, t, hputs, rfl, rfl⟩ := ih _ (by simp) hrest rfl
      exact ⟨b :: m, b :: t, .byte hplain hputs, rfl, by simp⟩
    · have hlength : s.length < (0x5C :: t ++ s).length := by
        rw [List.length_append, List.length_cons]
        omega
      obtain ⟨m, u, hputs, rfl, rfl⟩ := ih _ hlength hrest rfl
      exact ⟨_, _, .char hc hputs, by simp, by simp⟩

/-- Bytes that continue a character stand for themselves. -/
theorem Puts.continued {k m t : Bytes} (h : Puts (k ++ m) t) (hk : ∀ b ∈ k, Utf8.Continues b) :
    ∃ u, t = k ++ u ∧ Puts m u := by
  induction k generalizing t with
  | nil => exact ⟨t, rfl, h⟩
  | cons b k ih =>
    have hb := hk b (by simp)
    rw [List.cons_append] at h
    generalize hw : b :: (k ++ m) = w at h
    cases h with
    | nil => cases hw
    | byte plain rest =>
      obtain ⟨rfl, rfl⟩ := List.cons.inj hw
      obtain ⟨u, rfl, hu⟩ := ih rest fun x hx => hk x (by simp [hx])
      exact ⟨u, rfl, hu⟩
    | @char c s m' t spelled rest =>
      obtain ⟨b', k', hc, hfirst, -⟩ := Utf8.exists_encodeChar c
      rw [hc, List.cons_append] at hw
      exact absurd ((List.cons.inj hw).1 ▸ hb) hfirst

/-- A byte that stands for itself begins only characters that do. -/
theorem spellsChar_of_isPlain {c : Char} {b : UInt8} {k : Bytes} (hc : Utf8.encodeChar c = b :: k)
    (hb : IsPlain b) : SpellsChar c (b :: k) := by
  have hascii : c.toNat < 0x80 → b = UInt8.ofNat c.toNat := by
    intro hlow
    rw [Utf8.encodeChar_ascii hlow] at hc
    exact (List.cons.inj hc).1.symm
  obtain ⟨hquote, hslash, hhigh⟩ := hb
  rw [← hc]
  refine .plain (fun he => ?_) (fun he => ?_) (Nat.le_of_not_lt fun hlt => ?_)
  · exact hquote (by rw [hascii (by omega), he]; rfl)
  · exact hslash (by rw [hascii (by omega), he]; rfl)
  · refine hhigh ?_
    rw [hascii (by omega), UInt8.lt_iff_toNat_lt, Utf8.toNat_byte (by omega)]
    exact hlt

/-- **Where UTF-8 is put down, the text spells its characters.** -/
theorem Puts.spells {cs : List Char} {t : Bytes} (h : Puts (Utf8.encodeChars cs) t) :
    Each SpellsChar cs t := by
  -- A character is taken from the front: an escape is one already, and behind a byte that stands
  -- for itself the bytes that continue the character do so too.
  induction cs generalizing t with
  | nil =>
    rw [Utf8.encodeChars, List.flatMap_nil] at h
    generalize hw : ([] : Bytes) = w at h
    cases h with
    | nil => exact .nil
    | byte => cases hw
    | @char c s m t spelled rest =>
      obtain ⟨b, k, hc, -⟩ := Utf8.exists_encodeChar c
      rw [hc] at hw
      cases hw
  | cons c cs ih =>
    rw [Utf8.encodeChars_cons] at h
    generalize hw : Utf8.encodeChar c ++ Utf8.encodeChars cs = w at h
    cases h with
    | nil =>
      obtain ⟨b, k, hc, -⟩ := Utf8.exists_encodeChar c
      rw [hc] at hw
      cases hw
    | @byte b m t plain rest =>
      obtain ⟨b', k, hc, -, hcontinues⟩ := Utf8.exists_encodeChar c
      rw [hc, List.cons_append] at hw
      obtain ⟨rfl, rfl⟩ := List.cons.inj hw
      obtain ⟨u, rfl, hu⟩ := rest.continued hcontinues
      exact .cons (spellsChar_of_isPlain hc plain) (ih hu)
    | @char c' s m t spelled rest =>
      obtain ⟨ds, hds, rfl⟩ := Utf8.encodeChars_eq_append (c :: cs) hw
      obtain ⟨rfl, rfl⟩ := List.cons.inj hds
      exact .cons spelled (ih rest)

/-- **What is read as a string spells it.** -/
theorem spells_of_string {s r : Bytes} {v : String} (h : string s = .ok (v, r)) :
    ∃ t, Each SpellsChar v.toList t ∧ s = t ++ 0x22 :: r := by
  rw [string] at h
  split at h
  · cases h
  · rename_i bytes r' hbytes
    split at h
    · rename_i w hw
      obtain ⟨rfl, rfl⟩ := Prod.mk.inj (Except.ok.inj h)
      obtain ⟨m, t, hputs, rfl, hm⟩ := puts_of_stringBytes hbytes
      rw [List.reverse_nil, List.nil_append] at hm
      rw [hm, Utf8.decode?_eq_some_iff] at hw
      rw [hw] at hputs
      exact ⟨t, hputs.spells, rfl⟩
    · cases h

/-! ## Printed strings -/

theorem unitValue?_control : ∀ n < 0x20,
    unitValue? [Hex.digit (n % 16), Hex.digit (n / 16), 0x30, 0x30] = some n := by decide

theorem spellsChar_printChar (c : Char) : SpellsChar c (printChar c) := by
  unfold printChar
  dsimp only
  split_ifs with hquote hslash hback hfeed hline hreturn htab hcontrol
  · exact .short (by rw [hquote]; decide)
  · exact .short (by rw [hslash]; decide)
  · exact .short (by rw [hback]; decide)
  · exact .short (by rw [hfeed]; decide)
  · exact .short (by rw [hline]; decide)
  · exact .short (by rw [hreturn]; decide)
  · exact .short (by rw [htab]; decide)
  · have hdigits : SpellsUnit c.toNat
        [0x30, 0x30, Hex.digit (c.toNat / 16), Hex.digit (c.toNat % 16)] :=
      unitValue?_eq_some_iff.mp (unitValue?_control _ hcontrol)
    exact .unit hdigits
  · exact .plain hquote hslash (Nat.le_of_not_lt hcontrol)

theorem spells_printChars (cs : List Char) : Each SpellsChar cs (cs.flatMap printChar) := by
  induction cs with
  | nil => exact .nil
  | cons c cs ih => exact .cons (spellsChar_printChar c) ih

/-- Every string is spelled, if only as it is printed. -/
theorem spellsString_printString (s : String) : SpellsString s (printString s) :=
  ⟨_, spells_printChars s.toList, rfl⟩

/-- **A printed string is read back** from behind its opening quote. -/
theorem string_printed (s : String) (r : Bytes) :
    string (s.toList.flatMap printChar ++ 0x22 :: r) = .ok (s, r) :=
  string_spelled (spells_printChars s.toList) r

end SignIn.Json
