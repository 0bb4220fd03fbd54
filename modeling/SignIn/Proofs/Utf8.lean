import SignIn.Text.Utf8

/-!
# Text survives its encoding

The decoder reads a byte string one character at a time, and each character that `encodeChar`
writes is read back whole, whatever stands before and after it. From that one fact the encoding of
a text decodes to the text, so a text can be told from its bytes.
-/

namespace SignIn.Utf8

theorem toNat_byte {n : Nat} (h : n < 256) : (UInt8.ofNat n).toNat = n := by
  rw [UInt8.toNat_ofNat']
  exact Nat.mod_eq_of_lt h

/-! ## One sequence at a time -/

section Sequences

variable (acc : List Char) {b b₁ b₂ b₃ : UInt8} (r : Bytes) {c : Char}

theorem decodeFrom_one (h : b.toNat < 0x80) :
    decodeFrom acc (b :: r) = decodeFrom (Char.ofNat b.toNat :: acc) r := by
  rw [decodeFrom.eq_def]
  dsimp only
  rw [if_pos h]

theorem decodeFrom_two (h : 0xC0 ≤ b.toNat) (h' : b.toNat < 0xE0) (hc : two? b b₁ = some c) :
    decodeFrom acc (b :: b₁ :: r) = decodeFrom (c :: acc) r := by
  rw [decodeFrom.eq_def]
  dsimp only
  rw [if_neg (by omega), if_neg (by omega), if_pos h', hc]

theorem decodeFrom_three (h : 0xE0 ≤ b.toNat) (h' : b.toNat < 0xF0)
    (hc : three? b b₁ b₂ = some c) :
    decodeFrom acc (b :: b₁ :: b₂ :: r) = decodeFrom (c :: acc) r := by
  rw [decodeFrom.eq_def]
  dsimp only
  rw [if_neg (by omega), if_neg (by omega), if_neg (by omega), if_pos h', hc]

theorem decodeFrom_four (h : 0xF0 ≤ b.toNat) (h' : b.toNat < 0xF8)
    (hc : four? b b₁ b₂ b₃ = some c) :
    decodeFrom acc (b :: b₁ :: b₂ :: b₃ :: r) = decodeFrom (c :: acc) r := by
  rw [decodeFrom.eq_def]
  dsimp only
  rw [if_neg (by omega), if_neg (by omega), if_neg (by omega), if_neg (by omega), if_pos h', hc]

end Sequences

/-! ## One character -/

/-- A byte that follows the first gives back its six bits. -/
theorem continuation?_byte {n : Nat} (h : n < 64) :
    continuation? (UInt8.ofNat (n + 0x80)) = some n := by
  rw [continuation?, toNat_byte (by omega), if_pos ⟨by omega, by omega⟩, Nat.add_sub_cancel]

theorem charFrom?_toNat {least : Nat} {c : Char} (h : least ≤ c.toNat) :
    charFrom? least c.toNat = some c := by
  rw [charFrom?, if_pos ⟨h, c.valid⟩, Char.ofNat_toNat]

theorem toNat_ofNat {n : Nat} (h : n.isValidChar) : (Char.ofNat n).toNat = n := by
  rw [Char.ofNat, dif_pos h]
  show (UInt32.ofNatLT _ _).toNat = _
  rw [UInt32.toNat_ofNatLT]

theorem toNat_lt (c : Char) : c.toNat < 0x110000 := by
  rcases c.valid with h | ⟨_, h⟩
  · exact Nat.lt_trans h (by decide)
  · exact h

/-- **A character that was written is read back**, before whatever follows it. -/
theorem decodeFrom_encodeChar (acc : List Char) (c : Char) (r : Bytes) :
    decodeFrom acc (encodeChar c ++ r) = decodeFrom (c :: acc) r := by
  have hc : c.toNat < 0x110000 := toNat_lt c
  have hv : c.val.toNat = c.toNat := rfl
  unfold encodeChar String.utf8EncodeChar
  simp only [hv]
  -- One case for each length: how large the character is decides which first byte it is given.
  split
  · rename_i h1
    have hb : (UInt8.ofNat c.toNat).toNat = c.toNat := toNat_byte (by omega)
    rw [List.singleton_append, decodeFrom_one acc r (by omega), hb, Char.ofNat_toNat]
  split
  · rename_i h1 h2
    have hb : (UInt8.ofNat (c.toNat / 64 % 0x20 + 0xc0)).toNat = c.toNat / 64 + 0xc0 := by
      rw [toNat_byte (by omega)]; omega
    refine decodeFrom_two acc r (by omega) (by omega) ?_
    -- The bits of the bytes make up the character again, here and in the longer cases.
    rw [two?, continuation?_byte (by omega), hb, Option.bind_eq_bind, Option.bind_some]
    rw [show (c.toNat / 64 + 0xc0 - 0xC0) * 64 + c.toNat % 64 = c.toNat by omega]
    exact charFrom?_toNat (by omega)
  split
  · rename_i h2 h3
    have hb : (UInt8.ofNat (c.toNat / 4096 % 0x10 + 0xe0)).toNat = c.toNat / 4096 + 0xe0 := by
      rw [toNat_byte (by omega)]; omega
    refine decodeFrom_three acc r (by omega) (by omega) ?_
    rw [three?, continuation?_byte (by omega), continuation?_byte (by omega), hb,
      Option.bind_eq_bind, Option.bind_some, Option.bind_some]
    rw [show (c.toNat / 4096 + 0xe0 - 0xE0) * 4096 + c.toNat / 64 % 0x40 * 64
      + c.toNat % 0x40 = c.toNat by omega]
    exact charFrom?_toNat (by omega)
  · rename_i h3
    have hb : (UInt8.ofNat (c.toNat / 262144 % 0x08 + 0xf0)).toNat = c.toNat / 262144 + 0xf0 := by
      rw [toNat_byte (by omega)]; omega
    refine decodeFrom_four acc r (by omega) (by omega) ?_
    rw [four?, continuation?_byte (by omega), continuation?_byte (by omega),
      continuation?_byte (by omega), hb, Option.bind_eq_bind, Option.bind_some, Option.bind_some,
      Option.bind_some]
    rw [show (c.toNat / 262144 + 0xf0 - 0xF0) * 262144 + c.toNat / 4096 % 0x40 * 4096
      + c.toNat / 64 % 0x40 * 64 + c.toNat % 0x40 = c.toNat by omega]
    exact charFrom?_toNat (by omega)

/-! ## Whole texts -/

theorem decodeFrom_encodeChars (cs acc : List Char) (r : Bytes) :
    decodeFrom acc (encodeChars cs ++ r) = decodeFrom (cs.reverse ++ acc) r := by
  -- The reader has already read something when it comes to the second character, so `acc` is
  -- general.
  induction cs generalizing acc with
  | nil => rfl
  | cons c cs ih =>
    rw [encodeChars_cons, List.append_assoc, decodeFrom_encodeChar, ih]
    simp

theorem decodeChars?_encodeChars (cs : List Char) : decodeChars? (encodeChars cs) = some cs := by
  have h := decodeFrom_encodeChars cs [] []
  rw [List.append_nil, List.append_nil] at h
  rw [decodeChars?, h, decodeFrom, List.reverse_reverse]

theorem decodeChars?_encode (s : String) : decodeChars? (encode s) = some s.toList :=
  decodeChars?_encodeChars s.toList

/-- **A text is read back from its bytes.** -/
theorem decode?_encode (s : String) : decode? (encode s) = some s := by
  rw [decode?, decodeChars?_encode, Option.map_some, String.ofList_toList]

theorem encode_injective {s t : String} (h : encode s = encode t) : s = t := by
  have hs := decode?_encode s
  rw [h, decode?_encode] at hs
  exact (Option.some.inj hs).symm

/-! ## ASCII -/

theorem encodeChar_ascii {c : Char} (h : c.toNat < 0x80) :
    encodeChar c = [UInt8.ofNat c.toNat] := by
  have hv : c.val.toNat = c.toNat := rfl
  rw [encodeChar, String.utf8EncodeChar]
  simp only [hv]
  rw [if_pos (by omega)]

/-- The character of a byte below 128. -/
theorem toNat_ofByte {b : UInt8} (h : b.toNat < 0x80) : (Char.ofNat b.toNat).toNat = b.toNat :=
  toNat_ofNat (.inl (by omega))

/-- A byte string below 128 spells the characters of its bytes. -/
theorem encodeChars_ofAscii {s : Bytes} (h : ∀ b ∈ s, b.toNat < 0x80) :
    encodeChars (s.map fun b => Char.ofNat b.toNat) = s := by
  induction s with
  | nil => rfl
  | cons b s ih =>
    have hb := h b (by simp)
    rw [List.map_cons, encodeChars_cons, ih fun x hx => h x (by simp [hx]),
      encodeChar_ascii (by rw [toNat_ofByte hb]; exact hb), toNat_ofByte hb, UInt8.ofNat_toNat,
      List.singleton_append]

/-! ## Nothing else is read -/

theorem continuation?_eq_some {b : UInt8} {n : Nat} (h : continuation? b = some n) :
    n < 64 ∧ b = UInt8.ofNat (n + 0x80) := by
  rw [continuation?] at h
  split at h
  · rename_i hb
    obtain rfl := Option.some.inj h
    refine ⟨by omega, ?_⟩
    rw [Nat.sub_add_cancel hb.1, UInt8.ofNat_toNat]
  · cases h

theorem charFrom?_eq_some {least n : Nat} {c : Char} (h : charFrom? least n = some c) :
    least ≤ n ∧ n = c.toNat := by
  rw [charFrom?] at h
  split at h
  · rename_i hn
    obtain rfl := Option.some.inj h
    exact ⟨hn.1, (toNat_ofNat hn.2).symm⟩
  · cases h

section Sequences

variable {b b₁ b₂ b₃ : UInt8} {c : Char}

theorem encodeChar_of_two? (h : 0xC0 ≤ b.toNat) (h' : b.toNat < 0xE0) (hc : two? b b₁ = some c) :
    encodeChar c = [b, b₁] := by
  have hv : c.val.toNat = c.toNat := rfl
  obtain ⟨n₁, h₁, hc₁⟩ := Option.bind_eq_some_iff.mp hc
  obtain ⟨hn₁, rfl⟩ := continuation?_eq_some h₁
  obtain ⟨hleast, hn⟩ := charFrom?_eq_some hc₁
  rw [encodeChar, String.utf8EncodeChar]
  simp only [hv]
  rw [if_neg (by omega), if_pos (by omega)]
  rw [show c.toNat / 64 % 0x20 + 0xc0 = b.toNat by omega, UInt8.ofNat_toNat,
    show c.toNat % 0x40 + 0x80 = n₁ + 0x80 by omega]

theorem encodeChar_of_three? (h : 0xE0 ≤ b.toNat) (h' : b.toNat < 0xF0)
    (hc : three? b b₁ b₂ = some c) : encodeChar c = [b, b₁, b₂] := by
  have hv : c.val.toNat = c.toNat := rfl
  obtain ⟨n₁, h₁, hc₁⟩ := Option.bind_eq_some_iff.mp hc
  obtain ⟨n₂, h₂, hc₂⟩ := Option.bind_eq_some_iff.mp hc₁
  obtain ⟨hn₁, rfl⟩ := continuation?_eq_some h₁
  obtain ⟨hn₂, rfl⟩ := continuation?_eq_some h₂
  obtain ⟨hleast, hn⟩ := charFrom?_eq_some hc₂
  rw [encodeChar, String.utf8EncodeChar]
  simp only [hv]
  rw [if_neg (by omega), if_neg (by omega), if_pos (by omega)]
  rw [show c.toNat / 4096 % 0x10 + 0xe0 = b.toNat by omega, UInt8.ofNat_toNat,
    show c.toNat / 64 % 0x40 + 0x80 = n₁ + 0x80 by omega,
    show c.toNat % 0x40 + 0x80 = n₂ + 0x80 by omega]

theorem encodeChar_of_four? (h : 0xF0 ≤ b.toNat) (h' : b.toNat < 0xF8)
    (hc : four? b b₁ b₂ b₃ = some c) : encodeChar c = [b, b₁, b₂, b₃] := by
  have hv : c.val.toNat = c.toNat := rfl
  obtain ⟨n₁, h₁, hc₁⟩ := Option.bind_eq_some_iff.mp hc
  obtain ⟨n₂, h₂, hc₂⟩ := Option.bind_eq_some_iff.mp hc₁
  obtain ⟨n₃, h₃, hc₃⟩ := Option.bind_eq_some_iff.mp hc₂
  obtain ⟨hn₁, rfl⟩ := continuation?_eq_some h₁
  obtain ⟨hn₂, rfl⟩ := continuation?_eq_some h₂
  obtain ⟨hn₃, rfl⟩ := continuation?_eq_some h₃
  obtain ⟨hleast, hn⟩ := charFrom?_eq_some hc₃
  rw [encodeChar, String.utf8EncodeChar]
  simp only [hv]
  rw [if_neg (by omega), if_neg (by omega), if_neg (by omega)]
  rw [show c.toNat / 262144 % 0x08 + 0xf0 = b.toNat by omega, UInt8.ofNat_toNat,
    show c.toNat / 4096 % 0x40 + 0x80 = n₁ + 0x80 by omega,
    show c.toNat / 64 % 0x40 + 0x80 = n₂ + 0x80 by omega,
    show c.toNat % 0x40 + 0x80 = n₃ + 0x80 by omega]

end Sequences

theorem encodeChars_of_decodeFrom {acc cs : List Char} {s : Bytes}
    (h : decodeFrom acc s = some cs) :
    ∃ ds, cs = acc.reverse ++ ds ∧ s = encodeChars ds := by
  -- Whatever the first byte begins, it is one character that is taken over into `acc`.
  have htake : ∀ {acc : List Char} {c : Char} {t r : Bytes}, encodeChar c = t →
      (∃ ds, cs = (c :: acc).reverse ++ ds ∧ r = encodeChars ds) →
      ∃ ds, cs = acc.reverse ++ ds ∧ t ++ r = encodeChars ds := by
    rintro acc c t r rfl ⟨ds, rfl, rfl⟩
    exact ⟨c :: ds, by simp, rfl⟩
  fun_induction decodeFrom acc s with
  | case1 acc => exact ⟨[], by rw [List.append_nil, Option.some.inj h], rfl⟩
  | case2 acc b r hb ih =>
    refine htake (t := [b]) ?_ (ih h)
    rw [encodeChar_ascii (by rwa [toNat_ofByte hb]), toNat_ofByte hb, UInt8.ofNat_toNat]
  | case4 acc b h1 h2 h3 b₁ r c hc ih => exact htake (encodeChar_of_two? (by omega) h3 hc) (ih h)
  | case7 acc b h1 h2 h3 h4 b₁ b₂ r c hc ih =>
    exact htake (encodeChar_of_three? (by omega) h4 hc) (ih h)
  | case10 acc b h1 h2 h3 h4 h5 b₁ b₂ b₃ r c hc ih =>
    exact htake (encodeChar_of_four? (by omega) h5 hc) (ih h)
  | _ => cases h

/-- **Only the encoding of a text is read as that text.** -/
theorem decodeChars?_eq_some_iff {s : Bytes} {cs : List Char} :
    decodeChars? s = some cs ↔ s = encodeChars cs := by
  constructor
  · intro h
    obtain ⟨ds, rfl, hs⟩ := encodeChars_of_decodeFrom h
    exact hs
  · rintro rfl
    exact decodeChars?_encodeChars cs

/-- No character begins another one. -/
theorem encodeChars_eq_append {c : Char} {s : Bytes} (cs : List Char)
    (h : encodeChars cs = encodeChar c ++ s) : ∃ ds, cs = c :: ds ∧ s = encodeChars ds := by
  have hcs := decodeChars?_encodeChars cs
  rw [h, decodeChars?, decodeFrom_encodeChar] at hcs
  exact encodeChars_of_decodeFrom hcs

theorem decode?_eq_some_iff {s : Bytes} {t : String} : decode? s = some t ↔ s = encode t := by
  rw [decode?, Option.map_eq_some_iff, encode]
  constructor
  · rintro ⟨cs, hcs, rfl⟩
    rw [decodeChars?_eq_some_iff.mp hcs, String.toList_ofList]
  · rintro rfl
    exact ⟨_, decodeChars?_encodeChars _, String.ofList_toList⟩

/-- A byte that can only follow others of the same character. -/
def Continues (b : UInt8) : Prop := 0x80 ≤ b.toNat ∧ b.toNat < 0xC0

/-- Of the bytes of a character all but the first continue it. -/
theorem exists_encodeChar (c : Char) :
    ∃ b t, encodeChar c = b :: t ∧ ¬Continues b ∧ ∀ x ∈ t, Continues x := by
  have hc := toNat_lt c
  have hv : c.val.toNat = c.toNat := rfl
  have hfollow : ∀ n, Continues (UInt8.ofNat (n % 0x40 + 0x80)) := by
    intro n
    rw [Continues, toNat_byte (by omega)]
    omega
  unfold encodeChar String.utf8EncodeChar
  simp only [hv]
  split
  · refine ⟨_, _, rfl, ?_, by simp⟩
    rw [Continues, toNat_byte (by omega)]
    omega
  split
  · refine ⟨_, _, rfl, ?_, by simp only [List.forall_mem_cons, hfollow, List.not_mem_nil,
      false_implies, implies_true, and_self]⟩
    rw [Continues, toNat_byte (by omega)]
    omega
  split
  · refine ⟨_, _, rfl, ?_, by simp only [List.forall_mem_cons, hfollow, List.not_mem_nil,
      false_implies, implies_true, and_self]⟩
    rw [Continues, toNat_byte (by omega)]
    omega
  · refine ⟨_, _, rfl, ?_, by simp only [List.forall_mem_cons, hfollow, List.not_mem_nil,
      false_implies, implies_true, and_self]⟩
    rw [Continues, toNat_byte (by omega)]
    omega

/-! ## Being text -/

/-- A byte string that some characters are encoded by. -/
def IsText (s : Bytes) : Prop := ∃ cs, s = encodeChars cs

theorem IsText.of_ascii {s : Bytes} (h : ∀ b ∈ s, b.toNat < 0x80) : IsText s :=
  ⟨_, (encodeChars_ofAscii h).symm⟩

theorem IsText.nil : IsText [] := ⟨[], rfl⟩

theorem IsText.append {s t : Bytes} (hs : IsText s) (ht : IsText t) : IsText (s ++ t) := by
  obtain ⟨cs, rfl⟩ := hs
  obtain ⟨ds, rfl⟩ := ht
  exact ⟨cs ++ ds, by simp [encodeChars]⟩

theorem IsText.cons {b : UInt8} {s : Bytes} (hb : b.toNat < 0x80) (hs : IsText s) :
    IsText (b :: s) :=
  IsText.append (s := [b]) (.of_ascii (by simpa using hb)) hs

theorem IsText.flatMap {α : Type} {l : List α} {f : α → Bytes} (h : ∀ a ∈ l, IsText (f a)) :
    IsText (l.flatMap f) := by
  induction l with
  | nil => exact .nil
  | cons a l ih =>
    rw [List.flatMap_cons]
    exact (h a (by simp)).append (ih fun x hx => h x (by simp [hx]))

theorem isText_encode (s : String) : IsText (encode s) := ⟨s.toList, rfl⟩

theorem isText_encodeChar (c : Char) : IsText (encodeChar c) :=
  ⟨[c], by simp [encodeChars]⟩

theorem IsText.isSome_decodeChars? {s : Bytes} (h : IsText s) : (decodeChars? s).isSome := by
  obtain ⟨cs, rfl⟩ := h
  rw [decodeChars?_encodeChars, Option.isSome_some]

end SignIn.Utf8
