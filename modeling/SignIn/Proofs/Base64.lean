import SignIn.Proofs.Utf8
import SignIn.Text.Base64

/-!
# Base64 is read exactly

Three bytes are written as four symbols and read back as three bytes. The reader keeps the last
quad for itself, since that one may be padded, so the induction runs over the text three bytes at a
time with at least one byte left, and the four shapes of the last quad are read by cases. Since the
symbols have one value each and no unused bit may be set, nothing is read but what is written: a
text that can be read is the text of its bytes, with as many pads as the rule about padding lets
stand there.
-/

namespace SignIn.Base64

variable (α : Alphabet)

/-! ## Symbols -/

theorem symbol_ne_pad : ∀ n < 64, α.symbol n ≠ pad := by cases α <;> decide

theorem symbol_ascii : ∀ n < 64, (α.symbol n).toNat < 0x80 := by cases α <;> decide

theorem value?_eq_some {b : UInt8} {n : Nat} (h : α.value? b = some n) :
    n < 64 ∧ b = α.symbol n := by
  have hall : ∀ m < 256, (α.value? (UInt8.ofNat m)).all
      (fun n => decide (n < 64 ∧ UInt8.ofNat m = α.symbol n))
      = true := by cases α <;> decide +kernel
  have hb := hall b.toNat b.toNat_lt
  rw [UInt8.ofNat_toNat, h, Option.all_some, decide_eq_true_eq] at hb
  exact hb

theorem ofNat_eq {b : UInt8} {n : Nat} (h : n = b.toNat) : UInt8.ofNat n = b := by
  rw [h, UInt8.ofNat_toNat]

/-! ## Writing -/

/-- The numbers of six bits that a byte string is made of. -/
def sextets : Bytes → List Nat
  | [] => []
  | [x] => [x.toNat / 4, x.toNat % 4 * 16]
  | [x, y] => [x.toNat / 4, x.toNat % 4 * 16 + y.toNat / 16, y.toNat % 16 * 4]
  | x :: y :: z :: r =>
    x.toNat / 4 :: (x.toNat % 4 * 16 + y.toNat / 16) :: (y.toNat % 16 * 4 + z.toNat / 64) ::
      z.toNat % 64 :: sextets r

theorem sextets_lt : ∀ {s : Bytes}, ∀ n ∈ sextets s, n < 64
  | [], n, h => by simp [sextets] at h
  | [x], n, h => by
    have hx : x.toNat < 256 := x.toNat_lt
    simp only [sextets, List.mem_cons, List.not_mem_nil, or_false] at h
    omega
  | [x, y], n, h => by
    have hx : x.toNat < 256 := x.toNat_lt
    have hy : y.toNat < 256 := y.toNat_lt
    simp only [sextets, List.mem_cons, List.not_mem_nil, or_false] at h
    omega
  | x :: y :: z :: r, n, h => by
    have hx : x.toNat < 256 := x.toNat_lt
    have hy : y.toNat < 256 := y.toNat_lt
    have hz : z.toNat < 256 := z.toNat_lt
    simp only [sextets, List.mem_cons] at h
    rcases h with h | h | h | h | h
    · omega
    · omega
    · omega
    · omega
    · exact sextets_lt n h

theorem bodyFrom_eq : ∀ s acc : Bytes, bodyFrom α acc s = acc.reverse ++ (sextets s).map α.symbol
  | [], _ => by simp [bodyFrom, sextets]
  | [_], _ => by simp [bodyFrom, sextets]
  | [_, _], _ => by simp [bodyFrom, sextets]
  | x :: y :: z :: r, acc => by
    rw [bodyFrom, bodyFrom_eq r]
    simp [sextets]

theorem body_eq (s : Bytes) : body α s = (sextets s).map α.symbol := bodyFrom_eq α s []

/-- The text of a byte string, with `k` pads. -/
def padded (k : Nat) (s : Bytes) : Bytes := body α s ++ List.replicate k pad

/-- The four symbols of three bytes. -/
def quadOf (x y z : UInt8) : Bytes :=
  [α.symbol (x.toNat / 4), α.symbol (x.toNat % 4 * 16 + y.toNat / 16),
    α.symbol (y.toNat % 16 * 4 + z.toNat / 64), α.symbol (z.toNat % 64)]

/-- The text of three bytes and more begins with a whole quad. -/
theorem padded_cons (k : Nat) (x y z : UInt8) (r : Bytes) :
    padded α k (x :: y :: z :: r) = quadOf α x y z ++ padded α k r := by
  simp [padded, body_eq, sextets, quadOf]

theorem padCount_cons (x y z : UInt8) (r : Bytes) :
    padCount (x :: y :: z :: r).length = padCount r.length := by
  simp only [padCount, List.length_cons]
  omega

/-- The text of a byte string is made of symbols and pads. -/
theorem mem_padded {k : Nat} {s : Bytes} {b : UInt8} (h : b ∈ padded α k s) :
    b = pad ∨ ∃ n < 64, b = α.symbol n := by
  rw [padded, body_eq, List.mem_append] at h
  rcases h with h | h
  · obtain ⟨n, hn, rfl⟩ := List.mem_map.mp h
    exact .inr ⟨n, sextets_lt n hn, rfl⟩
  · exact .inl (List.eq_of_mem_replicate h)

theorem encode_ascii (s : Bytes) : ∀ b ∈ encode α s, b.toNat < 0x80 := by
  intro b hb
  rcases mem_padded α hb with rfl | ⟨n, hn, rfl⟩
  · decide
  · exact symbol_ascii α n hn

theorem padCount_le (n : Nat) : padCount n ≤ 2 := by
  rw [padCount]
  omega

/-- The pads complete the last quad. -/
theorem length_sextets : ∀ s : Bytes,
    (sextets s).length + padCount s.length = (s.length + 2) / 3 * 4
  | [] => by simp [sextets, padCount]
  | [_] => by simp [sextets, padCount]
  | [_, _] => by simp [sextets, padCount]
  | x :: y :: z :: r => by
    have ih := length_sextets r
    rw [padCount_cons]
    simp only [sextets, List.length_cons]
    omega

theorem two_le_length_sextets {s : Bytes} (h : s ≠ []) : 2 ≤ (sextets s).length := by
  have hs := List.length_pos_iff.mpr h
  have hlength := length_sextets s
  have hpads := padCount_le s.length
  omega

theorem length_padded (k : Nat) (s : Bytes) : (padded α k s).length = (sextets s).length + k := by
  simp [padded, body_eq]

/-- With no more pads than complete the last quad, no text has one symbol over. -/
theorem length_padded_mod {k : Nat} {s : Bytes} (h : k ≤ padCount s.length) :
    (padded α k s).length % 4 ≠ 1 := by
  have hlength := length_sextets s
  have hpads := padCount_le s.length
  rw [length_padded]
  omega

theorem padded_ne_nil (k : Nat) {s : Bytes} (h : s ≠ []) : padded α k s ≠ [] := by
  have htwo := two_le_length_sextets h
  refine List.ne_nil_of_length_pos ?_
  rw [length_padded]
  omega

/-- Whether a rule lets a byte string's text end with `k` pads. -/
def Padding.Allows (p : Padding) (k : Nat) (s : Bytes) : Prop :=
  k ≤ padCount s.length ∧ (p = .canonical → k = padCount s.length)

theorem Padding.allows_cons {p : Padding} {k : Nat} (x y z : UInt8) (r : Bytes) :
    p.Allows k (x :: y :: z :: r) ↔ p.Allows k r := by
  rw [Padding.Allows, padCount_cons, Padding.Allows]

/-! ## Reading -/

section Quad

variable (x y z : UInt8)

theorem first_byte :
    UInt8.ofNat (x.toNat / 4 * 4 + (x.toNat % 4 * 16 + y.toNat / 16) / 16) = x := by
  have hy : y.toNat < 256 := y.toNat_lt
  exact ofNat_eq (by omega)

theorem second_byte :
    UInt8.ofNat ((x.toNat % 4 * 16 + y.toNat / 16) % 16 * 16
      + (y.toNat % 16 * 4 + z.toNat / 64) / 4) = y := by
  have hy : y.toNat < 256 := y.toNat_lt
  have hz : z.toNat < 256 := z.toNat_lt
  exact ofNat_eq (by omega)

theorem third_byte :
    UInt8.ofNat ((y.toNat % 16 * 4 + z.toNat / 64) % 4 * 64 + z.toNat % 64) = z := by
  have hz : z.toNat < 256 := z.toNat_lt
  exact ofNat_eq (by omega)

end Quad

theorem quad_symbols {a b c d : Nat} (ha : a < 64) (hb : b < 64) (hc : c < 64) (hd : d < 64)
    (offset : Nat) :
    quad α offset (α.symbol a) (α.symbol b) (α.symbol c) (α.symbol d) = .ok (a, b, c, d) := by
  rw [quad, α.value?_symbol a ha, α.value?_symbol b hb, α.value?_symbol c hc, α.value?_symbol d hd]

/-- A whole quad with more text behind it. -/
theorem decodeFrom_quadOf (p : Padding) (offset : Nat) (acc : Bytes) (x y z : UInt8) {r : Bytes}
    (hr : r ≠ []) :
    decodeFrom α p offset acc (quadOf α x y z ++ r)
      = decodeFrom α p (offset + 4) (z :: y :: x :: acc) r := by
  have hx : x.toNat < 256 := x.toNat_lt
  have hy : y.toNat < 256 := y.toNat_lt
  have hz : z.toNat < 256 := z.toNat_lt
  obtain ⟨e, r, rfl⟩ := List.exists_cons_of_ne_nil hr
  simp only [quadOf, List.cons_append, List.nil_append]
  rw [decodeFrom, quad_symbols α (by omega) (by omega) (by omega) (by omega)]
  dsimp only
  rw [first_byte, second_byte, third_byte]

theorem readTail_symbols {vs : List Nat} (hvs : ∀ v ∈ vs, v < 64) (offset : Nat)
    (values : List Nat) (last : UInt8) (r : Bytes) :
    ∃ last', readTail α offset ⟨values, last, 0⟩ (vs.map α.symbol ++ r)
      = readTail α offset ⟨vs.reverse ++ values, last', 0⟩ r := by
  induction vs generalizing values last with
  | nil => exact ⟨last, rfl⟩
  | cons v vs ih =>
    have hv : v < 64 := hvs v (by simp)
    obtain ⟨last', hrest⟩ := ih (fun x hx => hvs x (by simp [hx])) (v :: values) (α.symbol v)
    refine ⟨last', ?_⟩
    rw [List.map_cons, List.cons_append, readTail, if_neg (symbol_ne_pad α v hv), if_neg (by simp),
      α.value?_symbol v hv]
    dsimp only
    rw [hrest, List.reverse_cons, List.append_assoc]
    rfl

theorem readTail_pads {t : Tail} (h : 2 ≤ t.values.length) (offset k : Nat) :
    readTail α offset t (List.replicate k pad) = .ok { t with pads := t.pads + k } := by
  induction k generalizing t with
  | zero => rfl
  | succ k ih =>
    have hnext := ih (t := { t with pads := t.pads + 1 }) h
    rw [List.replicate_succ, readTail, if_pos rfl, if_neg (by omega), hnext, Nat.add_assoc,
      Nat.add_comm 1]

theorem readTail_padded {s : Bytes} (h : s ≠ []) (offset k : Nat) :
    ∃ last, readTail α offset ⟨[], 0, 0⟩ (padded α k s) = .ok ⟨(sextets s).reverse, last, k⟩ := by
  obtain ⟨last, hsymbols⟩ := readTail_symbols α sextets_lt offset [] 0 (List.replicate k pad)
  refine ⟨last, ?_⟩
  have htwo : 2 ≤ (sextets s).reverse.length := by
    rw [List.length_reverse]
    exact two_le_length_sextets h
  rw [padded, body_eq, hsymbols, List.append_nil, readTail_pads α htwo, Nat.zero_add]

/-- The last quad gives back the bytes that it was made of. -/
theorem Tail.bytes_sextets {p : Padding} {k : Nat} {s : Bytes} (hne : s ≠ []) (hlen : s.length ≤ 3)
    (h : p.Allows k s) (offset : Nat) (last : UInt8) :
    Tail.bytes p offset ⟨(sextets s).reverse, last, k⟩ = .ok s := by
  have htwo := two_le_length_sextets hne
  have hlength := length_sextets s
  have hfull : ¬(p = .canonical ∧ ((sextets s).reverse.length + k) % 4 ≠ 0) := by
    rintro ⟨hp, hmod⟩
    rw [List.length_reverse, h.2 hp, hlength, Nat.mul_mod_left] at hmod
    exact hmod rfl
  rw [Tail.bytes, if_neg (by rw [List.length_reverse]; omega), if_neg hfull]
  match s, hne, hlen with
  | [x], _, _ =>
    have hx : x.toNat < 256 := x.toNat_lt
    simp only [sextets, List.reverse_cons, List.reverse_nil, List.nil_append, List.cons_append]
    rw [if_neg (by omega), ofNat_eq (b := x) (by omega)]
  | [x, y], _, _ =>
    have hy : y.toNat < 256 := y.toNat_lt
    simp only [sextets, List.reverse_cons, List.reverse_nil, List.nil_append, List.cons_append]
    rw [if_neg (by omega), first_byte, ofNat_eq (b := y) (by omega)]
  | [x, y, z], _, _ =>
    simp only [sextets, List.reverse_cons, List.reverse_nil, List.nil_append, List.cons_append]
    rw [first_byte, second_byte, third_byte]

/-- A text of at most one quad is read as the last quad. -/
theorem decodeFrom_last {p : Padding} {offset : Nat} {s : Bytes} (hne : s ≠ [])
    (hlen : s.length ≤ 4) {t : Tail} (ht : readTail α offset ⟨[], 0, 0⟩ s = .ok t) {bytes : Bytes}
    (hb : t.bytes p offset = .ok bytes) (acc : Bytes) :
    decodeFrom α p offset acc s = .ok (acc.reverse ++ bytes) := by
  rw [decodeFrom]
  · rw [ht]
    dsimp only
    rw [hb]
  · exact hne
  -- The clause for a quad that is not the last wants five bytes.
  · rintro a b c d e r rfl
    simp only [List.length_cons] at hlen
    omega

theorem decodeFrom_short {p : Padding} {k : Nat} {s : Bytes} (hne : s ≠ []) (hlen : s.length ≤ 3)
    (h : p.Allows k s) (offset : Nat) (acc : Bytes) :
    decodeFrom α p offset acc (padded α k s) = .ok (acc.reverse ++ s) := by
  obtain ⟨last, ht⟩ := readTail_padded α hne offset k
  refine decodeFrom_last α (padded_ne_nil α k hne) ?_ ht
    (Tail.bytes_sextets hne hlen h offset last) acc
  have hlength := length_sextets s
  have hpads := h.1
  rw [length_padded]
  omega

/-- **A byte string is read back from its text**, as far as the rule about padding goes. -/
theorem decodeFrom_padded {p : Padding} {k : Nat} : ∀ {s : Bytes}, p.Allows k s →
    ∀ (offset : Nat) (acc : Bytes), decodeFrom α p offset acc (padded α k s)
      = .ok (acc.reverse ++ s)
  | [], h, offset, acc => by
    obtain rfl : k = 0 := Nat.le_zero.mp h.1
    rw [show padded α 0 [] = [] from rfl, decodeFrom, List.append_nil]
  | [x], h, offset, acc => decodeFrom_short α (by simp) (by simp) h offset acc
  | [x, y], h, offset, acc => decodeFrom_short α (by simp) (by simp) h offset acc
  -- Three bytes fill a quad, but it is the last one, so it is read symbol by symbol as well.
  | [x, y, z], h, offset, acc => decodeFrom_short α (by simp) (by simp) h offset acc
  -- There is more behind the first quad, which is what the reader looks for.
  | x :: y :: z :: w :: r, h, offset, acc => by
    rw [padded_cons, decodeFrom_quadOf α p offset acc x y z (padded_ne_nil α k (by simp)),
      decodeFrom_padded ((Padding.allows_cons x y z _).mp h)]
    simp

theorem decode_padded {p : Padding} {k : Nat} {s : Bytes} (h : p.Allows k s) :
    decode α p (padded α k s) = .ok s := by
  have hstray : stray? α (padded α k s) = none := by
    rw [stray?, if_neg (length_padded_mod α h.1)]
  rw [decode, hstray]
  exact decodeFrom_padded α h 0 []

theorem decode_encode (p : Padding) (s : Bytes) : decode α p (encode α s) = .ok s :=
  decode_padded α ⟨Nat.le_refl _, fun _ => rfl⟩

/-! ## Nothing else is read -/

section Exact

variable {α}

theorem quad_eq_ok {offset : Nat} {a b c d : UInt8} {i j k l : Nat}
    (h : quad α offset a b c d = .ok (i, j, k, l)) :
    (i < 64 ∧ j < 64 ∧ k < 64 ∧ l < 64) ∧ [a, b, c, d] = [i, j, k, l].map α.symbol := by
  unfold quad at h
  split at h
  · rename_i ha hb hc hd
    cases h
    obtain ⟨hi, rfl⟩ := value?_eq_some α ha
    obtain ⟨hj, rfl⟩ := value?_eq_some α hb
    obtain ⟨hk, rfl⟩ := value?_eq_some α hc
    obtain ⟨hl, rfl⟩ := value?_eq_some α hd
    exact ⟨⟨hi, hj, hk, hl⟩, rfl⟩
  all_goals cases h

/-- Four numbers of six bits are those of their three bytes. -/
theorem sextets_bytes {i j k l : Nat} (hi : i < 64) (hj : j < 64) (hk : k < 64) (hl : l < 64) :
    sextets [UInt8.ofNat (i * 4 + j / 16), UInt8.ofNat (j % 16 * 16 + k / 4),
      UInt8.ofNat (k % 4 * 64 + l)] = [i, j, k, l] := by
  rw [sextets, sextets, Utf8.toNat_byte (by omega), Utf8.toNat_byte (by omega),
    Utf8.toNat_byte (by omega), show (i * 4 + j / 16) / 4 = i by omega,
    show (i * 4 + j / 16) % 4 * 16 + (j % 16 * 16 + k / 4) / 16 = j by omega,
    show (j % 16 * 16 + k / 4) % 16 * 4 + (k % 4 * 64 + l) / 64 = k by omega,
    show (k % 4 * 64 + l) % 64 = l by omega]

theorem quadOf_eq (x y z : UInt8) : quadOf α x y z = (sextets [x, y, z]).map α.symbol := rfl

/-- The last quad is made of symbols, and then of pads if there are two symbols or more. -/
theorem readTail_eq_ok {offset : Nat} {t t' : Tail} {s : Bytes}
    (h : readTail α offset t s = .ok t') :
    ∃ vs k, s = vs.map α.symbol ++ List.replicate k pad ∧ (∀ v ∈ vs, v < 64) ∧
      t'.values = vs.reverse ++ t.values ∧ t'.pads = t.pads + k ∧ (t.pads ≠ 0 → vs = []) := by
  induction s generalizing t with
  | nil =>
    obtain rfl := Except.ok.inj h
    exact ⟨[], 0, rfl, by simp, rfl, rfl, fun _ => rfl⟩
  | cons b s ih =>
    rw [readTail] at h
    split at h
    · rename_i hb
      split at h
      · cases h
      -- Behind a pad there are pads alone.
      · obtain ⟨vs, k, rfl, -, hvalues, hpads, hnone⟩ := ih h
        obtain rfl := hnone (Nat.succ_ne_zero _)
        refine ⟨[], k + 1, by rw [hb]; rfl, by simp, hvalues, by rw [hpads]; dsimp only; omega,
          fun _ => rfl⟩
    · split at h
      · cases h
      · rename_i hpad
        split at h
        · cases h
        · rename_i v hv
          obtain ⟨hlt, rfl⟩ := value?_eq_some α hv
          obtain ⟨vs, k, rfl, hvs, hvalues, hpads, -⟩ := ih h
          refine ⟨v :: vs, k, rfl, List.forall_mem_cons.mpr ⟨hlt, hvs⟩, by simp [hvalues], hpads,
            fun hne => absurd hne hpad⟩

/-- Nothing but the numbers of six bits of some bytes gives those bytes: no unused bit is set. -/
theorem Tail.bytes_eq_ok {p : Padding} {offset : Nat} {t : Tail} {bytes : Bytes}
    (h : t.bytes p offset = .ok bytes) (hlen : t.values.length ≤ 4)
    (hvs : ∀ v ∈ t.values, v < 64) :
    t.values.reverse = sextets bytes ∧ 2 ≤ t.values.length ∧
      (p = .canonical → (t.values.length + t.pads) % 4 = 0) := by
  obtain ⟨values, last, pads⟩ := t
  rw [Tail.bytes] at h
  split at h
  · cases h
  rename_i hshort
  split at h
  · cases h
  rename_i hpartial
  refine ⟨?_, Nat.le_of_not_lt hshort, fun hp => Decidable.byContradiction fun hmod =>
    hpartial ⟨hp, hmod⟩⟩
  match values, hlen, hvs, hshort with
  | [], _, _, hshort => simp at hshort
  | [_], _, _, hshort => simp at hshort
  | [b, a], _, hvs, _ =>
    have ha : a < 64 := hvs a (by simp)
    have hb : b < 64 := hvs b (by simp)
    dsimp only at h
    split at h
    · cases h
    rename_i hunused
    obtain rfl := Except.ok.inj h
    rw [sextets, Utf8.toNat_byte (by omega), show (a * 4 + b / 16) / 4 = a by omega,
      show (a * 4 + b / 16) % 4 * 16 = b by omega]
    rfl
  | [c, b, a], _, hvs, _ =>
    have ha : a < 64 := hvs a (by simp)
    have hb : b < 64 := hvs b (by simp)
    have hc : c < 64 := hvs c (by simp)
    dsimp only at h
    split at h
    · cases h
    rename_i hunused
    obtain rfl := Except.ok.inj h
    rw [sextets, Utf8.toNat_byte (by omega), Utf8.toNat_byte (by omega),
      show (a * 4 + b / 16) / 4 = a by omega,
      show (a * 4 + b / 16) % 4 * 16 + (b % 16 * 16 + c / 4) / 16 = b by omega,
      show (b % 16 * 16 + c / 4) % 16 * 4 = c by omega]
    rfl
  | [d, c, b, a], _, hvs, _ =>
    obtain rfl := Except.ok.inj h
    rw [sextets_bytes (hvs a (by simp)) (hvs b (by simp)) (hvs c (by simp)) (hvs d (by simp))]
    rfl
  | _ :: _ :: _ :: _ :: _ :: _, hlen, _, _ =>
    simp only [List.length_cons] at hlen
    omega

/-- What is read from the last quad is what it is the text of. -/
theorem last_eq_ok {p : Padding} {offset : Nat} {t : Tail} {s bytes : Bytes} (hlen : s.length ≤ 4)
    (ht : readTail α offset ⟨[], 0, 0⟩ s = .ok t) (hb : t.bytes p offset = .ok bytes) :
    ∃ k, p.Allows k bytes ∧ s = padded α k bytes := by
  obtain ⟨vs, k, rfl, hvs, hvalues, hpads, -⟩ := readTail_eq_ok ht
  rw [List.append_nil] at hvalues
  rw [Nat.zero_add] at hpads
  have hcount : t.values.length = vs.length := by rw [hvalues, List.length_reverse]
  rw [List.length_append, List.length_map, List.length_replicate] at hlen
  obtain ⟨hsextets, htwo, hcanonical⟩ :=
    Tail.bytes_eq_ok hb (by omega) (by simpa [hvalues] using hvs)
  rw [hvalues, List.reverse_reverse] at hsextets
  subst hsextets
  rw [hcount, hpads] at hcanonical
  -- There are two symbols or more, so the text is one quad, and no pad is past its end.
  have hlength := length_sextets bytes
  have hle := padCount_le bytes.length
  refine ⟨k, ⟨by omega, fun hp => ?_⟩, by rw [padded, body_eq]⟩
  have hmod := hcanonical hp
  omega

theorem decodeFrom_eq_ok {p : Padding} {offset : Nat} {acc t bytes : Bytes}
    (h : decodeFrom α p offset acc t = .ok bytes) :
    ∃ s k, bytes = acc.reverse ++ s ∧ p.Allows k s ∧ t = padded α k s := by
  fun_induction decodeFrom α p offset acc t with
  | case1 offset acc =>
    obtain rfl := Except.ok.inj h
    exact ⟨[], 0, (List.append_nil _).symm, ⟨Nat.le_refl 0, fun _ => rfl⟩, rfl⟩
  | case2 => cases h
  | case3 offset acc a b c d e r i j k l hquad ih =>
    obtain ⟨⟨hi, hj, hk, hl⟩, hsymbols⟩ := quad_eq_ok hquad
    obtain ⟨s, n, rfl, hallows, htext⟩ := ih h
    refine ⟨UInt8.ofNat (i * 4 + j / 16) :: UInt8.ofNat (j % 16 * 16 + k / 4) ::
      UInt8.ofNat (k % 4 * 64 + l) :: s, n, by simp, (Padding.allows_cons _ _ _ s).mpr hallows, ?_⟩
    rw [padded_cons, quadOf_eq, sextets_bytes hi hj hk hl, ← hsymbols, ← htext]
    rfl
  | case4 => cases h
  | case5 => cases h
  | case6 offset acc t hnil hshort tail htail bytes hbytes =>
    obtain rfl := Except.ok.inj h
    have hlen : t.length ≤ 4 := by
      match t, hshort with
      | [], _ => simp
      | [_], _ => simp
      | [_, _], _ => simp
      | [_, _, _], _ => simp
      | [_, _, _, _], _ => simp
      | a :: b :: c :: d :: e :: r, hshort => exact absurd rfl (hshort a b c d e r)
    obtain ⟨k, hallows, htext⟩ := last_eq_ok hlen htail hbytes
    exact ⟨_, k, rfl, hallows, htext⟩

/-- **A text can be read exactly if it is that of some bytes**, with pads as the rule allows. -/
theorem decode_eq_ok_iff {p : Padding} {t s : Bytes} :
    decode α p t = .ok s ↔ ∃ k, p.Allows k s ∧ t = padded α k s := by
  constructor
  · intro h
    rw [decode] at h
    split at h
    · cases h
    · obtain ⟨s', k, rfl, hallows, ht⟩ := decodeFrom_eq_ok h
      exact ⟨k, hallows, ht⟩
  · rintro ⟨k, hallows, rfl⟩
    exact decode_padded α hallows

end Exact

end SignIn.Base64
