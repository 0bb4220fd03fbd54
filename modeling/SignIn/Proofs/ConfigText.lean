import SignIn.Net.Endpoint
import SignIn.Proofs.AddressText
import SignIn.Proofs.Faults

/-!
# A configuration is read back from its variables

A configuration can be written into the variables of an environment in many ways: blanks around
each value, slashes behind the origin, letters of either case in a secret and in a word for yes or
no. All of them are read as the configuration that was written. And of two texts that are read as
secrets, those that differ in letter case only are the same secret, and no others.
-/

namespace SignIn

open Endpoint (lower)

/-! ## Letter case -/

namespace Utf8

/-- A character outside ASCII has no byte of ASCII. -/
theorem le_of_mem_encodeChar {c : Char} (h : 0x80 ≤ c.toNat) :
    ∀ b ∈ encodeChar c, 0x80 ≤ b.toNat := by
  obtain ⟨b, t, hchar, -, ht⟩ := exists_encodeChar c
  rw [hchar]
  intro x hx
  rcases List.mem_cons.mp hx with rfl | hx
  · -- A first byte of ASCII would be a character on its own.
    by_contra hlow
    have hx : (Char.ofNat x.toNat).toNat = x.toNat := toNat_ofByte (by omega)
    have hbyte : encodeChar (Char.ofNat x.toNat) = [x] := by
      rw [encodeChar_ascii (by omega), hx, UInt8.ofNat_toNat]
    obtain ⟨ds, hds, -⟩ := encodeChars_eq_append (c := Char.ofNat x.toNat) (s := t) [c]
      (by rw [encodeChars_cons, hchar, hbyte]; simp [encodeChars])
    have heq := congrArg Char.toNat (List.cons.inj hds).1
    omega
  · exact (ht x hx).1

theorem toLower_of_le {c : Char} (h : 0x80 ≤ c.toNat) : c.toLower = c := by
  refine dif_neg ?_
  rintro ⟨-, hle⟩
  have hz : c.toNat ≤ 0x5A := hle
  omega

theorem toLower_of_lt :
    ∀ n < 0x80, encodeChar (Char.ofNat n).toLower = [lower (UInt8.ofNat n)] := by
  decide +kernel

theorem encodeChar_toLower (c : Char) : encodeChar c.toLower = (encodeChar c).map lower := by
  by_cases h : c.toNat < 0x80
  · have hlower := toLower_of_lt c.toNat h
    rwa [Char.ofNat_toNat, ← List.map_singleton (f := lower), ← encodeChar_ascii h] at hlower
  · rw [toLower_of_le (by omega)]
    have hkept : ∀ b ∈ encodeChar c, lower b = b := by
      intro b hb
      have hle := le_of_mem_encodeChar (by omega) b hb
      rw [lower, if_neg]
      rintro ⟨-, hz⟩
      rw [UInt8.le_iff_toNat_le] at hz
      have hmax : (0x5A : UInt8).toNat = 0x5A := rfl
      omega
    rw [List.map_congr_left hkept, List.map_id']

/-- Letter case may be given up before a text is encoded, or after. -/
theorem encode_toLower (s : String) : encode (s.map Char.toLower) = (encode s).map lower := by
  rw [encode, encode, String.toList_map, encodeChars, encodeChars, List.flatMap_map,
    List.map_flatMap]
  exact List.flatMap_congr fun c _ => encodeChar_toLower c

/-- The text that consists of the given bytes of ASCII. -/
def text (s : Bytes) : String := String.ofList (s.map fun b => Char.ofNat b.toNat)

theorem toList_text (s : Bytes) : (text s).toList = s.map fun b => Char.ofNat b.toNat := by
  rw [text, String.toList_ofList]

theorem encode_text {s : Bytes} (h : ∀ b ∈ s, b.toNat < 0x80) : encode (text s) = s := by
  rw [encode, toList_text, encodeChars_ofAscii h]

theorem text_ne_empty {s : Bytes} (h : s ≠ []) : text s ≠ "" := by
  rw [ne_eq, ← String.toList_inj, toList_text, String.toList_empty, List.map_eq_nil_iff]
  exact h

end Utf8

namespace Blank

theorem isBlank_toLower (c : Char) : isBlank c.toLower = isBlank c := by
  by_cases h : c.toNat < 0x80
  · have hascii : ∀ n < 0x80, isBlank (Char.ofNat n).toLower = isBlank (Char.ofNat n) := by
      decide +kernel
    have hlower := hascii c.toNat h
    rwa [Char.ofNat_toNat] at hlower
  · rw [Utf8.toLower_of_le (by omega)]

theorem not_isBlank_ofByte {b : UInt8} (h : Percent.isGraphic b = true) :
    isBlank (Char.ofNat b.toNat) = false := by
  have hbytes : ∀ n < 256, Percent.isGraphic (UInt8.ofNat n) = true →
      isBlank (Char.ofNat n) = false := by decide +kernel
  rw [← UInt8.ofNat_toNat (x := b)] at h
  exact hbytes b.toNat b.toNat_lt h

end Blank

namespace Hex

theorem value?_lower (b : UInt8) : value? (lower b) = value? b := by
  have hall : ∀ m < 256, value? (lower (UInt8.ofNat m))
    = value? (UInt8.ofNat m) := by decide +kernel
  rw [← UInt8.ofNat_toNat (x := b)]
  exact hall b.toNat b.toNat_lt

theorem lower_of_value? {b : UInt8} {n : Nat} (h : value? b = some n) : lower b = digit n := by
  have hall : ∀ m < 256, (value? (UInt8.ofNat m)).all
      (lower (UInt8.ofNat m) == digit ·) = true := by decide +kernel
  have hb := Option.all_eq_true _ _ |>.mp (hall b.toNat b.toNat_lt)
  rw [UInt8.ofNat_toNat] at hb
  exact eq_of_beq (hb n h)

theorem encode_cons (b : UInt8) (s : Bytes) :
    encode (b :: s) = digit (b.toNat / 16) :: digit (b.toNat % 16) :: encode s := rfl

/-- A text is read alike in lower case, unless it is refused. -/
theorem decodeFrom_lower {offset : Nat} {acc s b : Bytes} :
    decodeFrom offset acc (s.map lower) = .ok b ↔ decodeFrom offset acc s = .ok b := by
  fun_induction decodeFrom offset acc s with
  | case1 | case2 => rfl
  | case3 offset acc high low r hhigh =>
    rw [List.map_cons, List.map_cons, decodeFrom, value?_lower, hhigh]
    constructor <;> intro h <;> cases h
  | case4 offset acc high low r h hlow hhigh =>
    rw [List.map_cons, List.map_cons, decodeFrom, value?_lower, value?_lower, hhigh, hlow]
    constructor <;> intro h <;> cases h
  | case5 offset acc high low r h l hlow hhigh ih =>
    rw [List.map_cons, List.map_cons, decodeFrom, value?_lower, value?_lower, hhigh, hlow]
    exact ih

/-- What is read is what the text spells in lower case. -/
theorem lower_of_decodeFrom {offset : Nat} {acc s b : Bytes}
    (hread : decodeFrom offset acc s = .ok b) :
    ∃ t, b = acc.reverse ++ t ∧ s.map lower = encode t := by
  fun_induction decodeFrom offset acc s with
  | case1 offset acc => exact ⟨[], by rw [List.append_nil, Except.ok.inj hread], rfl⟩
  | case2 | case3 | case4 => cases hread
  | case5 offset acc high low r h l hlow hhigh ih =>
    obtain ⟨t, rfl, ht⟩ := ih hread
    have hbounds : h < 16 ∧ l < 16 := ⟨(Json.value?_bounds hhigh).1, (Json.value?_bounds hlow).1⟩
    have hbyte : (UInt8.ofNat (h * 16 + l)).toNat = h * 16 + l := Utf8.toNat_byte (by omega)
    refine ⟨UInt8.ofNat (h * 16 + l) :: t, by simp, ?_⟩
    rw [List.map_cons, List.map_cons, ht, encode_cons, hbyte, lower_of_value? hhigh,
      lower_of_value? hlow, show (h * 16 + l) / 16 = h by omega,
      show (h * 16 + l) % 16 = l by omega]

/-- **Hexadecimal text is read without regard to letter case**, and only as what it spells. -/
theorem decode_eq_ok_iff_lower {s b : Bytes} : decode s = .ok b ↔ s.map lower = encode b := by
  rw [decode]
  constructor
  · intro h
    split at h
    · cases h
    · obtain ⟨t, rfl, ht⟩ := lower_of_decodeFrom h
      exact ht
  · intro h
    have hlength := congrArg List.length h
    rw [List.length_map, length_encode] at hlength
    rw [if_neg (by omega), ← decodeFrom_lower, h, decodeFrom_encode]
    rfl

theorem encode_injective {s t : Bytes} (h : encode s = encode t) : s = t := by
  have hs := decode_encode s
  rw [h, decode_encode] at hs
  exact (Except.ok.inj hs).symm

end Hex

namespace Decimal

theorem digit?_of_isDigit {c : Char} (h : c.isDigit) : digit? c = some (c.toNat - 0x30) :=
  if_pos (Json.isDigit_bounds h)

theorem readFrom_digits {bound : Nat} {cs : List Char} (h : ∀ c ∈ cs, c.isDigit) (n : Nat)
    (hle : Nat.ofDigitChars 10 cs n ≤ bound) :
    readFrom bound n cs = .ok (Nat.ofDigitChars 10 cs n) := by
  induction cs generalizing n with
  | nil => rfl
  | cons c cs ih =>
    have hm : n * 10 + (c.toNat - 0x30) = 10 * n + (c.toNat - '0'.toNat) := by
      rw [Nat.mul_comm]
      rfl
    rw [Nat.ofDigitChars_cons] at hle ⊢
    have hfirst := Nat.le_trans (Json.le_ofDigitChars cs _) hle
    rw [readFrom, digit?_of_isDigit (h c (by simp))]
    dsimp only
    rw [hm, if_pos hfirst]
    exact ih (fun x hx => h x (by simp [hx])) _ hle

/-- **A number within the bound is read back.** -/
theorem read_ofNat {bound n : Nat} (h : n ≤ bound) : read bound (ofNat n) = .ok n := by
  obtain ⟨c, cs, hcs⟩ := List.exists_cons_of_ne_nil (Nat.toDigits_ne_nil (n := n) (b := 10))
  have hdigit : c.isDigit := Json.isDigit_toDigits c (by rw [hcs]; exact List.mem_cons_self)
  have hunsigned : unsigned (c :: cs) = c :: cs := by
    rw [unsigned]
    rintro c' r heq
    rw [(List.cons.inj heq).1] at hdigit
    exact absurd hdigit (by decide)
  rw [read, ofNat, String.toList_ofList, hcs]
  dsimp only
  rw [hunsigned, ← hcs,
    readFrom_digits Json.isDigit_toDigits 0 (by rwa [Nat.ofDigitChars_ten_toDigits]),
    Nat.ofDigitChars_ten_toDigits]

end Decimal

/-! ## Values -/

namespace Config

/-- A text that has no blanks at its ends and is not empty. -/
structure Trimmed (s : String) : Prop where
  ne_empty : s ≠ ""
  bare : Blank.Bare Blank.isBlank s.toList

theorem trimmed_iff {s : String} : Trimmed s ↔ s ≠ "" ∧ Blank.Bare Blank.isBlank s.toList :=
  ⟨fun h => ⟨h.ne_empty, h.bare⟩, fun h => ⟨h.1, h.2⟩⟩

instance (s : String) : Decidable (Trimmed s) := decidable_of_iff' _ trimmed_iff

/-- Graphic characters are trimmed. -/
theorem Trimmed.text {s : Bytes} (hne : s ≠ []) (h : ∀ b ∈ s, Percent.isGraphic b = true) :
    Trimmed (Utf8.text s) := by
  refine ⟨Utf8.text_ne_empty hne, .of_all fun c hc => ?_⟩
  rw [Utf8.toList_text, List.mem_map] at hc
  obtain ⟨b, hb, rfl⟩ := hc
  exact Blank.not_isBlank_ofByte (h b hb)

/-- A text is trimmed whatever the case of its letters. -/
theorem Trimmed.of_lower {s : String} (h : Trimmed (s.map Char.toLower)) : Trimmed s := by
  refine ⟨fun hs => h.ne_empty (by simp [hs]), .of_map Blank.isBlank_toLower ?_⟩
  rw [← String.toList_map]
  exact h.bare

/-- A variable is set to a text with any blanks around it. -/
def Holds (env : Environment) (v : Variable) (s : String) : Prop :=
  ∃ lead trail : String, (∀ c ∈ lead.toList, Blank.isBlank c = true) ∧
    (∀ c ∈ trail.toList, Blank.isBlank c = true) ∧ env v = some (lead ++ s ++ trail)

theorem Holds.of_all {env : Environment} {v : Variable} {s : String} (lead trail : String)
    (hlead : lead.toList.all Blank.isBlank = true) (htrail : trail.toList.all Blank.isBlank = true)
    (h : env v = some (lead ++ s ++ trail)) : Holds env v s :=
  ⟨lead, trail, List.all_eq_true.mp hlead, List.all_eq_true.mp htrail, h⟩

/-- A variable is not set, or to blanks. -/
def Unset (env : Environment) (v : Variable) : Prop :=
  ∀ s, env v = some s → ∀ c ∈ s.toList, Blank.isBlank c = true

section Values

variable {env : Environment} {v : Variable} {s : String}

theorem Holds.value? (h : Holds env v s) (hs : Trimmed s) : Config.value? env v = some s := by
  obtain ⟨lead, trail, hlead, htrail, henv⟩ := h
  have htrim : Blank.trim (lead ++ s ++ trail) = s := by
    rw [← String.toList_inj, Blank.toList_trim, String.toList_append, String.toList_append]
    exact hs.bare.trimList_around hlead htrail
  exact value?_eq_some_iff.mpr ⟨⟨_, henv, htrim⟩, hs.ne_empty⟩

theorem trimmed_of_value? (h : Config.value? env v = some s) : Trimmed s := by
  obtain ⟨⟨t, -, rfl⟩, hne⟩ := value?_eq_some_iff.mp h
  refine ⟨hne, ?_⟩
  rw [Blank.toList_trim]
  exact Blank.bare_trimList _

theorem Unset.value? (h : Unset env v) : Config.value? env v = none := by
  rw [value?_eq_tidied, tidied]
  cases henv : env v with
  | none => rfl
  | some s =>
    dsimp only
    rw [if_pos (List.all_eq_true.mpr (h s henv))]

theorem Holds.required (h : Holds env v s) (hs : Trimmed s) : Config.required env v = .ok s := by
  rw [Config.required, h.value? hs]

theorem valueOr_eq_ok_iff {α : Type} {default a : α} {read : String → Except Reason α} :
    Config.valueOr env v default read = .ok a ↔ (Config.value? env v = none ∧ a = default) ∨
      ∃ s, Config.value? env v = some s ∧ read s = .ok a := by
  rw [Config.valueOr]
  cases Config.value? env v with
  | none => simp [eq_comm]
  | some s =>
    cases hread : read s <;> simp [hread]

theorem Holds.valueOr {α : Type} {read : String → Except Reason α} {a : α} (h : Holds env v s)
    (hs : Trimmed s) (hread : read s = .ok a) (default : α) :
    Config.valueOr env v default read = .ok a :=
  valueOr_eq_ok_iff.mpr (.inr ⟨s, h.value? hs, hread⟩)

end Values

/-! ## The origin -/

/-- A number of slashes. -/
def slashes (n : Nat) : String := String.ofList (List.replicate n '/')

theorem toList_slashes (n : Nat) : (slashes n).toList = List.replicate n '/' := by
  rw [slashes, String.toList_ofList]

theorem append_slashes_zero (s : String) : s ++ slashes 0 = s := by
  rw [slashes, List.replicate_zero, String.ofList_nil, String.append_empty]

/-- Slashes behind a text that does not end in one are taken off again. -/
theorem withoutSlashes_append {s : String} (h : s.toList.getLast? ≠ some '/') (n : Nat) :
    withoutSlashes (s ++ slashes n) = s := by
  have hkeep : s.toList.reverse.dropWhile (· == '/') = s.toList.reverse := by
    rw [← List.head?_reverse] at h
    cases hs : s.toList.reverse with
    | nil => rfl
    | cons c cs =>
      rw [hs, List.head?_cons] at h
      exact List.dropWhile_cons_of_neg (by simpa using h)
  rw [← String.toList_inj, withoutSlashes, String.toList_ofList, String.toList_append,
    toList_slashes, List.reverse_append, List.reverse_replicate,
    List.dropWhile_append_of_pos (by simp [List.mem_replicate]), hkeep, List.reverse_reverse]

theorem Trimmed.append_slashes {s : String} (h : Trimmed s) (n : Nat) :
    Trimmed (s ++ slashes n) := by
  have hnil : s.toList ≠ [] := by
    rw [ne_eq, ← String.toList_empty, String.toList_inj]
    exact h.ne_empty
  refine ⟨?_, ?_, ?_⟩
  · rw [ne_eq, ← String.toList_inj, String.toList_append, String.toList_empty]
    exact List.append_ne_nil_of_left_ne_nil hnil _
  · intro c hc
    rw [String.toList_append, List.head?_append_of_ne_nil _ hnil] at hc
    exact h.bare.head c hc
  · intro c hc
    rw [String.toList_append, toList_slashes] at hc
    cases n with
    | zero =>
      rw [List.replicate_zero, List.append_nil] at hc
      exact h.bare.last c hc
    | succ n =>
      rw [List.getLast?_append_of_ne_nil _ (by simp), List.getLast?_replicate,
        if_neg (by omega)] at hc
      obtain rfl : '/' = c := Option.some.inj hc
      decide

theorem readOrigin_append {s : String} (hbytes : (Utf8.encode s).all isHeaderByte = true)
    (hlast : s.toList.getLast? ≠ some '/') (n : Nat) : readOrigin (s ++ slashes n) = .ok s := by
  rw [readOrigin, withoutSlashes_append hlast]
  exact if_pos hbytes

/-! ## Numbers, addresses and words -/

theorem trimmed_ofNat (n : Nat) : Trimmed (Decimal.ofNat n) := by
  refine ⟨?_, .of_all fun c hc => ?_⟩
  · rw [ne_eq, ← String.toList_inj, Decimal.ofNat, String.toList_ofList, String.toList_empty]
    exact Nat.toDigits_ne_nil
  · rw [Decimal.ofNat, String.toList_ofList] at hc
    have hdigit := Json.isDigit_bounds (Json.isDigit_toDigits c hc)
    have hbyte : (UInt8.ofNat c.toNat).toNat = c.toNat := Utf8.toNat_byte (by omega)
    have hchar := Blank.not_isBlank_ofByte (b := UInt8.ofNat c.toNat) (by
      simp only [Percent.isGraphic, Bool.and_eq_true, decide_eq_true_eq,
        UInt8.le_iff_toNat_le, hbyte]
      exact ⟨Nat.le_trans (by decide) hdigit.1, Nat.le_trans hdigit.2 (by decide)⟩)
    rwa [hbyte, Char.ofNat_toNat] at hchar

theorem readPort_ofNat (p : UInt16) : readPort (Decimal.ofNat p.toNat) = .ok p := by
  have hp : p.toNat < 65536 := p.toNat_lt
  rw [readPort, Decimal.read_ofNat (by omega)]
  dsimp only
  rw [UInt16.ofNat_toNat]

theorem readConnections_ofNat (n : UInt32) : readConnections (Decimal.ofNat n.toNat) = .ok n := by
  have hn : n.toNat < 4294967296 := n.toNat_lt
  rw [readConnections, Decimal.read_ofNat (by omega)]
  dsimp only
  rw [UInt32.ofNat_toNat]

/-- The text of an address. -/
def addressText (a : Address) : String := Utf8.text a.print

theorem trimmed_addressText (a : Address) : Trimmed (addressText a) :=
  .text a.print_ne_nil fun _ => Address.graphic_of_mem_print

theorem readAddress_addressText (a : Address) : readAddress (addressText a) = .ok a := by
  have hascii : ∀ b ∈ a.print, b.toNat < 0x80 := fun b hb =>
    Address.lt_of_isGraphic (Address.graphic_of_mem_print hb)
  rw [readAddress, addressText, Utf8.encode_text hascii, Address.parse?_print]

/-- The words for yes and for no. -/
def words (b : Bool) : List String := if b then yes else no

theorem trimmed_of_lower_mem_words {b : Bool} {s : String} (h : s.map Char.toLower ∈ words b) :
    Trimmed s := by
  have hwords : ∀ b, ∀ w ∈ words b, Trimmed w := by decide +kernel
  exact .of_lower (hwords b _ h)

/-- No word for yes is a word for no. -/
theorem readBool_of_lower_mem_words {b : Bool} {s : String} (h : s.map Char.toLower ∈ words b) :
    readBool s = .ok b := by
  have hapart : ∀ w ∈ no, w ∉ yes := by decide +kernel
  rw [readBool]
  cases b with
  | true => exact if_pos h
  | false => exact (if_neg (hapart _ h)).trans (if_pos h)

/-! ## Secrets -/

/-- The digits of a secret, in lower case. -/
def secretText (k : Secret) : String := Utf8.text (Hex.encode k.bytes)

theorem graphic_of_mem_hex {s : Bytes} {x : UInt8} (h : x ∈ Hex.encode s) :
    Percent.isGraphic x = true := by
  rw [Hex.encode, List.mem_flatMap] at h
  obtain ⟨b, -, h⟩ := h
  have hb : b.toNat < 256 := b.toNat_lt
  rcases List.mem_pair.mp h with rfl | rfl
  · exact Address.digit_graphic _ (by omega)
  · exact Address.digit_graphic _ (by omega)

theorem encode_secretText (k : Secret) : Utf8.encode (secretText k) = Hex.encode k.bytes :=
  Utf8.encode_text fun _ hb => Address.lt_of_isGraphic (graphic_of_mem_hex hb)

theorem secretText_injective {k k' : Secret} (h : secretText k = secretText k') : k = k' := by
  have hbytes : k.bytes = k'.bytes :=
    Hex.encode_injective (by rw [← encode_secretText, h, encode_secretText])
  obtain ⟨b, hb⟩ := k
  obtain ⟨b', hb'⟩ := k'
  dsimp only at hbytes
  subst hbytes
  rfl

theorem ofBytes?_eq_some_iff {b : Bytes} {k : Secret} :
    Secret.ofBytes? b = some k ↔ b = k.bytes := by
  rw [Secret.ofBytes?]
  constructor
  · intro h
    split at h
    · rw [← Option.some.inj h]
    · cases h
  · rintro rfl
    exact dif_pos k.length_bytes

/-- **A secret is read from its digits in any letter case**, and from nothing else. -/
theorem readSecret_eq_ok_iff {s : String} {k : Secret} :
    readSecret s = .ok k ↔ s.map Char.toLower = secretText k := by
  have hdigits : Hex.decode (Utf8.encode s) = .ok k.bytes ↔ s.map Char.toLower = secretText k := by
    rw [Hex.decode_eq_ok_iff_lower, ← Utf8.encode_toLower, ← encode_secretText]
    exact ⟨Utf8.encode_injective, congrArg _⟩
  rw [← hdigits, readSecret]
  cases hread : Hex.decode (Utf8.encode s) with
  | error e =>
    constructor <;> intro h <;> cases h
  | ok b =>
    dsimp only
    cases hsecret : Secret.ofBytes? b with
    | none =>
      constructor
      · intro h
        cases h
      · intro h
        rw [ofBytes?_eq_some_iff.mpr (Except.ok.inj h)] at hsecret
        cases hsecret
    | some k' =>
      rw [Except.ok.injEq, Except.ok.injEq, ofBytes?_eq_some_iff.mp hsecret]
      constructor
      · rintro rfl
        rfl
      · intro h
        exact secretText_injective (by rw [secretText, secretText, h])

theorem trimmed_secretText (k : Secret) : Trimmed (secretText k) := by
  refine .text (fun h => ?_) fun _ hb => graphic_of_mem_hex hb
  have hlength := congrArg List.length h
  rw [Hex.length_encode, k.length_bytes] at hlength
  cases hlength

/-- A variable is set to the digits of a secret, in any letter case. -/
def HoldsSecret (env : Environment) (v : Variable) (k : Secret) : Prop :=
  ∃ s, Holds env v s ∧ s.map Char.toLower = secretText k

theorem HoldsSecret.secret {env : Environment} {v : Variable} {k : Secret}
    (h : HoldsSecret env v k) :
    ∃ s, Config.value? env v = some s ∧ Config.secret v s = .ok k := by
  obtain ⟨s, hs, hlower⟩ := h
  refine ⟨s, hs.value? (.of_lower (hlower ▸ trimmed_secretText k)), ?_⟩
  rw [Config.secret, readSecret_eq_ok_iff.mpr hlower]

/-! ## One variable after the other -/

theorem exists_of_bind_eq_ok {α β : Type} {r : Except Error α} {f : α → Except Error β} {b : β}
    (h : r >>= f = .ok b) : ∃ a, r = .ok a ∧ f a = .ok b := by
  cases r with
  | error e => cases h
  | ok a => exact ⟨a, rfl, h⟩

/-- Every field of a configuration is what its variables are read as. -/
structure Reads (env : Environment) (c : Config) : Prop where
  databaseUrl : required env .databaseUrl = .ok c.databaseUrl
  clientId : required env .clientId = .ok c.clientId
  origin : valueOr env .webUri defaultOrigin readOrigin = .ok c.origin
  port : valueOr env .port defaultPort readPort = .ok c.port
  address : valueOr env .bindAddress .loopback readAddress = .ok c.address
  maxConnections :
    valueOr env .maxConnections defaultMaxConnections readConnections = .ok c.maxConnections
  secrets : readSecrets env = .ok c.secrets
  /-- Without a word of its own, it is the origin that decides. -/
  secureCookies :
    valueOr env .cookieSecure (isSecureOrigin c.origin) readBool = .ok c.secureCookies
  tokeninfoUrl : (Config.value? env .tokeninfoUrl).getD defaultTokeninfoUrl = c.tokeninfoUrl

/-- **An environment means what its variables are read as**, one by one. -/
theorem ofEnvironment_eq_ok_iff {env : Environment} {c : Config} :
    ofEnvironment env = .ok c ↔ Reads env c := by
  constructor
  · intro h
    obtain ⟨_, hdatabaseUrl, h⟩ := exists_of_bind_eq_ok h
    obtain ⟨_, hclientId, h⟩ := exists_of_bind_eq_ok h
    obtain ⟨_, horigin, h⟩ := exists_of_bind_eq_ok h
    obtain ⟨_, hport, h⟩ := exists_of_bind_eq_ok h
    obtain ⟨_, haddress, h⟩ := exists_of_bind_eq_ok h
    obtain ⟨_, hmaxConnections, h⟩ := exists_of_bind_eq_ok h
    obtain ⟨_, hsecrets, h⟩ := exists_of_bind_eq_ok h
    obtain ⟨_, hsecureCookies, h⟩ := exists_of_bind_eq_ok h
    obtain rfl := Except.ok.inj h
    exact ⟨hdatabaseUrl, hclientId, horigin, hport, haddress, hmaxConnections, hsecrets,
      hsecureCookies, rfl⟩
  · intro h
    rw [ofEnvironment, h.databaseUrl, h.clientId, h.origin, h.port, h.address, h.maxConnections,
      h.secrets, h.tokeninfoUrl]
    simp only [bind, Except.bind, h.secureCookies]
    rfl

/-! ## Whole configurations -/

/-- A configuration that can be written down: its texts are trimmed, and its origin may be sent in
a header and does not end in a slash. -/
structure Spellable (c : Config) : Prop where
  databaseUrl : Trimmed c.databaseUrl
  clientId : Trimmed c.clientId
  origin : Trimmed c.origin
  header : (Utf8.encode c.origin).all isHeaderByte = true
  last : c.origin.toList.getLast? ≠ some '/'
  tokeninfoUrl : Trimmed c.tokeninfoUrl

/-- How secrets are written down. Without secrets neither variable is set. -/
def RendersSecrets (env : Environment) : Option Secrets → Prop
  | none => Unset env .signKey ∧ Unset env .encryptKey
  | some k => HoldsSecret env .signKey k.sign ∧ HoldsSecret env .encryptKey k.encrypt

/-- The ways to write a configuration into an environment. -/
structure Renders (c : Config) (env : Environment) : Prop where
  databaseUrl : Holds env .databaseUrl c.databaseUrl
  clientId : Holds env .clientId c.clientId
  webUri : ∃ n, Holds env .webUri (c.origin ++ slashes n)
  port : Holds env .port (Decimal.ofNat c.port.toNat)
  bindAddress : Holds env .bindAddress (addressText c.address)
  maxConnections : Holds env .maxConnections (Decimal.ofNat c.maxConnections.toNat)
  secrets : RendersSecrets env c.secrets
  cookieSecure : ∃ word, Holds env .cookieSecure word ∧
  word.map Char.toLower ∈ words c.secureCookies
  tokeninfoUrl : Holds env .tokeninfoUrl c.tokeninfoUrl

theorem readSecrets_of_renders {env : Environment} {k : Option Secrets}
    (h : RendersSecrets env k) :
    readSecrets env = .ok k := by
  cases k with
  | none =>
    obtain ⟨hsign, hencrypt⟩ := h
    rw [readSecrets, hsign.value?, hencrypt.value?]
  | some k =>
    obtain ⟨hsign, hencrypt⟩ := h
    obtain ⟨s, hs, hsecret⟩ := hsign.secret
    obtain ⟨t, ht, hsecret'⟩ := hencrypt.secret
    rw [readSecrets, hs, ht]
    dsimp only
    rw [hsecret, hsecret']
    rfl

/-- **A configuration is read back**, however it was written down. -/
theorem ofEnvironment_of_renders {c : Config} {env : Environment} (hc : c.Spellable)
    (h : Renders c env) : ofEnvironment env = .ok c := by
  obtain ⟨n, horigin⟩ := h.webUri
  obtain ⟨word, hword, hlower⟩ := h.cookieSecure
  exact ofEnvironment_eq_ok_iff.mpr
    { databaseUrl := h.databaseUrl.required hc.databaseUrl
      clientId := h.clientId.required hc.clientId
      origin := horigin.valueOr (hc.origin.append_slashes n)
        (readOrigin_append hc.header hc.last n) _
      port := h.port.valueOr (trimmed_ofNat _) (readPort_ofNat c.port) _
      address :=
        h.bindAddress.valueOr (trimmed_addressText _) (readAddress_addressText c.address) _
      maxConnections := h.maxConnections.valueOr (trimmed_ofNat _)
        (readConnections_ofNat c.maxConnections) _
      secrets := readSecrets_of_renders h.secrets
      secureCookies := hword.valueOr (trimmed_of_lower_mem_words hlower)
        (readBool_of_lower_mem_words hlower) _
      tokeninfoUrl := by rw [h.tokeninfoUrl.value? hc.tokeninfoUrl, Option.getD_some] }

/-! ## Equal secrets -/

/-- What a variable is set to, without blanks around it and without letter case. -/
def keyText (env : Environment) (v : Variable) : Option String :=
  (env v).map fun s => (Blank.trim s).map Char.toLower

theorem keyText_of_value? {env : Environment} {v : Variable} {s : String}
    (h : Config.value? env v = some s) : keyText env v = some (s.map Char.toLower) := by
  obtain ⟨⟨t, ht, rfl⟩, -⟩ := value?_eq_some_iff.mp h
  rw [keyText, ht, Option.map_some]

/-- A secret that was read is what its variable is set to, but for blanks and letter case. -/
theorem keyText_of_secret {env : Environment} {v : Variable} {s : String} {k : Secret}
    (hs : Config.value? env v = some s) (hk : Config.secret v s = .ok k) :
    keyText env v = some (secretText k) := by
  rw [Config.secret] at hk
  split at hk
  · rename_i k' hread
    rw [keyText_of_value? hs, readSecret_eq_ok_iff.mp hread, Except.ok.inj hk]
  · cases hk

theorem keyText_of_ok {env : Environment} {c : Config} {k : Secrets}
    (h : ofEnvironment env = .ok c) (hk : c.secrets = some k) :
    keyText env .signKey = some (secretText k.sign) ∧
      keyText env .encryptKey = some (secretText k.encrypt) := by
  have hsecrets := (ofEnvironment_eq_ok_iff.mp h).secrets
  rw [hk, readSecrets] at hsecrets
  split at hsecrets
  · cases hsecrets
  · rename_i s t hs ht
    obtain ⟨sign, hsign, hsecrets⟩ := exists_of_bind_eq_ok hsecrets
    obtain ⟨encrypt, hencrypt, hsecrets⟩ := exists_of_bind_eq_ok hsecrets
    obtain rfl : Secrets.mk sign encrypt = k := Option.some.inj (Except.ok.inj hsecrets)
    exact ⟨keyText_of_secret hs hsign, keyText_of_secret ht hencrypt⟩
  · cases hsecrets

/-- **A configuration is read back, and secrets are told apart.** However a configuration is
written into the variables of an environment, with any blanks around the values, any slashes behind
the origin and letters of either case in the words and the secrets, that configuration is what the
environment means. Two environments that mean configurations with secrets mean the same secrets
exactly if the texts of both secrets are the same, but for the blanks around them and the case of
letters. -/
theorem config_round_trip :
    (∀ c env, Spellable c → Renders c env → ofEnvironment env = .ok c) ∧
    ∀ env env' c c' k k', ofEnvironment env = .ok c → ofEnvironment env' = .ok c' →
      c.secrets = some k → c'.secrets = some k' →
      (k = k' ↔ keyText env .signKey = keyText env' .signKey ∧
        keyText env .encryptKey = keyText env' .encryptKey) := by
  refine ⟨fun c env hc h => ofEnvironment_of_renders hc h, ?_⟩
  intro env env' c c' k k' h h' hk hk'
  obtain ⟨hsign, hencrypt⟩ := keyText_of_ok h hk
  obtain ⟨hsign', hencrypt'⟩ := keyText_of_ok h' hk'
  rw [hsign, hencrypt, hsign', hencrypt', Option.some.injEq, Option.some.injEq]
  constructor
  · rintro rfl
    exact ⟨rfl, rfl⟩
  · rintro ⟨hs, he⟩
    obtain ⟨sign, encrypt⟩ := k
    obtain ⟨sign', encrypt'⟩ := k'
    rw [Secrets.mk.injEq]
    exact ⟨secretText_injective hs, secretText_injective he⟩

/-- A configuration with an address of version 6, and with secrets of letters and digits. -/
def writtenConfig : Config where
  databaseUrl := "postgres://db/main"
  clientId := "client"
  origin := "https://sign-in.example"
  address := .v6 #v[0x2001, 0xDB8, 0, 0, 0, 0, 0, 0xAF]
  port := 443
  secrets := some ⟨⟨List.replicate 32 0xAB, rfl⟩, ⟨List.replicate 32 0x0F, rfl⟩⟩
  secureCookies := false
  maxConnections := 20
  tokeninfoUrl := "https://provider.example/tokeninfo"

/-- A secret of 32 equal bytes, written with the digits of one of them. -/
def repeatedDigits (high low : Char) : String :=
  String.ofList (List.replicate 32 [high, low]).flatten

/-- A way to write it, with the digits of the secret for signing as they are given: there are
slashes and blanks, and some letters are capitals. -/
def writtenEnvironment (high low : Char) : Environment
  | .databaseUrl => some "\tpostgres://db/main"
  | .clientId => some "client\n"
  | .webUri => some " https://sign-in.example// "
  | .port => some "443"
  | .bindAddress => some "2001:db8::af "
  | .maxConnections => some " 20"
  | .signKey => some (" " ++ repeatedDigits high low ++ "\n")
  | .encryptKey => some (repeatedDigits '0' 'F')
  | .cookieSecure => some "No "
  | .tokeninfoUrl => some "https://provider.example/tokeninfo"

theorem spellable_writtenConfig : Spellable writtenConfig where
  databaseUrl := by decide +kernel
  clientId := by decide +kernel
  origin := by decide +kernel
  header := by decide +kernel
  last := by decide +kernel
  tokeninfoUrl := by decide +kernel

theorem lower_repeatedDigits {high low : Char} {b : UInt8}
    (h : [high.toLower, low.toLower] = (Hex.encodeByte b).map fun x => Char.ofNat x.toNat) :
    (repeatedDigits high low).map Char.toLower = secretText ⟨List.replicate 32 b, rfl⟩ := by
  rw [← String.toList_inj, String.toList_map, repeatedDigits, String.toList_ofList, secretText,
    Utf8.toList_text, Hex.encode, List.map_flatten, List.map_replicate, List.map_flatMap]
  exact congrArg (fun digits => (List.replicate 32 digits).flatten) h

theorem addressText_writtenConfig : addressText writtenConfig.address = "2001:db8::af" := by
  decide +kernel

theorem renders_writtenConfig (high low : Char)
    (h : [high.toLower, low.toLower] = (Hex.encodeByte 0xAB).map fun x => Char.ofNat x.toNat) :
    Renders writtenConfig (writtenEnvironment high low) where
  databaseUrl := .of_all "\t" "" rfl rfl rfl
  clientId := .of_all "" "\n" rfl rfl rfl
  webUri := ⟨2, .of_all " " " " rfl rfl rfl⟩
  port := .of_all "" "" rfl rfl rfl
  bindAddress := .of_all "" " " rfl rfl (by rw [addressText_writtenConfig]; rfl)
  maxConnections := .of_all " " "" rfl rfl rfl
  secrets :=
    ⟨⟨repeatedDigits high low, .of_all " " "\n" rfl rfl rfl, lower_repeatedDigits h⟩,
     ⟨repeatedDigits '0' 'F', .of_all "" "" rfl rfl rfl, lower_repeatedDigits (by decide)⟩⟩
  cookieSecure := ⟨"No", .of_all "" " " rfl rfl rfl, by decide +kernel⟩
  tokeninfoUrl := .of_all "" "" rfl rfl rfl

/-- It is read back, and the letters of a secret may be written in either case. -/
theorem config_round_trip_written :
    ofEnvironment (writtenEnvironment 'a' 'B') = .ok writtenConfig ∧
    ofEnvironment (writtenEnvironment 'A' 'b') = .ok writtenConfig ∧
    keyText (writtenEnvironment 'a' 'B') .signKey
      = keyText (writtenEnvironment 'A' 'b') .signKey := by
  obtain ⟨hread, hkeys⟩ := config_round_trip
  have hmixed := hread _ _ spellable_writtenConfig (renders_writtenConfig 'a' 'B' (by decide))
  have hswapped := hread _ _ spellable_writtenConfig (renders_writtenConfig 'A' 'b' (by decide))
  exact ⟨hmixed, hswapped, ((hkeys _ _ _ _ _ _ hmixed hswapped rfl rfl).mp rfl).1⟩

end Config

end SignIn
