import SignIn.Cookie.Change
import SignIn.Cookie.Sealed
import SignIn.Proofs.Base64
import SignIn.Proofs.Trimming

/-!
# A cookie comes back as it was set

What a response sets is percent-encoded, so it holds neither the `;` that parts cookies nor the `=`
that parts a name from its value, and no blank that trimming could take. A browser that sends it
back, among whatever other cookies and blanks, therefore gives back the same name and value; and a
sealed value opens to what was sealed, under the key and the name it was sealed with.
-/

namespace SignIn

/-! ## Percent encoding -/

namespace Percent

theorem decodeFrom_plain {b : UInt8} (h : b ≠ sign) (acc r : Bytes) :
    decodeFrom acc (b :: r) = decodeFrom (b :: acc) r := by
  match r with
  | [] => simp [decodeFrom]
  | [c] => simp [decodeFrom]
  | c :: d :: r => rw [decodeFrom, if_neg h]

theorem decodeFrom_escape (b : UInt8) (acc r : Bytes) :
    decodeFrom acc (escape b ++ r) = decodeFrom (b :: acc) r := by
  have hb : b.toNat < 256 := b.toNat_lt
  have hwhole : UInt8.ofNat (b.toNat / 16 * 16 + b.toNat % 16) = b := Base64.ofNat_eq (by omega)
  simp only [escape, List.cons_append, List.nil_append]
  rw [decodeFrom, if_pos rfl, Hex.value?_upperDigit _ (by omega),
    Hex.value?_upperDigit _ (by omega)]
  dsimp only
  rw [hwhole]

theorem decodeFrom_encode {keep : UInt8 → Bool} (h : keep sign = false) (s acc : Bytes) :
    decodeFrom acc (encode keep s) = acc.reverse ++ s := by
  induction s generalizing acc with
  | nil => simp [encode, decodeFrom]
  | cons b s ih =>
    rw [encode, List.flatMap_cons]
    show decodeFrom acc ((if keep b then [b] else escape b) ++ encode keep s) = _
    split
    · rename_i hb
      have hne : b ≠ sign := by
        rintro rfl
        rw [h] at hb
        cases hb
      rw [List.singleton_append, decodeFrom_plain hne, ih]
      simp
    · rw [decodeFrom_escape, ih]
      simp

/-- **Encoded bytes are read back**, whichever bytes were kept, as long as the sign was not. -/
theorem decode_encode {keep : UInt8 → Bool} (h : keep sign = false) (s : Bytes) :
    decode (encode keep s) = s := decodeFrom_encode h s []

theorem mem_encode {keep : UInt8 → Bool} {s : Bytes} {b : UInt8} (h : b ∈ encode keep s) :
    keep b = true ∨ b = sign ∨ ∃ n < 16, b = Hex.upperDigit n := by
  obtain ⟨c, _, hb⟩ := List.mem_flatMap.mp h
  have hc : c.toNat < 256 := c.toNat_lt
  split at hb
  · rename_i hk
    rw [List.mem_singleton] at hb
    exact .inl (hb ▸ hk)
  · simp only [escape, List.mem_cons, List.not_mem_nil, or_false] at hb
    rcases hb with rfl | rfl | rfl
    · exact .inr (.inl rfl)
    · exact .inr (.inr ⟨_, by omega, rfl⟩)
    · exact .inr (.inr ⟨_, by omega, rfl⟩)

theorem upperDigit_graphic : ∀ n < 16, isGraphic (Hex.upperDigit n) = true
    ∧ Hex.upperDigit n ≠ Cookie.semicolon ∧ Hex.upperDigit n ≠ Cookie.equals := by decide

/-- A byte of an encoded name or value is graphic and parts nothing. -/
theorem mem_encode_cookie {s : Bytes} {b : UInt8} (h : b ∈ encode keptInCookie s) :
    isGraphic b = true ∧ b ≠ Cookie.semicolon ∧ b ≠ Cookie.equals := by
  rcases mem_encode h with hk | rfl | ⟨n, hn, rfl⟩
  · have hg : isGraphic b = true := by
      rw [keptInCookie, graphicBut, Bool.and_eq_true] at hk
      exact hk.1
    refine ⟨hg, ?_, ?_⟩
    · rintro rfl
      exact absurd hk (by decide)
    · rintro rfl
      exact absurd hk (by decide)
  · decide
  · exact upperDigit_graphic n hn

end Percent

/-! ## Parts of a header -/

namespace Cookie

theorem not_blank_of_graphic {b : UInt8} (h : Percent.isGraphic b = true) : isBlank b = false := by
  rw [Bool.eq_false_iff]
  intro hb
  simp only [isBlank, Bool.or_eq_true, beq_iff_eq] at hb
  rcases hb with rfl | rfl <;> exact absurd h (by decide)

theorem visible_of_graphic {b : UInt8} (h : Percent.isGraphic b = true) : isVisible b = true := by
  simp only [Percent.isGraphic, Bool.and_eq_true, decide_eq_true_eq, UInt8.le_iff_toNat_le] at h
  have hlow : (0x21 : UInt8).toNat = 33 := rfl
  have hlow' : (0x20 : UInt8).toNat = 32 := rfl
  simp only [isVisible, Bool.or_eq_true, Bool.and_eq_true, decide_eq_true_eq,
    UInt8.le_iff_toNat_le]
  exact .inl ⟨by omega, h.2⟩

theorem ofSpelling?_eq_some_iff {name value : Bytes} {c : Cookie} :
    ofSpelling? name value = some c ↔
      name ≠ [] ∧ (Utf8.decodeChars? c.name).isSome ∧ (Utf8.decodeChars? c.value).isSome ∧
        Percent.decode name = c.name ∧ Percent.decode value = c.value := by
  rw [ofSpelling?]
  constructor
  · intro h
    split at h
    · rename_i hread
      obtain rfl := Option.some.inj h
      exact ⟨hread.1, hread.2.1, hread.2.2, rfl, rfl⟩
    · cases h
  · rintro ⟨hne, hname, hvalue, hdname, hdvalue⟩
    rw [hdname, hdvalue]
    exact if_pos ⟨hne, hname, hvalue⟩

theorem ofPart?_eq_some_iff {part : Bytes} {c : Cookie} :
    ofPart? part = some c ↔
      ∃ name value, halves? part = some (name, value) ∧ ofSpelling? name value = some c := by
  rw [ofPart?]
  cases halves? part with
  | none => simp
  | some halves => exact ⟨fun h => ⟨halves.1, halves.2, rfl, h⟩, by rintro ⟨_, _, ⟨⟩, h⟩; exact h⟩

theorem not_equals_of_blank {b : UInt8} (h : isBlank b = true) : (b != equals) = true := by
  simp only [isBlank, Bool.or_eq_true, beq_iff_eq] at h
  rcases h with rfl | rfl <;> decide

/-- The two halves of a part are what stands before and after its first `=`. -/
theorem halves?_padded {lead name value trail : Bytes} (hlead : ∀ b ∈ lead, isBlank b = true)
    (hname : ∀ b ∈ name, Percent.isGraphic b = true ∧ b ≠ equals)
    (hvalue : ∀ b ∈ value, Percent.isGraphic b = true) (htrail : ∀ b ∈ trail, isBlank b = true) :
    halves? (lead ++ (name ++ equals :: value) ++ trail) = some (name, value) := by
  have hfront : ∀ b ∈ lead ++ name, (b != equals) = true := by
    intro b hb
    rcases List.mem_append.mp hb with h | h
    · exact not_equals_of_blank (hlead b h)
    · simpa using (hname b h).2
  have hstop : (equals != equals) = false := by decide
  have hsplit : lead ++ (name ++ equals :: value) ++ trail
      = (lead ++ name) ++ equals :: (value ++ trail) := by simp
  have htake : ((lead ++ name) ++ equals :: (value ++ trail)).takeWhile (· != equals)
      = lead ++ name := by
    rw [List.takeWhile_append_of_pos hfront, List.takeWhile_cons_of_neg (by rw [hstop]; decide),
      List.append_nil]
  have hdrop : ((lead ++ name) ++ equals :: (value ++ trail)).dropWhile (· != equals)
      = equals :: (value ++ trail) := by
    rw [List.dropWhile_append_of_pos hfront, List.dropWhile_cons_of_neg (by rw [hstop]; decide)]
  have hnil : ∀ b ∈ ([] : Bytes), isBlank b = true := by simp
  have hn : Blank.trimList isBlank (lead ++ name) = name := by
    have hbare : Blank.Bare isBlank name := .of_all fun b hb => not_blank_of_graphic (hname b hb).1
    have h := hbare.trimList_around hlead hnil
    rwa [List.append_nil] at h
  have hv : Blank.trimList isBlank (value ++ trail) = value :=
    (Blank.Bare.of_all fun b hb => not_blank_of_graphic (hvalue b hb)).trimList_around hnil htrail
  rw [halves?, hsplit, hdrop, htake]
  dsimp only
  rw [hn, hv]

end Cookie

namespace CookieChange

/-- What a browser keeps of a `Set-Cookie` header to send it back: all before the first `;`. -/
def returned (header : Bytes) : Bytes := header.takeWhile (· != Cookie.semicolon)

theorem graphic_of_mem_pair {c : CookieChange} {b : UInt8} (h : b ∈ c.pair) :
    Percent.isGraphic b = true ∧ b ≠ Cookie.semicolon := by
  rw [pair, List.mem_append, List.mem_cons] at h
  rcases h with h | rfl | h
  · exact ⟨(Percent.mem_encode_cookie h).1, (Percent.mem_encode_cookie h).2.1⟩
  · decide
  · exact ⟨(Percent.mem_encode_cookie h).1, (Percent.mem_encode_cookie h).2.1⟩

/-- The name and the value are what is sent back. -/
theorem returned_header (c : CookieChange) : returned c.header = c.pair := by
  -- The pair has no semicolon, and the attributes begin with one.
  have hpair : ∀ b ∈ c.pair, (b != Cookie.semicolon) = true :=
    fun b hb => bne_iff_ne.mpr (graphic_of_mem_pair hb).2
  obtain ⟨r, hr⟩ : ∃ r, c.attributes = Cookie.semicolon :: r := by
    refine ⟨Utf8.encode (" HttpOnly" ++ (if c.secure then "; Secure" else "") ++
      "; Path=/; Max-Age=" ++ Decimal.ofNat c.maxAge), ?_⟩
    rw [attributes]
    simp only [Utf8.encode_append]
    rfl
  rw [returned, header, hr, List.takeWhile_append_of_pos hpair,
    List.takeWhile_cons_of_neg (by decide), List.append_nil]

/-- **A cookie that is sent back is the cookie that was set**, whatever blanks are put
around it. -/
theorem ofPart?_pair (c : CookieChange) (hne : c.name ≠ []) (hname : Utf8.IsText c.name)
    (hvalue : Utf8.IsText c.value) {lead trail : Bytes}
    (hlead : ∀ b ∈ lead, Cookie.isBlank b = true) (htrail : ∀ b ∈ trail, Cookie.isBlank b = true) :
    Cookie.ofPart? (lead ++ c.pair ++ trail) = some ⟨c.name, c.value⟩ := by
  have hkept : Percent.keptInCookie Percent.sign = false := by decide
  -- A part without a name is no cookie, and an empty spelling would decode to an empty name.
  have hspelled : Percent.encode Percent.keptInCookie c.name ≠ [] := by
    intro h
    have hback := Percent.decode_encode hkept c.name
    rw [h] at hback
    exact hne hback.symm
  have hhalves : Cookie.halves? (lead ++ c.pair ++ trail)
      = some (Percent.encode Percent.keptInCookie c.name,
          Percent.encode Percent.keptInCookie c.value) :=
    Cookie.halves?_padded hlead
      (fun b hb => ⟨(Percent.mem_encode_cookie hb).1, (Percent.mem_encode_cookie hb).2.2⟩)
      (fun b hb => (Percent.mem_encode_cookie hb).1) htrail
  exact Cookie.ofPart?_eq_some_iff.mpr ⟨_, _, hhalves, Cookie.ofSpelling?_eq_some_iff.mpr
    ⟨hspelled, hname.isSome_decodeChars?, hvalue.isSome_decodeChars?,
      Percent.decode_encode hkept _, Percent.decode_encode hkept _⟩⟩

end CookieChange

/-! ## Sealing -/

namespace Cookie

theorem isText_sealed (k : Gcm.Key) (nonce : Nonce) (name text : Bytes) :
    Utf8.IsText (Cookie.sealed k nonce name text) :=
  .of_ascii (Base64.encode_ascii .standard _)

/-- A cookie without a value, which is what drops a cookie, does not open. -/
theorem open?_of_nil {k : Gcm.Key} {c : Cookie} (h : c.value = []) : Cookie.open? k c = none := by
  have hdecode : Base64.decode .standard .canonical [] = .ok [] := rfl
  rw [Cookie.open?, h, hdecode]
  rfl

/-- A value that is no base64 text is none that was sealed. -/
theorem open?_of_decode {k : Gcm.Key} {c : Cookie} {e : Base64.Error}
    (h : Base64.decode .standard .canonical c.value = .error e) : open? k c = none := by
  rw [open?, h]

/-- **A sealed text is opened by the key it was sealed with.** -/
theorem open?_sealed (k : Gcm.Key) (nonce : Nonce) (name : Bytes) {text : Bytes}
    (h : Utf8.IsText text) :
    Cookie.open? k ⟨name, Cookie.sealed k nonce name text⟩ = some text := by
  have hnonce : nonce.toList.length = Gcm.nonceLength := by simp [Gcm.nonceLength]
  have hlong : ¬(nonce.toList ++ Gcm.encrypt k nonce.toList name text).length
      ≤ Gcm.nonceLength := by
    rw [List.length_append, hnonce, Gcm.encrypt, List.length_append, Gcm.length_tag, Gcm.tagLength]
    omega
  rw [Cookie.open?, Cookie.sealed, Base64.decode_encode]
  dsimp only
  rw [if_neg hlong, List.take_left' hnonce, List.drop_left' hnonce, Gcm.decrypt?_encrypt,
    Option.filter_some, if_pos h.isSome_decodeChars?]

end Cookie

end SignIn
