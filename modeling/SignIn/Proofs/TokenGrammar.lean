import SignIn.Proofs.Base64
import SignIn.Proofs.JsonReading
import SignIn.Token.Claims

/-!
# What a token claims

A token with claims is three texts with points between them, the second of which is the base64 text
of a JSON object. The alphabet of that text is guessed from the symbols that only one alphabet has,
and the guess is never wrong: where a text has none of them it is the same in either, and where it
has some of both it is a text in neither.
-/

namespace SignIn.Token

/-! ## Payloads -/

/-- The base64 text of some bytes, with `k` pads. -/
def payloadText (α : Base64.Alphabet) (k : Nat) (text : Bytes) : String :=
  String.ofList ((Base64.padded α k text).map fun b => Char.ofNat b.toNat)

theorem encode_payloadText (α : Base64.Alphabet) (k : Nat) (text : Bytes) :
    Utf8.encode (payloadText α k text) = Base64.padded α k text := by
  rw [payloadText, Utf8.encode, String.toList_ofList]
  refine Utf8.encodeChars_ofAscii fun b hb => ?_
  rcases Base64.mem_padded α hb with rfl | ⟨n, hn, rfl⟩
  · decide
  · exact Base64.symbol_ascii α n hn

/-- A symbol that only the second alphabet has. -/
def isUrlSafe (b : UInt8) : Bool :=
  b == Base64.Alphabet.urlSafe.symbol62 || b == Base64.Alphabet.urlSafe.symbol63

theorem isUrlSafe_standard {k : Nat} {text : Bytes} {b : UInt8}
    (h : b ∈ Base64.padded .standard k text) : isUrlSafe b = false := by
  have hall : ∀ n < 64, isUrlSafe (Base64.Alphabet.standard.symbol n) = false := by decide
  rcases Base64.mem_padded _ h with rfl | ⟨n, hn, rfl⟩
  · decide
  · exact hall n hn

/-- Without the symbols that only one alphabet has, a text is the same in either. -/
theorem padded_standard {k : Nat} {text : Bytes}
    (h : ∀ b ∈ Base64.padded .urlSafe k text, isUrlSafe b = false) :
    Base64.padded .standard k text = Base64.padded .urlSafe k text := by
  have hall : ∀ n < 64, isUrlSafe (Base64.Alphabet.urlSafe.symbol n) = false →
      Base64.Alphabet.standard.symbol n = Base64.Alphabet.urlSafe.symbol n := by decide
  rw [Base64.padded, Base64.padded, Base64.body_eq, Base64.body_eq]
  congr 1
  refine List.map_congr_left fun n hn => hall n (Base64.sextets_lt n hn) (h _ ?_)
  rw [Base64.padded, Base64.body_eq]
  exact List.mem_append_left _ (List.mem_map_of_mem hn)

theorem allows_indifferent {k : Nat} {text : Bytes} :
    Base64.Padding.indifferent.Allows k text ↔ k ≤ Base64.padCount text.length := by
  simp [Base64.Padding.Allows]

/-- **The alphabet is never guessed wrong.** -/
theorem payloadBytes_eq_ok_iff {payload text : Bytes} :
    payloadBytes payload = .ok text ↔
      ∃ α k, k ≤ Base64.padCount text.length ∧ payload = Base64.padded α k text := by
  rw [payloadBytes, Base64.decode_eq_ok_iff]
  constructor
  · rintro ⟨k, hk, hpayload⟩
    exact ⟨_, k, allows_indifferent.mp hk, hpayload⟩
  · rintro ⟨α, k, hk, rfl⟩
    refine ⟨k, allows_indifferent.mpr hk, ?_⟩
    by_cases hany : (Base64.padded α k text).any isUrlSafe = true
    · have hguess : alphabetOf (Base64.padded α k text) = .urlSafe := if_pos hany
      rw [hguess]
      cases α with
      | standard =>
        obtain ⟨b, hb, hurl⟩ := List.any_eq_true.mp hany
        rw [isUrlSafe_standard hb] at hurl
        cases hurl
      | urlSafe => rfl
    · have hguess : alphabetOf (Base64.padded α k text) = .standard := if_neg hany
      rw [hguess]
      cases α with
      | standard => rfl
      | urlSafe =>
        refine (padded_standard fun b hb => ?_).symm
        rw [Bool.eq_false_iff]
        exact fun hurl => hany (List.any_eq_true.mpr ⟨b, hb, hurl⟩)

theorem payloadBytes_encode_iff {payload : String} {text : Bytes} :
    payloadBytes (Utf8.encode payload) = .ok text ↔
      ∃ α k, k ≤ Base64.padCount text.length ∧ payload = payloadText α k text := by
  rw [payloadBytes_eq_ok_iff]
  constructor
  · rintro ⟨α, k, hk, hpayload⟩
    exact ⟨α, k, hk, Utf8.encode_injective (by rw [hpayload, encode_payloadText])⟩
  · rintro ⟨α, k, hk, rfl⟩
    exact ⟨α, k, hk, encode_payloadText α k text⟩

theorem mem_payloadText {α : Base64.Alphabet} {k : Nat} {text : Bytes} {c : Char}
    (h : c ∈ (payloadText α k text).toList) :
    c = '=' ∨ ∃ n < 64, c = Char.ofNat (α.symbol n).toNat := by
  rw [payloadText, String.toList_ofList, List.mem_map] at h
  obtain ⟨b, hb, rfl⟩ := h
  rcases Base64.mem_padded α hb with rfl | ⟨n, hn, rfl⟩
  · exact .inl rfl
  · exact .inr ⟨n, hn, rfl⟩

/-- A text with symbols that only one alphabet has, and with symbols that only the other has. -/
def Mixed (s : String) : Prop :=
  ('+' ∈ s.toList ∨ '/' ∈ s.toList) ∧ ('-' ∈ s.toList ∨ '_' ∈ s.toList)

theorem not_mixed_payloadText (α : Base64.Alphabet) (k : Nat) (text : Bytes) :
    ¬Mixed (payloadText α k text) := by
  have hstandard : ∀ n < 64, Char.ofNat (Base64.Alphabet.standard.symbol n).toNat ≠ '-' ∧
      Char.ofNat (Base64.Alphabet.standard.symbol n).toNat ≠ '_' := by decide
  have hurlSafe : ∀ n < 64, Char.ofNat (Base64.Alphabet.urlSafe.symbol n).toNat ≠ '+' ∧
      Char.ofNat (Base64.Alphabet.urlSafe.symbol n).toNat ≠ '/' := by decide
  rintro ⟨hfirst, hsecond⟩
  cases α with
  | standard =>
    rcases hsecond with h | h <;> rcases mem_payloadText h with he | ⟨n, hn, he⟩
    · exact absurd he (by decide)
    · exact (hstandard n hn).1 he.symm
    · exact absurd he (by decide)
    · exact (hstandard n hn).2 he.symm
  | urlSafe =>
    rcases hfirst with h | h <;> rcases mem_payloadText h with he | ⟨n, hn, he⟩
    · exact absurd he (by decide)
    · exact (hurlSafe n hn).1 he.symm
    · exact absurd he (by decide)
    · exact (hurlSafe n hn).2 he.symm

/-! ## Segments -/

/-- A text without a point. -/
def Unpointed (s : String) : Prop := '.' ∉ s.toList

instance (s : String) : Decidable (Unpointed s) := inferInstanceAs (Decidable ('.' ∉ s.toList))

theorem unpointed_payloadText (α : Base64.Alphabet) (k : Nat) (text : Bytes) :
    Unpointed (payloadText α k text) := by
  have hall : ∀ n < 64, Char.ofNat (α.symbol n).toNat ≠ '.' := by cases α <;> decide
  intro h
  rcases mem_payloadText h with he | ⟨n, hn, he⟩
  · exact absurd he (by decide)
  · exact hall n hn he.symm

/-- A token of three segments. -/
def joined (header payload signature : String) : String :=
  header ++ "." ++ payload ++ "." ++ signature

/-- A text is taken apart at its points, the first one first. -/
theorem pointed_induction {P : List Char → Prop} (none : ∀ cs, '.' ∉ cs → P cs)
    (cons : ∀ as bs, '.' ∉ as → P bs → P (as ++ '.' :: bs)) (cs : List Char) : P cs := by
  induction hn : cs.length using Nat.strongRecOn generalizing cs with
  | ind n ih =>
    subst hn
    by_cases hmem : '.' ∈ cs
    · obtain ⟨as, bs, rfl, has⟩ := List.eq_append_cons_of_mem hmem
      exact cons as bs has (ih _ (by simp; omega) bs rfl)
    · exact none cs hmem

theorem point_not_mem {cs : List Char} (h : '.' ∉ cs) : point ∉ Utf8.encodeChars cs := by
  intro hpoint
  obtain ⟨c, hc, hb⟩ := List.mem_flatMap.mp hpoint
  obtain ⟨b, t, hchar, -, ht⟩ := Utf8.exists_encodeChar c
  rw [hchar] at hb
  rcases List.mem_cons.mp hb with rfl | hb
  -- The only character that begins with the byte of the point is the point.
  · obtain ⟨ds, hds, -⟩ := Utf8.encodeChars_eq_append (c := '.') (s := t ++ []) [c]
      (by rw [Utf8.encodeChars_cons, hchar]; rfl)
    exact h ((List.cons.inj hds).1 ▸ hc)
  · exact absurd (ht _ hb).1 (by decide)

theorem splitOn_encodeChars (cs : List Char) :
    (Utf8.encodeChars cs).splitOn point = (cs.splitOn '.').map Utf8.encodeChars := by
  induction cs using pointed_induction with
  | none cs hcs =>
    rw [List.splitOn_eq_singleton hcs, List.splitOn_eq_singleton (point_not_mem hcs),
      List.map_singleton]
  | cons as bs has ih =>
    rw [List.splitOn_append_cons_self_of_not_mem has, List.map_cons, ← ih,
      ← List.splitOn_append_cons_self_of_not_mem (point_not_mem has)]
    congr 1
    simp [Utf8.encodeChars]
    rfl

theorem length_splitOn (cs : List Char) : (cs.splitOn '.').length = cs.count '.' + 1 := by
  induction cs using pointed_induction with
  | none cs hcs => rw [List.splitOn_eq_singleton hcs, List.count_eq_zero.mpr hcs]; rfl
  | cons as bs has ih =>
    rw [List.splitOn_append_cons_self_of_not_mem has, List.length_cons, ih, List.count_append,
      List.count_cons_self, List.count_eq_zero.mpr has, Nat.zero_add]

theorem segments_eq (token : String) :
    segments token = (token.toList.splitOn '.').map Utf8.encodeChars := splitOn_encodeChars _

theorem toList_joined (header payload signature : String) :
    (joined header payload signature).toList
      = header.toList ++ '.' :: (payload.toList ++ '.' :: signature.toList) := by
  simp [joined]

section Joined

variable {header payload signature : String} (hh : Unpointed header) (hp : Unpointed payload)
  (hs : Unpointed signature)

include hh hp hs

theorem claims_joined :
    claims (joined header payload signature) = payloadClaims (Utf8.encode payload) := by
  have hsegments : segments (joined header payload signature)
      = [Utf8.encode header, Utf8.encode payload, Utf8.encode signature] := by
    rw [segments_eq, toList_joined, List.splitOn_append_cons_self_of_not_mem hh,
      List.splitOn_append_cons_self_of_not_mem hp, List.splitOn_eq_singleton hs]
    rfl
  rw [claims, hsegments]

end Joined

theorem exists_joined {token : String} (h : token.toList.count '.' = 2) :
    ∃ header payload signature, Unpointed header ∧ Unpointed payload ∧ Unpointed signature ∧
      token = joined header payload signature := by
  have hfirst : '.' ∈ token.toList := List.count_pos_iff.mp (by omega)
  obtain ⟨as, bs, htoken, has⟩ := List.eq_append_cons_of_mem hfirst
  rw [htoken, List.count_append, List.count_cons_self, List.count_eq_zero.mpr has] at h
  have hsecond : '.' ∈ bs := List.count_pos_iff.mp (by omega)
  obtain ⟨cs, ds, rfl, hcs⟩ := List.eq_append_cons_of_mem hsecond
  rw [List.count_append, List.count_cons_self, List.count_eq_zero.mpr hcs] at h
  have hds : '.' ∉ ds := List.count_eq_zero.mp (by omega)
  refine ⟨String.ofList as, String.ofList cs, String.ofList ds, ?_, ?_, ?_, ?_⟩
  · rwa [Unpointed, String.toList_ofList]
  · rwa [Unpointed, String.toList_ofList]
  · rwa [Unpointed, String.toList_ofList]
  · refine String.toList_injective ?_
    rw [toList_joined, String.toList_ofList, String.toList_ofList, String.toList_ofList, htoken]

theorem claims_of_count {token : String} (h : token.toList.count '.' ≠ 2) :
    claims token = .error (.segments (token.toList.count '.' + 1)) := by
  have hlength : (segments token).length = token.toList.count '.' + 1 := by
    rw [segments_eq, List.length_map, length_splitOn]
  rw [claims]
  split
  · rename_i hsegments
    rw [hsegments] at hlength
    simp only [List.length_cons, List.length_nil] at hlength
    omega
  · rw [hlength]

/-! ## Claims -/

section Payload

variable {payload : String}

/-- A payload that is the text of no bytes in either alphabet. -/
def NotBase64 (payload : String) : Prop :=
  ∀ α k text, k ≤ Base64.padCount text.length → payload ≠ payloadText α k text

theorem payloadClaims_of_notBase64 (h : NotBase64 payload) :
    ∃ e, payloadClaims (Utf8.encode payload) = .error (.payloadNotBase64 e) := by
  rw [payloadClaims]
  cases hbytes : payloadBytes (Utf8.encode payload) with
  | error e => exact ⟨e, rfl⟩
  | ok text =>
    obtain ⟨α, k, hk, hpayload⟩ := payloadBytes_encode_iff.mp hbytes
    exact absurd hpayload (h α k text hk)

variable {α : Base64.Alphabet} {k : Nat} {text : Bytes} (hk : k ≤ Base64.padCount text.length)

include hk

theorem payloadClaims_of_document {c : Claims} (h : Json.Document Json.maxDepth c text) :
    payloadClaims (Utf8.encode (payloadText α k text)) = .ok c := by
  rw [payloadClaims, payloadBytes_encode_iff.mpr ⟨α, k, hk, rfl⟩]
  dsimp only
  rw [Json.parseObject_eq_ok_iff.mpr h]

theorem payloadClaims_of_notDocument (h : ∀ c, ¬Json.Document Json.maxDepth c text) :
    ∃ e, payloadClaims (Utf8.encode (payloadText α k text)) = .error (.payloadNotObject e) := by
  rw [payloadClaims, payloadBytes_encode_iff.mpr ⟨α, k, hk, rfl⟩]
  dsimp only
  cases hparse : Json.parseObject text with
  | error e => exact ⟨e, rfl⟩
  | ok c => exact absurd (Json.parseObject_eq_ok_iff.mp hparse) (h c)

end Payload

/-- What a token is read as, and why. -/
inductive Reading (token : String) : Except ClaimError Claims → Prop
  | segments (points : token.toList.count '.' ≠ 2) :
      Reading token (.error (.segments (token.toList.count '.' + 1)))
  | notBase64 {header payload signature : String} {e : Base64.Error} (hh : Unpointed header)
      (hp : Unpointed payload) (hs : Unpointed signature)
      (parts : token = joined header payload signature) (none : NotBase64 payload) :
      Reading token (.error (.payloadNotBase64 e))
  | notObject {header signature : String} {α : Base64.Alphabet} {k : Nat} {text : Bytes}
      {e : Json.Error} (hh : Unpointed header) (hs : Unpointed signature)
      (pads : k ≤ Base64.padCount text.length)
      (parts : token = joined header (payloadText α k text) signature)
      (none : ∀ c, ¬Json.Document Json.maxDepth c text) :
      Reading token (.error (.payloadNotObject e))
  | claims {header signature : String} {α : Base64.Alphabet} {k : Nat} {text : Bytes}
      {c : Claims} (hh : Unpointed header) (hs : Unpointed signature)
      (pads : k ≤ Base64.padCount text.length)
      (parts : token = joined header (payloadText α k text) signature)
      (document : Json.Document Json.maxDepth c text) : Reading token (.ok c)

theorem reading (token : String) : Reading token (claims token) := by
  by_cases hcount : token.toList.count '.' = 2
  · obtain ⟨header, payload, signature, hh, hp, hs, rfl⟩ := exists_joined hcount
    rw [claims_joined hh hp hs]
    by_cases hbytes : NotBase64 payload
    · obtain ⟨e, he⟩ := payloadClaims_of_notBase64 hbytes
      rw [he]
      exact .notBase64 hh hp hs rfl hbytes
    · simp only [NotBase64, not_forall, not_not] at hbytes
      obtain ⟨α, k, text, hk, rfl⟩ := hbytes
      by_cases hdocument : ∃ c, Json.Document Json.maxDepth c text
      · obtain ⟨c, hc⟩ := hdocument
        rw [payloadClaims_of_document hk hc]
        exact .claims hh hs hk rfl hc
      · have hnone := not_exists.mp hdocument
        obtain ⟨e, he⟩ := payloadClaims_of_notDocument (α := α) hk hnone
        rw [he]
        exact .notObject hh hs hk rfl hnone
  · rw [claims_of_count hcount]
    exact .segments hcount

/-! ## Single claims -/

/-- A claim is read as a string exactly if it is one; otherwise it is missing, or
something else. -/
theorem string_iff (c : Claims) (name : String) :
    (∀ s, c.string name = .ok s ↔ Json.member? c name = some (.string s)) ∧
    (c.string name = .error (.missing name) ↔ Json.member? c name = none) ∧
    (c.string name = .error (.notString name) ↔
      ∃ v, Json.member? c name = some v ∧ ∀ s, v ≠ .string s) := by
  rw [Claims.string]
  rcases Json.member? c name with _ | v
  · simp
  · cases v <;> simp

/-- **Claims are read from every rendering of them.** Whatever claims there are without a float,
with integers of 64 bits and nested as deep as may be, their members may be written in any order;
and from every text of members that collect to the claims, in either alphabet and with any number
of pads, between any header and any signature, the claims are read. A single claim is the last of
the values that the text has under its name. -/
theorem claims_of_rendering {c : Claims} (hc : (Json.Value.object c).Exact Json.maxDepth) :
    (∀ ms, ms.Perm c → Json.Collects ms c ∧ ∃ text, Json.Members (Json.maxDepth - 1) ms text) ∧
    ∀ ms text, Json.Members (Json.maxDepth - 1) ms text → Json.Collects ms c →
      ∀ α k header signature, k ≤ Base64.padCount text.length → Unpointed header →
        Unpointed signature →
        claims (joined header (payloadText α k text) signature) = .ok c ∧
        ∀ name,
          (∀ s, c.string name = .ok s ↔ Json.member? ms.reverse name = some (.string s)) ∧
          (c.string name = .error (.missing name) ↔ Json.member? ms.reverse name = none) ∧
          (c.string name = .error (.notString name) ↔
            ∃ v, Json.member? ms.reverse name = some v ∧ ∀ s, v ≠ .string s) := by
  refine ⟨fun ms hperm => Json.Value.Exact.exists_members hc hperm, ?_⟩
  intro ms text hms hcollects α k header signature hk hheader hsignature
  constructor
  · rw [claims_joined hheader (unpointed_payloadText α k text) hsignature]
    exact payloadClaims_of_document hk (Json.document_iff.mpr ⟨ms, hms, hcollects⟩)
  · intro name
    rw [← hcollects.last]
    exact string_iff c name

/-- A key that is repeated: `{"a":null,"a":"b"}`. -/
theorem claims_of_rendering_repeated :
    let c : Claims := [("a", .string "b")]
    claims "h.eyJhIjpudWxsLCJhIjoiYiJ9.s" = .ok c ∧ c.string "a" = .ok "b" ∧
      c.string "b" = .error (.missing "b") := by
  intro c
  have hc : (Json.Value.object c).Exact Json.maxDepth := by
    refine .object (List.pairwise_singleton _ _) fun m hm => ?_
    rw [List.mem_singleton.mp hm]
    exact .string "b"
  have hentry : ∀ (key : String) (v : Json.Value) (t : Bytes), Json.Scalar v t →
      Json.Padded (Json.Entry (Json.Spells (Json.maxDepth - 1))) (key, v)
        (Json.printString key ++ 0x3A :: t) := fun key v t ht =>
    ⟨[], _, [], Json.isBlanks_nil, ⟨_, [], [], t, Json.spellsString_printString key,
      Json.isBlanks_nil, Json.isBlanks_nil, .of_scalar ht _, rfl⟩, Json.isBlanks_nil, by simp⟩
  have hms : Json.Members (Json.maxDepth - 1) [("a", .null), ("a", .string "b")] _ :=
    ⟨[], _, [], Json.isBlanks_nil, .items (.cons (hentry "a" .null _ .null)
      (.one (hentry "a" (.string "b") _ (.string (Json.spellsString_printString "b"))))),
      Json.isBlanks_nil, rfl⟩
  have hcollects : Json.Collects [("a", .null), ("a", .string "b")] c := by
    refine ⟨List.pairwise_singleton _ _, fun key => ?_⟩
    by_cases hkey : "a" = key <;> simp [c, Json.member?, hkey]
  obtain ⟨hclaims, hstring⟩ := (claims_of_rendering hc).2 _ _ hms hcollects .standard 0 "h" "s"
    (Nat.zero_le _) (by decide) (by decide)
  have htoken : joined "h" (payloadText .standard 0 ([] ++ (0x7B :: (Json.printString "a" ++
      0x3A :: Utf8.encode "null" ++ 0x2C :: (Json.printString "a" ++ 0x3A ::
      Json.printString "b")) ++ [0x7D]) ++ [])) "s" = "h.eyJhIjpudWxsLCJhIjoiYiJ9.s" := by
    decide +kernel
  rw [htoken] at hclaims
  exact ⟨hclaims, ((hstring "a").1 "b").mpr rfl, (hstring "b").2.1.mpr rfl⟩

/-! ## Which tokens have claims -/

/-- **What a token is read as.** There are claims exactly if the token is three texts with points
between them, the second of which is the base64 text of an object, all in one alphabet and with no
more pads than complete it. Otherwise there are not two points, or the second text is that of no
bytes in either alphabet, or what it is the text of is no object; and the error says which of these
it is. So a payload with symbols of both alphabets is no base64, and payloads that stand for the
same bytes differ in nothing but the alphabet and the pads. -/
theorem claims_grammar (token : String) :
    (∀ c, claims token = .ok c ↔
      ∃ header α k text signature, Unpointed header ∧ Unpointed signature ∧
        k ≤ Base64.padCount text.length ∧ token = joined header (payloadText α k text) signature ∧
        Json.Document Json.maxDepth c text) ∧
    (∀ n, claims token = .error (.segments n) ↔
      token.toList.count '.' ≠ 2 ∧ n = token.toList.count '.' + 1) ∧
    ((∃ e, claims token = .error (.payloadNotBase64 e)) ↔
      ∃ header payload signature, Unpointed header ∧ Unpointed payload ∧ Unpointed signature ∧
        token = joined header payload signature ∧ NotBase64 payload) ∧
    ((∃ e, claims token = .error (.payloadNotObject e)) ↔
      ∃ header α k text signature, Unpointed header ∧ Unpointed signature ∧
        k ≤ Base64.padCount text.length ∧ token = joined header (payloadText α k text) signature ∧
        ∀ c, ¬Json.Document Json.maxDepth c text) ∧
    (∀ header payload signature, Unpointed header → Unpointed payload → Unpointed signature →
      token = joined header payload signature → Mixed payload →
      ∃ e, claims token = .error (.payloadNotBase64 e)) ∧
    (∀ payload other text, payloadBytes (Utf8.encode payload) = .ok text →
      payloadBytes (Utf8.encode other) = .ok text →
      ∃ α k β l, payload = payloadText α k text ∧ other = payloadText β l text) := by
  have hreading := reading token
  have hnotBase64 : ∀ header payload signature, Unpointed header → Unpointed payload →
      Unpointed signature → token = joined header payload signature → NotBase64 payload →
      ∃ e, claims token = .error (.payloadNotBase64 e) := by
    rintro header payload signature hh hp hs rfl hnone
    rw [claims_joined hh hp hs]
    exact payloadClaims_of_notBase64 hnone
  refine ⟨fun c => ⟨fun hok => ?_, ?_⟩, fun n => ⟨fun herror => ?_, ?_⟩, ⟨?_, ?_⟩,
    ⟨?_, ?_⟩, ?_, ?_⟩
  · rw [hok] at hreading
    cases hreading with
    | claims hh hs pads parts document => exact ⟨_, _, _, _, _, hh, hs, pads, parts, document⟩
  · rintro ⟨header, α, k, text, signature, hh, hs, hk, rfl, hdocument⟩
    rw [claims_joined hh (unpointed_payloadText α k text) hs]
    exact payloadClaims_of_document hk hdocument
  · rw [herror] at hreading
    cases hreading with
    | segments points => exact ⟨points, rfl⟩
  · rintro ⟨hcount, rfl⟩
    exact claims_of_count hcount
  · rintro ⟨e, herror⟩
    rw [herror] at hreading
    cases hreading with
    | notBase64 hh hp hs parts none => exact ⟨_, _, _, hh, hp, hs, parts, none⟩
  · rintro ⟨header, payload, signature, hh, hp, hs, parts, hnone⟩
    exact hnotBase64 _ _ _ hh hp hs parts hnone
  · rintro ⟨e, herror⟩
    rw [herror] at hreading
    cases hreading with
    | notObject hh hs pads parts none => exact ⟨_, _, _, _, _, hh, hs, pads, parts, none⟩
  · rintro ⟨header, α, k, text, signature, hh, hs, hk, rfl, hnone⟩
    rw [claims_joined hh (unpointed_payloadText α k text) hs]
    exact payloadClaims_of_notDocument hk hnone
  · intro header payload signature hh hp hs parts hmixed
    refine hnotBase64 _ _ _ hh hp hs parts fun α k text _ hpayload => ?_
    exact not_mixed_payloadText α k text (hpayload ▸ hmixed)
  · intro payload other text hpayload hother
    obtain ⟨α, k, -, rfl⟩ := payloadBytes_encode_iff.mp hpayload
    obtain ⟨β, l, -, rfl⟩ := payloadBytes_encode_iff.mp hother
    exact ⟨α, k, β, l, rfl, rfl⟩

/-- A payload with symbols of both alphabets. -/
theorem claims_grammar_mixed : ∃ e, claims "h.+-.s" = .error (.payloadNotBase64 e) := by
  obtain ⟨-, -, -, -, hmixed, -⟩ := claims_grammar "h.+-.s"
  exact hmixed "h" "+-" "s" (by decide) (by decide) (by decide) (by decide +kernel)
    ⟨.inl (by decide), .inl (by decide)⟩

/-- An object in which 128 containers are nested is an object, but its claims are not read. -/
theorem not_claims_of_any_depth : ¬∀ (token : String) (c : Claims), claims token = .ok c ↔
    ∃ header α k text signature depth, Unpointed header ∧ Unpointed signature ∧
      k ≤ Base64.padCount text.length ∧ token = joined header (payloadText α k text) signature ∧
      Json.Document depth c text := by
  intro hgrammar
  obtain ⟨text, c, depth, hdocument, hdeep⟩ :
      ∃ text c depth, Json.Document depth c text ∧ Json.parseObject text = .error .tooDeep :=
    ⟨_, _, _, Json.document_nest Json.maxDepth, Json.parseObject_nest⟩
  have hok := (hgrammar (joined "h" (payloadText .standard 0 text) "s") c).mpr
    ⟨"h", .standard, 0, text, "s", depth, by decide, by decide, Nat.zero_le _, rfl, hdocument⟩
  have herror : payloadClaims (Utf8.encode (payloadText .standard 0 text))
      = .error (.payloadNotObject .tooDeep) := by
    rw [payloadClaims, payloadBytes_encode_iff.mpr ⟨.standard, 0, Nat.zero_le _, rfl⟩]
    dsimp only
    rw [hdeep]
  rw [claims_joined (by decide) (unpointed_payloadText _ _ _) (by decide), herror] at hok
  cases hok

end SignIn.Token
