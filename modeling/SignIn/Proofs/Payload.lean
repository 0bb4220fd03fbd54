import SignIn.Proofs.JsonRecord
import SignIn.Session.Payload

/-!
# A session is read back from its text

The payload of a cookie is an object of two members, one of which is the session, an object of
four. Each member is read back by the field it was printed for, so the payload is read back as a
whole: whatever the name of the user is made of, the text says exactly what was written.
-/

namespace SignIn

namespace Uuid

theorem length_hyphenate {ds : Bytes} (h : ds.length = 32) : (hyphenate ds).length = 36 := by
  simp [hyphenate, h]

/-- Taking the hyphens out again gives the digits. -/
theorem filter_hyphenate {ds : Bytes} (h : ∀ b ∈ ds, b ≠ hyphen) :
    (hyphenate ds).filter (· != hyphen) = ds := by
  have hkeep : ∀ l : Bytes, (∀ b ∈ l, b ∈ ds) → l.filter (· != hyphen) = l := by
    intro l hl
    rw [List.filter_eq_self]
    intro b hb
    simpa using h b (hl b hb)
  -- The five groups put together are the digits again.
  have hjoin : ds.take 8 ++ ((ds.drop 8).take 4 ++ ((ds.drop 12).take 4 ++
      ((ds.drop 16).take 4 ++ ds.drop 20))) = ds := by
    rw [show ds.drop 20 = (ds.drop 16).drop 4 by simp, List.take_append_drop,
      show ds.drop 16 = (ds.drop 12).drop 4 by simp, List.take_append_drop,
      show ds.drop 12 = (ds.drop 8).drop 4 by simp, List.take_append_drop, List.take_append_drop]
  have htake : ∀ i n, ∀ b ∈ (ds.drop i).take n, b ∈ ds :=
    fun i n b hb => List.mem_of_mem_drop (List.mem_of_mem_take hb)
  have hhyphen : (hyphen != hyphen) = false := by decide
  simp only [hyphenate, List.filter_append, List.filter_cons, hhyphen, List.append_assoc,
    List.cons_append, Bool.false_eq_true, if_false]
  rw [hkeep _ (fun b hb => List.mem_of_mem_take hb), hkeep _ (htake 8 4), hkeep _ (htake 12 4),
    hkeep _ (htake 16 4), hkeep _ (fun b hb => List.mem_of_mem_drop hb), hjoin]

theorem digit_ascii : ∀ n < 16, (Hex.digit n).toNat < 0x80 ∧ Hex.digit n ≠ hyphen := by decide

theorem mem_hexEncode {s : Bytes} {b : UInt8} (h : b ∈ Hex.encode s) :
    ∃ n < 16, b = Hex.digit n := by
  obtain ⟨x, _, hb⟩ := List.mem_flatMap.mp h
  have hx : x.toNat < 256 := x.toNat_lt
  rcases List.mem_cons.mp hb with rfl | hb
  · exact ⟨_, by omega, rfl⟩
  · exact ⟨_, Nat.mod_lt _ (by decide), List.mem_singleton.mp hb⟩

theorem mem_hyphenate {ds : Bytes} {b : UInt8} (h : b ∈ hyphenate ds) : b = hyphen ∨ b ∈ ds := by
  simp only [hyphenate, List.mem_append, List.mem_cons] at h
  rcases h with (((h | h | h) | h | h) | h | h) | h | h
  all_goals first
    | exact .inl h
    | exact .inr (List.mem_of_mem_take h)
    | exact .inr (List.mem_of_mem_drop h)
    | exact .inr (List.mem_of_mem_drop (List.mem_of_mem_take h))

theorem bytes_ascii (u : Uuid) : ∀ b ∈ u.bytes, b.toNat < 0x80 := by
  intro b hb
  rcases mem_hyphenate hb with rfl | hb
  · decide
  · obtain ⟨n, hn, rfl⟩ := mem_hexEncode hb
    exact (digit_ascii n hn).1

theorem encode_text (u : Uuid) : Utf8.encode u.text = u.bytes := by
  obtain ⟨cs, hcs⟩ := Utf8.IsText.of_ascii u.bytes_ascii
  have hd : Utf8.decode? u.bytes = some (String.ofList cs) := by
    rw [Utf8.decode?, hcs, Utf8.decodeChars?_encodeChars, Option.map_some]
  rw [text, hd, Option.getD_some, Utf8.encode, String.toList_ofList, hcs]

theorem read?_bytes (u : Uuid) : read? u.bytes = some u := by
  have hlen : (Hex.encode u.octets).length = 32 := by rw [Hex.length_encode, u.length_octets]
  have h36 : u.bytes.length = 36 := length_hyphenate hlen
  have hdigits : u.bytes.filter (· != hyphen) = Hex.encode u.octets := by
    refine filter_hyphenate fun b hb => ?_
    obtain ⟨n, hn, rfl⟩ := mem_hexEncode hb
    exact (digit_ascii n hn).2
  have hof : ofDigits? (Hex.encode u.octets) = some u := by
    rw [ofDigits?, Hex.decode_encode]
    exact dif_pos u.length_octets
  have hgroups : ofGroups? u.bytes = some u := by
    have hsame : hyphenate (Hex.encode u.octets) = u.bytes := rfl
    rw [ofGroups?, hdigits, if_pos hsame, hof]
  -- Only the plain spelling has 36 bytes, so no braces or prefix are looked for.
  have hgrouped : grouped? u.bytes = some u.bytes := by rw [grouped?, if_pos h36]
  rw [read?, if_neg (by omega), hgrouped]
  exact hgroups

/-- **A UUID is read back from its text.** -/
theorem parse_text (u : Uuid) : parse u.text = .ok u := by
  rw [parse, encode_text, read?_bytes]

theorem jsonField_text (u : Uuid) (r : Bytes) :
    jsonField (Json.printString u.text ++ r) = .ok (u, r) := by
  rw [jsonField, Json.front_printString]
  dsimp only
  rw [parse_text]

end Uuid

namespace Session

open Json (Member Closes)

/-- The members that a session is printed as. -/
def members (s : Session) : List (Member Session) :=
  [.of "userID" Json.intField (fun n s => { s with userId := n }) (Json.printInt s.userId.toInt)
      s.userId (fun _ h => Json.intField_printInt s.userId h),
    .of "name" Json.stringField (fun n s => { s with name := n }) (Json.printString s.name) s.name
      (fun t _ => Json.stringField_printString s.name t),
    .of "isLoggedIn" Json.boolField (fun b s => { s with isLoggedIn := b })
      (Json.printBool s.isLoggedIn) s.isLoggedIn
        (fun t _ => Json.boolField_printBool s.isLoggedIn t),
    .of "sid" Uuid.jsonField (fun u s => { s with id := u }) (Json.printString s.id.text) s.id
      (fun t _ => Uuid.jsonField_text s.id t)]

theorem read_print (s : Session) (r : Bytes) : schema.read (s.print ++ r) = .ok (s, r) :=
  Json.Schema.read_printObject schema s.members (by simp [members]) rfl (by decide) r

/-- The members that a payload is printed as. -/
def Payload.members (p : Payload) : List (Member Payload) :=
  [.of "session" Session.schema.read (fun s p => { p with session := s }) p.session.print p.session
      (fun t _ => read_print p.session t),
    .of "issued_at" Json.intField (fun n p => { p with issuedAt := n })
      (Json.printInt p.issuedAt.toInt) p.issuedAt (fun _ h => Json.intField_printInt p.issuedAt h)]

/-- **A payload is read back from its text.** -/
theorem Payload.parse_print (p : Payload) : Payload.parse p.print = .ok p := by
  have h : Payload.schema.read (p.print ++ []) = .ok (p, []) :=
    Json.Schema.read_printObject Payload.schema p.members (by simp [Payload.members]) rfl
      (by decide) []
  rw [List.append_nil] at h
  rw [Payload.parse, Json.Schema.parse, Json.Reader.whole, h]
  rfl

/-! ## The text is text -/

theorem isText_printString (s : String) : Utf8.IsText (Json.printString s) := by
  have hquote : Utf8.IsText [0x22] := .cons (by decide) .nil
  have hchars : Utf8.IsText (s.toList.flatMap Json.printChar) :=
    .flatMap fun c _ => (Json.spellsChar_printChar c).isText
  exact (hchars.append hquote).cons (by decide)

theorem isText_printMembers {ms : List (String × Bytes)} (h : ∀ m ∈ ms, Utf8.IsText m.2) :
    Utf8.IsText (Json.printMembers ms) := by
  induction ms with
  | nil => exact .nil
  | cons m ms ih =>
    have hm := h m (by simp)
    have hms := ih fun x hx => h x (by simp [hx])
    cases ms with
    | nil => exact (isText_printString _).append (hm.cons (by decide))
    | cons n ms =>
      exact ((isText_printString _).append (hm.cons (by decide))).append (hms.cons (by decide))

theorem isText_printObject {ms : List (String × Bytes)} (h : ∀ m ∈ ms, Utf8.IsText m.2) :
    Utf8.IsText (Json.printObject ms) := by
  have hbrace : Utf8.IsText [0x7D] := .cons (by decide) .nil
  exact ((isText_printMembers h).append hbrace).cons (by decide)

theorem isText_print (s : Session) : Utf8.IsText s.print := by
  refine isText_printObject fun m hm => ?_
  simp only [List.mem_cons, List.not_mem_nil, or_false] at hm
  rcases hm with rfl | rfl | rfl | rfl
  · exact Utf8.isText_encode _
  · exact isText_printString _
  · exact Utf8.isText_encode _
  · exact isText_printString _

/-- A payload is printed as text, so a cookie that carries it can be opened. -/
theorem Payload.isText_print (p : Payload) : Utf8.IsText p.print := by
  refine isText_printObject fun m hm => ?_
  simp only [List.mem_cons, List.not_mem_nil, or_false] at hm
  rcases hm with rfl | rfl
  · exact p.session.isText_print
  · exact Utf8.isText_encode _

end Session

end SignIn
