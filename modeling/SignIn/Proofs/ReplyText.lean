import SignIn.Net.Reply
import SignIn.Proofs.JsonScalar

/-!
# Replies as they are written

A reply is written as a line with the status, a line for each field, an empty line, and what
follows. It is read back line by line: a line ends at its first line feed, so nothing that is
written into a line may hold one. Of the fields only those matter here that say where the body
ends, or name another place. A reply that is `Sent` may announce the length of its body and may
come behind others that only announce it; what it is read as depends on its status, on that length,
on the place that it names and on the bytes that came, and on nothing else.
-/

namespace SignIn

open Json (digitBytes)

/-! ## Decimal digits -/

namespace Address

theorem decimal?_byte {c : Char} (h : c.isDigit) :
    decimal? (UInt8.ofNat c.toNat) = some (c.toNat - 0x30) := by
  obtain ⟨h1, h2⟩ := Json.isDigit_bounds h
  rw [decimal?, Utf8.toNat_byte (by omega), if_pos ⟨h1, h2⟩]

/-- The values of a number's decimal digits. -/
def digitValues (n : Nat) : List Nat := (Nat.toDigits 10 n).map fun c => c.toNat - 0x30

theorem ofDigits_digitValues (n : Nat) : ofDigits 10 (digitValues n) = n := by
  have hfold : ∀ (cs : List Char) (k : Nat),
      (cs.map fun c => c.toNat - 0x30).foldl (fun n d => n * 10 + d) k
        = Nat.ofDigitChars 10 cs k := by
    intro cs
    induction cs with
    | nil => intro k; rfl
    | cons c cs ih =>
      intro k
      have hzero : '0'.toNat = 0x30 := rfl
      rw [List.map_cons, List.foldl_cons, ih, Nat.ofDigitChars_cons, hzero, Nat.mul_comm]
  rw [ofDigits, digitValues, hfold, Nat.ofDigitChars_ten_toDigits]

/-- Digits are read as far as they go. -/
theorem digits_append {value? : UInt8 → Option Nat} {s r : Bytes}
    (hs : ∀ b ∈ s, (value? b).isSome = true) (hr : ∀ b ∈ r.head?, value? b = none) :
    digits value? (s ++ r) = (s.filterMap value?, r) := by
  have hstop : r.takeWhile (fun b => (value? b).isSome) = [] ∧
      r.dropWhile (fun b => (value? b).isSome) = r := by
    cases r with
    | nil => exact ⟨rfl, rfl⟩
    | cons b r => simp [hr b (by simp)]
  rw [digits, List.takeWhile_append_of_pos hs, List.dropWhile_append_of_pos hs, hstop.1, hstop.2,
    List.append_nil]

theorem digits_digitBytes (n : Nat) {r : Bytes} (hr : ∀ b ∈ r.head?, decimal? b = none) :
    digits decimal? (digitBytes n ++ r) = (digitValues n, r) := by
  have hdigits : ∀ b ∈ digitBytes n, (decimal? b).isSome = true := by
    intro b hb
    rw [Json.digitBytes_eq] at hb
    obtain ⟨c, hc, rfl⟩ := List.mem_map.mp hb
    rw [decimal?_byte (Json.isDigit_toDigits c hc)]
    rfl
  have hvalues : (digitBytes n).filterMap decimal? = digitValues n := by
    have hchars : ∀ cs : List Char, (∀ c ∈ cs, c.isDigit) →
        (cs.map fun c => UInt8.ofNat c.toNat).filterMap decimal? = cs.map fun c =>
          c.toNat - 0x30 := by
      intro cs hcs
      induction cs with
      | nil => rfl
      | cons c cs ih =>
        rw [List.map_cons, List.filterMap_cons_some (decimal?_byte (hcs c (by simp))),
          ih fun x hx => hcs x (by simp [hx]), List.map_cons]
    rw [Json.digitBytes_eq, hchars _ Json.isDigit_toDigits, digitValues]
  rw [digits_append hdigits hr, hvalues]

end Address

namespace Head

/-! ## Lines -/

/-- A line, and what follows it. -/
def withLine (line rest : Bytes) : Bytes :=
  line ++ Chunked.carriageReturn :: Chunked.lineFeed :: rest

theorem line?_withLine {line : Bytes} (h : line.all isLineByte = true) (rest : Bytes) :
    line? (withLine line rest) = some (line, rest) := by
  have hline : ∀ b ∈ line ++ [Chunked.carriageReturn], (b != Chunked.lineFeed) = true := by
    intro b hb
    rcases List.mem_append.mp hb with hb | hb
    · have hbyte := List.all_eq_true.mp h b hb
      rw [bne_iff_ne]
      rintro rfl
      exact absurd hbyte (by decide)
    · rw [List.mem_singleton.mp hb]
      decide
  have hsplit : withLine line rest
      = (line ++ [Chunked.carriageReturn]) ++ Chunked.lineFeed :: rest := by
    simp [withLine]
  rw [line?, hsplit, List.takeWhile_append_of_pos hline, List.dropWhile_append_of_pos hline,
    List.takeWhile_cons_of_neg (by decide), List.dropWhile_cons_of_neg (by decide)]
  simp

/-- What stands after the digits of the status, and the line of a status. -/
def statusLine (status : Nat) (reason : Bytes) : Bytes :=
  Utf8.encode "HTTP/1.1 " ++ digitBytes status ++ 0x20 :: reason

def fieldLine (f : Bytes × Bytes) : Bytes := f.1 ++ Address.colon :: 0x20 :: f.2

theorem isLineByte_of_isDigit {b : UInt8} (h : Json.isDigit b = true) : isLineByte b = true := by
  have hbytes : ∀ n < 256, Json.isDigit (UInt8.ofNat n) = true →
      isLineByte (UInt8.ofNat n) = true := by decide +kernel
  have hback : UInt8.ofNat b.toNat = b := UInt8.ofNat_toNat
  rw [← hback] at h ⊢
  exact hbytes b.toNat b.toNat_lt h

theorem length_digitBytes {status : Nat} (hlow : 100 ≤ status) (hhigh : status < 1000) :
    (digitBytes status).length = 3 ∧ (Address.digitValues status).length = 3 := by
  have hlen : (Nat.toDigits 10 status).length = 3 := by
    have hle := (Nat.length_toDigits_le_iff (b := 10) (n := status) (by decide)
      (show 0 < 3 by decide)).mpr (by omega)
    have hgt := mt (Nat.length_toDigits_le_iff (b := 10) (n := status) (by decide)
      (show 0 < 2 by decide)).mp (by omega)
    omega
  rw [Json.digitBytes_eq, Address.digitValues, List.length_map, List.length_map]
  exact ⟨hlen, hlen⟩

theorem status?_digitBytes {status : Nat} (hlow : 100 ≤ status) (hhigh : status < 1000) :
    status? (digitBytes status) = some status := by
  have hdigits := Address.digits_digitBytes status (r := []) (by simp)
  rw [List.append_nil] at hdigits
  rw [status?, hdigits]
  dsimp only
  rw [Address.ofDigits_digitValues, if_pos ⟨rfl, (length_digitBytes hlow hhigh).2, hlow⟩]

theorem all_statusLine (status : Nat) {reason : Bytes} (h : reason.all isLineByte = true) :
    (statusLine status reason).all isLineByte = true := by
  have hdigits : (digitBytes status).all isLineByte = true :=
    List.all_eq_true.mpr fun b hb => isLineByte_of_isDigit (Json.isDigit_digitBytes status b hb)
  have hversion : (Utf8.encode "HTTP/1.1 ").all isLineByte = true := by decide
  have hspace : isLineByte 0x20 = true := by decide
  rw [statusLine, List.all_append, List.all_append, List.all_cons, hversion, hdigits, hspace, h]
  rfl

theorem statusLine?_statusLine {status : Nat} {reason : Bytes} (hlow : 100 ≤ status)
    (hhigh : status < 1000) (hreason : reason.all isLineByte = true) :
    statusLine? (statusLine status reason) = some (true, status) := by
  have hversion : (Utf8.encode "HTTP/1.1 ").length = 9 := by decide
  have hlen := (length_digitBytes hlow hhigh).1
  have hall := all_statusLine status hreason
  have htake : (statusLine status reason).take 9 = Utf8.encode "HTTP/1.1 " := by
    rw [statusLine, List.append_assoc, List.take_left' hversion]
  have hdrop : (statusLine status reason).drop 9 = digitBytes status ++ 0x20 :: reason := by
    rw [statusLine, List.append_assoc, List.drop_left' hversion]
  rw [statusLine?, htake, hdrop, List.drop_left' hlen, List.take_left' hlen,
    status?_digitBytes hlow hhigh, hall, if_neg (by simp), if_neg (by simp), Option.map_some,
    beq_self_eq_true]

/-! ## Fields -/

/-- A field that can be written on a line. -/
structure IsField (f : Bytes × Bytes) : Prop where
  name_ne_nil : f.1 ≠ []
  name : f.1.all isNameByte = true
  value : f.2.all isLineByte = true

/-- A field as it is read: names are told apart without regard to case, and blanks around a value
do not count. -/
def normal (f : Bytes × Bytes) : Bytes × Bytes :=
  (f.1.map lower, Blank.trimList Chunked.isBlank f.2)

namespace IsField

variable {f : Bytes × Bytes}

theorem not_colon (h : IsField f) : ∀ b ∈ f.1, (b != Address.colon) = true := by
  intro b hb
  have hname := List.all_eq_true.mp h.name b hb
  rw [bne_iff_ne]
  rintro rfl
  exact absurd hname (by decide)

theorem all_fieldLine (h : IsField f) : (fieldLine f).all isLineByte = true := by
  have hname : ∀ b : UInt8, isNameByte b = true → isLineByte b = true := by
    have hbytes : ∀ n < 256, isNameByte (UInt8.ofNat n) = true →
        isLineByte (UInt8.ofNat n) = true := by
      decide +kernel
    intro b hb
    have hback : UInt8.ofNat b.toNat = b := UInt8.ofNat_toNat
    rw [← hback] at hb ⊢
    exact hbytes b.toNat b.toNat_lt hb
  have hfront : f.1.all isLineByte = true :=
    List.all_eq_true.mpr fun b hb => hname b (List.all_eq_true.mp h.name b hb)
  have hcolon : isLineByte Address.colon = true := by decide
  have hspace : isLineByte 0x20 = true := by decide
  rw [fieldLine, List.all_append, List.all_cons, List.all_cons, hfront, hcolon, hspace, h.value]
  rfl

theorem field?_fieldLine (h : IsField f) : field? (fieldLine f) = some (normal f) := by
  have hcolon := h.not_colon
  have hspace : isLineByte 0x20 = true := by decide
  have htrim : Blank.trimList Chunked.isBlank (0x20 :: f.2)
      = Blank.trimList Chunked.isBlank f.2 := by
    rw [Blank.trimList, List.dropWhile_cons_of_pos (by decide)]
    rfl
  rw [field?, fieldLine, List.takeWhile_append_of_pos hcolon, List.dropWhile_append_of_pos hcolon,
    List.takeWhile_cons_of_neg (by decide), List.dropWhile_cons_of_neg (by decide),
      List.append_nil]
  dsimp only
  rw [htrim, List.all_cons, hspace, h.value, h.name, if_neg (by simp [h.name_ne_nil]), normal]

end IsField

theorem fieldLine_ne_nil (f : Bytes × Bytes) : fieldLine f ≠ [] := by
  rw [fieldLine]
  simp

/-- The lines of some fields, an empty line, and what follows. -/
def withFields (fields : List (Bytes × Bytes)) (received : Bytes) : Bytes :=
  fields.foldr (fun f rest => withLine (fieldLine f) rest) (withLine [] received)

theorem fields?_withFields {fields : List (Bytes × Bytes)}
    (h : ∀ f ∈ fields, IsField f) {room : Nat} (hroom : fields.length ≤ room) (received : Bytes) :
    fields? room (withFields fields received) = some (fields.map normal, received) := by
  induction fields generalizing room with
  | nil =>
    rw [fields?.eq_def, withFields, List.foldr_nil, line?_withLine (by rfl)]
    rfl
  | cons f fields ih =>
    obtain ⟨room, rfl⟩ : ∃ n, room = n + 1 := ⟨room - 1, by simp at hroom; omega⟩
    have hf := h f (by simp)
    have hrest := ih (fun g hg => h g (by simp [hg])) (by simpa using hroom)
    rw [fields?.eq_def, withFields, List.foldr_cons, line?_withLine hf.all_fieldLine]
    simp only [Option.bind_eq_bind, Option.bind_some]
    rw [if_neg (fieldLine_ne_nil f), hf.field?_fieldLine]
    simp only [Option.bind_some]
    rw [withFields] at hrest
    rw [hrest]
    rfl

/-! ## Heads -/

/-- A head that can be written. -/
structure IsHead (status : Nat) (reason : Bytes) (fields : List (Bytes × Bytes)) : Prop where
  least : 100 ≤ status
  most : status < 1000
  line : reason.all isLineByte = true
  written : ∀ f ∈ fields, IsField f
  room : fields.length ≤ maxFields

/-- A reply as it is written: its head, and what comes after. -/
def wire (status : Nat) (reason : Bytes) (fields : List (Bytes × Bytes))
    (received : Bytes) : Bytes :=
  withLine (statusLine status reason) (withFields fields received)

theorem length_withLine (line rest : Bytes) :
    (withLine line rest).length = line.length + rest.length + 2 := by
  simp [withLine]
  omega

theorem length_wire (status : Nat) (reason : Bytes) (fields : List (Bytes × Bytes))
    (received : Bytes) :
    received.length < (wire status reason fields received).length := by
  have hfields : received.length < (withFields fields received).length := by
    induction fields with
    | nil =>
      rw [withFields, List.foldr_nil, length_withLine]
      omega
    | cons f fields ih =>
      rw [withFields] at ih ⊢
      rw [List.foldr_cons, length_withLine]
      omega
  rw [wire, length_withLine]
  omega

/-- No empty line stands before a head that was written. -/
theorem skipEmpty_wire {status : Nat} {reason : Bytes} (h : reason.all isLineByte = true)
    (fields : List (Bytes × Bytes)) (received : Bytes) (fuel : Nat) :
    skipEmpty fuel (wire status reason fields received) = wire status reason fields received := by
  cases fuel with
  | zero => rfl
  | succ fuel =>
    have hne : statusLine status reason ≠ [] := by simp [statusLine]
    rw [skipEmpty, wire, line?_withLine (all_statusLine status h)]
    split
    · rename_i s hs
      exact absurd (Prod.mk.inj (Option.some.inj hs)).1 hne
    · rfl

/-- **A head is read back as it was written**, up to the case of names and blanks around values. -/
theorem read?_wire {status : Nat} {reason : Bytes} {fields : List (Bytes × Bytes)}
    (h : IsHead status reason fields) (received : Bytes) :
    read? (wire status reason fields received)
      = some (⟨true, status, fields.map normal⟩, received) := by
  rw [read?, skipEmpty_wire h.line, wire, line?_withLine (all_statusLine status h.line)]
  simp only [Option.bind_eq_bind, Option.bind_some]
  rw [statusLine?_statusLine h.least h.most h.line]
  simp only [Option.bind_some]
  rw [fields?_withFields h.written h.room]
  rfl

/-! ## Lengths -/

/-- A head announces how long its body is, or announces nothing, and says nothing else about where
it ends. -/
structure Announces (h : Head) (length : Option Nat) : Prop where
  codings : h.values "transfer-encoding" = []
  lengths : h.values "content-length" = (length.map digitBytes).toList

theorem length?_digitBytes {n : Nat} (h : n < lengthLimit) : length? (digitBytes n) = some n := by
  have hdigits := Address.digits_digitBytes n (r := []) (by simp)
  have hne : Address.digitValues n ≠ [] := by
    rw [Address.digitValues]
    simp [Nat.toDigits_ne_nil]
  rw [List.append_nil] at hdigits
  rw [length?, hdigits]
  dsimp only
  rw [Address.ofDigits_digitValues, if_neg]
  rintro (hnil | hnil | hle)
  · exact hne hnil
  · exact hnil rfl
  · omega

theorem plain_of_isDigit {b : UInt8} (h : Json.isDigit b = true) :
    Percent.isGraphic b = true ∧ b ≠ comma ∧ Chunked.isBlank b = false := by
  have hbytes : ∀ n < 256, Json.isDigit (UInt8.ofNat n) = true →
      Percent.isGraphic (UInt8.ofNat n) = true ∧ UInt8.ofNat n ≠ comma ∧
        Chunked.isBlank (UInt8.ofNat n) = false := by decide +kernel
  have hback : UInt8.ofNat b.toNat = b := UInt8.ofNat_toNat
  rw [← hback] at h ⊢
  exact hbytes b.toNat b.toNat_lt h

theorem agreedLength?_digitBytes {n : Nat} (h : n < lengthLimit) :
    agreedLength? [digitBytes n] = some n := by
  have hplain : ∀ b ∈ digitBytes n, Percent.isGraphic b = true ∧ b ≠ comma ∧
      Chunked.isBlank b = false := fun b hb => plain_of_isDigit (Json.isDigit_digitBytes n b hb)
  have hgraphic : [digitBytes n].all isGraphic = true := by
    rw [List.all_cons, List.all_nil, Bool.and_true, isGraphic, List.all_eq_true]
    intro b hb
    rw [(hplain b hb).1, Bool.true_or]
  have hitems : items (digitBytes n) = [digitBytes n] := by
    have hwhole : comma ∉ digitBytes n := fun hb => (hplain _ hb).2.1 rfl
    have htrim : Blank.trimList Chunked.isBlank (digitBytes n) = digitBytes n :=
      Blank.trimList_of_ends (fun b hb => (hplain b (List.mem_of_mem_head? hb)).2.2)
        (fun b hb => (hplain b (List.mem_of_mem_getLast? hb)).2.2)
    rw [items, List.splitOn_eq_singleton hwhole, List.map_singleton, htrim]
  rw [agreedLength?, hgraphic, if_neg (by simp), List.flatMap_singleton, hitems, List.mapM_cons,
    length?_digitBytes h]
  rfl

/-- Replies that never have a body. -/
def isBodiless (status : Nat) : Bool := status == 101 || status == 204 || status == 304

/-- Where a body ends of which a length is announced, or nothing. -/
def announced (status : Nat) (length : Option Nat) : Framing :=
  if isBodiless status then .empty else (length.map Framing.counted).getD .untilEnd

theorem framing?_of_announces {h : Head} {length : Option Nat} (hlength : h.Announces length)
    (hlimit : ∀ n ∈ length, n < lengthLimit) :
    h.framing? = some (announced h.status length) := by
  have hbodiless : isBodiless h.status = true ↔
      h.status = 101 ∨ h.status = 204 ∨ h.status = 304 := by
    simp [isBodiless, or_assoc]
  rw [framing?, announced]
  by_cases hstatus : h.status = 101 ∨ h.status = 204 ∨ h.status = 304
  · rw [if_pos hstatus, if_pos (hbodiless.mpr hstatus)]
  · rw [if_neg hstatus, if_neg (mt hbodiless.mp hstatus), hlength.codings, hlength.lengths,
      if_neg (by simp)]
    cases length with
    | none => rfl
    | some n =>
      have hagreed : agreedLength? [digitBytes n] = some n :=
        agreedLength?_digitBytes (hlimit n rfl)
      show (if _ then (agreedLength? [digitBytes n]).map Framing.counted else _) = _
      rw [if_pos (by simp), hagreed]
      rfl

end Head

/-! ## Replies -/

namespace Reply

open Head (wire)

/-- Bytes that send a reply with a status, which may announce a length and name another place, and
is followed by what is received; replies that only announce it may come before. -/
inductive Sent (status : Nat) (length : Option Nat) (location : Option Bytes) (received : Bytes) :
    Bytes → Prop
  | final {reason : Bytes} {fields : List (Bytes × Bytes)}
      (head : Head.IsHead status reason fields)
      (last : 200 ≤ status ∨ status = 101)
      (announces : (Head.mk true status (fields.map Head.normal)).Announces length)
      (names : ((Head.mk true status (fields.map Head.normal)).values "location").head?
        = location) :
      Sent status length location received (wire status reason fields received)
  | behind {interim : Nat} {reason : Bytes} {fields : List (Bytes × Bytes)} {s : Bytes}
      (head : Head.IsHead interim reason fields) (least : interim < 200) (ne : interim ≠ 101)
      (rest : Sent status length location received s) :
      Sent status length location received (wire interim reason fields s)

/-- **What a reply is read as**: its status, the place that it names, where its body ends, and the
bytes that came. -/
theorem Sent.read? {status : Nat} {length : Option Nat} {location : Option Bytes}
    {received s : Bytes}
    (h : Sent status length location received s) (hlimit : ∀ n ∈ length, n < Head.lengthLimit) :
    Reply.read? s = some ⟨status, location, Head.announced status length, received⟩ := by
  have hread : ∀ fuel, s.length < fuel → readWithin? fuel s
      = some ⟨status, location, Head.announced status length, received⟩ := by
    induction h with
    | final head last announces names =>
      intro fuel hfuel
      obtain ⟨fuel, rfl⟩ : ∃ n, fuel = n + 1 := ⟨fuel - 1, by omega⟩
      rename_i reason fields
      have hfinal : ¬(Head.mk true status (fields.map Head.normal)).isInterim = true := by
        simp only [Head.isInterim, Bool.and_eq_true, decide_eq_true_eq, bne_iff_ne]
        omega
      rw [readWithin?, Head.read?_wire head]
      simp only [Option.bind_eq_bind, Option.bind_some]
      rw [if_neg hfinal, Head.framing?_of_announces announces hlimit, Head.location?, names]
      rfl
    | behind head least ne rest ih =>
      intro fuel hfuel
      rename_i interim reason fields s
      have hlength := Head.length_wire interim reason fields s
      obtain ⟨fuel, rfl⟩ : ∃ n, fuel = n + 1 := ⟨fuel - 1, by omega⟩
      have hinterim : (Head.mk true interim (fields.map Head.normal)).isInterim = true := by
        simp only [Head.isInterim, Bool.and_eq_true, decide_eq_true_eq, bne_iff_ne]
        exact ⟨least, ne⟩
      rw [readWithin?, Head.read?_wire head]
      simp only [Option.bind_eq_bind, Option.bind_some]
      rw [if_pos hinterim]
      exact ih fuel (by omega)
  exact hread (s.length + 1) (by omega)

end Reply

end SignIn
