import SignIn.Proofs.JsonFaults
import SignIn.Proofs.LoginOrder
import SignIn.Proofs.QuotedText
import SignIn.Proofs.TokenGrammar
import SignIn.Proofs.TrustedFields

/-!
# What the error of a login discloses

The message of an error is put together from the messages of the steps that failed, and most of
them show nothing of what was sent: they have one point at most, so no token of three segments is
in them. Two of them show a text: the one that says that a string stands where the login request
should be, and the one that says that a string stands where the claims of a token should be. So a
token is in the message of an error if it was sent as the body itself, in quotes, or as the payload
of another token that was vouched for; or if the provider, the store or the keeper of sessions put
it there.
-/

namespace SignIn

/-! ## Texts that begin with a string -/

namespace Json

/-- The text begins with a string in quotes, behind blanks. -/
def BeginsWithString (s : Bytes) (text : String) : Prop :=
  ∃ w q r, IsBlanks w ∧ SpellsString text q ∧ s = w ++ (q ++ r)

theorem beginsWithString_of_front {s r : Bytes} {text : String}
    (h : front s = .ok (.string text, r)) :
    BeginsWithString s text := by
  obtain ⟨w, q, hw, hq, hs⟩ := opens_of_front h
  cases hq with
  | scalar value spells =>
    obtain rfl := Option.some.inj value
    cases spells with
    | string quoted => exact ⟨w, q, r, hw, quoted, hs⟩

theorem BeginsWithString.exists_front {s : Bytes} {text : String} (h : BeginsWithString s text) :
    ∃ r, front s = .ok (.string text, r) := by
  obtain ⟨w, q, r, hw, hq, rfl⟩ := h
  exact ⟨r, by rw [front_append hw, front_spelled hq]⟩

theorem SpellsChar.ne_nil {c : Char} {t : Bytes} (h : SpellsChar c t) : t ≠ [] := by
  cases h with
  | plain =>
    obtain ⟨b, k, hchar, -⟩ := Utf8.exists_encodeChar c
    rw [hchar]
    exact List.cons_ne_nil b k
  | short | unit | pair => exact List.cons_ne_nil _ _

theorem length_le_of_spells {cs : List Char} {t : Bytes} (h : Each SpellsChar cs t) :
    cs.length ≤ t.length := by
  induction h with
  | nil => exact Nat.le_refl 0
  | cons head tail ih =>
    have hpos := List.length_pos_iff.mpr head.ne_nil
    rw [List.length_cons, List.length_append]
    omega

/-- A text has room for the string that it begins with, and its quotes. -/
theorem BeginsWithString.length_le {s : Bytes} {text : String} (h : BeginsWithString s text) :
    text.toList.length + 2 ≤ s.length := by
  obtain ⟨w, q, r, -, ⟨u, hu, rfl⟩, rfl⟩ := h
  have hle := length_le_of_spells hu
  simp only [List.length_append, List.length_cons, List.length_nil]
  omega

/-! ## Messages that show nothing -/

theorem points_place (line column : Nat) : points (place line column) = 0 := by
  rw [place, points_append, points_ofNat, points_between (points_ofList rfl) (points_ofList rfl),
    points_ofNat]

theorem head_place (line column : Nat) : (place line column).toList.head? = some ' ' := by
  obtain ⟨cs, hcs⟩ : ∃ cs, " at line ".toList = ' ' :: cs := ⟨_, rfl⟩
  simp only [place, String.toList_append, hcs, List.cons_append, List.head?_cons]

/-- A text that has points and no space is not in what tells a place, nor does it reach into it. -/
theorem occurs_place_iff {t : String} (hpoints : 0 < points t) (hspace : ' ' ∉ t.toList)
    (message : String) (line column : Nat) :
    Occurs t (message ++ place line column) ↔ Occurs t message := by
  have hnot : ¬Occurs t (place line column) := fun hoccurs => by
    have hle := hoccurs.points_le
    rw [points_place] at hle
    omega
  have hiff : Occurs t (message ++ place line column) ↔
      Occurs t message ∨ Occurs t (place line column) := by
    rw [Occurs, String.toList_append]
    exact infix_append_iff_of_head (head_place line column) hspace
  rw [hiff]
  exact or_iff_left hnot

theorem points_of_isSyntax {e : Error} (h : e.isSyntax = true) : points e.message = 0 := by
  cases e with
  | wrongType | wrongValue | wrongLength | missingField | duplicateField | refused => cases h
  | _ => exact points_ofList rfl

theorem points_name_le {f : Found} (h : ∀ s, f ≠ .string s) : points f.name ≤ 1 := by
  cases f with
  | null => exact points_ofList_le (by decide)
  | list => exact points_ofList_le (by decide)
  | object => exact points_ofList_le (by decide)
  | bool b => cases b <;> exact points_ofList_le (by decide)
  | integer n =>
    show points ("integer `" ++ Decimal.ofInt n ++ "`") ≤ 1
    rw [points_between (points_ofList rfl) (points_ofList rfl), points_ofInt]
    exact Nat.zero_le 1
  | float x =>
    show points ("floating point `" ++ Shortest.text x ++ "`") ≤ 1
    rw [points_between (points_ofList rfl) (points_ofList rfl)]
    exact Shortest.points_text x
  | string s => exact absurd rfl (h s)

theorem message_wrongType (f : Found) (expected : String) :
    (Error.wrongType f expected).message
      = "invalid type: " ++ f.name ++ ", expected " ++ expected := rfl

theorem points_wrongLength (n : Nat) (expected : String) :
    points (Error.wrongLength n expected).message = points expected := by
  show points ("invalid length " ++ Decimal.ofNat n ++ ", expected " ++ expected) = _
  rw [points_append, points_between (points_ofList rfl) (points_ofList rfl), points_ofNat,
    Nat.zero_add]

theorem points_missingField (key : String) :
    points (Error.missingField key).message = points key :=
  points_between (points_ofList rfl) (points_ofList rfl) key

theorem points_duplicateField (key : String) :
    points (Error.duplicateField key).message = points key :=
  points_between (points_ofList rfl) (points_ofList rfl) key

theorem append_between (r front s back : String) :
    r ++ (front ++ s ++ back) = (r ++ front) ++ s ++ back := by
  simp only [String.append_assoc]

theorem message_wrongString (text expected : String) :
    (Error.wrongType (.string text) expected).message
    = "invalid type: string " ++ Quoted.text text ++ (", expected " ++ expected) := by
  have hfront : "invalid type: " ++ "string " = "invalid type: string " :=
    String.ofList_append.symm
  calc (Error.wrongType (.string text) expected).message
      = "invalid type: " ++ ("string " ++ Quoted.text text) ++ ", expected " ++ expected := rfl
    _ = ("invalid type: " ++ "string ") ++ Quoted.text text ++ (", expected " ++ expected) := by
        simp only [String.append_assoc]
    _ = _ :=
      congrArg (fun front => front ++ Quoted.text text ++ (", expected " ++ expected)) hfront

theorem points_wrongType_le {f : Found} {expected : String} (h : ∀ s, f ≠ .string s)
    (hexpected : points expected = 0) : points (Error.wrongType f expected).message ≤ 1 := by
  have hf := points_name_le h
  have hfront : points "invalid type: " = 0 := points_ofList rfl
  have hmiddle : points ", expected " = 0 := points_ofList rfl
  rw [message_wrongType, points_append, points_append, points_append, hfront, hmiddle, hexpected]
  omega

theorem found_ne_string {f : Front} (h : ∀ s, f = .string s → False) (s : String) :
    f.found ≠ .string s := by
  cases f with
  | string t => exact absurd rfl (h t)
  | number n => cases n <;> exact Found.noConfusion
  | _ => exact Found.noConfusion

/-- What stands in the place of something else is shown only if it is a string. -/
theorem shown_of_front {s r : Bytes} {f : Front} {expected : String}
    (hfront : front s = .ok (f, r)) (hexpected : points expected = 0) :
    (∃ text, BeginsWithString s text ∧
        Error.wrongType f.found expected = .wrongType (.string text) expected) ∨
      points (Error.wrongType f.found expected).message ≤ 1 := by
  by_cases hstring : ∃ text, f = .string text
  · obtain ⟨text, rfl⟩ := hstring
    exact .inl ⟨text, beginsWithString_of_front hfront, rfl⟩
  · exact .inr (points_wrongType_le (found_ne_string fun s hs => hstring ⟨s, hs⟩) hexpected)

theorem shown_of_isSyntax {P : Prop} {e : Error} (h : e.isSyntax = true) :
    P ∨ points e.message ≤ 1 :=
  .inr (by rw [points_of_isSyntax h]; decide)

theorem shown_of_parseObject {s : Bytes} {e : Error} (h : parseObject s = .error e) :
    (∃ text, BeginsWithString s text ∧ e = .wrongType (.string text) "a map") ∨
      points e.message ≤ 1 :=
  of_parseObject_eq_error
    (P := fun e => (∃ text, BeginsWithString s text ∧ e = .wrongType (.string text) "a map") ∨
      points e.message ≤ 1)
    (fun _ he => shown_of_isSyntax he)
    (fun _ _ hfront _ => shown_of_front hfront (points_ofList rfl)) h

end Json

/-! ## Payloads -/

namespace Token

open Json (BeginsWithString)

theorem points_base64_le (e : Base64.Error) : points e.message ≤ 1 := by
  have hsymbol : ∀ (front : String) (m n : Nat), points front = 0 →
      points (front ++ Decimal.ofNat m ++ ", offset " ++ Decimal.ofNat n ++ ".") = 1 := by
    intro front m n hfront
    have hmiddle : points ", offset " = 0 := points_ofList rfl
    have hback : points "." = 1 := points_ofList rfl
    rw [points_append, points_append, points_append, points_append, hfront, hmiddle, hback,
      points_ofNat, points_ofNat]
  cases e with
  | invalidByte offset byte =>
    exact Nat.le_of_eq (hsymbol "Invalid symbol " _ _ (points_ofList rfl))
  | invalidLength length =>
    show points ("Invalid input length: " ++ Decimal.ofNat length) ≤ 1
    rw [points_front (points_ofList rfl), points_ofNat]
    decide
  | invalidLastSymbol offset byte =>
    exact Nat.le_of_eq (hsymbol "Invalid last symbol " _ _ (points_ofList rfl))
  | invalidPadding => exact points_ofList_le (by decide)

/-- The payload of a token begins with a string, where its claims should be. -/
def PayloadBegins (token text : String) : Prop :=
  ∃ header signature α k bytes, Unpointed header ∧ Unpointed signature ∧
    k ≤ Base64.padCount bytes.length ∧ token = joined header (payloadText α k bytes) signature ∧
    BeginsWithString bytes text

theorem claims_of_payloadBegins {token text : String} (h : PayloadBegins token text) :
    claims token = .error (.payloadNotObject (.wrongType (.string text) "a map")) := by
  obtain ⟨header, signature, α, k, bytes, hh, hs, hk, rfl, hbytes⟩ := h
  obtain ⟨r, hr⟩ := hbytes.exists_front
  rw [claims_joined hh (unpointed_payloadText α k bytes) hs, payloadClaims,
    payloadBytes_encode_iff.mpr ⟨α, k, hk, rfl⟩]
  dsimp only
  rw [Json.parseObject, Json.Reader.whole, Json.objectMembers, hr]
  rfl

/-- **The payload of a token is shown only if it is a string.** -/
theorem shown_of_claims {token : String} {e : ClaimError} (h : claims token = .error e) :
    (∃ text, PayloadBegins token text ∧
      e = .payloadNotObject (.wrongType (.string text) "a map")) ∨
      points e.message ≤ 1 := by
  by_cases hcount : token.toList.count '.' = 2
  · obtain ⟨header, payload, signature, hh, hp, hs, rfl⟩ := exists_joined hcount
    rw [claims_joined hh hp hs, payloadClaims] at h
    cases hbytes : payloadBytes (Utf8.encode payload) with
    | error e' =>
      rw [hbytes] at h
      cases h
      refine .inr ?_
      show points ("token payload is not valid base64: " ++ e'.message) ≤ 1
      rw [points_front (points_ofList rfl)]
      exact points_base64_le e'
    | ok bytes =>
      obtain ⟨α, k, hk, rfl⟩ := payloadBytes_encode_iff.mp hbytes
      rw [hbytes] at h
      dsimp only at h
      cases hobject : Json.parseObject bytes with
      | ok claims =>
        rw [hobject] at h
        cases h
      | error e' =>
        rw [hobject] at h
        cases h
        rcases Json.shown_of_parseObject hobject with ⟨text, hbegins, rfl⟩ | hle
        · exact .inl ⟨text, ⟨header, signature, α, k, bytes, hh, hs, hk, rfl, hbegins⟩, rfl⟩
        · refine .inr ?_
          show points ("token payload is not a JSON object: " ++ e'.message) ≤ 1
          rwa [points_front (points_ofList rfl)]
  · rw [claims_of_count hcount] at h
    cases h
    refine .inr ?_
    show points ("malformed token: expected 3 segments, found " ++ Decimal.ofNat _) ≤ 1
    rw [points_front (points_ofList rfl), points_ofNat]
    decide

theorem points_of_string_eq_error {c : Claims} {name : String} {e : ClaimError}
    (h : c.string name = .error e) (hname : points (Quoted.text name) = 0) :
    points e.message = 0 := by
  rw [Claims.string] at h
  split at h
  · cases h
    show points ("claim " ++ Quoted.text name ++ " is missing") = 0
    rwa [points_between (points_ofList rfl) (points_ofList rfl)]
  · cases h
  · cases h
    show points ("claim " ++ Quoted.text name ++ " is not a string") = 0
    rwa [points_between (points_ofList rfl) (points_ofList rfl)]

/-- How a payload that is a string is refused. -/
def payloadRefusal (text : String) : String :=
  "id token claims rejected: token payload is not a JSON object: invalid type: string " ++
    Quoted.text text ++ ", expected a map"

theorem length_payloadText (α : Base64.Alphabet) (k : Nat) (bytes : Bytes) :
    bytes.length ≤ (payloadText α k bytes).toList.length := by
  have hlength := Base64.length_sextets bytes
  rw [Base64.padCount] at hlength
  rw [payloadText, String.toList_ofList, List.length_map, Base64.length_padded]
  omega

/-- **A token is not in the refusal of its own payload.** What a payload says is shorter than the
payload is. -/
theorem not_occurs_payloadRefusal {token text : String} (h : PayloadBegins token text) :
    ¬Occurs token (payloadRefusal text) := by
  obtain ⟨header, signature, α, k, bytes, hh, hs, hk, rfl, hbytes⟩ := h
  intro hoccurs
  have hmiddle : '.' :: ((payloadText α k bytes).toList ++ ['.']) <:+:
      (joined header (payloadText α k bytes) signature).toList := by
    rw [toList_joined]
    exact ⟨header.toList, signature.toList, by simp⟩
  have hslash : '\\' ∉ (payloadText α k bytes).toList := by
    intro hmem
    have hsymbol : ∀ n < 64, Char.ofNat (α.symbol n).toNat ≠ '\\' := by cases α <;> decide
    rcases mem_payloadText hmem with hpad | ⟨n, hn, hc⟩
    · exact absurd hpad (by decide)
    · exact hsymbol n hn hc.symm
  have hfront : points
      "id token claims rejected: token payload is not a JSON object: invalid type: string " = 0 :=
    points_ofList rfl
  have hback : points ", expected a map" = 0 := points_ofList rfl
  have hlength := (Quoted.between_of_infix hfront hback hslash (hmiddle.trans hoccurs)).length_le
  have hshort := hbytes.length_le
  have hlong := length_payloadText α k bytes
  simp only [List.length_cons, List.length_append, List.length_nil] at hlength
  omega

end Token

/-! ## Bodies -/

namespace Login

open Json (BeginsWithString)
open Session (Manager)

theorem points_stringField_le {s : Bytes} {e : Json.Error} (h : Json.stringField s = .error e) :
    points e.message ≤ 1 := by
  rw [Json.stringField] at h
  split at h
  · rename_i hfront
    cases h
    rw [Json.points_of_isSyntax (Json.syntactic_front _ _ hfront)]
    decide
  · cases h
  · rename_i f r hstring hfront
    cases h
    exact Json.points_wrongType_le (Json.found_ne_string hstring) (points_ofList rfl)

theorem points_expectedList : points requestSchema.expectedList = 0 := by
  show points ("struct LoginRequest" ++ " with " ++ Decimal.ofNat 1 ++ " element") = 0
  rw [points_append, points_append, points_append, points_ofNat, points_ofList rfl,
    points_ofList rfl, points_ofList rfl]
  rfl

/-- **A body is shown only if it is a string.** -/
theorem shown_of_token {body : Bytes} {e : Json.Error} (h : token body = .error e) :
    (∃ text, BeginsWithString body text ∧ e = .wrongType (.string text) "struct LoginRequest") ∨
      points e.message ≤ 1 := by
  have hlexical : ∀ e : Json.Error, e.isSyntax = true →
      (∃ text, BeginsWithString body text ∧ e = .wrongType (.string text) "struct LoginRequest") ∨
        points e.message ≤ 1 := fun _ he => Json.shown_of_isSyntax he
  refine Json.of_whole_eq_error hlexical h fun hread =>
    Json.Schema.of_read_eq_error hlexical ?fields ?length ?missing ?duplicate ?scalar hread
  case fields =>
    intro f hf s e he
    obtain rfl := List.mem_singleton.mp hf
    dsimp only [Json.Field.of] at he
    split at he
    · cases he
    · rename_i hfield
      cases he
      exact .inr (points_stringField_le hfield)
  case length =>
    intro n
    exact .inr (by rw [Json.points_wrongLength, points_expectedList]; decide)
  case missing =>
    intro f hf
    obtain rfl := List.mem_singleton.mp hf
    exact .inr (by rw [Json.points_missingField]; exact points_ofList_le (by decide))
  case duplicate =>
    intro f hf
    obtain rfl := List.mem_singleton.mp hf
    exact .inr (by rw [Json.points_duplicateField]; exact points_ofList_le (by decide))
  case scalar =>
    intro f r hfront _ _
    have hexpected : points "struct LoginRequest" = 0 := points_ofList rfl
    exact Json.shown_of_front hfront hexpected

theorem token_of_beginsWithString {body : Bytes} {text : String} (h : BeginsWithString body text) :
    token body = .error (.wrongType (.string text) "struct LoginRequest") := by
  obtain ⟨r, hr⟩ := h.exists_front
  rw [token, Json.Schema.parse, Json.Reader.whole, Json.Schema.read, hr]
  rfl

/-- How a body that is a string is refused. -/
def bodyRefusal (text : String) : String :=
  "invalid login request body: invalid type: string " ++ Quoted.text text ++
    ", expected struct LoginRequest"

theorem message_of_body (text : String) :
    (Error.invalidBody (.wrongType (.string text) "struct LoginRequest")).message
      = bodyRefusal text := by
  have hfront : "invalid login request body: " ++ "invalid type: string "
      = "invalid login request body: invalid type: string " := String.ofList_append.symm
  have hback : ", expected " ++ "struct LoginRequest" = ", expected struct LoginRequest" :=
    String.ofList_append.symm
  calc (Error.invalidBody (.wrongType (.string text) "struct LoginRequest")).message
      = "invalid login request body: " ++ ("invalid type: string " ++ Quoted.text text ++
          (", expected " ++ "struct LoginRequest")) :=
        congrArg ("invalid login request body: " ++ ·) (Json.message_wrongString text _)
    _ = ("invalid login request body: " ++ "invalid type: string ") ++ Quoted.text text ++
          (", expected " ++ "struct LoginRequest") := Json.append_between _ _ _ _
    _ = bodyRefusal text :=
        congrArg₂ (fun front back => front ++ Quoted.text text ++ back) hfront hback

theorem message_of_payload (text : String) :
    (Error.claims (.payloadNotObject (.wrongType (.string text) "a map"))).message
      = Token.payloadRefusal text := by
  have hfront : "id token claims rejected: " ++ ("token payload is not a JSON object: " ++
      "invalid type: string ")
      = "id token claims rejected: token payload is not a JSON object: invalid type: string " :=
    (congrArg ("id token claims rejected: " ++ ·) String.ofList_append.symm).trans
      String.ofList_append.symm
  have hback : ", expected " ++ "a map" = ", expected a map" := String.ofList_append.symm
  calc (Error.claims (.payloadNotObject (.wrongType (.string text) "a map"))).message
      = "id token claims rejected: " ++ ("token payload is not a JSON object: " ++
          ("invalid type: string " ++ Quoted.text text ++ (", expected " ++ "a map"))) :=
        congrArg (fun s =>
          "id token claims rejected: " ++ ("token payload is not a JSON object: " ++ s))
          (Json.message_wrongString text _)
    _ = "id token claims rejected: " ++ (("token payload is not a JSON object: " ++
          "invalid type: string ") ++ Quoted.text text ++ (", expected " ++ "a map")) :=
        congrArg ("id token claims rejected: " ++ ·) (Json.append_between _ _ _ _)
    _ = ("id token claims rejected: " ++ ("token payload is not a JSON object: " ++
          "invalid type: string ")) ++ Quoted.text text ++ (", expected " ++ "a map") :=
        Json.append_between _ _ _ _
    _ = Token.payloadRefusal text :=
        congrArg₂ (fun front back => front ++ Quoted.text text ++ back) hfront hback

/-! ## Logins -/

/-- What the provider, the store or the keeper of sessions said, if it is why a login fails. -/
def Error.own? : Error → Option String
  | .verification e => some e.message
  | .identity (.lookup e) => some e.message
  | .identity (.creation e) => some e.message
  | .session e => some e.message
  | _ => none

/-- What others said is reported behind a few words that end with a space. -/
theorem Error.exists_front {e : Error} {m : String} (h : e.own? = some m) :
    ∃ cs, e.message = String.ofList cs ++ m ∧ cs.count '.' = 0 ∧ cs.getLast? = some ' ' := by
  cases e with
  | verification e | session e =>
    obtain rfl := Option.some.inj h
    exact ⟨_, rfl, rfl, rfl⟩
  | identity e =>
    cases e with
    | missingName => cases h
    | lookup e | creation e =>
      obtain rfl := Option.some.inj h
      exact ⟨_, rfl, rfl, rfl⟩
  | invalidBody | claims | unauthorized => cases h

/-- A text that has points and no space is reported only if it was said. -/
theorem Error.occurs_message_iff {e : Error} {m t : String} (h : e.own? = some m)
    (hpoints : 0 < points t) (hspace : ' ' ∉ t.toList) : Occurs t e.message ↔ Occurs t m := by
  obtain ⟨cs, hmessage, hcount, hlast⟩ := Error.exists_front h
  have hnot : ¬Occurs t (String.ofList cs) := fun hoccurs => by
    have hle := hoccurs.points_le
    rw [points_ofList hcount] at hle
    omega
  have hiff : Occurs t (String.ofList cs ++ m) ↔ Occurs t (String.ofList cs) ∨ Occurs t m := by
    rw [Occurs, String.toList_append]
    exact infix_append_iff_of_last (by rwa [String.toList_ofList]) hspace
  rw [hmessage, hiff]
  exact or_iff_right hnot

section Shown

variable {audience : String} {body : Bytes} {heard : List Heard}

/-- **What an error shows.** It is a string that the body is, or that the payload of a token is; or
what others said; or it has one point at most. -/
theorem FailsFirst.shown {e : Error} (h : FailsFirst audience body heard e) :
    (∃ text, BeginsWithString body text ∧
      e = .invalidBody (.wrongType (.string text) "struct LoginRequest")) ∨
    (∃ token text, Vouched audience body heard token ∧ Token.PayloadBegins token text ∧
      e = .claims (.payloadNotObject (.wrongType (.string text) "a map"))) ∨
    (∃ m, e.own? = some m) ∨ points e.message ≤ 1 := by
  cases h with
  | @body e failed =>
    rcases shown_of_token failed with ⟨text, hbegins, rfl⟩ | hle
    · exact .inl ⟨text, hbegins, rfl⟩
    · refine .inr (.inr (.inr ?_))
      show points ("invalid login request body: " ++ e.message) ≤ 1
      rwa [points_front (points_ofList rfl)]
  | verdict named failed => exact .inr (.inr (.inl ⟨_, rfl⟩))
  | @claims t e vouched failed =>
    rcases Token.shown_of_claims failed with ⟨text, hbegins, rfl⟩ | hle
    · exact .inr (.inl ⟨t, text, vouched, hbegins, rfl⟩)
    · refine .inr (.inr (.inr ?_))
      show points ("id token claims rejected: " ++ e.message) ≤ 1
      rwa [points_front (points_ofList rfl)]
  | email vouched claims_eq failed =>
    refine .inr (.inr (.inr ?_))
    show points ("id token claims rejected: " ++ _) ≤ 1
    rw [points_front (points_ofList rfl),
      Token.points_of_string_eq_error failed (by decide +kernel)]
    exact Nat.zero_le 1
  | lookup addressed failed hard => exact .inr (.inr (.inl ⟨_, rfl⟩))
  | name unknown failed => exact .inr (.inr (.inr (points_ofList_le (by decide))))
  | creation unknown name_eq failed => exact .inr (.inr (.inl ⟨_, rfl⟩))

end Shown

/-- Where no session can be begun, the keeper of sessions said why. -/
theorem eq_error_cases {τ : Type} {keeper : Session.Keeper τ} {now : Moment}
    {fresh : Session.Fresh} {who : Except Error Identity} {sessions : τ} {e : Error}
    (h : (grantIf keeper now fresh who sessions).1 = .error e) :
    who = .error e ∨ ∃ m, e.own? = some m := by
  cases who with
  | error e' => exact .inl (congrArg Except.error (Except.error.inj h))
  | ok who =>
    refine .inr ?_
    rw [grantIf, grant] at h
    split at h
    · rw [← Except.error.inj h]
      exact ⟨_, rfl⟩
    · cases h

theorem grantIf_error {τ : Type} (keeper : Session.Keeper τ) (now : Moment) (fresh : Session.Fresh)
    (sessions : τ) {who : Except Error Identity} {e : Error} (h : who = .error e) :
    (grantIf keeper now fresh who sessions).1 = .error e := by
  rw [h]
  rfl

/-- A text of characters that show as themselves is in every message that shows it. -/
theorem occurs_quoted {t : String} (h : ∀ c ∈ t.toList, Quoted.escape Quoted.double c = [c])
    (front back : String) : Occurs t (front ++ Quoted.text t ++ back) := by
  have hescaped : Quoted.escaped t.toList = t.toList := by
    rw [Quoted.escaped, List.flatMap_congr h, List.flatMap_singleton']
  rw [Occurs, String.toList_append, String.toList_append, Quoted.toList_text, hescaped]
  exact ⟨front.toList ++ [Quoted.double], Quoted.double :: back.toList, by simp⟩

/-- **When the error of a login discloses a token.** A token of three segments is in the message of
the error that a login fails with exactly in three cases: the body begins with a string in quotes,
and the token is in the message that refuses it, which shows the string; or the payload of another
token, one that the provider vouched for, begins with such a string, and the token is in the
message that refuses that; or the token is in what the provider, the store or the keeper of
sessions said, as it is reported. So the message does not disclose a token that stands in a list or
in a member of the body, whatever else the body holds, unless by one of the last two. A token
without spaces is in what is reported exactly if it is in what was said, and is in no message more
if the place of an error is told behind it. And a token of characters that show as themselves is in
the message that refuses it. -/
theorem login_discloses_iff {σ τ : Type} (answer : Answerer σ) (keeper : Session.Keeper τ)
    (audience : String) (body : Bytes) (s : σ) (now : Moment) (fresh : Session.Fresh)
    (sessions : τ) {t : String} (ht : t.toList.count '.' = 2) :
    let heard := (identify audience body).heard answer s
    let result :=
      (grantIf keeper now fresh ((identify audience body).run answer s).value sessions).1
    ((∃ e, result = .error e ∧ Occurs t e.message) ↔
      (∃ text, BeginsWithString body text ∧ Occurs t (bodyRefusal text)) ∨
      (∃ token text, token ≠ t ∧ Vouched audience body heard token ∧
        Token.PayloadBegins token text ∧ Occurs t (Token.payloadRefusal text)) ∨
      ∃ e m, result = .error e ∧ e.own? = some m ∧ Occurs t e.message) ∧
    (' ' ∉ t.toList → ∀ (e : Error) (m : String), e.own? = some m →
      (Occurs t e.message ↔ Occurs t m)) ∧
    (' ' ∉ t.toList → ∀ (e : Error) (line column : Nat),
      Occurs t (e.message ++ Json.place line column) ↔ Occurs t e.message) ∧
    ((∀ c ∈ t.toList, Quoted.escape Quoted.double c = [c]) →
      Occurs t (bodyRefusal t) ∧ Occurs t (Token.payloadRefusal t)) := by
  intro heard result
  have hpoints : points t = 2 := by rw [points, ht]
  have hgoes : Goes audience body heard ((identify audience body).run answer s).value :=
    identify_goes answer audience body s
  refine ⟨⟨?shows, ?shown⟩, ?own, ?place, fun h => ⟨occurs_quoted h _ _, occurs_quoted h _ _⟩⟩
  case shows =>
    rintro ⟨e, he, hoccurs⟩
    rcases eq_error_cases he with hvalue | ⟨m, hm⟩
    · rcases ((hgoes.fails_iff e).mp hvalue).shown with ⟨text, hbegins, rfl⟩ |
        ⟨token, text, hvouched, hbegins, rfl⟩ | ⟨m, hm⟩ | hle
      · exact .inl ⟨text, hbegins, message_of_body text ▸ hoccurs⟩
      · rw [message_of_payload] at hoccurs
        refine .inr (.inl ⟨token, text, ?_, hvouched, hbegins, hoccurs⟩)
        rintro rfl
        exact Token.not_occurs_payloadRefusal hbegins hoccurs
      · exact .inr (.inr ⟨e, m, he, hm, hoccurs⟩)
      · have htoo := hoccurs.points_le
        omega
    · exact .inr (.inr ⟨e, m, he, hm, hoccurs⟩)
  case shown =>
    rintro (⟨text, hbegins, hoccurs⟩ | ⟨token, text, -, hvouched, hbegins, hoccurs⟩ |
      ⟨e, m, he, -, hoccurs⟩)
    · refine ⟨_, grantIf_error keeper now fresh sessions (hgoes.eq_of_failsFirst
        (.body (token_of_beginsWithString hbegins))), ?_⟩
      rwa [message_of_body]
    · refine ⟨_, grantIf_error keeper now fresh sessions (hgoes.eq_of_failsFirst
        (.claims hvouched (Token.claims_of_payloadBegins hbegins))), ?_⟩
      rwa [message_of_payload]
    · exact ⟨e, he, hoccurs⟩
  case own =>
    intro hspace e m hm
    exact Error.occurs_message_iff hm (by omega) hspace
  case place =>
    intro hspace e line column
    exact Json.occurs_place_iff (by omega) hspace e.message line column

/-! ## A token as the body itself -/

/-- A token of three segments, each of letters. -/
def plainToken : String := "xxxxxxxxxxxx.yyyyyyyyyyyy.zzzzzzzz"

theorem points_plainToken : points plainToken = 2 := points_ofList rfl

theorem count_plainToken : plainToken.toList.count '.' = 2 := by
  have hpoints := points_plainToken
  rwa [points] at hpoints

theorem escape_plainToken : ∀ c ∈ plainToken.toList, Quoted.escape Quoted.double c = [c] := by
  obtain ⟨cs, htoken, hshown⟩ : ∃ cs, plainToken = String.ofList cs ∧
      cs.all (fun c => Quoted.escape Quoted.double c == [c]) = true := ⟨_, rfl, by decide +kernel⟩
  rw [htoken, String.toList_ofList]
  exact fun c hc => eq_of_beq (List.all_eq_true.mp hshown c hc)

theorem begins_plainToken : BeginsWithString (Json.printString plainToken) plainToken :=
  ⟨[], _, [], Json.isBlanks_nil, Json.spellsString_printString plainToken,
    (List.append_nil _).symm⟩

/-- The message discloses it, whoever keeps the users. -/
theorem login_discloses_iff_plainToken :
    plainToken.toList.count '.' = 2 ∧ BeginsWithString (Json.printString plainToken) plainToken ∧
    ∃ e, (grantIf Manager.keeper ⟨999, 0⟩ ⟨.zero, .replicate 12 0⟩
        ((identify "ours" (Json.printString plainToken)).run UserTable.answer ⟨[], 1⟩).value
        (Manager.ofSecrets Secrets.sample true)).1 = .error e ∧ Occurs plainToken e.message := by
  obtain ⟨hiff, -, -, hplain⟩ := login_discloses_iff UserTable.answer Manager.keeper "ours"
    (Json.printString plainToken) ⟨[], 1⟩ ⟨999, 0⟩ ⟨.zero, .replicate 12 0⟩
    (Manager.ofSecrets Secrets.sample true) count_plainToken
  have hoccurs := (hplain escape_plainToken).1
  exact ⟨count_plainToken, begins_plainToken,
    hiff.mpr (.inl ⟨plainToken, begins_plainToken, hoccurs⟩)⟩

/-- A tree has a string: it is that string, or has it in a list or under a key. -/
inductive HasString (t : String) : Json.Tree → Prop
  | top : HasString t (.string t)
  | element {v : Json.Tree} {vs : List Json.Tree} (mem : v ∈ vs) (has : HasString t v) :
      HasString t (.list vs)
  | member {key : String} {v : Json.Tree} {ms : List (String × Json.Tree)} (mem : (key, v) ∈ ms)
      (has : HasString t v) : HasString t (.object ms)

/-- What is said with an answer, if it is a refusal. -/
def said? : Heard → Option String
  | .verdict _ _ (.error e) => some e.message
  | .lookup _ (.error e) => some e.message
  | .creation _ _ (.error e) => some e.message
  | _ => none

theorem not_said_by_table (q : Question) (users : UserTable) (said : String)
    (h : said? (.of q (UserTable.answer q users).1) = some said) : ¬Occurs plainToken said := by
  have hquiet : ∀ m, points m = 0 → ¬Occurs plainToken m := fun m hm hoccurs => by
    have hle := hoccurs.points_le
    rw [points_plainToken, hm] at hle
    cases hle
  cases q with
  | verify token audience => cases h
  | find email =>
    rcases users.find_cases email with ⟨u, -, -, hfound⟩ | ⟨-, hnone⟩
    · have hanswer : (UserTable.answer (.find email) users).1 = .ok u := hfound
      rw [hanswer] at h
      cases h
    · have hanswer : (UserTable.answer (.find email) users).1 = .error .notFound := hnone
      rw [hanswer] at h
      rw [← Option.some.inj h]
      exact hquiet _ (points_ofList rfl)
  | create email name =>
    rcases users.find_cases email with ⟨u, -, -, hfound⟩ | ⟨-, hnone⟩
    · have hanswer : (UserTable.answer (.create email name) users).1 = .error .conflict := by
        show (users.create email name).1 = _
        rw [UserTable.create, hfound]
      rw [hanswer] at h
      rw [← Option.some.inj h]
      exact hquiet _ (points_ofList rfl)
    · have hanswer : (UserTable.answer (.create email name) users).1
          = .ok ⟨users.nextId, email, name⟩ := by
        show (users.create email name).1 = _
        rw [UserTable.create, hnone]
      rw [hanswer] at h
      cases h

/-- The message of an error may have a token that stands in the body as a string, even if nobody
who is asked ever says it. -/
theorem not_tokens_undisclosed : ¬∀ (σ : Type) (answer : Answerer σ) (s : σ) (m : Manager)
    (audience : String) (now : Moment) (fresh : Session.Fresh) (v : Json.Tree)
    (body : Bytes) (t : String)
    (e : Error), t.toList.count '.' = 2 → 32 ≤ t.length → Json.TextOf v body → HasString t v →
    (∀ q s' said, said? (.of q (answer q s').1) = some said → ¬Occurs t said) →
    (grantIf Manager.keeper now fresh ((identify audience body).run answer s).value m).1
      = .error e →
    ¬Occurs t e.message := by
  intro hall
  have hwritten : Json.TextOf (.string plainToken) (Json.printString plainToken) :=
    ⟨0, [], _, [], Json.isBlanks_nil, .string (Json.spellsString_printString plainToken),
      Json.isBlanks_nil, by simp⟩
  have hvalue := (identify_goes UserTable.answer "ours" (Json.printString plainToken)
    ⟨[], 1⟩).eq_of_failsFirst (.body (token_of_beginsWithString begins_plainToken))
  have hundisclosed :=
    hall UserTable UserTable.answer ⟨[], 1⟩ (Manager.ofSecrets Secrets.sample true)
    "ours" ⟨999, 0⟩ ⟨.zero, .replicate 12 0⟩ (.string plainToken) (Json.printString plainToken)
    plainToken _ count_plainToken (by decide +kernel) hwritten .top not_said_by_table
    (grantIf_error _ _ _ _ hvalue)
  rw [message_of_body] at hundisclosed
  exact hundisclosed (occurs_quoted escape_plainToken _ _)

end Login

end SignIn
