import SignIn.Login
import SignIn.Proofs.StringRecord

/-!
# What is trusted stands at the top

The audience and the issuer that the provider answers with, and the token that a login names, are
strings of a record. They are what the outermost object has under their keys, each of which it must
have once, or what a list of just so many strings holds. Nothing that is nested in another member,
and nothing that stands in a string, can take their place. This is said of the texts of trees,
which leave out nothing that is read as a value (`Json.exists_textOf`).
-/

namespace SignIn

open Json (Tree TextOf HasOnce StringField FieldLaws called names)

/-! ## The fields -/

/-- The fields of what the provider answers. -/
def Token.Info.fields : List (StringField Token.Info) :=
  [⟨"aud", Token.Info.audience, fun s i => { i with audience := s }⟩,
    ⟨"iss", Token.Info.issuer, fun s i => { i with issuer := s }⟩]

theorem Token.Info.schema_fields :
    Token.Info.schema.fields = Token.Info.fields.map StringField.field := rfl

theorem Token.Info.fieldLaws : FieldLaws Token.Info.fields where
  distinct := by decide
  get_set := by
    intro f hf s a
    rcases List.mem_pair.mp hf with rfl | rfl <;> rfl
  get_set_ne := by
    intro f g hf hg hkey s a
    rcases List.mem_pair.mp hf with rfl | rfl <;> rcases List.mem_pair.mp hg with rfl | rfl
    · exact absurd rfl hkey
    · rfl
    · rfl
    · exact absurd rfl hkey
  ext := by
    intro a b h
    have haudience : a.audience = b.audience := h _ (List.mem_pair.mpr (.inl rfl))
    have hissuer : a.issuer = b.issuer := h _ (List.mem_pair.mpr (.inr rfl))
    cases a
    cases b
    cases haudience
    cases hissuer
    rfl

/-- The field of a login, which is the token itself. -/
def Login.fields : List (StringField String) := [⟨"idToken", id, fun s _ => s⟩]

theorem Login.schema_fields : Login.requestSchema.fields = Login.fields.map StringField.field :=
  rfl

theorem Login.fieldLaws : FieldLaws Login.fields where
  distinct := by decide
  get_set := by
    intro f hf s a
    obtain rfl := List.mem_singleton.mp hf
    rfl
  get_set_ne := by
    intro f g hf hg hkey s a
    rw [List.mem_singleton.mp hf, List.mem_singleton.mp hg] at hkey
    exact absurd rfl hkey
  ext := fun h => h _ (List.mem_singleton.mpr rfl)

/-! ## What is read -/

section Read

variable {v : Tree} {s : Bytes}

theorem Token.Info.parse_eq_ok_iff (h : TextOf v s) {info : Token.Info} :
    Token.Info.parse s = .ok info ↔
      (∃ ms, v = .object ms ∧ HasOnce ms "aud" info.audience ∧ HasOnce ms "iss" info.issuer) ∨
      v = .list [.string info.audience, .string info.issuer] := by
  have hpair : ∀ ms, (∀ f ∈ Token.Info.fields, HasOnce ms f.key (f.get info)) ↔
      HasOnce ms "aud" info.audience ∧ HasOnce ms "iss" info.issuer := by
    intro ms
    rw [Token.Info.fields, List.forall_mem_cons, List.forall_mem_singleton]
  rw [Token.Info.parse, Json.Schema.parse_eq_ok_iff Token.Info.schema_fields (List.cons_ne_nil _ _)
    Token.Info.fieldLaws h]
  simp only [hpair]
  rfl

theorem Login.token_eq_ok_iff (h : TextOf v s) {token : String} :
    Login.token s = .ok token ↔
      (∃ ms, v = .object ms ∧ HasOnce ms "idToken" token) ∨ v = .list [.string token] := by
  have hone : ∀ ms, (∀ f ∈ Login.fields, HasOnce ms f.key (f.get token)) ↔
      HasOnce ms "idToken" token := by
    intro ms
    simp only [Login.fields, List.forall_mem_singleton, id]
  rw [Login.token, Json.Schema.parse_eq_ok_iff Login.schema_fields (List.cons_ne_nil _ _)
    Login.fieldLaws h]
  simp only [hone]
  rfl

/-- The members that decide what the provider's answer is. -/
theorem Token.Info.names_eq : names Token.Info.fields = fun m => m.1 == "aud" || m.1 == "iss" := by
  funext m
  simp only [names, Token.Info.fields, List.any_cons, List.any_nil, Bool.or_false]
  rw [Bool.beq_comm, Bool.beq_comm (a := "iss")]

theorem Login.names_eq : names Login.fields = fun m => m.1 == "idToken" := by
  funext m
  simp only [names, Login.fields, List.any_cons, List.any_nil, Bool.or_false]
  rw [Bool.beq_comm]

end Read

/-- **What is trusted stands at the top, and once.** The text of an object is read exactly if each
key that is asked for occurs once in it and has a string, and that of a list exactly if it holds
just those strings. Whatever other members there are makes no difference, and a key that is
repeated is an error. -/
theorem trusted_read_at_top {v : Tree} {s : Bytes} (h : TextOf v s) :
    (∀ info, Token.Info.parse s = .ok info ↔
      (∃ ms, v = .object ms ∧ HasOnce ms "aud" info.audience ∧ HasOnce ms "iss" info.issuer) ∨
      v = .list [.string info.audience, .string info.issuer]) ∧
    (∀ token, Login.token s = .ok token ↔
      (∃ ms, v = .object ms ∧ HasOnce ms "idToken" token) ∨ v = .list [.string token]) ∧
    (∀ ms ms' s', v = .object ms → TextOf (.object ms') s' →
      (ms.filter fun m => m.1 == "aud" || m.1 == "iss")
        = (ms'.filter fun m => m.1 == "aud" || m.1 == "iss") →
      Token.Info.parse s = Token.Info.parse s') ∧
    (∀ ms ms' s', v = .object ms → TextOf (.object ms') s' →
      called "idToken" ms = called "idToken" ms' → Login.token s = Login.token s') ∧
    (∀ ms, v = .object ms → 1 < (called "aud" ms).length ∨ 1 < (called "iss" ms).length →
      ∃ e, Token.Info.parse s = .error e) ∧
    ∀ ms, v = .object ms → 1 < (called "idToken" ms).length → ∃ e, Login.token s = .error e := by
  refine ⟨fun info => Token.Info.parse_eq_ok_iff h, fun token => Login.token_eq_ok_iff h,
    ?_, ?_, ?_, ?_⟩
  · intro ms ms' s' hv h' heq
    rw [hv] at h
    rw [← Token.Info.names_eq] at heq
    exact Json.Schema.parse_congr Token.Info.schema_fields (List.cons_ne_nil _ _) h h' heq
  · intro ms ms' s' hv h' heq
    rw [hv] at h
    unfold called at heq
    rw [← Login.names_eq] at heq
    exact Json.Schema.parse_congr Login.schema_fields (List.cons_ne_nil _ _) h h' heq
  · intro ms hv hrepeated
    rw [hv] at h
    rcases hrepeated with haudience | hissuer
    · exact Json.Schema.parse_repeated Token.Info.schema_fields Token.Info.fieldLaws h
        (List.mem_pair.mpr (.inl rfl)) haudience
    · exact Json.Schema.parse_repeated Token.Info.schema_fields Token.Info.fieldLaws h
        (List.mem_pair.mpr (.inr rfl)) hissuer
  · intro ms hv hrepeated
    rw [hv] at h
    exact Json.Schema.parse_repeated Login.schema_fields Login.fieldLaws h
      (List.mem_singleton.mpr rfl) hrepeated

/-! ## An answer with an audience inside another member -/

/-- A number that is too large to have a value. -/
def enormous : Json.Numeral := ⟨false, [0x31], none, some (false, [0x39, 0x39, 0x39])⟩

/-- What the provider might answer: another member has an object with an `aud` of its own and a
string with a brace and a quote in it, one number is too large to have a value, and the key of the
audience is spelled with an escape. -/
def nestedAnswer : Bytes :=
  Utf8.encode
    "\x7b\"a\":\x7b\"aud\":[\"\x7d\\\"\"]\x7d,\"\\u0061ud\":\"me\",\"n\":1e999,\"iss\":\"x\"\x7d"

/-- Its members. -/
def nestedMembers : List (String × Tree) :=
  [("a", .object [("aud", .list [.string "\x7d\""])]), ("aud", .string "me"),
    ("n", .number enormous), ("iss", .string "x")]

theorem textOf_nestedAnswer : TextOf (.object nestedMembers) nestedAnswer := by
  have hstring : ∀ s, Json.Leaf (.string s) (Json.printString s) :=
    fun s => .string (Json.spellsString_printString s)
  have hlist : Json.Writes 1 (.list [.string "\x7d\""]) _ :=
    .list (.items (.one (.bare (hstring "\x7d\""))))
  have hinner : Json.Writes 2 (.object [("aud", .list [.string "\x7d\""])]) _ :=
    .object (.items (.one (.bare (.bare (Json.spellsString_printString "aud") hlist))))
  have hletter : Json.SpellsUnit 'a'.toNat [0x30, 0x30, 0x36, 0x31] :=
    show Json.SpellsUnit (((0 * 16 + 0) * 16 + 6) * 16 + 1) _ from .mk rfl rfl rfl rfl
  have hescaped : Json.SpellsString "aud"
      (0x22 :: (0x5C :: 0x75 :: [0x30, 0x30, 0x36, 0x31] ++ ['u', 'd'].flatMap Json.printChar)
        ++ [0x22]) :=
    ⟨_, .cons (.unit hletter) (Json.spells_printChars ['u', 'd']), rfl⟩
  have hwhole : Json.IsWhole [0x31] := ⟨⟨by decide, List.all_eq_true.mp rfl⟩, by decide⟩
  have hdigits : Json.IsDigits [0x39, 0x39, 0x39] := ⟨by decide, List.all_eq_true.mp rfl⟩
  have hnumber : Json.Leaf (.number enormous) [0x31, 0x65, 0x39, 0x39, 0x39] :=
    .number (Json.SpellsNumeral.mk (x := enormous) hwhole .absent
      (.present (.inl rfl) (.inl rfl) hdigits))
  have hmembers : Json.Enclosed (Json.Entry (Json.Writes 2)) 0x7B 0x7D nestedMembers _ :=
    .items (.cons (.bare (.bare (Json.spellsString_printString "a") hinner))
      (.cons (.bare (.bare hescaped (.leaf (hstring "me"))))
        (.cons (.bare (.bare (Json.spellsString_printString "n") (.leaf hnumber)))
          (.one (.bare (.bare (Json.spellsString_printString "iss") (.leaf (hstring "x"))))))))
  exact ⟨3, [], _, [], Json.isBlanks_nil, .object hmembers, Json.isBlanks_nil, by decide⟩

/-- The audience is the one at the top. -/
theorem trusted_read_at_top_nested :
    TextOf (.object nestedMembers) nestedAnswer ∧ Token.Info.parse nestedAnswer
      = .ok ⟨"me", "x"⟩ := by
  obtain ⟨hinfo, -⟩ := trusted_read_at_top textOf_nestedAnswer
  exact ⟨textOf_nestedAnswer, (hinfo ⟨"me", "x"⟩).mpr (.inl ⟨nestedMembers, rfl, rfl, rfl⟩)⟩

end SignIn
