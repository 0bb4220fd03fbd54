import Mathlib.Data.List.Basic
import SignIn.Proofs.CookieText
import SignIn.Token.Inquiry

/-!
# A token reaches the provider as it is

The token is put behind the query of the provider's URL, in form encoding. None of the bytes that
part the pairs of a query, a query from a fragment, or the parts of a request line is left in that
encoding. So whatever the token holds, the request line says what it says for any other token, with
one pair more, and the value of that pair is read as the token.
-/

namespace SignIn

/-! ## Bytes that are kept -/

namespace Percent

/-- A byte that is not kept is not left, unless escapes are written with it. -/
theorem ne_of_mem_encode {keep : UInt8 → Bool} {s : Bytes} {b mark : UInt8} (h : b ∈ encode keep s)
    (hkeep : keep mark = false) (hsign : sign ≠ mark)
    (hdigit : ∀ n < 16, Hex.upperDigit n ≠ mark) :
    b ≠ mark := by
  rcases mem_encode h with hk | rfl | ⟨n, hn, rfl⟩
  · rintro rfl
    rw [hkeep] at hk
    cases hk
  · exact hsign
  · exact hdigit n hn

theorem isGraphic_of_mem_encode {marks : String} {s : Bytes} {b : UInt8}
    (h : b ∈ encode (graphicBut marks) s) : isGraphic b = true := by
  rcases mem_encode h with hk | rfl | ⟨n, hn, rfl⟩
  · exact (Bool.and_eq_true_iff.mp hk).1
  · rfl
  · exact (upperDigit_graphic n hn).1

end Percent

/-! ## Form fields -/

namespace Form

def ampersand : UInt8 := 0x26

def equals : UInt8 := 0x3D

/-- A byte that a pair in form encoding is written with. -/
def isFormByte (b : UInt8) : Bool := Percent.isAlphanumeric b || (Utf8.encode "*-._+%=").contains b

/-- Percent encoding is what is left of form encoding when plus signs are read as spaces. -/
theorem unplus_encode (s : Bytes) :
    (encode s).map (fun b => if b = 0x2B then 0x20 else b)
      = Percent.encode (fun b => b == 0x20 || Percent.keptInForm b) s := by
  have hdigit : ∀ n < 16, Hex.upperDigit n ≠ 0x2B := by decide
  have hkept : Percent.keptInForm 0x2B = false := by decide
  rw [encode, Percent.encode, List.map_flatMap]
  refine List.flatMap_congr fun b _ => ?_
  have hb : b.toNat < 256 := b.toNat_lt
  by_cases hspace : b = 0x20
  · subst hspace
    rfl
  · rw [if_neg hspace, beq_false_of_ne hspace, Bool.false_or]
    split
    · rename_i hkeep
      rw [List.map_singleton, if_neg]
      rintro rfl
      rw [hkept] at hkeep
      cases hkeep
    · rw [Percent.escape, List.map_cons, List.map_cons, List.map_singleton, if_neg (by decide),
        if_neg (hdigit _ (by omega)), if_neg (hdigit _ (by omega))]

/-- **A form field is read back.** -/
theorem decode_encode (s : Bytes) : decode (encode s) = s := by
  rw [decode, unplus_encode]
  exact Percent.decode_encode (by decide) s

theorem isFormByte_upperDigit : ∀ n < 16, isFormByte (Hex.upperDigit n) = true
    ∧ Hex.upperDigit n ≠ equals := by decide

/-- Neither of the bytes that part pairs and their halves is left. -/
theorem mem_encode {s : Bytes} {b : UInt8} (h : b ∈ encode s) :
    isFormByte b = true ∧ b ≠ equals := by
  obtain ⟨c, -, hb⟩ := List.mem_flatMap.mp h
  have hc : c.toNat < 256 := c.toNat_lt
  split at hb
  · rw [List.mem_singleton.mp hb]
    decide
  split at hb
  · rename_i hkept
    obtain rfl := List.mem_singleton.mp hb
    refine ⟨?_, ?_⟩
    · rw [Percent.keptInForm] at hkept
      simp only [Bool.or_eq_true, beq_iff_eq] at hkept
      rcases hkept with (((hletter | rfl) | rfl) | rfl) | rfl
      · rw [isFormByte, hletter, Bool.true_or]
      all_goals decide
    · rintro rfl
      exact absurd hkept (by decide)
  · simp only [Percent.escape, List.mem_cons, List.not_mem_nil, or_false] at hb
    rcases hb with rfl | rfl | rfl
    · decide
    · exact isFormByte_upperDigit _ (by omega)
    · exact isFormByte_upperDigit _ (by omega)

theorem not_isFormByte_ampersand : isFormByte ampersand = false := by decide

/-! ## Pairs of a query -/

/-- The key and the value of a pair, which the first equals sign parts. -/
def pair (s : Bytes) : Bytes × Bytes :=
  (decode (s.takeWhile (· != equals)), decode ((s.dropWhile (· != equals)).drop 1))

/-- The pairs of a query, with ampersands between them. Of nothing between two of them there is no
pair. -/
def pairs (query : Bytes) : List (Bytes × Bytes) :=
  ((query.splitOn ampersand).filter (· ≠ [])).map pair

/-- The text of a pair. -/
def printPair (key value : Bytes) : Bytes := encode key ++ equals :: encode value

/-- **A pair is read back.** -/
theorem pair_printPair (key value : Bytes) : pair (printPair key value) = (key, value) := by
  have hkey : ∀ b ∈ encode key, (b != equals) = true := fun b hb =>
    bne_iff_ne.mpr (mem_encode hb).2
  have htake : (printPair key value).takeWhile (· != equals) = encode key := by
    rw [printPair, List.takeWhile_append_of_pos hkey, List.takeWhile_cons_of_neg (by decide),
      List.append_nil]
  have hdrop : (printPair key value).dropWhile (· != equals) = equals :: encode value := by
    rw [printPair, List.dropWhile_append_of_pos hkey, List.dropWhile_cons_of_neg (by decide)]
  rw [pair, htake, hdrop, List.drop_succ_cons, List.drop_zero, decode_encode, decode_encode]

theorem isFormByte_of_mem_printPair {key value : Bytes} {b : UInt8} (h : b ∈ printPair key value) :
    isFormByte b = true := by
  rcases List.mem_append.mp h with h | h
  · exact (mem_encode h).1
  · rcases List.mem_cons.mp h with rfl | h
    · decide
    · exact (mem_encode h).1

theorem pairs_printPair (key value : Bytes) : pairs (printPair key value) = [(key, value)] := by
  have hapart : ampersand ∉ printPair key value := fun h => by
    have hform := isFormByte_of_mem_printPair h
    rw [not_isFormByte_ampersand] at hform
    cases hform
  have hne : printPair key value ≠ [] := by
    rw [printPair]
    exact List.append_ne_nil_of_right_ne_nil _ (List.cons_ne_nil _ _)
  rw [pairs, List.splitOn_eq_singleton hapart, List.filter_cons_of_pos (by simpa using hne),
    List.filter_nil, List.map_singleton, pair_printPair]

theorem pairs_append (query query' : Bytes) :
    pairs (query ++ ampersand :: query') = pairs query ++ pairs query' := by
  rw [pairs, List.splitOn_append_cons_self, List.filter_append, List.map_append, pairs, pairs]

/-- The text of a pair as it is put behind a query: with an ampersand, if there is something before
it. -/
def further (query key value : Bytes) : Bytes :=
  (if query = [] then [] else [ampersand]) ++ printPair key value

/-- **A query has one pair more than before**, behind those that it had. -/
theorem pairs_append_further (query key value : Bytes) :
    pairs (query ++ further query key value) = pairs query ++ [(key, value)] := by
  rw [further]
  split
  · rename_i hnil
    rw [hnil, List.nil_append, List.nil_append, pairs_printPair]
    rfl
  · rw [List.singleton_append, pairs_append, pairs_printPair]

end Form

/-! ## The target of a request -/

namespace Endpoint

/-- A byte that a path is written with. -/
def isPathByte (b : UInt8) : Bool := Percent.isGraphic b && b != question && b != hash

/-- A byte that a query is written with. -/
def isQueryByte (b : UInt8) : Bool := Percent.isGraphic b && b != hash

theorem isQueryByte_of_isPathByte {b : UInt8} (h : isPathByte b = true) :
    isQueryByte b = true := by
  simp only [isPathByte, isQueryByte, Bool.and_eq_true] at h ⊢
  exact ⟨h.1.1, h.2⟩

theorem isQueryByte_of_isFormByte {b : UInt8} (h : Form.isFormByte b = true) :
    isQueryByte b = true := by
  have hmarks : (Utf8.encode "*-._+%=").all isQueryByte = true := by decide
  rw [Form.isFormByte, Bool.or_eq_true, List.contains_iff_mem] at h
  rcases h with hletter | hmark
  · have hhash : hash.toNat = 0x23 := rfl
    simp only [Percent.isAlphanumeric, isQueryByte, Percent.isGraphic, Bool.or_eq_true,
      Bool.and_eq_true, decide_eq_true_eq, bne_iff_ne, ne_eq, UInt8.le_iff_toNat_le,
      ← UInt8.toNat_inj, hhash, UInt8.reduceToNat] at hletter ⊢
    omega
  · exact List.all_eq_true.mp hmarks b hmark

theorem isPathByte_of_mem_encode {s : Bytes} {b : UInt8}
    (h : b ∈ Percent.encode Percent.keptInPath s) :
    isPathByte b = true := by
  rw [isPathByte, Percent.isGraphic_of_mem_encode h, Bool.true_and, Bool.and_eq_true, bne_iff_ne,
    bne_iff_ne]
  exact ⟨Percent.ne_of_mem_encode h (by decide) (by decide) (by decide),
    Percent.ne_of_mem_encode h (by decide) (by decide) (by decide)⟩

theorem isQueryByte_of_mem_encode {s : Bytes} {b : UInt8}
    (h : b ∈ Percent.encode Percent.keptInQuery s) :
    isQueryByte b = true := by
  rw [isQueryByte, Percent.isGraphic_of_mem_encode h, Bool.true_and, bne_iff_ne]
  exact Percent.ne_of_mem_encode h (by decide) (by decide) (by decide)

theorem isPathByte_of_mem_normalPath {s : Bytes} {b : UInt8} (h : b ∈ normalPath s) :
    isPathByte b = true := by
  obtain ⟨segment, -, hb⟩ := List.mem_flatMap.mp h
  rcases List.mem_cons.mp hb with rfl | hb
  · decide
  · exact isPathByte_of_mem_encode hb

theorem isQueryByte_of_mem_query? {s q : Bytes} (hq : query? s = some q) {b : UInt8} (h : b ∈ q) :
    isQueryByte b = true := by
  cases s with
  | nil => cases hq
  | cons c r =>
    rw [query?] at hq
    split at hq
    · rw [← Option.some.inj hq] at h
      exact isQueryByte_of_mem_encode h
    · cases hq

/-- The path and the query of a URL that can be used are in normal form. -/
theorem exists_of_parse? {url : Bytes} {e : Endpoint} (h : parse? url = some e) :
    ∃ s t, e.path = normalPath s ∧ e.query = query? t := by
  simp only [parse?, Option.bind_eq_bind, Option.bind_eq_some_iff, Option.pure_def,
    Option.some.injEq] at h
  obtain ⟨_, -, _, -, rfl⟩ := h
  exact ⟨_, _, rfl, rfl⟩

section Parsed

variable {url : Bytes} {e : Endpoint} (h : parse? url = some e)
include h

theorem isPathByte_of_mem_path {b : UInt8} (hb : b ∈ e.path) : isPathByte b = true := by
  obtain ⟨s, t, hpath, -⟩ := exists_of_parse? h
  rw [hpath] at hb
  exact isPathByte_of_mem_normalPath hb

theorem isQueryByte_of_mem_query {b : UInt8} (hb : b ∈ e.query.getD []) :
    isQueryByte b = true := by
  obtain ⟨s, t, -, hquery⟩ := exists_of_parse? h
  cases hq : e.query with
  | none =>
    rw [hq] at hb
    cases hb
  | some q =>
    rw [hq] at hb
    exact isQueryByte_of_mem_query? (hquery ▸ hq) hb

/-- A target with a pair behind its query has no byte that would end it. -/
theorem isQueryByte_of_mem_extended {added : Bytes}
    (hadded : ∀ b ∈ added, Form.isFormByte b = true) :
    ∀ b ∈ e.path ++ question :: (e.query.getD [] ++
      ((if e.query.getD [] = [] then [] else [Form.ampersand]) ++ added)),
        isQueryByte b = true := by
  intro b hb
  rcases List.mem_append.mp hb with hpath | hb
  · exact isQueryByte_of_isPathByte (isPathByte_of_mem_path h hpath)
  rcases List.mem_cons.mp hb with rfl | hb
  · decide
  rcases List.mem_append.mp hb with hquery | hb
  · exact isQueryByte_of_mem_query h hquery
  rcases List.mem_append.mp hb with hjoint | hb
  · split at hjoint
    · cases hjoint
    · rw [List.mem_singleton.mp hjoint]
      decide
  · exact isQueryByte_of_isFormByte (hadded b hb)

end Parsed

/-- A pair goes behind the query, or makes one. -/
theorem target_withPair (e : Endpoint) (key value : Bytes) :
    (e.withPair key value).target = e.path ++ question ::
      (e.query.getD [] ++ Form.further (e.query.getD []) key value) := by
  obtain ⟨secure, host, port, path, query, fragment⟩ := e
  match query with
  | none => rfl
  | some [] => rfl
  | some (b :: q) => rfl

end Endpoint

/-! ## The request line -/

namespace Token

theorem encode_tokenKey : Form.encode tokenKey = tokenKey := by decide

theorem printPair_tokenKey (value : Bytes) :
    Form.printPair tokenKey value = Utf8.encode "id_token=" ++ Form.encode value := by
  have hkey : Utf8.encode "id_token=" = tokenKey ++ [Form.equals] := by decide
  rw [Form.printPair, encode_tokenKey, hkey, List.append_assoc, List.singleton_append]

/-- What is asked is asked in one line, unless the URL becomes too long. -/
theorem verify_of_parsed {url : String} {e : Endpoint}
    (h : Endpoint.parse? (Utf8.encode url) = some e) (network : Network)
    (token audience : String) :
    let asked := e.withPair tokenKey (Utf8.encode token)
    verify url network token audience =
      if asked.print.length ≤ Endpoint.maxLength then
        network.conclude audience Network.maxRedirects 0 asked
          (Reply.read? (network.reply 0 asked (requestLine asked)))
      else .error (.unanswered .build) := by
  intro asked
  rw [verify, inquiry, h]
  dsimp only
  split
  · rename_i hnone
    split at hnone
    · cases hnone
    · rename_i hlong
      rw [if_neg hlong]
  · rename_i e' hsome
    split at hsome
    · rename_i hshort
      rw [if_pos hshort, ← Option.some.inj hsome, Network.hear]
    · cases hsome

/-- A line is parted at its spaces. -/
theorem splitOn_requestLine {target : Bytes} (h : (0x20 : UInt8) ∉ target) :
    (Utf8.encode "GET " ++ target ++ Utf8.encode " HTTP/1.1").splitOn 0x20
      = [Utf8.encode "GET", target, Utf8.encode "HTTP/1.1"] := by
  have hmethod : Utf8.encode "GET " = Utf8.encode "GET" ++ [0x20] := by decide
  have hversion : Utf8.encode " HTTP/1.1" = 0x20 :: Utf8.encode "HTTP/1.1" := by decide
  have hapart : (0x20 : UInt8) ∉ Utf8.encode "GET" ∧ (0x20 : UInt8) ∉ Utf8.encode "HTTP/1.1" := by
    decide
  rw [hmethod, hversion, List.append_assoc, List.append_assoc, List.singleton_append,
    List.splitOn_append_cons_self_of_not_mem hapart.1, List.splitOn_append_cons_self_of_not_mem h,
    List.splitOn_eq_singleton hapart.2]

/-- **Whatever a token holds, it is the value of one more pair, and nothing else.** The line of the
first request for a token at a URL that can be used has the path and the query of the URL, and
behind the query one pair with the key `id_token`. The value of the pair is read as the token. The
pair is written with letters, digits and `*-._+%=` only; so the query has the pairs that it has in
the URL, and this one, and the line has no fragment and no more than its three parts. Nothing is
sent if the URL becomes too long. -/
theorem token_sent_intact (url : String) (e : Endpoint)
    (h : Endpoint.parse? (Utf8.encode url) = some e) (token : String) :
    let own := e.query.getD []
    let value := Form.encode (Utf8.encode token)
    let pair := Utf8.encode "id_token=" ++ value
    let query := own ++ ((if own = [] then [] else [Form.ampersand]) ++ pair)
    let target := e.path ++ Endpoint.question :: query
    let line := Utf8.encode "GET " ++ target ++ Utf8.encode " HTTP/1.1"
    let asked := e.withPair tokenKey (Utf8.encode token)
    (∀ network audience, verify url network token audience =
      if asked.print.length ≤ Endpoint.maxLength then
        network.conclude audience Network.maxRedirects 0 asked
          (Reply.read? (network.reply 0 asked line))
      else .error (.unanswered .build)) ∧
    Utf8.decode? (Form.decode value) = some token ∧
    (∀ b ∈ pair, Form.isFormByte b = true) ∧
    Form.pairs query = Form.pairs own ++ [(tokenKey, Utf8.encode token)] ∧
    line.splitOn 0x20 = [Utf8.encode "GET", target, Utf8.encode "HTTP/1.1"] ∧
    (∀ b ∈ target, Endpoint.isQueryByte b = true) ∧
    target.takeWhile (· != Endpoint.question) = e.path := by
  intro own value pair query target line asked
  have hquery : query = own ++ Form.further own tokenKey (Utf8.encode token) := by
    rw [Form.further, printPair_tokenKey]
  have hline : requestLine asked = line := by
    rw [requestLine, Endpoint.target_withPair, ← hquery]
  have hpair : ∀ b ∈ pair, Form.isFormByte b = true := by
    have hprint : pair = Form.printPair tokenKey (Utf8.encode token) := (printPair_tokenKey _).symm
    rw [hprint]
    exact fun b hb => Form.isFormByte_of_mem_printPair hb
  have hquestion : ∀ b ∈ e.path, (b != Endpoint.question) = true := fun b hb => by
    have hpath := Endpoint.isPathByte_of_mem_path h hb
    simp only [Endpoint.isPathByte, Bool.and_eq_true] at hpath
    exact hpath.1.2
  have htarget : ∀ b ∈ target, Endpoint.isQueryByte b = true :=
    Endpoint.isQueryByte_of_mem_extended h hpair
  refine ⟨?_, ?_, hpair, ?_, splitOn_requestLine fun hspace => ?_, htarget, ?_⟩
  · intro network audience
    rw [verify_of_parsed h, hline]
  · rw [Form.decode_encode, Utf8.decode?_encode]
  · rw [hquery, Form.pairs_append_further]
  · exact absurd (htarget _ hspace) (by decide)
  · rw [List.takeWhile_append_of_pos hquestion, List.takeWhile_cons_of_neg (by decide),
      List.append_nil]

/-- An endpoint with a query of its own, and a fragment. -/
def queriedEndpoint : Endpoint :=
  ⟨true, .name (Utf8.encode "p.example"), none, Utf8.encode "/t", some (Utf8.encode "x=1"),
    some (Utf8.encode "f")⟩

/-- A token that would part pairs and lines, if it were sent as it is. -/
theorem token_sent_intact_marks :
    let token := "a&id_token=b#c%2B+ \r\n\x00é"
    let line :=
      Utf8.encode "GET /t?x=1&id_token=a%26id_token%3Db%23c%252B%2B+%0D%0A%00%C3%A9 HTTP/1.1"
    let asked := queriedEndpoint.withPair tokenKey (Utf8.encode token)
    Endpoint.parse? (Utf8.encode "https://p.example/t?x=1#f") = some queriedEndpoint ∧
    ∀ network audience, verify "https://p.example/t?x=1#f" network token audience =
      network.conclude audience Network.maxRedirects 0 asked
        (Reply.read? (network.reply 0 asked line)) := by
  intro token line asked
  have hurl : Endpoint.parse? (Utf8.encode "https://p.example/t?x=1#f")
      = some queriedEndpoint := by
    decide +kernel
  refine ⟨hurl, fun network audience => ?_⟩
  obtain ⟨hsent, -⟩ := token_sent_intact _ _ hurl token
  have hline : Utf8.encode "GET " ++ (queriedEndpoint.path ++ Endpoint.question ::
      (queriedEndpoint.query.getD [] ++ ((if queriedEndpoint.query.getD [] = [] then [] else
        [Form.ampersand]) ++ (Utf8.encode "id_token=" ++ Form.encode (Utf8.encode token))))) ++
      Utf8.encode " HTTP/1.1" = line := by decide +kernel
  rw [hsent network audience, if_pos (by decide +kernel), hline]

end Token

end SignIn
