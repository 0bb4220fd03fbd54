import SignIn.Proofs.Rejection

/-!
# Which parts of the headers matter

Visible headers are a list of parts, and where one header ends and the next begins is of no
consequence. Of these parts only those that open are looked at, and of them only the last one. All
other parts may come and go: cookies of other names, and cookies of the session's name that do not
open.

Two things stand in the way of saying so of every request. A header that is not visible text is
passed over as a whole, so a part that makes it so takes all others of its header along. And a part
whose value is no text is passed over as well, so on its own it counts as no cookie at all.
-/

namespace SignIn

/-! ## Headers and their parts -/

namespace Cookie

/-- The parts of all headers, one behind the other. -/
def parts (headers : List Bytes) : List Bytes := headers.flatMap (·.splitOn semicolon)

def AllVisible (headers : List Bytes) : Prop := ∀ header ∈ headers, header.all isVisible = true

/-- A byte that a header may carry at all: no control character but the tab. -/
def isCarried (b : UInt8) : Bool := (0x20 ≤ b && b != 0x7F) || b == 0x09

/-- The header with one more part, behind the first `n` of its own. -/
def withPart (header : Bytes) (n : Nat) (part : Bytes) : Bytes :=
  [semicolon].intercalate
    ((header.splitOn semicolon).take n ++ part :: (header.splitOn semicolon).drop n)

theorem parts_append (hs ts : List Bytes) : parts (hs ++ ts) = parts hs ++ parts ts :=
  List.flatMap_append

theorem parts_cons (header : Bytes) (ts : List Bytes) :
    parts (header :: ts) = header.splitOn semicolon ++ parts ts := List.flatMap_cons

theorem ofHeaders_append (hs ts : List Bytes) :
    ofHeaders (hs ++ ts) = ofHeaders hs ++ ofHeaders ts :=
  List.flatMap_append

theorem ofHeaders_cons (header : Bytes) (ts : List Bytes) :
    ofHeaders (header :: ts) = ofHeader header ++ ofHeaders ts := List.flatMap_cons

/-- **Visible headers are read part by part.** -/
theorem ofHeaders_eq {headers : List Bytes} (h : AllVisible headers) :
    ofHeaders headers = (parts headers).filterMap ofPart? := by
  induction headers with
  | nil => rfl
  | cons header headers ih =>
    have hheader : header.all isVisible = true := h header List.mem_cons_self
    have hrest : AllVisible headers := fun t ht => h t (List.mem_cons_of_mem _ ht)
    rw [ofHeaders_cons, ofHeader, if_pos hheader, ih hrest, parts_cons, List.filterMap_append]

/-! ## Cutting and joining -/

/-- No part has a semicolon. -/
theorem semicolon_not_mem {header part : Bytes} (h : part ∈ header.splitOn semicolon) :
    semicolon ∉ part := by
  induction hn : header.length using Nat.strongRecOn generalizing header with
  | ind n ih =>
    subst hn
    by_cases hmem : semicolon ∈ header
    · obtain ⟨first, rest, rfl, hfirst⟩ := List.eq_append_cons_of_mem hmem
      rw [List.splitOn_append_cons_self_of_not_mem hfirst] at h
      rcases List.mem_cons.mp h with rfl | hrest
      · exact hfirst
      · exact ih rest.length (by simp; omega) hrest rfl
    · rw [List.splitOn_eq_singleton hmem, List.mem_singleton] at h
      rwa [h]

theorem splitOn_intercalate {pieces : List Bytes} (hne : pieces ≠ []) :
    ([semicolon].intercalate pieces).splitOn semicolon = parts pieces := by
  induction pieces with
  | nil => exact absurd rfl hne
  | cons piece pieces ih =>
    cases pieces with
    | nil => simp [parts]
    | cons next pieces =>
      have hrest := ih (List.cons_ne_nil next pieces)
      rw [List.intercalate_cons_cons, List.append_assoc, List.singleton_append,
        List.splitOn_append_cons_self, hrest, parts_cons piece]

theorem all_intercalate (pieces : List Bytes) :
    ([semicolon].intercalate pieces).all isVisible = pieces.all (·.all isVisible) := by
  have hsemicolon : isVisible semicolon = true := by decide
  induction pieces with
  | nil => rfl
  | cons piece pieces ih =>
    cases pieces with
    | nil => simp
    | cons next pieces =>
      rw [List.intercalate_cons_cons, List.all_append, List.all_append, ih, List.all_cons,
        List.all_cons, List.all_cons, hsemicolon]
      simp

theorem splitOn_withPart {part : Bytes} (h : semicolon ∉ part) (header : Bytes) (n : Nat) :
    (withPart header n part).splitOn semicolon
      = (header.splitOn semicolon).take n ++ part :: (header.splitOn semicolon).drop n := by
  refine List.splitOn_intercalate semicolon ?_ ?hne
  case hne => exact fun h => List.cons_ne_nil _ _ (List.append_eq_nil_iff.mp h).2
  intro piece hpiece
  rcases List.mem_append.mp hpiece with hfront | hback
  · exact semicolon_not_mem (List.mem_of_mem_take hfront)
  · rcases List.mem_cons.mp hback with rfl | hback
    · exact h
    · exact semicolon_not_mem (List.mem_of_mem_drop hback)

theorem all_withPart (header : Bytes) (n : Nat) (part : Bytes) :
    (withPart header n part).all isVisible = (header.all isVisible && part.all isVisible) := by
  have hheader : header.all isVisible = (header.splitOn semicolon).all (·.all isVisible) := by
    rw [← all_intercalate, List.intercalate_splitOn]
  have hsplit : (header.splitOn semicolon).all (·.all isVisible)
      = (((header.splitOn semicolon).take n).all (·.all isVisible)
        && ((header.splitOn semicolon).drop n).all (·.all isVisible)) := by
    rw [← List.all_append, List.take_append_drop]
  rw [withPart, all_intercalate, List.all_append, List.all_cons, hheader, hsplit]
  cases part.all isVisible <;> simp

end Cookie

namespace Session.Manager

open Cookie (parts AllVisible semicolon withPart)

/-- A part that has the name of the session's cookie, whether or not its value is text. -/
def isNamed (part : Bytes) : Bool := Cookie.decodedName? part == some cookieName

/-- A part that is a cookie for the session. -/
def isCandidate (part : Bytes) : Bool := (Cookie.ofPart? part).any (·.name == cookieName)

/-- What a part was sealed over, if it is a cookie for the session and opens. -/
def opened? (key : Gcm.Key) (part : Bytes) : Option Bytes :=
  ((Cookie.ofPart? part).filter (·.name == cookieName)).bind (Cookie.open? key)

/-- A part that has the name of the session's cookie and does not open. -/
def isIdle (key : Gcm.Key) (part : Bytes) : Bool := isNamed part && (opened? key part).isNone

/-- The headers have the same parts in the same order, but for those that satisfy `p`. -/
structure SameBut (p : Bytes → Bool) (headers headers' : List Bytes) : Prop where
  visible : AllVisible headers
  visible' : AllVisible headers'
  others : (parts headers).filter (!p ·) = (parts headers').filter (!p ·)

/-- The part opens to a text, and none of those behind it opens. -/
structure OpensLast (key : Gcm.Key) (part : Bytes) (text : Bytes)
    (behind : List Bytes) : Prop where
  opens : opened? key part = some text
  last : ∀ later ∈ behind, opened? key later = none

section Parts

variable {key : Gcm.Key} {m : Manager} {now : Moment} {headers headers' : List Bytes}

theorem candidates_eq_nil_iff (h : AllVisible headers) :
    candidates headers = [] ↔ ∀ part ∈ parts headers, isCandidate part = false := by
  rw [candidates, Cookie.ofHeaders_eq h, List.filter_eq_nil_iff]
  constructor
  · intro hnone part hpart
    rw [isCandidate, Option.any_eq_false]
    intro c hc
    exact Bool.eq_false_iff.mpr (hnone c (List.mem_filterMap.mpr ⟨part, hpart, hc⟩))
  · intro hnone c hc hname
    obtain ⟨part, hpart, hof⟩ := List.mem_filterMap.mp hc
    have hcandidate : isCandidate part = true := by
      rw [isCandidate, hof]
      exact hname
    rw [hnone part hpart] at hcandidate
    cases hcandidate

/-- **What is carried is what the last of the parts that open was sealed over.** -/
theorem carried?_eq (h : AllVisible headers) :
    carried? key headers = ((parts headers).filterMap (opened? key)).getLast? := by
  rw [carried?, lastOpened?, ← List.head?_filterMap, List.filterMap_reverse, List.head?_reverse,
    candidates, Cookie.ofHeaders_eq h, List.filter_filterMap, List.filterMap_filterMap]
  rfl

/-- Parts that do not open may come and go. -/
theorem carried?_of_sameBut {p : Bytes → Bool} (h : SameBut p headers headers')
    (hp : ∀ part, p part = true → opened? key part = none) :
    carried? key headers = carried? key headers' := by
  have hskip : ∀ l : List Bytes, l.filterMap (opened? key)
      = (l.filter (!p ·)).filterMap (opened? key) := by
    intro l
    rw [List.filterMap_filter]
    refine List.filterMap_congr fun part _ => ?_
    by_cases hpart : p part = true
    · rw [hp part hpart, hpart]
      rfl
    · rw [Bool.eq_false_iff.mpr hpart]
      rfl
  rw [carried?_eq h.visible, carried?_eq h.visible', hskip, h.others, ← hskip]

theorem OpensLast.carried {before behind : List Bytes} {part text : Bytes}
    (h : OpensLast key part text behind) (hvisible : AllVisible headers)
    (hparts : parts headers = before ++ part :: behind) : carried? key headers = some text := by
  have hbehind : behind.filterMap (opened? key) = [] :=
    List.filterMap_eq_nil_iff.mpr h.last
  rw [carried?_eq hvisible, hparts, List.filterMap_append,
    List.filterMap_cons_some h.opens, hbehind, List.getLast?_concat]

/-- Nothing else is read from the headers than what is carried, and whether there is any cookie. -/
theorem load_congr (hnone : candidates headers = [] ↔ candidates headers' = [])
    (hcarried : carried? m.key headers = carried? m.key headers') :
    m.load now headers = m.load now headers' := by
  have hread : m.read now headers = m.read now headers' := by
    unfold read
    have hempty : (candidates headers).isEmpty = (candidates headers').isEmpty := by
      rw [Bool.eq_iff_iff, List.isEmpty_iff, List.isEmpty_iff, hnone]
    unfold carried? at hcarried
    simp only [hempty, hcarried]
  rw [load, load, hread]

theorem load_of_carried_eq {text : Bytes} (h : carried? m.key headers = some text)
    (h' : carried? m.key headers' = some text) : m.load now headers = m.load now headers' := by
  have hne := List.isEmpty_eq_false_iff.mp (candidates_ne_nil h)
  have hne' := List.isEmpty_eq_false_iff.mp (candidates_ne_nil h')
  exact load_congr (iff_of_false hne hne') (h.trans h'.symm)

end Parts

/-! ## Parts of other names -/

section Unrelated

variable {m : Manager} {now : Moment} {hs ts : List Bytes} {header part : Bytes}

theorem candidates_append (hs ts : List Bytes) :
    candidates (hs ++ ts) = candidates hs ++ candidates ts := by
  rw [candidates, Cookie.ofHeaders_append, List.filter_append]
  rfl

theorem candidates_cons (header : Bytes) (ts : List Bytes) :
    candidates (header :: ts) = candidates [header] ++ candidates ts :=
  candidates_append [header] ts

/-- A header that is not visible text might as well not be there. -/
theorem candidates_of_not_visible (h : header.all Cookie.isVisible = false) :
    candidates [header] = [] := by
  have hvisible : ¬header.all Cookie.isVisible = true := Bool.eq_false_iff.mp h
  rw [candidates, Cookie.ofHeaders_cons, Cookie.ofHeader, if_neg hvisible]
  rfl

theorem candidates_of_visible (h : header.all Cookie.isVisible = true) :
    candidates [header]
      = ((header.splitOn semicolon).filterMap Cookie.ofPart?).filter (·.name == cookieName) := by
  rw [candidates, Cookie.ofHeaders_cons, Cookie.ofHeader, if_pos h]
  rw [show Cookie.ofHeaders [] = [] from rfl, List.append_nil]

theorem candidates_withPart (header : Bytes) (hsemicolon : semicolon ∉ part)
    (hname : Cookie.decodedName? part ≠ some cookieName) (hpart : part.all Cookie.isVisible = true)
    (n : Nat) : candidates [withPart header n part] = candidates [header] := by
  by_cases hheader : header.all Cookie.isVisible = true
  · have hwith : (withPart header n part).all Cookie.isVisible = true := by
      rw [Cookie.all_withPart, hheader, hpart]
      rfl
    have hnone : ([part].filterMap Cookie.ofPart?).filter (·.name == cookieName) = [] := by
      refine Cookie.filter_parts_eq_nil fun p hp => ?_
      rw [List.mem_singleton.mp hp]
      exact hname
    rw [candidates_of_visible hwith, candidates_of_visible hheader,
      Cookie.splitOn_withPart hsemicolon,
      ← List.singleton_append, List.filterMap_append, List.filterMap_append, List.filter_append,
      List.filter_append, hnone, List.nil_append, ← List.filter_append, ← List.filterMap_append,
      List.take_append_drop]
  · have hfalse := Bool.eq_false_iff.mpr hheader
    have hwith : (withPart header n part).all Cookie.isVisible = false := by
      rw [Cookie.all_withPart, hfalse]
      rfl
    rw [candidates_of_not_visible hwith, candidates_of_not_visible hfalse]

theorem load_of_candidates_eq {headers headers' : List Bytes}
    (h : candidates headers = candidates headers') : m.load now headers = m.load now headers' := by
  refine load_congr (by rw [h]) ?_
  rw [carried?, carried?, h]

theorem load_withPart_of_visible (hsemicolon : semicolon ∉ part)
    (hname : Cookie.decodedName? part ≠ some cookieName) (hpart : part.all Cookie.isVisible = true)
    (n : Nat) :
    m.load now (hs ++ withPart header n part :: ts) = m.load now (hs ++ header :: ts) := by
  have hwith := candidates_withPart header hsemicolon hname hpart n
  refine load_of_candidates_eq ?_
  rw [candidates_append, candidates_append, candidates_cons, candidates_cons header, hwith]

theorem load_withPart_of_not_visible (hpart : part.all Cookie.isVisible = false) (n : Nat) :
    m.load now (hs ++ withPart header n part :: ts) = m.load now (hs ++ ts) := by
  have hwith : (withPart header n part).all Cookie.isVisible = false := by
    rw [Cookie.all_withPart, hpart, Bool.and_false]
  refine load_of_candidates_eq ?_
  rw [candidates_append, candidates_append, candidates_cons, candidates_of_not_visible hwith,
    List.nil_append]

/-- **When a part of another name matters.** One more part whose name, decoded, is not that of the
session's cookie changes nothing of what is loaded, if it is visible text. If it is not, its header
is passed over as a whole: what is loaded then is what the other headers carry, and it is the same
exactly if the header did not matter anyway. -/
theorem load_withPart (m : Manager) (now : Moment) (hs ts : List Bytes)
    (header part : Bytes) (n : Nat)
    (hsemicolon : semicolon ∉ part) (hname : Cookie.decodedName? part ≠ some cookieName) :
    let before := m.load now (hs ++ header :: ts)
    let after := m.load now (hs ++ withPart header n part :: ts)
    (part.all Cookie.isVisible = true → after = before) ∧
    (part.all Cookie.isVisible = false → after = m.load now (hs ++ ts)) ∧
    (after = before ↔ part.all Cookie.isVisible = true ∨ m.load now (hs ++ ts) = before) := by
  intro before after
  have hvisible : part.all Cookie.isVisible = true → after = before :=
    fun h => load_withPart_of_visible hsemicolon hname h n
  have hdropped : part.all Cookie.isVisible = false → after = m.load now (hs ++ ts) :=
    fun h => load_withPart_of_not_visible h n
  refine ⟨hvisible, hdropped, ?_⟩
  by_cases hpart : part.all Cookie.isVisible = true
  · exact ⟨fun _ => .inl hpart, fun _ => hvisible hpart⟩
  · have hafter := hdropped (Bool.eq_false_iff.mpr hpart)
    rw [hafter]
    exact ⟨.inr, fun h => h.resolve_left hpart⟩

end Unrelated

/-- A name with an umlaut takes along the session that stands in the same header. -/
theorem load_withPart_umlaut :
    let m := Manager.ofSecrets Secrets.sample true
    let pair := (m.cookie (.replicate 12 0) ⟨⟨7, "Ann", true, .zero⟩, 0⟩).pair
    let part := Utf8.encode " city=Zürich"
    semicolon ∉ part ∧ Cookie.decodedName? part ≠ some cookieName ∧
      (m.load ⟨0, 0⟩ [pair]).1 = .ok (some ⟨7, "Ann", true, .zero⟩) ∧
      (m.load ⟨0, 0⟩ [withPart pair 1 part]).1 = .ok none := by
  intro m pair part
  have hsemicolon : semicolon ∉ part := by decide +kernel
  have hname : Cookie.decodedName? part ≠ some cookieName := by decide +kernel
  have hage : age? 0 (Moment.mk 0 0).second = some 0 := by decide +kernel
  have hloaded : (m.load ⟨0, 0⟩ [pair]).1 = .ok (some ⟨7, "Ann", true, .zero⟩) := by
    rw [load_cookie m m rfl (p := ⟨⟨7, "Ann", true, .zero⟩, 0⟩) hage (by decide)]
    rfl
  obtain ⟨-, hdropped, -⟩ := load_withPart m ⟨0, 0⟩ [] [] pair part 1 hsemicolon hname
  have hnothing : m.load ⟨0, 0⟩ [withPart pair 1 part] = m.load ⟨0, 0⟩ [] :=
    hdropped (by decide +kernel)
  exact ⟨hsemicolon, hname, hloaded, congrArg Prod.fst hnothing⟩

/-- A part of another name may hold what headers may carry and still end the session. -/
theorem not_unrelated_ignored : ¬∀ (m : Manager) (now : Moment) (hs ts : List Bytes)
    (header part : Bytes) (n : Nat), semicolon ∉ part → part.all Cookie.isCarried = true →
      Cookie.decodedName? part ≠ some cookieName →
      m.load now (hs ++ withPart header n part :: ts) = m.load now (hs ++ header :: ts) := by
  intro hignored
  let m := Manager.ofSecrets Secrets.sample true
  let pair := (m.cookie (.replicate 12 0) ⟨⟨7, "Ann", true, .zero⟩, 0⟩).pair
  let part := Utf8.encode " city=Zürich"
  have hsame : m.load ⟨0, 0⟩ [withPart pair 1 part] = m.load ⟨0, 0⟩ [pair] :=
    hignored m ⟨0, 0⟩ [] [] pair part 1 (by decide +kernel) (by decide +kernel) (by decide +kernel)
  have hnothing : m.load ⟨0, 0⟩ [withPart pair 1 part] = (.ok none, m) := by
    have hdropped : m.load ⟨0, 0⟩ ([] ++ withPart pair 1 part :: []) = m.load ⟨0, 0⟩ ([] ++ []) :=
      load_withPart_of_not_visible (by decide +kernel) 1
    exact hdropped
  have hage : age? 0 (Moment.mk 0 0).second = some 0 := by decide +kernel
  have hloaded : m.load ⟨0, 0⟩ [pair] = (.ok (some (m.downgrade ⟨0, 0⟩ _).1), _) :=
    load_cookie m m rfl (p := ⟨⟨7, "Ann", true, .zero⟩, 0⟩) hage (by decide)
  rw [hnothing, hloaded] at hsame
  cases congrArg Prod.fst hsame

/-! ## The last part that opens -/

section Last

variable {m : Manager} {now : Moment} {headers headers' : List Bytes}

theorem load_of_opensLast {before behind : List Bytes} {part text : Bytes}
    (h : OpensLast m.key part text behind) (hvisible : AllVisible headers)
    (hparts : parts headers = before ++ part :: behind) {e : Json.Error}
    (hparse : Payload.parse text = .error e) :
    (m.load now headers).1 = .error (.malformed e) := by
  have hverdict : accept now.second text = .error (.malformed e) := by
    rw [accept, hparse]
  rw [load_of_verdict (h.carried hvisible hparts), hverdict]

theorem exists_candidate_iff (h : AllVisible headers) :
    candidates headers ≠ [] ↔ ∃ part ∈ parts headers, isCandidate part = true := by
  rw [Ne, candidates_eq_nil_iff h]
  constructor
  · intro hsome
    by_contra hnone
    refine hsome fun part hpart => Bool.eq_false_iff.mpr fun hcandidate => ?_
    exact hnone ⟨part, hpart, hcandidate⟩
  · intro hsome hnone
    obtain ⟨part, hpart, hcandidate⟩ := hsome
    rw [hnone part hpart] at hcandidate
    cases hcandidate

theorem carried?_eq_none (h : AllVisible headers) :
    carried? m.key headers = none ↔ ∀ part ∈ parts headers, opened? m.key part = none := by
  rw [carried?_eq h, List.getLast?_eq_none_iff, List.filterMap_eq_nil_iff]

/-- Parts that have the name and do not open may come and go, as long as some part opens. -/
theorem load_of_sameBut (h : SameBut (isIdle m.key) headers headers')
    (hopens : ∃ part ∈ parts headers, (opened? m.key part).isSome) :
    m.load now headers = m.load now headers' := by
  have hidle : ∀ part, isIdle m.key part = true → opened? m.key part = none := by
    intro part hpart
    rw [isIdle, Bool.and_eq_true] at hpart
    exact Option.isNone_iff_eq_none.mp hpart.2
  have hsame := carried?_of_sameBut h hidle
  cases hcarried : carried? m.key headers with
  | none =>
    obtain ⟨part, hpart, hsome⟩ := hopens
    rw [(carried?_eq_none h.visible).mp hcarried part hpart] at hsome
    cases hsome
  | some text => exact load_of_carried_eq hcarried (hsame.symm.trans hcarried)

/-- Where a header is cut does not matter. -/
theorem load_intercalate {hs pieces ts : List Bytes} (hne : pieces ≠ [])
    (hvisible : AllVisible (hs ++ pieces ++ ts)) :
    m.load now (hs ++ [semicolon].intercalate pieces :: ts) = m.load now (hs ++ pieces ++ ts) := by
  have hjoined : ([semicolon].intercalate pieces).all Cookie.isVisible = true := by
    rw [Cookie.all_intercalate, List.all_eq_true]
    intro piece hpiece
    exact hvisible piece (List.mem_append_left ts (List.mem_append_right hs hpiece))
  have hvisible' : AllVisible (hs ++ [semicolon].intercalate pieces :: ts) := by
    intro header hmem
    rcases List.mem_append.mp hmem with h | h
    · exact hvisible header (List.mem_append_left ts (List.mem_append_left pieces h))
    · rcases List.mem_cons.mp h with rfl | h
      · exact hjoined
      · exact hvisible header (List.mem_append_right (hs ++ pieces) h)
  have hparts : parts (hs ++ [semicolon].intercalate pieces :: ts)
      = parts (hs ++ pieces ++ ts) := by
    rw [Cookie.parts_append, Cookie.parts_cons, Cookie.splitOn_intercalate hne,
      Cookie.parts_append, Cookie.parts_append, List.append_assoc]
  refine load_of_candidates_eq ?_
  rw [candidates, candidates, Cookie.ofHeaders_eq hvisible', Cookie.ofHeaders_eq hvisible, hparts]

/-- **The last cookie that opens decides alone.** Of visible headers it is only the parts that
matter, not how they are put together. If some part opens, those that have the name and do not open
may come and go anywhere, and before the last that opens anything may be changed; if that one opens
to what is no session, it is malformed. If none opens, there is nothing to decrypt, provided that
some part is a cookie for the session: a part that has the name and whose value is no text
is none. -/
theorem last_opened_decides (m : Manager) (now : Moment) :
    (∀ headers headers', SameBut (isIdle m.key) headers headers' →
      (∃ part ∈ parts headers, (opened? m.key part).isSome) →
      m.load now headers = m.load now headers') ∧
    (∀ headers headers' before before' part text behind, AllVisible headers → AllVisible headers' →
      parts headers = before ++ part :: behind → parts headers' = before' ++ part :: behind →
      OpensLast m.key part text behind → m.load now headers = m.load now headers') ∧
    (∀ hs pieces ts, pieces ≠ [] → AllVisible (hs ++ pieces ++ ts) →
      m.load now (hs ++ [semicolon].intercalate pieces :: ts) = m.load now (hs ++ pieces ++ ts)) ∧
    (∀ headers, AllVisible headers →
      ((m.load now headers).1 = .error .undecryptable ↔
        (∃ part ∈ parts headers, isCandidate part = true) ∧
          ∀ part ∈ parts headers, opened? m.key part = none) ∧
      ((∀ part ∈ parts headers, isCandidate part = false) → m.load now headers = (.ok none, m))) ∧
    (∀ headers before part text behind e, AllVisible headers →
      parts headers = before ++ part :: behind → OpensLast m.key part text behind →
      Payload.parse text = .error e → (m.load now headers).1 = .error (.malformed e)) := by
  refine ⟨fun headers headers' h hopens => load_of_sameBut h hopens, ?before,
    fun hs pieces ts hne hvisible => load_intercalate hne hvisible, ?none,
    fun headers before part text behind e hvisible hparts h hparse =>
      load_of_opensLast h hvisible hparts hparse⟩
  case before =>
    intro headers headers' before before' part text behind hvisible hvisible' hparts hparts' h
    exact load_of_carried_eq (h.carried hvisible hparts) (h.carried hvisible' hparts')
  case none =>
    intro headers hvisible
    constructor
    · rw [load_undecryptable_iff, exists_readable_iff, ← carried?_eq_none_iff,
        exists_candidate_iff hvisible, carried?_eq_none hvisible]
    · intro hnone
      have hnil := (candidates_eq_nil_iff hvisible).mpr hnone
      refine load_of_unreadable fun hread => ?_
      exact exists_readable_iff.mp hread hnil

end Last

/-- The pair of a cookie that was sealed over a text opens to it. -/
theorem opened?_pair (key : Gcm.Key) (nonce : Nonce) {text : Bytes} (h : Utf8.IsText text)
    (secure : Bool) (age : Nat) :
    opened? key
      (CookieChange.mk cookieName (Cookie.sealed key nonce cookieName text) secure age).pair
      = some text := by
  have hnil : ∀ b ∈ ([] : Bytes), Cookie.isBlank b = true := by simp
  have hpart := CookieChange.ofPart?_pair
    ⟨cookieName, Cookie.sealed key nonce cookieName text, secure, age⟩ cookieName_ne_nil
    text_cookieName (Cookie.isText_sealed key nonce cookieName text) hnil hnil
  rw [List.nil_append, List.append_nil] at hpart
  rw [opened?, hpart, Option.filter_some, if_pos (beq_self_eq_true cookieName), Option.bind_some,
    Cookie.open?_sealed key nonce cookieName h]

theorem splitOn_pair (c : CookieChange) : c.pair.splitOn semicolon = [c.pair] :=
  List.splitOn_eq_singleton fun h => (CookieChange.graphic_of_mem_pair h).2 rfl

theorem visible_pair (c : CookieChange) : c.pair.all Cookie.isVisible = true :=
  List.all_eq_true.mpr fun _ h => Cookie.visible_of_graphic (CookieChange.graphic_of_mem_pair h).1

/-- A session that is good on its own, before a cookie that opens to no session, before one that
does not open. -/
theorem last_opened_decides_malformed :
    let m := Manager.ofSecrets Secrets.sample true
    let good := (m.cookie (.replicate 12 0) ⟨⟨7, "Ann", true, .zero⟩, 0⟩).pair
    let text := Utf8.encode "\x7b\x7d"
    let bad := (CookieChange.mk cookieName (Cookie.sealed m.key (.replicate 12 1) cookieName text)
      true 900).pair
    let garbage := Utf8.encode "_id=garbage"
    AllVisible [good, bad, garbage] ∧ parts [good, bad, garbage] = [good] ++ bad :: [garbage] ∧
      OpensLast m.key bad text [garbage] ∧
      Payload.parse text = .error (.missingField "session") ∧
      (m.load ⟨0, 0⟩ [good, bad, garbage]).1 = .error (.malformed (.missingField "session")) := by
  intro m good text bad garbage
  have hvisible : AllVisible [good, bad, garbage] := by
    intro header hmem
    rcases List.mem_cons.mp hmem with rfl | hmem
    · exact visible_pair _
    · rcases List.mem_cons.mp hmem with rfl | hmem
      · exact visible_pair _
      · rw [List.mem_singleton.mp hmem]
        decide +kernel
  have hparts : parts [good, bad, garbage] = [good] ++ bad :: [garbage] := by
    have hgarbage : garbage.splitOn semicolon = [garbage] := by decide +kernel
    rw [Cookie.parts_cons, Cookie.parts_cons, Cookie.parts_cons, splitOn_pair,
      splitOn_pair, hgarbage]
    rfl
  have hopens : OpensLast m.key bad text [garbage] := by
    refine ⟨opened?_pair m.key (.replicate 12 1) (Utf8.isText_encode _) true 900, ?_⟩
    intro later hlater
    have hpart : Cookie.ofPart? garbage = some ⟨cookieName, Utf8.encode "garbage"⟩ := by
      decide +kernel
    have hdecode : Base64.decode .standard .canonical (Utf8.encode "garbage")
        = .error .invalidPadding := by rfl
    rw [List.mem_singleton.mp hlater, opened?, hpart, Option.filter_some,
      if_pos (beq_self_eq_true cookieName), Option.bind_some, Cookie.open?_of_decode hdecode]
  have hparse : Payload.parse text = .error (.missingField "session") := by rfl
  obtain ⟨-, -, -, -, hmalformed⟩ := last_opened_decides m ⟨0, 0⟩
  exact ⟨hvisible, hparts, hopens, hparse,
    hmalformed _ [good] bad text [garbage] _ hvisible hparts hopens hparse⟩

/-- A part that has the name and does not open is not always an error. -/
theorem not_named_undecryptable : ¬∀ (m : Manager) (now : Moment) (headers : List Bytes),
    AllVisible headers → (∃ part ∈ parts headers, isNamed part = true) →
      (∀ part ∈ parts headers, opened? m.key part = none) →
      (m.load now headers).1 = .error .undecryptable := by
  intro hrefused
  let m := Manager.ofSecrets Secrets.sample true
  let header := Utf8.encode "_id=%FF"
  have hparts : parts [header] = [header] := by decide +kernel
  have hpart : Cookie.ofPart? header = none := by decide +kernel
  have hnone : m.load ⟨0, 0⟩ [header] = (.ok none, m) := by
    have hcands : candidates [header] = [] := by decide +kernel
    refine load_of_unreadable fun hread => ?_
    exact exists_readable_iff.mp hread hcands
  have herror := hrefused m ⟨0, 0⟩ [header]
    (by
      intro h hmem
      rw [List.mem_singleton.mp hmem]
      decide +kernel)
    ⟨header, by rw [hparts]; exact List.mem_singleton_self _, by decide +kernel⟩
    (by
      intro part hmem
      rw [hparts, List.mem_singleton] at hmem
      rw [hmem, opened?, hpart]
      rfl)
  rw [hnone] at herror
  cases herror

end Session.Manager

end SignIn
