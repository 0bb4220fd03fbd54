import Mathlib.Data.List.Basic
import Mathlib.Data.List.TakeWhile
import SignIn.Proofs.ReplyText

/-!
# An address is read back from its text

The canonical text of an address is one of its many spellings, and reading it gives the address
back. A row of groups is read as far as it goes, which is to its end or to the two colons that
stand for zeros; none of its groups can be taken for the beginning of an address of version 4,
because no point follows. How long the zeros were is told by how many groups there are before and
after them.
-/

namespace SignIn.Address

open Json (digitBytes)

/-! ## Digits -/

/-- Zeros in front do not count. -/
theorem ofDigits_dropWhile (base : Nat) (ds : List Nat) :
    ofDigits base (ds.dropWhile (· == 0)) = ofDigits base ds := by
  induction ds with
  | nil => rfl
  | cons d ds ih =>
    by_cases hd : d = 0
    · subst hd
      rw [List.dropWhile_cons_of_pos rfl, ih, ofDigits, ofDigits, List.foldl_cons, Nat.zero_mul]
    · rw [List.dropWhile_cons_of_neg (by simpa using hd)]

/-! ## Version 4 -/

/-- **A number below 256 is read back.** -/
theorem octet?_printOctet (a : UInt8) {r : Bytes} (hr : ∀ b ∈ r.head?, decimal? b = none) :
    octet? (printOctet a ++ r) = some (a, r) := by
  have ha : a.toNat < 256 := a.toNat_lt
  have hlength : (digitValues a.toNat).length = (Nat.toDigits 10 a.toNat).length := by
    rw [digitValues, List.length_map]
  have hpos : 0 < (Nat.toDigits 10 a.toNat).length :=
    List.length_pos_iff.mpr Nat.toDigits_ne_nil
  have hthree : (Nat.toDigits 10 a.toNat).length ≤ 3 :=
    (Nat.length_toDigits_le_iff (by decide) (by decide)).mpr (by omega)
  -- Only zero begins with a zero, and it has no other digit.
  have hlead : ¬((digitValues a.toNat).head? = some 0 ∧ 1 < (digitValues a.toNat).length) := by
    rintro ⟨hzero, hlong⟩
    by_cases hnull : a.toNat = 0
    · rw [hlength, hnull] at hlong
      exact absurd hlong (by decide)
    · rw [digitValues, List.head?_map, Option.map_eq_some_iff] at hzero
      obtain ⟨c, hc, hvalue⟩ := hzero
      have hdigit := Json.isDigit_bounds (Json.isDigit_toDigits c (List.mem_of_head? hc))
      have hchar : c = '0' := by
        rw [← Char.ofNat_toNat c, show c.toNat = 0x30 by omega]
      exact Json.head_toDigits hnull (hchar ▸ hc)
  have hdigits : digits decimal? (printOctet a ++ r) = (digitValues a.toNat, r) :=
    digits_digitBytes a.toNat hr
  rw [octet?, hdigits]
  dsimp only
  rw [ofDigits_digitValues, if_neg, UInt8.ofNat_toNat]
  rintro (hnone | hmany | hzero | hlarge)
  · omega
  · omega
  · exact hlead hzero
  · omega

theorem decimal?_point (t : Bytes) : ∀ b ∈ (point :: t).head?, decimal? b = none := by
  intro b hb
  rw [List.head?_cons, Option.mem_some] at hb
  rw [← hb]
  decide

theorem octet?_next (a : UInt8) {r : Bytes} (hr : ∀ b ∈ r.head?, decimal? b = none) :
    (expect? point (point :: (printOctet a ++ r))).bind octet? = some (a, r) := by
  rw [expect?, if_pos rfl, Option.bind_some, octet?_printOctet a hr]

/-- **An address of version 4 is read back.** -/
theorem readV4?_printV4 (a b c d : UInt8) {r : Bytes} (hr : ∀ b ∈ r.head?, decimal? b = none) :
    readV4? (printV4 a b c d ++ r) = some ((a, b, c, d), r) := by
  have htext : printV4 a b c d ++ r = printOctet a ++ (point :: (printOctet b ++ (point ::
      (printOctet c ++ (point :: (printOctet d ++ r)))))) := by
    simp only [printV4, List.append_assoc, List.cons_append]
  simp only [htext, readV4?, octet?_printOctet a (decimal?_point _),
    octet?_next b (decimal?_point _),
    octet?_next c (decimal?_point _), octet?_next d hr, Option.bind_eq_bind, Option.bind_some,
    Option.pure_def]

/-- What has no point behind its first digits is no address of version 4. -/
theorem readV4?_of_no_point {s : Bytes}
    (h : (s.dropWhile fun b => (decimal? b).isSome).head? ≠ some point) : readV4? s = none := by
  have hexpect : ∀ t : Bytes, t.head? ≠ some point → expect? point t = none := by
    intro t ht
    cases t with
    | nil => rfl
    | cons b t => exact if_neg fun hb => ht (by rw [hb, List.head?_cons])
  cases hoctet : octet? s with
  | none =>
    rw [readV4?, hoctet]
    rfl
  | some read =>
    obtain ⟨a, t⟩ := read
    have ht : t = s.dropWhile fun b => (decimal? b).isSome := by
      rw [octet?, digits] at hoctet
      dsimp only at hoctet
      split at hoctet
      · cases hoctet
      · exact (Prod.mk.inj (Option.some.inj hoctet)).2.symm
    rw [readV4?, hoctet]
    simp only [Option.bind_eq_bind, Option.bind_some]
    rw [hexpect t (ht ▸ h)]
    rfl

/-! ## Groups -/

/-- What may follow a group: nothing, or a colon. -/
def Follows (r : Bytes) : Prop := ∀ b ∈ r.head?, b = colon

theorem follows_nil : Follows [] := by simp [Follows]

theorem follows_colon (t : Bytes) : Follows (colon :: t) := by simp [Follows]

theorem Follows.no_digit {r : Bytes} (h : Follows r) :
    ∀ b ∈ r.head?, decimal? b = none ∧ Hex.value? b = none ∧ b ≠ point := by
  intro b hb
  rw [h b hb]
  decide

theorem readV4?_of_follows {r : Bytes} (h : Follows r) : readV4? r = none := by
  cases r with
  | nil => rfl
  | cons b r =>
    obtain ⟨hb, -, hne⟩ := h.no_digit b rfl
    refine readV4?_of_no_point ?_
    rw [List.dropWhile_cons_of_neg (by simp [hb]), List.head?_cons]
    exact fun heq => hne (Option.some.inj heq)

/-- The digits of a group that are written. -/
def shownDigits (g : UInt16) : List Nat :=
  match (groupDigits g).dropWhile (· == 0) with
  | [] => [0]
  | ds => ds

theorem printGroup_eq (g : UInt16) : printGroup g = (shownDigits g).map Hex.digit := by
  rw [printGroup, shownDigits]
  cases (groupDigits g).dropWhile (· == 0) <;> rfl

theorem shownDigits_lt (g : UInt16) : ∀ d ∈ shownDigits g, d < 16 := by
  have hg : g.toNat < 65536 := g.toNat_lt
  have hall : ∀ d ∈ groupDigits g, d < 16 := by
    simp only [groupDigits, List.forall_mem_cons, List.not_mem_nil, false_imp_iff, implies_true,
      and_true]
    omega
  intro d hd
  rw [shownDigits] at hd
  split at hd
  · rw [List.mem_singleton.mp hd]
    decide
  · exact hall d ((List.dropWhile_suffix _).subset hd)

theorem length_shownDigits (g : UInt16) :
    0 < (shownDigits g).length ∧ (shownDigits g).length ≤ 4 := by
  have hle : ((groupDigits g).dropWhile (· == 0)).length ≤ 4 :=
    (List.dropWhile_suffix _).length_le
  rw [shownDigits]
  split
  · decide
  · rename_i hne
    exact ⟨List.length_pos_iff.mpr hne, hle⟩

theorem ofDigits_shownDigits (g : UInt16) : ofDigits 16 (shownDigits g) = g.toNat := by
  have hg : g.toNat < 65536 := g.toNat_lt
  have hall : ofDigits 16 (groupDigits g) = g.toNat := by
    simp only [ofDigits, groupDigits, List.foldl_cons, List.foldl_nil]
    omega
  rw [← hall, ← ofDigits_dropWhile 16 (groupDigits g), shownDigits]
  split
  · rename_i hnil
    rw [hnil]
    rfl
  · rfl

/-- **A group is read back.** -/
theorem group?_printGroup (g : UInt16) {r : Bytes} (hr : Follows r) :
    group? (printGroup g ++ r) = some (g, r) := by
  have hdigits : digits Hex.value? (printGroup g ++ r) = (shownDigits g, r) := by
    rw [printGroup_eq]
    have hvalue : ∀ d ∈ shownDigits g, Hex.value? (Hex.digit d) = some d :=
      fun d hd => Hex.value?_digit d (shownDigits_lt g d hd)
    have hsome : ∀ b ∈ (shownDigits g).map Hex.digit, (Hex.value? b).isSome = true := by
      rw [List.forall_mem_map]
      intro d hd
      rw [hvalue d hd]
      rfl
    have hback : (shownDigits g).filterMap (Hex.value? ∘ Hex.digit) = shownDigits g :=
      (List.filterMap_congr hvalue).trans List.filterMap_some
    rw [digits_append hsome fun b hb => (hr.no_digit b hb).2.1, List.filterMap_map, hback]
  obtain ⟨hpos, hfour⟩ := length_shownDigits g
  rw [group?, hdigits]
  dsimp only
  rw [ofDigits_shownDigits, UInt16.ofNat_toNat, if_neg (by omega)]

/-- A group does not begin an address of version 4. -/
theorem readV4?_group (g : UInt16) {r : Bytes} (hr : Follows r) :
    readV4? (printGroup g ++ r) = none := by
  have hdigit : ∀ n < 16, Hex.digit n ≠ point := by decide
  have hgroup : ∀ b ∈ printGroup g, b ≠ point := by
    intro b hb
    rw [printGroup_eq] at hb
    obtain ⟨d, hd, rfl⟩ := List.mem_map.mp hb
    exact hdigit d (shownDigits_lt g d hd)
  refine readV4?_of_no_point fun hpoint => ?_
  rw [List.dropWhile_append] at hpoint
  split at hpoint
  · -- All of the group is decimal digits, and what follows is no point.
    cases r with
    | nil => cases hpoint
    | cons b r =>
      obtain ⟨hb, -, hne⟩ := hr.no_digit b rfl
      rw [List.dropWhile_cons_of_neg (by simp [hb]), List.head?_cons, Option.some.injEq] at hpoint
      exact hne hpoint
  · rename_i hne
    obtain ⟨b, t, ht⟩ := List.exists_cons_of_ne_nil (mt List.isEmpty_iff.mpr hne)
    rw [ht, List.cons_append, List.head?_cons, Option.some.injEq] at hpoint
    have hmem : b ∈ (printGroup g).dropWhile fun b => (decimal? b).isSome := by
      rw [ht]
      exact List.mem_cons_self
    exact hgroup b ((List.dropWhile_suffix _).subset hmem) hpoint

/-! ## Rows of groups -/

/-- Groups with a colon before each of them. -/
def printTail (gs : List UInt16) : Bytes := gs.flatMap fun g => colon :: printGroup g

theorem printGroups_cons (g : UInt16) (gs : List UInt16) :
    printGroups (g :: gs) = printGroup g ++ printTail gs := by
  induction gs generalizing g with
  | nil => simp [printGroups, printTail]
  | cons h gs ih =>
    have hrest : printGroups (h :: gs) = printGroup h ++ printTail gs := ih h
    rw [printGroups] at hrest ⊢
    rw [List.map_cons, List.map_cons, List.intercalate_cons_cons, ← List.map_cons, hrest]
    simp [printTail]

/-- What may follow a row: nothing, or two colons. -/
def Ends (r : Bytes) : Prop := r = [] ∨ ∃ t, r = colon :: colon :: t

theorem Ends.follows {r : Bytes} (h : Ends r) : Follows r := by
  rcases h with rfl | ⟨t, rfl⟩
  · exact follows_nil
  · exact follows_colon _

theorem follows_printTail (gs : List UInt16) {r : Bytes} (hr : Ends r) :
    Follows (printTail gs ++ r) := by
  cases gs with
  | nil => exact hr.follows
  | cons g gs => exact follows_colon _

/-- A group is read, and then the rest of the row. -/
theorem row_group {isFirst : Bool} {room : Nat} {s t : Bytes} {g : UInt16} (ht : Follows t)
    (hs : separated? isFirst s = some (printGroup g ++ t)) :
    row isFirst (room + 1) s =
      { row false room t with groups := g :: (row false room t).groups } := by
  have hembedded : embedded? (printGroup g ++ t) = none := by
    rw [embedded?, readV4?_group g ht]
    rfl
  rw [row, hs]
  simp only [Option.bind_eq_bind, Option.bind_some, hembedded, ite_self, group?_printGroup g ht]

/-- A row ends where no group begins. -/
theorem row_end {isFirst : Bool} {room : Nat} {s : Bytes}
    (h : ∀ t, separated? isFirst s = some t → Follows t) : row isFirst room s
      = ⟨[], false, s⟩ := by
  cases room with
  | zero => rfl
  | succ room =>
    rw [row]
    cases hs : separated? isFirst s with
    | none => simp
    | some t =>
      have ht := h t hs
      have hgroup : group? t = none := by
        cases t with
        | nil => rfl
        | cons b t =>
          obtain rfl : b = colon := ht b rfl
          rfl
      simp [embedded?, readV4?_of_follows ht, hgroup]

theorem row_printTail (gs : List UInt16) {n : Nat} (hroom : gs.length ≤ n) {r : Bytes}
    (hr : Ends r) : row false n (printTail gs ++ r) = ⟨gs, false, r⟩ := by
  induction gs generalizing n with
  | nil =>
    refine row_end fun t ht => ?_
    rcases hr with rfl | ⟨u, rfl⟩
    · cases ht
    · obtain rfl : colon :: u = t := Option.some.inj ht
      exact follows_colon u
  | cons g gs ih =>
    obtain ⟨room, rfl⟩ : ∃ room, n = room + 1 := ⟨n - 1, by simp at hroom; omega⟩
    have hrest := ih (n := room) (by simpa using hroom)
    have hs : separated? false (printTail (g :: gs) ++ r)
        = some (printGroup g ++ (printTail gs ++ r)) := by
      simp [printTail, separated?, expect?]
    rw [row_group (follows_printTail gs hr) hs, hrest]

/-- **A row of groups is read back.** -/
theorem row_printGroups (gs : List UInt16) {n : Nat} (hroom : gs.length ≤ n) {r : Bytes}
    (hr : Ends r) : row true n (printGroups gs ++ r) = ⟨gs, false, r⟩ := by
  cases gs with
  | nil =>
    refine row_end fun t ht => ?_
    obtain rfl : r = t := Option.some.inj ht
    exact hr.follows
  | cons g gs =>
    obtain ⟨room, rfl⟩ : ∃ room, n = room + 1 := ⟨n - 1, by simp at hroom; omega⟩
    have hs : separated? true (printGroups (g :: gs) ++ r)
        = some (printGroup g ++ (printTail gs ++ r)) := by
      rw [printGroups_cons, List.append_assoc]
      rfl
    rw [row_group (follows_printTail gs hr) hs, row_printTail gs (by simpa using hroom) hr]

/-! ## Version 6 -/

theorem expect?_colons (t : Bytes) :
    (expect? colon (colon :: colon :: t)).bind (expect? colon) = some t := by
  rw [expect?, if_pos rfl, Option.bind_some, expect?, if_pos rfl]

theorem ofGroups?_toList (gs : Vector UInt16 8) : ofGroups? gs.toList = some (.v6 gs) := by
  rw [ofGroups?, dif_pos gs.length_toList]
  exact congrArg some (congrArg Address.v6 (Vector.toArray_inj.mp Array.toArray_toList))

theorem zerosAt_le (gs : List UInt16) (start : Nat) : zerosAt gs start ≤ gs.length - start := by
  rw [zerosAt, ← List.length_drop]
  exact (List.takeWhile_prefix _).length_le

/-- The zeros of a run are what is missing between the groups before and after it. -/
theorem filled_run {gs : List UInt16} (hgs : gs.length = 8) {start : Nat} (hstart : start ≤ 8) :
    filled (gs.take start) (gs.drop (start + zerosAt gs start)) = gs := by
  have hrun : (gs.drop start).takeWhile (· == 0) = List.replicate (zerosAt gs start) 0 := by
    refine List.eq_replicate_iff.mpr ⟨rfl, fun g hg => ?_⟩
    simpa using List.mem_takeWhile_imp hg
  have hle := zerosAt_le gs start
  have hback : (gs.drop start).drop (zerosAt gs start) = (gs.drop start).dropWhile (· == 0) := by
    have hsplit := List.takeWhile_append_dropWhile (p := (· == 0)) (l := gs.drop start)
    conv_lhs => rw [← hsplit]
    exact List.drop_left' rfl
  have hlength : 8 - (gs.take start).length - (gs.drop (start + zerosAt gs start)).length
      = zerosAt gs start := by
    rw [List.length_take, List.length_drop]
    omega
  rw [filled, hlength, ← hrun, ← List.drop_drop, hback, List.append_assoc,
    List.takeWhile_append_dropWhile, List.take_append_drop]

/-- Eight groups in a row are read back. -/
theorem readV6?_printGroups (gs : Vector UInt16 8) :
    readV6? (printGroups gs.toList) = some (.v6 gs, []) := by
  have hrow := row_printGroups gs.toList (n := 8) (Nat.le_of_eq gs.length_toList) (.inl rfl)
  rw [List.append_nil] at hrow
  rw [readV6?, hrow]
  dsimp only
  rw [if_pos gs.length_toList, ofGroups?_toList]
  rfl

/-- So are groups of which some are left out. -/
theorem readV6?_colons {front back : List UInt16} {gs : Vector UInt16 8} {s : Bytes} {v4 : Bool}
    (hfront : front.length < 8) (hback : row true (7 - front.length) s = ⟨back, v4, []⟩)
    (hgs : filled front back = gs.toList) :
    readV6? (printGroups front ++ colon :: colon :: s) = some (.v6 gs, []) := by
  have hrow := row_printGroups front (n := 8) (by omega) (.inr ⟨s, rfl⟩)
  rw [readV6?, hrow, if_neg (by dsimp only; omega), if_neg Bool.false_ne_true]
  simp only [Option.bind_eq_bind, expect?_colons, Option.bind_some, hback, hgs, ofGroups?_toList,
    Option.pure_def]

theorem readV6?_printShortened (gs : Vector UInt16 8) :
    readV6? (printShortened gs.toList) = some (.v6 gs, []) := by
  have hgs : gs.toList.length = 8 := gs.length_toList
  rw [printShortened]
  split
  · rename_i hrun
    generalize longestRun gs.toList = start at hrun
    have hle := zerosAt_le gs.toList start
    have hfront : (gs.toList.take start).length = start := by
      rw [List.length_take]
      omega
    have hrow := row_printGroups (gs.toList.drop (start + zerosAt gs.toList start))
      (n := 7 - start) (by rw [List.length_drop]; omega) (.inl rfl)
    rw [List.append_nil] at hrow
    rw [List.append_assoc]
    exact readV6?_colons (by omega) (by rw [hfront]; exact hrow) (filled_run hgs (by omega))
  · exact readV6?_printGroups gs

theorem joined_upper (x : UInt16) : joined (upper x) x.toUInt8 = x := by
  have hx : x.toNat < 65536 := x.toNat_lt
  apply UInt16.toNat_inj.mp
  simp [joined, upper, Nat.shiftRight_eq_div_pow]
  omega

/-- An address of version 4 ends a row. -/
theorem row_printV4 (a b c d : UInt8) (room : Nat) :
    row false (room + 2) (colon :: printV4 a b c d) = ⟨[joined a b, joined c d], true, []⟩ := by
  have hread := readV4?_printV4 a b c d (r := []) (by simp)
  rw [List.append_nil] at hread
  have hs : separated? false (colon :: printV4 a b c d) = some (printV4 a b c d) := rfl
  rw [row, if_pos (by omega), hs]
  simp only [Option.bind_eq_bind, Option.bind_some, embedded?, hread, Option.pure_def]

/-- An address of version 6 that stands for one of version 4 is read back. -/
theorem readV6?_mapped (gs : Vector UInt16 8) {x y : UInt16}
    (hgs : gs.toList = [0, 0, 0, 0, 0, 0xFFFF, x, y]) :
    readV6? (Utf8.encode "::ffff:" ++ printV4 (upper x) x.toUInt8 (upper y) y.toUInt8)
      = some (.v6 gs, []) := by
  have htext : Utf8.encode "::ffff:"
      = printGroups [] ++ colon :: colon :: (printGroup 0xFFFF ++ [colon]) := by
    decide +kernel
  have hback : row true 7
      (printGroup 0xFFFF ++ (colon :: printV4 (upper x) x.toUInt8 (upper y) y.toUInt8))
      = ⟨[0xFFFF, x, y], true, []⟩ := by
    rw [row_group (follows_colon _) rfl, row_printV4, joined_upper, joined_upper]
  rw [htext]
  simp only [List.append_assoc, List.cons_append, List.nil_append]
  exact readV6?_colons (by decide) hback (by rw [hgs]; rfl)

theorem readV6?_printV6 (gs : Vector UInt16 8) :
    readV6? (printV6 gs.toList) = some (.v6 gs, []) := by
  unfold printV6
  split
  · rename_i x y hgs
    exact readV6?_mapped gs hgs
  · exact readV6?_printShortened gs

/-- The text of version 6 begins with a row of groups. -/
theorem exists_printV6 (gs : List UInt16) :
    ∃ front r, Ends r ∧ printV6 gs = printGroups front ++ r := by
  have hshortened : ∃ front r, Ends r ∧ printShortened gs = printGroups front ++ r := by
    rw [printShortened]
    split
    · exact ⟨_, _, .inr ⟨_, rfl⟩, List.append_assoc _ _ _⟩
    · exact ⟨gs, [], .inl rfl, (List.append_nil _).symm⟩
  unfold printV6
  split
  · exact ⟨[], _, .inr ⟨_, rfl⟩, rfl⟩
  · exact hshortened

/-- No address of version 6 is taken for one of version 4. -/
theorem readV4?_printV6 (gs : List UInt16) : readV4? (printV6 gs) = none := by
  obtain ⟨front, r, hr, htext⟩ := exists_printV6 gs
  rw [htext]
  cases front with
  | nil => exact readV4?_of_follows hr.follows
  | cons g front =>
    rw [printGroups_cons, List.append_assoc]
    exact readV4?_group g (follows_printTail front hr)

/-- **An address is read back from its text.** -/
theorem parse?_print (a : Address) : parse? a.print = some a := by
  cases a with
  | v4 a b c d =>
    have hread := readV4?_printV4 a b c d (r := []) (by simp)
    rw [List.append_nil] at hread
    rw [parse?, print, read?, hread]
  | v6 gs => rw [parse?, print, read?, readV4?_printV6, readV6?_printV6]

/-! ## What the text consists of -/

theorem lt_of_isGraphic {b : UInt8} (h : Percent.isGraphic b = true) : b.toNat < 0x80 := by
  simp only [Percent.isGraphic, Bool.and_eq_true, decide_eq_true_eq, UInt8.le_iff_toNat_le] at h
  exact Nat.lt_of_le_of_lt h.2 (by decide)

theorem digit_graphic : ∀ n < 16, Percent.isGraphic (Hex.digit n) = true := by decide

theorem graphic_of_mem_printOctet {a b : UInt8} (h : b ∈ printOctet a) :
    Percent.isGraphic b = true := by
  have hdigit := Json.isDigit_digitBytes a.toNat b h
  simp only [Json.isDigit, Bool.and_eq_true, decide_eq_true_eq] at hdigit
  simp only [Percent.isGraphic, Bool.and_eq_true, decide_eq_true_eq]
  exact ⟨UInt8.le_trans (by decide) hdigit.1, UInt8.le_trans hdigit.2 (by decide)⟩

theorem graphic_of_mem_printV4 {a b c d x : UInt8} (h : x ∈ printV4 a b c d) :
    Percent.isGraphic x = true := by
  simp only [printV4, List.mem_append, List.mem_cons] at h
  rcases h with ((h | rfl | h) | rfl | h) | rfl | h
  all_goals first | exact graphic_of_mem_printOctet h | rfl

theorem graphic_of_mem_printGroup {g : UInt16} {x : UInt8} (h : x ∈ printGroup g) :
    Percent.isGraphic x = true := by
  rw [printGroup_eq] at h
  obtain ⟨d, hd, rfl⟩ := List.mem_map.mp h
  exact digit_graphic d (shownDigits_lt g d hd)

theorem graphic_of_mem_printGroups {gs : List UInt16} {x : UInt8} (h : x ∈ printGroups gs) :
    Percent.isGraphic x = true := by
  cases gs with
  | nil => cases h
  | cons g gs =>
    rw [printGroups_cons, printTail, List.mem_append, List.mem_flatMap] at h
    rcases h with h | ⟨k, -, h⟩
    · exact graphic_of_mem_printGroup h
    · rcases List.mem_cons.mp h with rfl | h
      · rfl
      · exact graphic_of_mem_printGroup h

/-- There is no blank in the text of an address. -/
theorem graphic_of_mem_print {a : Address} {x : UInt8} (h : x ∈ a.print) :
    Percent.isGraphic x = true := by
  have hshortened : ∀ gs, x ∈ printShortened gs → Percent.isGraphic x = true := by
    intro gs h
    rw [printShortened] at h
    split at h
    · rw [List.mem_append, List.mem_append] at h
      rcases h with (h | h) | h
      · exact graphic_of_mem_printGroups h
      · rcases List.mem_pair.mp h with rfl | rfl <;> rfl
      · exact graphic_of_mem_printGroups h
    · exact graphic_of_mem_printGroups h
  cases a with
  | v4 a b c d => exact graphic_of_mem_printV4 h
  | v6 gs =>
    rw [print] at h
    unfold printV6 at h
    split at h
    · rcases List.mem_append.mp h with h | h
      · have hmark : ∀ y ∈ Utf8.encode "::ffff:", Percent.isGraphic y = true := by decide +kernel
        exact hmark x h
      · exact graphic_of_mem_printV4 h
    · exact hshortened _ h

theorem print_ne_nil (a : Address) : a.print ≠ [] := by
  intro h
  have hread := parse?_print a
  rw [h] at hread
  cases hread

end SignIn.Address
