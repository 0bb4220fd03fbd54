import SignIn.Json.Skip
import SignIn.Proofs.JsonTree

/-!
# A value is skipped to its end

The automaton that passes over a value of no interest keeps a stack of the containers that are
open. Over the text of any tree it ends up behind it, with the stack that it began with, whatever
the strings in the tree hold and however deep it is. So a value cannot be left early, and nothing
inside it can be taken for a part of what is around it.
-/

namespace SignIn.Json

/-! ## One byte -/

/-- Goes on behind a value. -/
def pass (stack : List Frame) (r : Bytes) : Except Error Bytes :=
  match stack with
  | [] => .ok r
  | f :: outer => skipFrom .after (f :: outer) r

section Steps

variable {mode mode' : SkipMode} {stack stack' : List Frame} {b : UInt8}

theorem skipFrom_go (h : mode.step stack b = .go mode' stack') (r : Bytes) :
    skipFrom mode stack (b :: r) = skipFrom mode' stack' r := by
  rw [skipFrom, h]

theorem skipFrom_ended (h : mode.step stack b = ended stack') (r : Bytes) :
    skipFrom mode stack (b :: r) = pass stack' r := by
  rw [skipFrom, h]
  cases stack' <;> rfl

/-- Blanks are passed over where the automaton stays where it is. -/
theorem skipFrom_blanks {w : Bytes} (hw : IsBlanks w)
    (hstay : ∀ b, isBlank b = true → mode.step stack b = .go mode stack) (r : Bytes) :
    skipFrom mode stack (w ++ r) = skipFrom mode stack r := by
  induction w with
  | nil => rfl
  | cons b w ih =>
    have hb : isBlank b = true := hw b List.mem_cons_self
    have hrest : IsBlanks w := fun c hc => hw c (List.mem_cons_of_mem _ hc)
    rw [List.cons_append, skipFrom_go (hstay b hb), ih hrest]

end Steps

/-- Before a value blanks are passed over. -/
theorem value_stays (stack : List Frame) (b : UInt8) (hb : isBlank b = true) :
    SkipMode.value.step stack b = .go .value stack := if_pos hb

theorem first_stays (stack : List Frame) (b : UInt8) (hb : isBlank b = true) :
    SkipMode.first.step stack b = .go .first stack := if_pos hb

theorem key_stays (stack : List Frame) (b : UInt8) (hb : isBlank b = true) :
    SkipMode.key.step stack b = .go .key stack := if_pos hb

theorem colon_stays (stack : List Frame) (b : UInt8) (hb : isBlank b = true) :
    SkipMode.colon.step stack b = .go .colon stack := if_pos hb

theorem after_stays (f : Frame) (outer : List Frame) (b : UInt8) (hb : isBlank b = true) :
    SkipMode.after.step (f :: outer) b = .go .after (f :: outer) := by
  cases f <;> exact if_pos hb

/-! ## Words and strings -/

theorem skipFrom_word {c : UInt8} {w : Bytes} (stack : List Frame) (r : Bytes) :
    skipFrom (.word (c :: w)) stack (c :: w ++ r) = pass stack r := by
  induction w generalizing c with
  | nil =>
    have hlast : (SkipMode.word [c]).step stack c = ended stack := by
      rw [SkipMode.step, if_neg (not_not_intro rfl)]
      rfl
    exact skipFrom_ended hlast r
  | cons d w ih =>
    have hstep : (SkipMode.word (c :: d :: w)).step stack c = .go (.word (d :: w)) stack := by
      rw [SkipMode.step, if_neg (not_not_intro rfl)]
      rfl
    rw [List.cons_append, skipFrom_go hstep, ih]

section Strings

variable {isKey : Bool} {stack : List Frame}

theorem skipFrom_plain {s : Bytes} (h : ∀ b ∈ s, IsPlain b) (r : Bytes) :
    skipFrom (.string isKey) stack (s ++ r) = skipFrom (.string isKey) stack r := by
  induction s with
  | nil => rfl
  | cons b s ih =>
    obtain ⟨hquote, hslash, hcontrol⟩ := h b List.mem_cons_self
    have hstep : (SkipMode.string isKey).step stack b = .go (.string isKey) stack := by
      rw [SkipMode.step, if_neg hquote, if_neg hslash, if_neg hcontrol]
    rw [List.cons_append, skipFrom_go hstep, ih fun c hc => h c (List.mem_cons_of_mem _ hc)]

/-- Four digits behind a `u` are passed over, whatever their value is. -/
theorem skipFrom_unit {n : Nat} {t : Bytes} (h : SpellsUnit n t) (r : Bytes) :
    skipFrom (.unit isKey 3 true) stack (t ++ r) = skipFrom (.string isKey) stack r := by
  obtain ⟨ha, hb, hc, hd⟩ := h
  have hstep : ∀ {d : UInt8} {i : Nat} (left : Nat), Hex.value? d = some i →
      (SkipMode.unit isKey (left + 1) true).step stack d = .go (.unit isKey left true) stack := by
    intro d i left hd
    rw [SkipMode.step, hd]
    rfl
  have hlast : ∀ {d : UInt8} {i : Nat}, Hex.value? d = some i →
      (SkipMode.unit isKey 0 true).step stack d = .go (.string isKey) stack := by
    intro d i hd
    rw [SkipMode.step, hd]
    rfl
  rw [List.cons_append, skipFrom_go (hstep 2 ha), List.cons_append, skipFrom_go (hstep 1 hb),
    List.cons_append, skipFrom_go (hstep 0 hc), List.cons_append, skipFrom_go (hlast hd),
    List.nil_append]

/-- `\u` and four digits. -/
theorem skipFrom_escape {n : Nat} {t : Bytes} (h : SpellsUnit n t) (r : Bytes) :
    skipFrom (.string isKey) stack (0x5C :: 0x75 :: t ++ r)
      = skipFrom (.string isKey) stack r := by
  have hslash : (SkipMode.string isKey).step stack 0x5C = .go (.escape isKey) stack := rfl
  have hmark : (SkipMode.escape isKey).step stack 0x75 = .go (.unit isKey 3 true) stack := rfl
  rw [List.cons_append, skipFrom_go hslash, List.cons_append, skipFrom_go hmark, skipFrom_unit h]

theorem skipFrom_char {c : Char} {t : Bytes} (h : SpellsChar c t) (r : Bytes) :
    skipFrom (.string isKey) stack (t ++ r) = skipFrom (.string isKey) stack r := by
  cases h with
  | plain quote slash high =>
    exact skipFrom_plain (isPlain_encodeChar quote slash (Nat.not_lt.mpr high)) r
  | @short b stands =>
    obtain ⟨-, hmark, -, hescaped⟩ := escaped?_of_mem stands
    have hslash : (SkipMode.string isKey).step stack 0x5C = .go (.escape isKey) stack := rfl
    have hletter : (SkipMode.escape isKey).step stack b = .go (.string isKey) stack := by
      rw [SkipMode.step, if_neg hmark, hescaped]
      rfl
    rw [List.cons_append, skipFrom_go hslash, List.cons_append, skipFrom_go hletter,
      List.nil_append]
  | unit digits => exact skipFrom_escape digits r
  | pair leading trailing code first second =>
    rw [List.append_assoc, skipFrom_escape first, skipFrom_escape second]

theorem skipFrom_chars {cs : List Char} {u : Bytes} (h : Each SpellsChar cs u) (r : Bytes) :
    skipFrom (.string isKey) stack (u ++ r) = skipFrom (.string isKey) stack r := by
  induction h with
  | nil => rfl
  | cons head tail ih => rw [List.append_assoc, skipFrom_char head, ih]

end Strings

/-- A string that is no key is passed over up to its closing quote. -/
theorem skipFrom_string {s : String} {t : Bytes} (h : SpellsString s t) (stack : List Frame)
    (r : Bytes) : skipFrom .value stack (t ++ r) = pass stack r := by
  obtain ⟨u, hu, rfl⟩ := h
  have hquote : SkipMode.value.step stack 0x22 = .go (.string false) stack := rfl
  have hclose : (SkipMode.string false).step stack 0x22 = ended stack := rfl
  rw [List.cons_append, List.cons_append, List.append_assoc, skipFrom_go hquote, skipFrom_chars hu,
    List.singleton_append, skipFrom_ended hclose]

/-- A key likewise, and a colon is expected behind it. -/
theorem skipFrom_keyString {s : String} {t : Bytes} (h : SpellsString s t) (stack : List Frame)
    (r : Bytes) : skipFrom .key stack (t ++ r) = skipFrom .colon stack r := by
  obtain ⟨u, hu, rfl⟩ := h
  have hquote : SkipMode.key.step stack 0x22 = .go (.string true) stack := rfl
  have hclose : (SkipMode.string true).step stack 0x22 = .go .colon stack := rfl
  rw [List.cons_append, List.cons_append, List.append_assoc, skipFrom_go hquote, skipFrom_chars hu,
    List.singleton_append, skipFrom_go hclose]

/-! ## Numbers -/

section Numbers

variable {stack : List Frame} {t r : Bytes}

/-- A mode in which a number may have ended. -/
inductive SkipMode.Ending : SkipMode → Prop
  | zero : Ending .zero
  | whole : Ending .whole
  | fraction : Ending .fraction
  | exponent : Ending .exponent

/-- What cannot extend a number ends it. -/
theorem skipFrom_ending {mode : SkipMode} (h : mode.Ending) (hr : Stops r) :
    skipFrom mode stack r = pass stack r := by
  cases r with
  | nil =>
    have hfinish : mode.finish stack = endAfter stack := by cases h <;> rfl
    rw [skipFrom, hfinish]
    cases stack with
    | nil => rfl
    | cons f outer => cases f <;> rfl
  | cons b r =>
    obtain ⟨hdigit, hpoint, hlower, hupper⟩ := hr.head b rfl
    have hmark : ¬(b = 0x65 ∨ b = 0x45) := by
      intro hb
      rcases hb with hb | hb
      · exact hlower hb
      · exact hupper hb
    have hnodigit : ¬isDigit b = true := Bool.eq_false_iff.mp hdigit
    have hnomark : exponentStep stack b = afterStep stack b := if_neg hmark
    have hstep : mode.step stack b = afterStep stack b := by
      cases h with
      | zero => rw [SkipMode.step, if_neg hnodigit, pointStep, if_neg hpoint, hnomark]
      | whole => rw [SkipMode.step, if_neg hnodigit, pointStep, if_neg hpoint, hnomark]
      | fraction => rw [SkipMode.step, if_neg hnodigit, hnomark]
      | exponent => rw [SkipMode.step, if_neg hnodigit]
    rw [skipFrom, hstep]
    cases stack with
    | nil => rfl
    | cons f outer => rfl

/-- Digits are passed over where the automaton stays where it is. -/
theorem skipFrom_digits {mode : SkipMode} {ds : Bytes} (hds : ∀ b ∈ ds, isDigit b = true)
    (hstay : ∀ b, isDigit b = true → mode.step stack b = .go mode stack) (r : Bytes) :
    skipFrom mode stack (ds ++ r) = skipFrom mode stack r := by
  induction ds with
  | nil => rfl
  | cons b ds ih =>
    rw [List.cons_append, skipFrom_go (hstay b (hds b List.mem_cons_self)),
      ih fun c hc => hds c (List.mem_cons_of_mem _ hc)]

/-- Digits behind a mode that asks for one. -/
theorem skipFrom_someDigits {mode mode' : SkipMode} {ds : Bytes} (hds : IsDigits ds)
    (henter : ∀ b, isDigit b = true → mode.step stack b = .go mode' stack)
    (hstay : ∀ b, isDigit b = true → mode'.step stack b = .go mode' stack) (r : Bytes) :
    skipFrom mode stack (ds ++ r) = skipFrom mode' stack r := by
  obtain ⟨b, ds, rfl⟩ := List.exists_cons_of_ne_nil hds.1
  have hb := hds.2 b List.mem_cons_self
  rw [List.cons_append, skipFrom_go (henter b hb),
    skipFrom_digits (fun c hc => hds.2 c (List.mem_cons_of_mem _ hc)) hstay]

theorem skipFrom_exponent {x : Option (Bool × Bytes)} (h : SpellsExponent x t) {mode : SkipMode}
    (hending : mode.Ending)
    (hmark : ∀ b, b = 0x65 ∨ b = 0x45 → mode.step stack b = .go .mark stack) (hr : Stops r) :
    skipFrom mode stack (t ++ r) = pass stack r := by
  cases h with
  | absent => exact skipFrom_ending hending hr
  | @present e negative sign ds mark hsign digits =>
    have hdigits : skipFrom .exponent stack r = pass stack r := skipFrom_ending .exponent hr
    have hstay : ∀ b, isDigit b = true → SkipMode.exponent.step stack b = .go .exponent stack :=
      fun b hb => if_pos hb
    have henter : ∀ b, isDigit b = true → SkipMode.mark.step stack b = .go .exponent stack := by
      intro b hb
      have hnosign : ¬(b = 0x2B ∨ b = 0x2D) := by
        intro h
        rcases h with rfl | rfl <;> exact absurd hb (by decide)
      rw [SkipMode.step, if_neg hnosign, if_pos hb]
    have henter' : ∀ b, isDigit b = true → SkipMode.sign.step stack b = .go .exponent stack :=
      fun b hb => if_pos hb
    have hsigned : ∀ b, b = 0x2B ∨ b = 0x2D → SkipMode.mark.step stack b = .go .sign stack :=
      fun b hb => if_pos hb
    rw [List.cons_append, List.append_assoc, skipFrom_go (hmark e mark)]
    rcases hsign with rfl | ⟨rfl, -⟩
    · cases negative with
      | false => exact (skipFrom_someDigits digits henter hstay r).trans hdigits
      | true =>
        show skipFrom .mark stack (0x2D :: (ds ++ r)) = _
        rw [skipFrom_go (hsigned 0x2D (.inr rfl)),
          skipFrom_someDigits digits henter' hstay, hdigits]
    · show skipFrom .mark stack (0x2B :: (ds ++ r)) = _
      rw [skipFrom_go (hsigned 0x2B (.inl rfl)), skipFrom_someDigits digits henter' hstay, hdigits]

/-- What may follow the digits before the point. -/
theorem skipFrom_fraction {f : Option Bytes} {x : Option (Bool × Bytes)} {u : Bytes}
    (hfraction : SpellsFraction f t) (hexponent : SpellsExponent x u) {mode : SkipMode}
    (hending : mode.Ending) (hpoint : mode.step stack 0x2E = .go .point stack)
    (hmark : ∀ b, b = 0x65 ∨ b = 0x45 → mode.step stack b = .go .mark stack) (hr : Stops r) :
    skipFrom mode stack (t ++ (u ++ r)) = pass stack r := by
  cases hfraction with
  | absent => exact skipFrom_exponent hexponent hending hmark hr
  | @present ds digits =>
    have hmark' : ∀ b, b = 0x65 ∨ b = 0x45 → SkipMode.fraction.step stack b = .go .mark stack := by
      intro b hb
      have hnodigit : ¬isDigit b = true := by
        rcases hb with rfl | rfl <;> decide
      rw [SkipMode.step, if_neg hnodigit, exponentStep, if_pos hb]
    have henter : ∀ b, isDigit b = true → SkipMode.point.step stack b = .go .fraction stack :=
      fun b hb => if_pos hb
    have hstay : ∀ b, isDigit b = true → SkipMode.fraction.step stack b = .go .fraction stack :=
      fun b hb => if_pos hb
    rw [List.cons_append, skipFrom_go hpoint, skipFrom_someDigits digits henter hstay]
    exact skipFrom_exponent hexponent .fraction hmark' hr

/-- The digits before the point lead to a mode in which the number may have ended. -/
theorem skipFrom_whole {ds : Bytes} (h : IsWhole ds) {mode : SkipMode}
    (hzero : mode.step stack 0x30 = .go .zero stack)
    (hdigit : ∀ b, isDigit b = true → b ≠ 0x30 → mode.step stack b = .go .whole stack) :
    ∃ mode', (mode' = .zero ∨ mode' = .whole) ∧
      ∀ r, skipFrom mode stack (ds ++ r) = skipFrom mode' stack r := by
  obtain ⟨⟨hne, hall⟩, hlone⟩ := h
  obtain ⟨b, ds, rfl⟩ := List.exists_cons_of_ne_nil hne
  by_cases hb : b = 0x30
  · obtain ⟨-, rfl⟩ := List.cons.inj (hlone (by rw [hb]; rfl))
    refine ⟨.zero, .inl rfl, fun r => ?_⟩
    rw [hb]
    exact skipFrom_go hzero r
  · have hstay : ∀ c, isDigit c = true → SkipMode.whole.step stack c = .go .whole stack :=
      fun c hc => if_pos hc
    refine ⟨.whole, .inr rfl, fun r => ?_⟩
    rw [List.cons_append, skipFrom_go (hdigit b (hall b List.mem_cons_self) hb),
      skipFrom_digits (fun c hc => hall c (List.mem_cons_of_mem _ hc)) hstay]

/-- A digit other than zero begins a number. -/
theorem valueStep_digit {b : UInt8} (hdigit : isDigit b = true) (hb : b ≠ 0x30) :
    valueStep stack b = .go .whole stack := by
  have hother : ∀ c : UInt8, isDigit c = false → b ≠ c := by
    intro c hc he
    rw [he, hc] at hdigit
    exact Bool.false_ne_true hdigit
  have hblank : ¬isBlank b = true := Bool.eq_false_iff.mp (isBlank_of_isDigit hdigit)
  rw [valueStep, if_neg hblank, if_neg (hother _ (by decide)), if_neg (hother _ (by decide)),
    if_neg (hother _ (by decide)), if_neg (hother _ (by decide)), if_neg (hother _ (by decide)),
    if_neg (hother _ (by decide)), if_neg (hother _ (by decide)), if_neg hb, if_pos hdigit]

/-- **A number is passed over whole**, however large it is. -/
theorem skipFrom_number {x : Numeral} (h : SpellsNumeral x t) (hr : Stops r) :
    skipFrom .value stack (t ++ r) = pass stack r := by
  obtain ⟨negative, ds, fraction, exponent⟩ := x
  obtain ⟨hwhole, hfraction, hexponent⟩ := h
  have hrest : ∀ mode, mode = .zero ∨ mode = .whole → ∀ {f e}, SpellsFraction fraction f →
      SpellsExponent exponent e → skipFrom mode stack (f ++ (e ++ r)) = pass stack r := by
    intro mode hmode f e hf he
    rcases hmode with rfl | rfl
    · refine skipFrom_fraction hf he .zero rfl (fun b hb => ?_) hr
      rcases hb with rfl | rfl <;> rfl
    · refine skipFrom_fraction hf he .whole rfl (fun b hb => ?_) hr
      rcases hb with rfl | rfl <;> rfl
  cases negative with
  | true =>
    have hminus : SkipMode.value.step stack 0x2D = .go .minus stack := rfl
    have hdigit : ∀ b, isDigit b = true → b ≠ 0x30 →
        SkipMode.minus.step stack b = .go .whole stack := by
      intro b hb hne
      rw [SkipMode.step, if_neg hne, if_pos hb]
    obtain ⟨mode, hmode, hskip⟩ := skipFrom_whole hwhole (rfl : SkipMode.minus.step stack 0x30 = _)
      hdigit
    show skipFrom .value stack (0x2D :: (ds ++ _) ++ r) = _
    rw [List.cons_append, skipFrom_go hminus, List.append_assoc, hskip, List.append_assoc,
      hrest mode hmode hfraction hexponent]
  | false =>
    obtain ⟨mode, hmode, hskip⟩ := skipFrom_whole hwhole (rfl : SkipMode.value.step stack 0x30 = _)
      fun b hb hne => valueStep_digit hb hne
    show skipFrom .value stack (ds ++ _ ++ r) = _
    rw [List.append_assoc, hskip, List.append_assoc, hrest mode hmode hfraction hexponent]

end Numbers

theorem skipFrom_leaf {v : Tree} {t r : Bytes} (h : Leaf v t) (hr : Stops r) (stack : List Frame) :
    skipFrom .value stack (t ++ r) = pass stack r := by
  cases h with
  | null =>
    have hfirst : SkipMode.value.step stack 0x6E = .go (.word [0x75, 0x6C, 0x6C]) stack := rfl
    exact (skipFrom_go hfirst _).trans (skipFrom_word stack r)
  | bool b =>
    cases b with
    | false =>
      have hfirst : SkipMode.value.step stack 0x66
        = .go (.word [0x61, 0x6C, 0x73, 0x65]) stack := rfl
      exact (skipFrom_go hfirst _).trans (skipFrom_word stack r)
    | true =>
      have hfirst : SkipMode.value.step stack 0x74 = .go (.word [0x72, 0x75, 0x65]) stack := rfl
      exact (skipFrom_go hfirst _).trans (skipFrom_word stack r)
  | number numeral => exact skipFrom_number numeral hr
  | string quoted => exact skipFrom_string quoted stack r

/-! ## Containers -/

namespace Frame

def opening : Frame → UInt8
  | list => 0x5B
  | object => 0x7B

def closing : Frame → UInt8
  | list => 0x5D
  | object => 0x7D

/-- What comes behind a comma. -/
def next : Frame → SkipMode
  | list => .value
  | object => .key

variable (f : Frame) (outer : List Frame)

theorem closing_bracket : f.closing = 0x5D ∨ f.closing = 0x7D := by
  cases f
  · exact .inl rfl
  · exact .inr rfl

theorem value_opening : SkipMode.value.step outer f.opening = .go .first (f :: outer) := by
  cases f <;> rfl

theorem first_closing : SkipMode.first.step (f :: outer) f.closing = ended outer := by
  cases f <;> rfl

theorem after_closing : SkipMode.after.step (f :: outer) f.closing = ended outer := by
  cases f <;> rfl

theorem after_comma : SkipMode.after.step (f :: outer) 0x2C = .go f.next (f :: outer) := by
  cases f <;> rfl

theorem next_stays (b : UInt8) (hb : isBlank b = true) :
    f.next.step (f :: outer) b = .go f.next (f :: outer) := by
  cases f
  · exact value_stays (.list :: outer) b hb
  · exact key_stays (.object :: outer) b hb

/-- Behind the opening bracket an item may begin as it may behind a comma. -/
theorem first_enters {b : UInt8} (hblank : isBlank b = false) (hclosing : b ≠ f.closing) :
    SkipMode.first.step (f :: outer) b = f.next.step (f :: outer) b := by
  have hblank' : ¬isBlank b = true := Bool.eq_false_iff.mp hblank
  cases f <;> rw [SkipMode.step, firstStep, if_neg hblank'] <;> exact if_neg hclosing

end Frame

section Containers

variable {α : Type} {R : α → Bytes → Prop} {f : Frame} {stack : List Frame} {as : List α}
  {t r : Bytes}

/-- Whatever `R` spells is passed over inside the container `f`, and is neither blank nor the end
of it at its beginning. -/
structure Frame.Passes (f : Frame) (R : α → Bytes → Prop) : Prop where
  item : ∀ {a t r} outer, R a t → Stops r →
    skipFrom f.next (f :: outer) (t ++ r) = skipFrom .after (f :: outer) r
  begins : ∀ {a t}, R a t → ∃ b u, t = b :: u ∧ isBlank b = false ∧ b ≠ f.closing

theorem skipFrom_rest (hf : f.Passes R) (h : Rest R as t) (r : Bytes) :
    skipFrom .after (f :: stack) (t ++ f.closing :: r) = pass stack r := by
  induction as generalizing t with
  | nil =>
    cases h with
    | close blanks =>
      rw [skipFrom_blanks blanks (after_stays f stack), skipFrom_ended (f.after_closing stack)]
    | more blanks items =>
      obtain ⟨a, bs, -, -, -, hnil, -⟩ := items.exists_rest
      cases hnil
  | cons a as ih =>
    cases h with
    | more blanks items =>
      obtain ⟨b, bs, w, u, v, hcons, rfl, hw, hb, hrest⟩ := items.exists_rest
      obtain ⟨rfl, rfl⟩ := List.cons.inj hcons
      have hstops : Stops (v ++ f.closing :: r) := hrest.stops f.closing_bracket r
      rw [List.append_assoc, skipFrom_blanks blanks (after_stays f stack), List.cons_append,
        skipFrom_go (f.after_comma stack), List.append_assoc,
          skipFrom_blanks hw (f.next_stays stack),
        List.append_assoc, hf.item stack hb hstops, ih hrest]

/-- **A container is passed over to its own closing bracket.** -/
theorem skipFrom_enclosed (hf : f.Passes R) (h : Enclosed R f.opening f.closing as t) (r : Bytes) :
    skipFrom .value stack (t ++ r) = pass stack r := by
  cases h with
  | @empty w blanks =>
    rw [List.cons_append, List.cons_append, skipFrom_go (f.value_opening stack), List.append_assoc,
      skipFrom_blanks blanks (first_stays _), List.singleton_append,
      skipFrom_ended (f.first_closing stack)]
  | items items =>
    obtain ⟨a, bs, w, u, v, rfl, rfl, hw, ha, hrest⟩ := items.exists_rest
    obtain ⟨b, u', rfl, hblank, hclosing⟩ := hf.begins ha
    have hstops : Stops (v ++ f.closing :: r) := hrest.stops f.closing_bracket r
    -- The first item is entered from behind the bracket, where the container could also have
    -- ended.
    have henter : skipFrom .first (f :: stack) (b :: u' ++ (v ++ f.closing :: r))
        = skipFrom f.next (f :: stack) (b :: u' ++ (v ++ f.closing :: r)) := by
      rw [List.cons_append, skipFrom, f.first_enters stack hblank hclosing, ← skipFrom]
    have htext : f.opening :: (w ++ (b :: u' ++ v)) ++ [f.closing] ++ r
        = f.opening :: (w ++ (b :: u' ++ (v ++ f.closing :: r))) := by simp
    rw [htext, skipFrom_go (f.value_opening stack), skipFrom_blanks hw (first_stays _), henter,
      hf.item stack ha hstops, skipFrom_rest hf hrest]

end Containers

/-! ## Trees -/

theorem skipFrom_entry {R : Tree → Bytes → Prop} {m : String × Tree} {t r : Bytes}
    {stack : List Frame}
    (hvalue : ∀ {v t}, R v t → skipFrom .value stack (t ++ r) = pass stack r) (h : Entry R m t) :
    skipFrom .key stack (t ++ r) = pass stack r := by
  obtain ⟨q, w, w', u, hkey, hw, hw', hu, rfl⟩ := h
  have hcolon : SkipMode.colon.step stack 0x3A = .go .value stack := rfl
  rw [List.append_assoc, skipFrom_keyString hkey, List.append_assoc,
    skipFrom_blanks hw (colon_stays stack), List.cons_append, skipFrom_go hcolon,
      List.append_assoc,
    skipFrom_blanks hw' (value_stays stack), hvalue hu]

/-- **A tree is passed over to its end**, however deep it is and whatever containers are open
around it. -/
theorem skipFrom_tree {depth : Nat} {v : Tree} {t r : Bytes} (h : Writes depth v t) (hr : Stops r)
    (stack : List Frame) : skipFrom .value stack (t ++ r) = pass stack r := by
  induction depth generalizing v t r stack with
  | zero => exact skipFrom_leaf h hr stack
  | succ depth ih =>
    cases h with
    | leaf leaf => exact skipFrom_leaf leaf hr stack
    | list items =>
      have hpasses : Frame.list.Passes (Writes depth) := by
        refine ⟨fun outer hv hr => ih hv hr (.list :: outer), fun hv => ?_⟩
        obtain ⟨b, u, hu, hbegins⟩ := hv.begins []
        rw [List.append_nil] at hu
        exact ⟨b, u, hu, hbegins⟩
      exact skipFrom_enclosed hpasses items r
    | object items =>
      have hpasses : Frame.object.Passes (Entry (Writes depth)) := by
        refine ⟨fun outer hm hr => skipFrom_entry (fun hv => ih hv hr (.object :: outer)) hm,
          fun hm => ?_⟩
        obtain ⟨u, hu⟩ := hm.begins []
        rw [List.append_nil] at hu
        exact ⟨0x22, u, hu, by decide, by decide⟩
      exact skipFrom_enclosed hpasses items r

/-- So is one behind blanks, and what is left is what follows it. -/
theorem skipValue_tree {depth : Nat} {v : Tree} {w t r : Bytes} (hw : IsBlanks w)
    (h : Writes depth v t) (hr : Stops r) : skipValue (w ++ (t ++ r)) = .ok r := by
  rw [skipValue, skipFrom_blanks hw (value_stays []), skipFrom_tree h hr]
  rfl

end SignIn.Json
