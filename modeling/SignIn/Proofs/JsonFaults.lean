import SignIn.Json.Record
import SignIn.Proofs.JsonContainer

/-!
# What a reader finds fault with

A text that is not JSON is at fault in one of a few ways, and the error says which, but shows
nothing of the text. Readers give no other errors, except where a record or an object was asked
for: then the error may show the value that stands in its place.
-/

namespace SignIn.Json

/-- An error in the syntax of a text, which is worded alike whatever the text is. -/
def Error.isSyntax : Error → Bool
  | .wrongType _ _ => false
  | .wrongValue _ _ => false
  | .wrongLength _ _ => false
  | .missingField _ => false
  | .duplicateField _ => false
  | .refused _ => false
  | _ => true

/-- A reader that finds fault with the syntax of a text only. -/
def Syntactic {β : Type} (f : Bytes → Except Error β) : Prop :=
  ∀ s e, f s = .error e → e.isSyntax = true

/-- What follows from either branch, where `split` would rewrite by all the conditions before. -/
theorem of_ite_eq {α : Type} {P c : Prop} [Decidable c] {x y z : α} (hx : x = z → P)
    (hy : y = z → P) :
    (if c then x else y) = z → P :=
  iteInduction (motive := fun w => w = z → P) (fun _ => hx) fun _ => hy

/-! ## Lexemes -/

theorem syntactic_word (w : Bytes) : Syntactic (word w) := by
  intro s e h
  induction w generalizing s with
  | nil => cases h
  | cons c w ih =>
    cases s with
    | nil => cases h; rfl
    | cons b s =>
      rw [word] at h
      split at h
      · exact ih s h
      · cases h; rfl

theorem isSyntax_of_unitStep {high : Option Nat} {n : Nat} {e : Error}
    (h : unitStep high n = .fail e) :
    e.isSyntax = true := by
  cases high with
  | none =>
    rw [unitStep] at h
    split_ifs at h
    cases h; rfl
  | some high =>
    rw [unitStep] at h
    split_ifs at h
    cases h; rfl

theorem StringMode.isSyntax_of_step {mode : StringMode} {b : UInt8} {e : Error}
    (h : mode.step b = .fail e) : e.isSyntax = true := by
  cases mode with
  | plain =>
    rw [StringMode.step] at h
    split_ifs at h
    cases h; rfl
  | escape =>
    rw [StringMode.step] at h
    split_ifs at h
    split at h
    · cases h
    · cases h; rfl
  | unit digits high =>
    rw [StringMode.step] at h
    split_ifs at h
    split at h
    · exact isSyntax_of_unitStep h
    · cases h; rfl
  | lowSlash high =>
    rw [StringMode.step] at h
    split_ifs at h
    cases h; rfl
  | lowMark high =>
    rw [StringMode.step] at h
    split_ifs at h
    cases h; rfl

theorem syntactic_stringBytes (mode : StringMode) (acc : Bytes) :
    Syntactic (stringBytes mode acc) := by
  intro s e h
  induction s generalizing mode acc with
  | nil => cases h; rfl
  | cons b s ih =>
    rw [stringBytes] at h
    split at h
    · exact ih _ _ h
    · cases h
    · rename_i hstep
      cases h
      exact mode.isSyntax_of_step hstep

theorem syntactic_string : Syntactic string := by
  intro s e h
  rw [string] at h
  split at h
  · rename_i hbytes
    cases h
    exact syntactic_stringBytes _ _ _ _ hbytes
  · split at h
    · cases h
    · cases h; rfl

section Numbers

variable {atEnd : Error} (hend : atEnd.isSyntax = true)
include hend

theorem syntactic_digits : Syntactic (digits atEnd) := by
  intro s e h
  cases s with
  | nil => cases h; exact hend
  | cons b s =>
    rw [digits] at h
    split at h
    · cases h
    · cases h; rfl

theorem syntactic_whole : Syntactic (whole atEnd) := by
  intro s e h
  unfold whole at h
  split at h
  · split at h
    · cases h; rfl
    · cases h
  · exact syntactic_digits hend _ _ h

theorem syntactic_fraction : Syntactic (fraction atEnd) := by
  intro s e h
  unfold fraction at h
  split at h
  · split at h
    · cases h
    · rename_i hdigits
      cases h
      exact syntactic_digits hend _ _ hdigits
  · cases h

theorem syntactic_exponent : Syntactic (exponent atEnd) := by
  intro s e h
  unfold exponent at h
  split at h
  · cases h
  · split_ifs at h
    split at h
    · cases h
    · rename_i hdigits
      cases h
      exact syntactic_digits hend _ _ hdigits

theorem syntactic_numeral (negative : Bool) : Syntactic (numeral atEnd negative) := by
  intro s e h
  rw [numeral] at h
  split at h
  · rename_i hwhole
    cases h
    exact syntactic_whole hend _ _ hwhole
  split at h
  · rename_i hfraction
    cases h
    exact syntactic_fraction hend _ _ hfraction
  split at h
  · rename_i hexponent
    cases h
    exact syntactic_exponent hend _ _ hexponent
  · cases h

end Numbers

theorem Numeral.isSyntax_of_value {x : Numeral} {e : Error} (h : x.value = .error e) :
    e.isSyntax = true := by
  have hsigned : ∀ {negative : Bool} {y : Option Binary64}, signed negative y = .error e →
      e.isSyntax = true := by
    intro negative y hy
    cases y with
    | none => cases hy; rfl
    | some y => cases hy
  rw [Numeral.value] at h
  dsimp only at h
  split at h
  · cases h
  · exact hsigned h

theorem syntactic_number (negative : Bool) : Syntactic (number negative) := by
  intro s e h
  rw [number] at h
  split at h
  · rename_i hnumeral
    cases h
    exact syntactic_numeral rfl negative _ _ hnumeral
  split at h
  · cases h
  · rename_i hvalue
    cases h
    exact Numeral.isSyntax_of_value hvalue

/-! ## Values -/

theorem syntactic_keep (f : Front) {g : Bytes → Except Error Bytes} (hg : Syntactic g) :
    Syntactic fun s => keep f (g s) := by
  intro s e h
  cases hs : g s with
  | ok r =>
    dsimp only at h
    rw [hs] at h
    cases h
  | error e' =>
    dsimp only at h
    rw [hs] at h
    cases h
    exact hg _ _ hs

theorem syntactic_numberFront (negative : Bool) : Syntactic (numberFront negative) := by
  intro s e h
  rw [numberFront] at h
  split at h
  · cases h
  · rename_i hnumber
    cases h
    exact syntactic_number negative _ _ hnumber

theorem syntactic_front : Syntactic front := by
  intro s e
  rw [front]
  cases skipBlanks s with
  | nil =>
    intro h
    cases h; rfl
  | cons b r =>
    -- The conditions tell the kinds of values apart, in this order.
    refine of_ite_eq (fun h => ?string) <| of_ite_eq (fun h => ?object) <|
      of_ite_eq (fun h => ?list) <| of_ite_eq ?null <| of_ite_eq ?yes <| of_ite_eq ?no <|
      of_ite_eq ?negative <| of_ite_eq ?digit fun h => ?other
    case string =>
      split at h
      · cases h
      · rename_i hstring
        cases h
        exact syntactic_string _ _ hstring
    case object | list => cases h
    case null | yes | no => exact syntactic_keep _ (syntactic_word _) _ _
    case negative | digit => exact syntactic_numberFront _ _ _
    case other => cases h; rfl

theorem syntactic_listTurn (first : Bool) : Syntactic (listTurn first) := by
  intro s e h
  rw [listTurn] at h
  split at h
  · cases h; rfl
  split_ifs at h
  · split at h
    · cases h; rfl
    · split_ifs at h
      cases h; rfl
  · cases h; rfl

theorem syntactic_enterKey : Syntactic enterKey := by
  intro s e h
  cases s with
  | nil => cases h; rfl
  | cons b s =>
    rw [enterKey] at h
    split_ifs at h
    · cases h; rfl
    · cases h; rfl

theorem syntactic_objectTurn (first : Bool) : Syntactic (objectTurn first) := by
  intro s e h
  rw [objectTurn] at h
  split at h
  · cases h; rfl
  split_ifs at h
  · exact syntactic_enterKey _ _ h
  · exact syntactic_enterKey _ _ h
  · cases h; rfl

theorem syntactic_colon : Syntactic colon := by
  intro s e h
  rw [colon] at h
  split at h
  · cases h; rfl
  · split_ifs at h
    cases h; rfl

/-- A loop finds no other faults than its turns and its items. -/
theorem syntactic_series {α : Type} {atEnd : Error} {turn : Bool → Bytes → Except Error Turn}
    {item : Reader α} (hend : atEnd.isSyntax = true) (hturn : ∀ first, Syntactic (turn first))
    (hitem : Syntactic item) (fuel : Nat) (acc : List α) :
    Syntactic (series atEnd turn item fuel acc) := by
  intro s e h
  induction fuel generalizing acc s with
  | zero => cases h; exact hend
  | succ fuel ih =>
    rw [series] at h
    split at h
    · rename_i hfail
      cases h
      exact hturn _ _ _ hfail
    · cases h
    · split at h
      · rename_i hfail
        cases h
        exact hitem _ _ hfail
      · exact ih _ _ h

theorem syntactic_keyTurn (first : Bool) : Syntactic (keyTurn first) := by
  intro s e h
  rw [keyTurn] at h
  cases hturn : objectTurn first s with
  | ok x =>
    rw [hturn] at h
    cases h
  | error e' =>
    rw [hturn] at h
    cases h
    exact syntactic_objectTurn _ _ _ hturn

theorem syntactic_entry {α : Type} {item : Reader α} (hitem : Syntactic item) :
    Syntactic (entry item) := by
  intro s e h
  unfold entry at h
  split at h
  · rw [keyed] at h
    split at h
    · rename_i hstring
      cases h
      exact syntactic_string _ _ hstring
    split at h
    · rename_i hcolon
      cases h
      exact syntactic_colon _ _ hcolon
    split at h
    · rename_i hfail
      cases h
      exact hitem _ _ hfail
    · cases h
  · cases h; rfl

theorem syntactic_elements {α : Type} {item : Reader α} (hitem : Syntactic item) (fuel : Nat)
    (acc : List α) : Syntactic (elements item fuel acc) := by
  intro s e h
  rw [elements_eq_series] at h
  exact syntactic_series rfl syntactic_listTurn hitem fuel acc s e h

theorem syntactic_members {α : Type} {item : Reader α} (hitem : Syntactic item) (fuel : Nat)
    (acc : List (String × α)) : Syntactic (members item fuel acc) := by
  intro s e h
  rw [members_eq_series] at h
  exact syntactic_series rfl syntactic_keyTurn (syntactic_entry hitem) fuel acc s e h

/-- **A value is at fault in its syntax only.** -/
theorem syntactic_value (fuel depth : Nat) : Syntactic (value fuel depth) := by
  induction depth with
  | zero =>
    intro s e h
    rw [value] at h
    split at h
    · rename_i hfront
      cases h
      exact syntactic_front _ _ hfront
    · split at h
      · cases h
      · cases h; rfl
      · rename_i hdepth
        cases hdepth
  | succ depth ih =>
    intro s e h
    rw [value] at h
    split at h
    · rename_i hfront
      cases h
      exact syntactic_front _ _ hfront
    split at h
    · cases h
    · rename_i hdepth
      cases hdepth
    · rename_i hdepth
      obtain rfl := Nat.succ.inj hdepth
      split at h
      · cases hlist : elements (value fuel depth) fuel [] _ with
        | ok x => rw [hlist] at h; cases h
        | error e' =>
          rw [hlist] at h
          cases h
          exact syntactic_elements ih _ _ _ _ hlist
      · cases hobject : members (value fuel depth) fuel [] _ with
        | ok x => rw [hobject] at h; cases h
        | error e' =>
          rw [hobject] at h
          cases h
          exact syntactic_members ih _ _ _ _ hobject

/-! ## Values that are passed over -/

theorem isSyntax_of_ended {stack : List Frame} {e : Error} (h : ended stack = .fail e) :
    e.isSyntax = true := by
  cases stack <;> cases h

theorem isSyntax_of_afterStep {stack : List Frame} {b : UInt8} {e : Error}
    (h : afterStep stack b = .fail e) : e.isSyntax = true := by
  cases stack with
  | nil => cases h
  | cons f outer =>
    cases f with
    | list =>
      rw [afterStep] at h
      split_ifs at h
      · exact isSyntax_of_ended h
      · cases h; rfl
    | object =>
      rw [afterStep] at h
      split_ifs at h
      · exact isSyntax_of_ended h
      · cases h; rfl

theorem isSyntax_of_valueStep {stack : List Frame} {b : UInt8} {e : Error}
    (h : valueStep stack b = .fail e) : e.isSyntax = true := by
  revert h
  rw [valueStep]
  -- Nothing fails but the last of the cases.
  iterate 10
    refine of_ite_eq (fun h => ?_) ?_
    · cases h
  intro h
  cases h; rfl

theorem isSyntax_of_keyStep {stack : List Frame} {b : UInt8} {e : Error}
    (h : keyStep stack b = .fail e) : e.isSyntax = true := by
  rw [keyStep] at h
  split_ifs at h
  cases h; rfl

theorem isSyntax_of_firstStep {stack : List Frame} {b : UInt8} {e : Error}
    (h : firstStep stack b = .fail e) : e.isSyntax = true := by
  cases stack with
  | nil =>
    rw [firstStep] at h
    split_ifs at h
    cases h; rfl
  | cons f outer =>
    cases f with
    | list =>
      rw [firstStep] at h
      split_ifs at h
      · exact isSyntax_of_ended h
      · exact isSyntax_of_valueStep h
    | object =>
      rw [firstStep] at h
      split_ifs at h
      · exact isSyntax_of_ended h
      · exact isSyntax_of_keyStep h

theorem isSyntax_of_exponentStep {stack : List Frame} {b : UInt8} {e : Error}
    (h : exponentStep stack b = .fail e) : e.isSyntax = true := by
  rw [exponentStep] at h
  split_ifs at h
  exact isSyntax_of_afterStep h

theorem isSyntax_of_pointStep {stack : List Frame} {b : UInt8} {e : Error}
    (h : pointStep stack b = .fail e) : e.isSyntax = true := by
  rw [pointStep] at h
  split_ifs at h
  exact isSyntax_of_exponentStep h

theorem SkipMode.isSyntax_of_step {mode : SkipMode} {stack : List Frame} {b : UInt8} {e : Error}
    (h : mode.step stack b = .fail e) : e.isSyntax = true := by
  cases mode with
  | value => exact isSyntax_of_valueStep h
  | first => exact isSyntax_of_firstStep h
  | key => exact isSyntax_of_keyStep h
  | after => exact isSyntax_of_afterStep h
  | colon | minus | point | mark | sign =>
    rw [SkipMode.step] at h
    split_ifs at h
    cases h; rfl
  | string isKey =>
    rw [SkipMode.step] at h
    split_ifs at h
    · cases isKey
      · exact isSyntax_of_ended h
      · cases h
    · cases h; rfl
  | escape isKey =>
    rw [SkipMode.step] at h
    split_ifs at h
    cases h; rfl
  | unit isKey left good =>
    cases left with
    | zero =>
      rw [SkipMode.step] at h
      split_ifs at h
      cases h; rfl
    | succ left => cases h
  | word rest =>
    cases rest with
    | nil => exact isSyntax_of_afterStep h
    | cons c rest =>
      rw [SkipMode.step] at h
      split_ifs at h
      · cases h; rfl
      · exact isSyntax_of_ended h
  | zero =>
    rw [SkipMode.step] at h
    split_ifs at h
    · cases h; rfl
    · exact isSyntax_of_pointStep h
  | whole =>
    rw [SkipMode.step] at h
    split_ifs at h
    exact isSyntax_of_pointStep h
  | fraction =>
    rw [SkipMode.step] at h
    split_ifs at h
    exact isSyntax_of_exponentStep h
  | exponent =>
    rw [SkipMode.step] at h
    split_ifs at h
    exact isSyntax_of_afterStep h

theorem SkipMode.isSyntax_of_finish {mode : SkipMode} {stack : List Frame} {e : Error}
    (h : mode.finish stack = .error e) : e.isSyntax = true := by
  have hend : endAfter stack = .error e → e.isSyntax = true := by
    intro hafter
    cases stack with
    | nil => cases hafter
    | cons f outer => cases f <;> (cases hafter; rfl)
  cases mode with
  | first | after | zero | whole | fraction | exponent => exact hend h
  | _ => cases h; rfl

theorem syntactic_skipFrom (mode : SkipMode) (stack : List Frame) :
    Syntactic (skipFrom mode stack) := by
  intro s e h
  induction s generalizing mode stack with
  | nil => exact mode.isSyntax_of_finish h
  | cons b s ih =>
    rw [skipFrom] at h
    split at h
    · exact ih _ _ h
    · cases h
    · cases h
    · rename_i hstep
      cases h
      exact SkipMode.isSyntax_of_step hstep

/-! ## Records -/

theorem syntactic_closeList : Syntactic closeList := by
  intro s e h
  rw [closeList] at h
  split at h
  · cases h; rfl
  · split_ifs at h
    · cases h; rfl
    · cases h; rfl

section Schema

variable {α : Type} {P : Error → Prop} (hlexical : ∀ e : Error, e.isSyntax = true → P e)
include hlexical

theorem of_whole_eq_error {r : Reader α} {s : Bytes} {e : Error} (h : Reader.whole r s = .error e)
    (hr : r s = .error e → P e) : P e := by
  rw [Reader.whole] at h
  split at h
  · rename_i hfail
    cases h
    exact hr hfail
  · split_ifs at h
    cases h
    exact hlexical _ rfl

section Fields

variable {fields : List (Field α)} (hfields : ∀ f ∈ fields, ∀ s e, f.read s = .error e → P e)
include hfields

theorem of_readList_eq_error {expected : String}
    (hlength : ∀ n, P (.wrongLength n expected)) {count : Nat}
    {a : α} {s : Bytes} {e : Error} (h : readList expected count a fields s = .error e) : P e := by
  induction fields generalizing count a s with
  | nil =>
    rw [readList] at h
    split at h
    · cases h
    · rename_i hclose
      cases h
      exact hlexical _ (syntactic_closeList _ _ hclose)
  | cons f fields ih =>
    rw [readList] at h
    split at h
    · rename_i hturn
      cases h
      exact hlexical _ (syntactic_listTurn _ _ _ hturn)
    · cases h
      exact hlength count
    · split at h
      · rename_i hread
        cases h
        exact hfields f List.mem_cons_self _ _ hread
      · exact ih (fun g hg => hfields g (List.mem_cons_of_mem f hg)) h

theorem of_readMember_eq_error (hduplicate : ∀ f ∈ fields, P (.duplicateField f.key))
    {seen : List String}
    {s : Bytes} {e : Error} (h : readMember fields seen s = .error e) : P e := by
  rw [readMember] at h
  split at h
  · rename_i hkey
    cases h
    exact hlexical _ (syntactic_string _ _ hkey)
  rename_i key s' hkey
  split at h
  · split at h
    · rename_i hcolon
      cases h
      exact hlexical _ (syntactic_colon _ _ hcolon)
    split at h
    · cases h
    · rename_i hskip
      cases h
      exact hlexical _ (syntactic_skipFrom _ _ _ _ hskip)
  · rename_i f hf
    have hmem : f ∈ fields := List.mem_of_find?_eq_some hf
    split_ifs at h
    · cases h
      have hname : f.key = key := by simpa using List.find?_some hf
      exact hname ▸ hduplicate f hmem
    split at h
    · rename_i hcolon
      cases h
      exact hlexical _ (syntactic_colon _ _ hcolon)
    split at h
    · cases h
    · rename_i hread
      cases h
      exact hfields f hmem _ _ hread

theorem of_readMembers_eq_error (hmissing : ∀ f ∈ fields, P (.missingField f.key))
    (hduplicate : ∀ f ∈ fields, P (.duplicateField f.key)) {fuel : Nat} {first : Bool}
    {seen : List String} {a : α} {s : Bytes} {e : Error}
    (h : readMembers fields fuel first seen a s = .error e) : P e := by
  induction fuel generalizing first seen a s with
  | zero =>
    cases h
    exact hlexical _ rfl
  | succ fuel ih =>
    rw [readMembers] at h
    split at h
    · rename_i hturn
      cases h
      exact hlexical _ (syntactic_objectTurn _ _ _ hturn)
    · split at h
      · rename_i f hf
        cases h
        exact hmissing f (List.mem_of_find?_eq_some hf)
      · cases h
    · split at h
      · rename_i hmember
        cases h
        exact of_readMember_eq_error hlexical hfields hduplicate hmember
      · exact ih h

end Fields

/-- **What a record is not read for.** Besides errors in the syntax there are those of the fields,
those that say that there are too few elements, or that a member is missing or repeated, and the
one that shows a scalar where the record should be. -/
theorem Schema.of_read_eq_error {c : Schema α}
    (hfields : ∀ f ∈ c.fields, ∀ s e, f.read s = .error e → P e)
    (hlength : ∀ n, P (.wrongLength n c.expectedList))
    (hmissing : ∀ f ∈ c.fields, P (.missingField f.key))
    (hduplicate : ∀ f ∈ c.fields, P (.duplicateField f.key))
    {s : Bytes} (hscalar : ∀ f r, front s = .ok (f, r) → f ≠ .list → f ≠ .object →
      P (.wrongType f.found c.expected))
    {e : Error} (h : c.read s = .error e) : P e := by
  rw [Schema.read] at h
  split at h
  · rename_i hfront
    cases h
    exact hlexical _ (syntactic_front _ _ hfront)
  · exact of_readList_eq_error hlexical hfields hlength h
  · exact of_readMembers_eq_error hlexical hfields hmissing hduplicate h
  · rename_i f r hlist hobject hfront
    cases h
    exact hscalar _ _ hfront hlist hobject

/-- What is not an object is shown, unless it is at fault in its syntax. -/
theorem of_parseObject_eq_error {s : Bytes}
    (hother : ∀ f r, front s = .ok (f, r) → f ≠ .object → P (.wrongType f.found "a map"))
    {e : Error} (h : parseObject s = .error e) : P e := by
  refine of_whole_eq_error hlexical h fun hread => ?_
  rw [objectMembers] at hread
  split at hread
  · rename_i hfront
    cases hread
    exact hlexical _ (syntactic_front _ _ hfront)
  · split at hread
    · cases hread
    · rename_i hmembers
      cases hread
      exact hlexical _ (syntactic_members (syntactic_value _ _) _ _ _ _ hmembers)
  · rename_i hobject hfront
    cases hread
    exact hother _ _ hfront hobject

end Schema

end SignIn.Json
