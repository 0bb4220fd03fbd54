import Mathlib.Data.List.DropRight
import Mathlib.Logic.Function.Basic
import SignIn.Proofs.ConfigText

/-!
# The form of the origin

The origin loses the blanks around it and then the slashes at its end, each of them once. So
slashes are never left at its end, and blanks never at its front. But the blanks in front of its
last slashes are left, and so is nothing at all if it was slashes only. These are the only ways in
which an origin is out of form; and it is in form exactly if it means the same when it is read once
more.
-/

namespace SignIn.Config

/-! ## Taking slashes off -/

theorem toList_withoutSlashes (s : String) :
    (withoutSlashes s).toList = s.toList.rdropWhile (· == '/') := by
  rw [withoutSlashes, String.toList_ofList]
  rfl

theorem getLast?_withoutSlashes (s : String) : (withoutSlashes s).toList.getLast? ≠ some '/' := by
  rw [toList_withoutSlashes]
  intro hlast
  obtain ⟨hne, hslash⟩ := List.mem_getLast?_eq_getLast hlast
  exact List.rdropWhile_last_not _ _ hne (by rw [← hslash]; rfl)

theorem exists_slashes (s : String) : ∃ n, s = withoutSlashes s ++ slashes n := by
  have hall : ∀ c ∈ s.toList.rtakeWhile (· == '/'), c = '/' := fun c hc =>
    eq_of_beq (List.mem_rtakeWhile_imp (p := (· == '/')) hc)
  refine ⟨(s.toList.rtakeWhile (· == '/')).length, ?_⟩
  rw [← String.toList_inj, String.toList_append, toList_withoutSlashes, toList_slashes,
    ← List.eq_replicate_of_mem hall, List.rdropWhile_append_rtakeWhile]

/-- **An origin is read from itself and any slashes behind it**, if it may be sent in a header. -/
theorem readOrigin_eq_ok_iff {s o : String} : readOrigin s = .ok o ↔
    (∃ n, s = o ++ slashes n) ∧ o.toList.getLast? ≠ some '/' ∧
      (Utf8.encode o).all isHeaderByte = true := by
  constructor
  · intro h
    rw [readOrigin] at h
    split at h
    · rename_i hbytes
      obtain rfl := Except.ok.inj h
      exact ⟨exists_slashes s, getLast?_withoutSlashes s, hbytes⟩
    · cases h
  · rintro ⟨⟨n, rfl⟩, hlast, hbytes⟩
    exact readOrigin_append hbytes hlast n

/-- What was read once is read as itself, if no blanks are taken off it. -/
theorem readOrigin_again {s o : String} (h : readOrigin s = .ok o) : readOrigin o = .ok o := by
  obtain ⟨-, hlast, hbytes⟩ := readOrigin_eq_ok_iff.mp h
  exact readOrigin_eq_ok_iff.mpr ⟨⟨0, (append_slashes_zero o).symm⟩, hlast, hbytes⟩

/-- The slashes at the end of a text tell where the rest of it ends. -/
theorem eq_of_append_slashes {s t : String} {m n : Nat} (hs : s.toList.getLast? ≠ some '/')
    (ht : t.toList.getLast? ≠ some '/') (h : s ++ slashes m = t ++ slashes n) : s = t := by
  rw [← withoutSlashes_append hs m, h, withoutSlashes_append ht n]

/-! ## Form -/

/-- An origin is in form: it is not empty, has no blanks at its ends and does not end in
a slash. -/
structure InForm (o : String) : Prop where
  trimmed : Trimmed o
  last : o.toList.getLast? ≠ some '/'

theorem inForm_iff {o : String} : InForm o ↔ Trimmed o ∧ o.toList.getLast? ≠ some '/' :=
  ⟨fun h => ⟨h.trimmed, h.last⟩, fun h => ⟨h.1, h.2⟩⟩

instance (o : String) : Decidable (InForm o) := decidable_of_iff' _ inForm_iff

/-- The origin is set to a text with slashes at its end that stand behind a blank, or behind
nothing. -/
def LeavesBlank (env : Environment) : Prop :=
  ∃ rest n, value? env .webUri = some (rest ++ slashes (n + 1)) ∧
    ∀ c ∈ rest.toList.getLast?, Blank.isBlank c = true

theorem inForm_defaultOrigin : InForm defaultOrigin := by decide +kernel

theorem readOrigin_default : readOrigin defaultOrigin = .ok defaultOrigin := by decide +kernel

section Reading

variable {env : Environment} {c : Config}

/-- An origin is the default, or what is left of the value of its variable. -/
theorem Reads.origin_cases (h : Reads env c) :
    (value? env .webUri = none ∧ c.origin = defaultOrigin) ∨
      ∃ n, value? env .webUri = some (c.origin ++ slashes n) := by
  rcases valueOr_eq_ok_iff.mp h.origin with hunset | ⟨s, hs, hread⟩
  · exact .inl hunset
  · obtain ⟨⟨n, rfl⟩, -, -⟩ := readOrigin_eq_ok_iff.mp hread
    exact .inr ⟨n, hs⟩

theorem Reads.readOrigin_origin (h : Reads env c) : readOrigin c.origin = .ok c.origin := by
  rcases valueOr_eq_ok_iff.mp h.origin with ⟨-, hdefault⟩ | ⟨s, -, hread⟩
  · rw [hdefault]
    exact readOrigin_default
  · exact readOrigin_again hread

theorem Reads.origin_last (h : Reads env c) : c.origin.toList.getLast? ≠ some '/' :=
  (readOrigin_eq_ok_iff.mp h.readOrigin_origin).2.1

/-- Slashes are taken off the end only, so the front is as trimming left it. -/
theorem Reads.origin_head (h : Reads env c) :
    ∀ a ∈ c.origin.toList.head?, Blank.isBlank a = false := by
  intro a ha
  rcases h.origin_cases with ⟨-, hdefault⟩ | ⟨n, hn⟩
  · rw [hdefault] at ha
    exact inForm_defaultOrigin.trimmed.bare.head a ha
  · refine (trimmed_of_value? hn).bare.head a ?_
    rw [String.toList_append, List.head?_append, Option.mem_def.mp ha]
    rfl

/-- **An origin is in form unless its slashes stood behind a blank, or behind nothing.** -/
theorem Reads.inForm_iff (h : Reads env c) : InForm c.origin ↔ ¬LeavesBlank env := by
  constructor
  · rintro hform ⟨rest, n, hrest, hblank⟩
    have hlast : rest.toList.getLast? ≠ some '/' := fun hslash =>
      absurd (hblank '/' hslash) (by decide)
    rcases h.origin_cases with ⟨hunset, -⟩ | ⟨m, hm⟩
    · rw [hunset] at hrest
      cases hrest
    · rw [hm] at hrest
      obtain rfl := eq_of_append_slashes h.origin_last hlast (Option.some.inj hrest)
      -- The origin ends in a character, as it is not empty, and that one is no blank.
      cases hend : c.origin.toList.getLast? with
      | none =>
        exact hform.trimmed.ne_empty (String.toList_inj.mp (List.getLast?_eq_none_iff.mp hend))
      | some a =>
        have hbare := hform.trimmed.bare.last a hend
        rw [hblank a hend] at hbare
        cases hbare
  · intro hleaves
    rcases h.origin_cases with ⟨-, hdefault⟩ | ⟨n, hn⟩
    · rw [hdefault]
      exact inForm_defaultOrigin
    · refine ⟨?_, h.origin_last⟩
      cases n with
      | zero =>
        rw [append_slashes_zero] at hn
        exact trimmed_of_value? hn
      | succ n =>
        refine ⟨fun hempty => hleaves ⟨c.origin, n, hn, ?_⟩, h.origin_head, fun a ha => ?_⟩
        · rw [hempty]
          intro a ha
          cases ha
        · by_contra hblank
          refine hleaves ⟨c.origin, n, hn, fun b hb => ?_⟩
          rw [Option.mem_unique hb ha]
          simpa using hblank

end Reading

/-! ## Reading once more -/

/-- The environment with its origin set anew. -/
def withOrigin (env : Environment) (o : String) : Environment :=
  Function.update env .webUri (some o)

section Again

variable {env : Environment} {c c' : Config} {o o' : String}

theorem value?_withOrigin_of_ne {v : Variable} (h : v ≠ .webUri) :
    value? (withOrigin env o) v = value? env v := by
  rw [value?, value?, withOrigin, Function.update_of_ne h]

theorem holds_withOrigin : Holds (withOrigin env o) .webUri o :=
  .of_all "" "" rfl rfl (by rw [withOrigin, Function.update_self, String.empty_append,
    String.append_empty])

theorem eq_trim_of_withOrigin {s : String} (h : value? (withOrigin env o) .webUri = some s) :
    s = Blank.trim o := by
  obtain ⟨⟨t, ht, rfl⟩, -⟩ := value?_eq_some_iff.mp h
  rw [withOrigin, Function.update_self] at ht
  rw [Option.some.inj ht]

/-- Only the origin is read anew, and with it whether cookies need a secure connection. -/
theorem Reads.of_origin {b : Bool} (h : Reads env c)
    (horigin : valueOr (withOrigin env o) .webUri defaultOrigin readOrigin = .ok o')
    (hsecure : valueOr env .cookieSecure (isSecureOrigin o') readBool = .ok b) :
    Reads (withOrigin env o) { c with origin := o', secureCookies := b } := by
  have hvalue : ∀ v ≠ Variable.webUri, value? (withOrigin env o) v = value? env v :=
    fun _ => value?_withOrigin_of_ne
  refine ⟨?_, ?_, horigin, ?_, ?_, ?_, ?_, ?_, ?_⟩
  · rw [required, hvalue _ (by decide)]
    exact h.databaseUrl
  · rw [required, hvalue _ (by decide)]
    exact h.clientId
  · rw [valueOr, hvalue _ (by decide)]
    exact h.port
  · rw [valueOr, hvalue _ (by decide)]
    exact h.address
  · rw [valueOr, hvalue _ (by decide)]
    exact h.maxConnections
  · rw [readSecrets, hvalue _ (by decide), hvalue _ (by decide)]
    exact h.secrets
  · rw [valueOr, hvalue _ (by decide)]
    exact hsecure
  · rw [hvalue _ (by decide)]
    exact h.tokeninfoUrl

/-- A header text stays one if characters are left out. -/
theorem header_of_subset {s t : String} (h : t.toList ⊆ s.toList)
    (hs : (Utf8.encode s).all isHeaderByte = true) : (Utf8.encode t).all isHeaderByte = true := by
  rw [Utf8.encode, Utf8.encodeChars, List.all_flatMap, List.all_eq_true] at hs ⊢
  exact fun c hc => hs c (h hc)

/-- An origin that was read may be read once more, as something or other. -/
theorem Reads.exists_origin (h : Reads env c) : ∃ o',
    valueOr (withOrigin env c.origin) .webUri defaultOrigin readOrigin = .ok o' := by
  cases hvalue : value? (withOrigin env c.origin) .webUri with
  | none => exact ⟨defaultOrigin, valueOr_eq_ok_iff.mpr (.inl ⟨hvalue, rfl⟩)⟩
  | some s =>
    have hsubset : (withoutSlashes s).toList ⊆ c.origin.toList := by
      rw [toList_withoutSlashes, eq_trim_of_withOrigin hvalue, Blank.toList_trim]
      exact List.Subset.trans (List.rdropWhile_prefix _ _).subset (Blank.sublist_trimList _).subset
    have hbytes := header_of_subset hsubset (readOrigin_eq_ok_iff.mp h.readOrigin_origin).2.2
    exact ⟨withoutSlashes s, valueOr_eq_ok_iff.mpr (.inr ⟨s, hvalue, readOrigin_eq_ok_iff.mpr
      ⟨exists_slashes s, getLast?_withoutSlashes s, hbytes⟩⟩)⟩

theorem Reads.exists_secureCookies (h : Reads env c) (o' : String) :
    ∃ b, valueOr env .cookieSecure (isSecureOrigin o') readBool = .ok b := by
  rcases valueOr_eq_ok_iff.mp h.secureCookies with ⟨hunset, -⟩ | ⟨s, hs, hread⟩
  · exact ⟨_, valueOr_eq_ok_iff.mpr (.inl ⟨hunset, rfl⟩)⟩
  · exact ⟨_, valueOr_eq_ok_iff.mpr (.inr ⟨s, hs, hread⟩)⟩

theorem Reads.exists_again (h : Reads env c) : ∃ c', Reads (withOrigin env c.origin) c' := by
  obtain ⟨o', horigin⟩ := h.exists_origin
  obtain ⟨b, hsecure⟩ := h.exists_secureCookies o'
  exact ⟨_, h.of_origin horigin hsecure⟩

/-- An origin in form is read as itself. -/
theorem Reads.again (h : Reads env c) (hform : InForm c.origin) :
    Reads (withOrigin env c.origin) c :=
  h.of_origin (holds_withOrigin.valueOr hform.trimmed h.readOrigin_origin defaultOrigin)
    h.secureCookies

/-- And nothing else is: what trimming takes away does not come back. -/
theorem Reads.inForm_of_again (h' : Reads (withOrigin env c.origin) c')
    (hsame : c'.origin = c.origin) : InForm c.origin := by
  rw [← hsame]
  rcases h'.origin_cases with ⟨-, hdefault⟩ | ⟨n, hn⟩
  · rw [hdefault]
    exact inForm_defaultOrigin
  · have htrim := congrArg (fun s => s.toList.length) (eq_trim_of_withOrigin hn)
    have hshorter := (Blank.sublist_trimList (p := Blank.isBlank) c.origin.toList).length_le
    simp only [hsame, String.toList_append, List.length_append, toList_slashes,
      List.length_replicate, Blank.toList_trim] at htrim
    obtain rfl : n = 0 := by omega
    rw [append_slashes_zero] at hn
    exact ⟨trimmed_of_value? hn, h'.origin_last⟩

end Again

/-- **When the origin is in form.** The origin of an environment that is a configuration never ends
in a slash or begins with a blank. It is in form unless its variable is set to a text whose last
slashes stand behind a blank or behind nothing. With the variable set to the origin itself the
environment is a configuration again: the same one if the origin is in form, and else one with
another origin. -/
theorem origin_inForm_iff {env : Environment} {c : Config} (h : ofEnvironment env = .ok c) :
    c.origin.toList.getLast? ≠ some '/' ∧
    (∀ a ∈ c.origin.toList.head?, Blank.isBlank a = false) ∧
    (InForm c.origin ↔ ¬LeavesBlank env) ∧
    ∃ c', ofEnvironment (withOrigin env c.origin) = .ok c' ∧
      (InForm c.origin ↔ c'.origin = c.origin ∧ c'.secureCookies = c.secureCookies) ∧
      (c'.origin = c.origin → c' = c) := by
  have hreads := ofEnvironment_eq_ok_iff.mp h
  obtain ⟨c', hreads'⟩ := hreads.exists_again
  have h' := ofEnvironment_eq_ok_iff.mpr hreads'
  have hsame : InForm c.origin → c' = c := by
    intro hform
    have hagain := ofEnvironment_eq_ok_iff.mpr (hreads.again hform)
    exact Except.ok.inj (h'.symm.trans hagain)
  refine ⟨hreads.origin_last, hreads.origin_head, hreads.inForm_iff, c', h', ⟨fun hform => ?_, ?_⟩,
    fun horigin => hsame (hreads'.inForm_of_again horigin)⟩
  · rw [hsame hform]
    exact ⟨rfl, rfl⟩
  · rintro ⟨horigin, -⟩
    exact hreads'.inForm_of_again horigin

/-- An environment in which a blank stands between the slashes behind the origin. -/
def blankEnvironment : Environment
  | .databaseUrl => some "postgres://localhost/menu"
  | .clientId => some "client.apps.example.com"
  | .webUri => some "https://x.com/ /"
  | _ => none

/-- What it means. -/
def blankConfig : Config where
  databaseUrl := "postgres://localhost/menu"
  clientId := "client.apps.example.com"
  origin := "https://x.com/ "
  address := .loopback
  port := defaultPort
  secrets := none
  secureCookies := true
  maxConnections := defaultMaxConnections
  tokeninfoUrl := defaultTokeninfoUrl

theorem reads_blankEnvironment : Reads blankEnvironment blankConfig := by
  constructor <;> decide +kernel

/-- The blank is left, and so is the slash in front of it. -/
theorem origin_inForm_iff_blank : ofEnvironment blankEnvironment = .ok blankConfig ∧
    LeavesBlank blankEnvironment ∧ ¬InForm blankConfig.origin ∧
    ∃ c', ofEnvironment (withOrigin blankEnvironment blankConfig.origin) = .ok c' ∧
      c'.origin ≠ blankConfig.origin := by
  have h := ofEnvironment_eq_ok_iff.mpr reads_blankEnvironment
  have hlast : "https://x.com/ ".toList.getLast? = some ' ' := by decide +kernel
  have hleaves : LeavesBlank blankEnvironment := by
    refine ⟨"https://x.com/ ", 0, by decide +kernel, fun c hc => ?_⟩
    obtain rfl : ' ' = c := Option.some.inj (hlast.symm.trans hc)
    decide
  obtain ⟨-, -, hform, c', h', hagain, hrest⟩ := origin_inForm_iff h
  have hout : ¬InForm blankConfig.origin := fun hin => hform.mp hin hleaves
  refine ⟨h, hleaves, hout, c', h', fun hsame => hout (hagain.mpr ⟨hsame, ?_⟩)⟩
  rw [hrest hsame]

/-- So not every origin is in form. -/
theorem not_origin_inForm : ¬∀ env c, ofEnvironment env = .ok c → InForm c.origin := by
  intro hall
  have hform :=
    hall blankEnvironment blankConfig (ofEnvironment_eq_ok_iff.mpr reads_blankEnvironment)
  exact absurd hform (by decide +kernel)

end SignIn.Config
