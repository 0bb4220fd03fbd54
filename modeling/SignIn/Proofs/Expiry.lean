import SignIn.Proofs.Issuing
import SignIn.Proofs.RoundTrip

/-!
# When a session expires

The age of a payload is the difference of two dates. Each of them fits 64 bits, but their
difference need not. Any date can be read from a payload, while the wall clock only tells those of
the years from −9999 to 9999; so the age can be taken unless the payload is dated some 292 billion
years away. A payload that lies that far back is older than anything and should have expired, but
loading it breaks off before that is found out.
-/

namespace SignIn.Session

/-- The seconds that have passed since a date that a payload can have. -/
theorem age?_cases (issuedAt : Int64) {now : Moment} (h : now.IsDated) :
    let age := now.wallSecond - issuedAt.toInt
    age? issuedAt now.second = some age ∧ -2 ^ 63 ≤ age ∧ age < 2 ^ 63 ∨
      age? issuedAt now.second = none ∧ ¬(-2 ^ 63 ≤ age ∧ age < 2 ^ 63) := by
  intro age
  have hage : now.second.toInt - issuedAt.toInt = age := by rw [h.toInt_second]
  by_cases hfits : -2 ^ 63 ≤ age ∧ age < 2 ^ 63
  · exact .inl ⟨age?_eq_some_iff.mpr ⟨hage, hfits⟩, hfits⟩
  · refine .inr ⟨age?_eq_none_iff.mpr ?_, hfits⟩
    rw [hage]
    exact hfits

/-- Two dates that the wall clock can tell are not that far apart. -/
theorem age_fits_of_dated {t now : Moment} (ht : t.IsDated) (hnow : now.IsDated) :
    -2 ^ 63 ≤ now.wallSecond - t.wallSecond ∧ now.wallSecond - t.wallSecond < 2 ^ 63 := by
  obtain ⟨htlow, hthigh⟩ := ht
  obtain ⟨hlow, hhigh⟩ := hnow
  omega

namespace Manager

/-- **When a session expires.** What opens and is a payload has expired exactly if it is older than
`maxAge` and its age fits 64 bits. If the age fits and is not above `maxAge`, the session is
loaded; if it does not fit, loading breaks off and leaves the manager as it was. It fits wherever
the payload was written at a date that the wall clock can tell. -/
theorem load_by_age (m : Manager) {now : Moment} (hdated : now.IsDated) {headers : List Bytes}
    {text : Bytes} {p : Payload} (hcarried : carried? m.key headers = some text)
    (hparse : Payload.parse text = .ok p) :
    let age := now.wallSecond - p.issuedAt.toInt
    let loaded := (m.load now headers).1
    let session := (m.downgrade now p.session).1
    (loaded = .error .expired ↔ maxAge < age ∧ age < 2 ^ 63) ∧
    (loaded = .ok (some session) ↔ -2 ^ 63 ≤ age ∧ age ≤ maxAge) ∧
    (loaded = .overflow ↔ ¬(-2 ^ 63 ≤ age ∧ age < 2 ^ 63)) ∧
    (loaded = .overflow → (m.load now headers).2 = m) ∧
    (∀ t : Moment, t.IsDated → p.issuedAt = t.second → -2 ^ 63 ≤ age ∧ age < 2 ^ 63) := by
  intro age loaded session
  have hmax : (maxAge : Int) = 900 := rfl
  have hwritten : ∀ t : Moment, t.IsDated → p.issuedAt = t.second →
      -2 ^ 63 ≤ age ∧ age < 2 ^ 63 := by
    intro t ht hsecond
    have hfits := age_fits_of_dated ht hdated
    rwa [← ht.toInt_second, ← hsecond] at hfits
  rcases age?_cases p.issuedAt hdated with ⟨hage, hlow, hhigh⟩ | ⟨hage, hfar⟩
  · by_cases hold : maxAge < age
    · have hload : loaded = .error .expired :=
        congrArg Prod.fst (load_of_old hcarried hparse hage hold)
      rw [hload]
      refine ⟨iff_of_true rfl ⟨hold, hhigh⟩, iff_of_false nofun ?_, iff_of_false nofun ?_, nofun,
        hwritten⟩
      · omega
      · omega
    · have hload : loaded = .ok (some session) :=
        congrArg Prod.fst (load_of_young hcarried hparse hage (not_lt.mp hold))
      rw [hload]
      refine ⟨iff_of_false nofun ?_, iff_of_true rfl ⟨hlow, not_lt.mp hold⟩, iff_of_false nofun ?_,
        nofun, hwritten⟩
      · omega
      · omega
  · have hpair := load_of_far hcarried hparse hage
    have hload : loaded = .overflow := congrArg Prod.fst hpair
    rw [hload]
    refine ⟨iff_of_false nofun ?_, iff_of_false nofun ?_, iff_of_true rfl hfar,
      fun _ => congrArg Prod.snd hpair, hwritten⟩
    · omega
    · omega

/-- The oldest date that there is. -/
def dawn : Payload := ⟨⟨7, "Ann", true, .zero⟩, Int64.minValue⟩

/-- A payload of the oldest date has expired in the last second of 1969. One second later its age
overflows. -/
theorem load_by_age_dawn :
    let m := Manager.ofSecrets Secrets.sample true
    let pair := (m.cookie (.replicate 12 0) dawn).pair
    (Moment.mk (-1) 0).IsDated ∧ (Moment.mk 0 0).IsDated ∧
      carried? m.key [pair] = some dawn.print ∧ Payload.parse dawn.print = .ok dawn ∧
      (m.load ⟨-1, 0⟩ [pair]).1 = .error .expired ∧ (m.load ⟨0, 0⟩ [pair]).1 = .overflow := by
  intro m pair
  have hbefore : (Moment.mk (-1) 0).IsDated := by
    unfold Moment.IsDated
    decide +kernel
  have hdated : (Moment.mk 0 0).IsDated := by
    unfold Moment.IsDated
    decide +kernel
  have hcarried : carried? m.key [pair] = some dawn.print :=
    (decides_cookie m (.replicate 12 0) dawn).carried
  have hparse : Payload.parse dawn.print = .ok dawn := dawn.parse_print
  obtain ⟨hexpired, -⟩ := load_by_age m hbefore hcarried hparse
  obtain ⟨-, -, hoverflow, -⟩ := load_by_age m hdated hcarried hparse
  exact ⟨hbefore, hdated, hcarried, hparse, hexpired.mpr (by decide +kernel),
    hoverflow.mpr (by decide +kernel)⟩

/-- So not everything that is older than `maxAge` has expired. -/
theorem not_expired_iff_older : ¬∀ (m : Manager) (now : Moment), now.IsDated →
    ∀ (headers : List Bytes) (text : Bytes) (p : Payload), carried? m.key headers = some text →
      Payload.parse text = .ok p →
      ((m.load now headers).1 = .error .expired ↔ maxAge < now.wallSecond - p.issuedAt.toInt) := by
  intro hexact
  let m := Manager.ofSecrets Secrets.sample true
  have hdated : (Moment.mk 0 0).IsDated := by
    unfold Moment.IsDated
    decide +kernel
  have hcarried := (decides_cookie m (.replicate 12 0) dawn).carried
  have hexpired := (hexact m ⟨0, 0⟩ hdated _ _ dawn hcarried dawn.parse_print).mpr
    (by decide +kernel)
  have hfar : age? dawn.issuedAt (Moment.mk 0 0).second = none := by decide +kernel
  have hoverflow := load_of_far hcarried dawn.parse_print hfar
  rw [hoverflow] at hexpired
  cases hexpired

end Manager

end SignIn.Session
