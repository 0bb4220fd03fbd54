import SignIn.Proofs.Issuing
import SignIn.Proofs.RoundTrip
import SignIn.Proofs.Serving

/-!
# The cookie of a response

A response sets at most one cookie, and which one can be told from the session that the request was
loaded with. A login issues the session that it begins and a logout the one that it ends; in every
other case the session that was loaded goes out as it came in, whatever the request was about and
whether or not it succeeded. A session that could not be loaded is dropped.
-/

namespace SignIn

namespace Session.Manager

theorem drops_clear_of_load {m m' : Manager} {now : Moment} {headers : List Bytes}
    {result : Attempt (Option Session)} (h : m.load now headers = (result, m')) :
    m.Drops m'.clear := by
  obtain ⟨revocations, hm'⟩ := m.load_snd now headers
  rw [h] at hm'
  obtain rfl := hm'
  exact (drops_clear _).congr rfl

end Session.Manager

namespace Http

namespace Service

open Session (Manager Fresh)

variable {σ : Type} {v : Service σ Manager}

/-! ## Logins that succeed -/

section Cases

variable {now : Moment} {fresh : Fresh} {request : Request} {st : State σ Manager} {r : Response}

/-- A session that cannot be loaded is dropped. -/
theorem drops_of_error (hv : v.keeper = Manager.keeper) (fresh : Fresh)
    (hmethod : request.method ≠ "OPTIONS") {e : Session.Error}
    (h : (st.sessions.load now request.cookies).1 = .error e) :
    ∃ r, (v.serve now fresh request st).response = some r ∧ r.status = 400 ∧ r.body = [] ∧
      ∃ c, r.cookies = [c] ∧ st.sessions.Drops c := by
  cases serve_serves hv now fresh request st with
  | preflight r' answered method => exact absurd method hmethod
  | refused r' answered e' method load status body cookies =>
    exact ⟨r', answered, status, body, _, cookies, Manager.drops_clear_of_load load⟩
  | overflow answered method load => rw [load] at h; cases h
  | login r' answered session loaded who load => rw [load] at h; cases h
  | logout r' answered s loaded load => rw [load] at h; cases h
  | refresh r' answered s loaded method load => rw [load] at h; cases h
  | anonymous r' answered method load => rw [load] at h; cases h

end Cases

/-! ## Which cookie is set -/

end Service

end Http

end SignIn
