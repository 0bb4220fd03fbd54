import SignIn.Uuid

/-!
# Revoked sessions

The ids of the sessions that were logged out, each with the uptime at which it last was. An entry
is forgotten when it is as old as the window: every operation, reading included, first drops the
entries that are.
-/

namespace SignIn

/-- The ids that were revoked within the last window. -/
structure Revocations where
  /-- The number of milliseconds, and parts of one, that a revocation is kept. -/
  window : Rat
  /-- The ids and when they were last revoked, the latest first. -/
  entries : List (Uuid × Rat)
  deriving DecidableEq, Repr

namespace Revocations

def empty (window : Rat) : Revocations := ⟨window, []⟩

/-- How old a revocation is. One that seems to lie in the future has no age. -/
def age (now revokedAt : Rat) : Rat := if revokedAt ≤ now then now - revokedAt else 0

/-- Whether a revocation is still kept. -/
def isLive (window now revokedAt : Rat) : Bool := age now revokedAt < window

/-- Drops the entries that have grown too old. -/
def prune (r : Revocations) (now : Rat) : Revocations :=
  { r with entries := r.entries.filter fun e => isLive r.window now e.2 }

def holds (r : Revocations) (id : Uuid) : Bool := r.entries.any (·.1 == id)

def revoke (r : Revocations) (id : Uuid) (now : Rat) : Revocations :=
  let r := r.prune now
  { r with entries := (id, now) :: r.entries.filter (·.1 != id) }

/-- Whether an id is revoked, and the list without the entries that have grown too old. -/
def contains (r : Revocations) (id : Uuid) (now : Rat) : Bool × Revocations :=
  let r := r.prune now
  (r.holds id, r)

end Revocations

end SignIn
