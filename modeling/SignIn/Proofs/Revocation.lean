import Mathlib.Algebra.Order.Ring.Rat
import Mathlib.Tactic.Linarith
import SignIn.Session.Revocations

/-!
# The list of revocations and its log

The list forgets, so what it holds has to be told apart from what was revoked. `Records` ties the
two together: against a log of all revocations so far, an entry is the latest one of its id, and an
id that was revoked within the window has an entry. Every operation keeps that, and it is all that
a lookup depends on, so a lookup can be answered from the log alone.
-/

namespace SignIn.Revocations

/-- A log of revocations: whether an id was revoked at an uptime. -/
abbrev Log := Uuid → Rat → Prop

/-- The log with one more revocation. -/
def Log.with (log : Log) (id : Uuid) (now : Rat) : Log := fun i t => log i t ∨ (i = id ∧ t = now)

/-- The entries of a list are what is left of a log at an uptime. -/
structure Records (r : Revocations) (log : Log) (now : Rat) : Prop where
  /-- An entry is a revocation of the log. -/
  logged : ∀ e ∈ r.entries, log e.1 e.2
  /-- It is the latest of its id. -/
  latest : ∀ e ∈ r.entries, ∀ t, log e.1 t → t ≤ e.2
  /-- A revocation that has not grown too old has an entry. -/
  kept : ∀ id t, log id t → now - t < r.window → ∃ e ∈ r.entries, e.1 = id
  /-- No id has two. -/
  distinct : (r.entries.map (·.1)).Nodup
  /-- Nothing was revoked later than now. -/
  past : ∀ id t, log id t → t ≤ now

/-! ## Age -/

theorem isLive_iff {window now t : Rat} (h : t ≤ now) :
    isLive window now t = true ↔ now - t < window := by
  rw [isLive, age, if_pos h, decide_eq_true_iff]

/-! ## Pruning -/

theorem window_prune (r : Revocations) (now : Rat) : (r.prune now).window = r.window := rfl

theorem mem_prune {r : Revocations} {now : Rat} {e : Uuid × Rat} :
    e ∈ (r.prune now).entries ↔ e ∈ r.entries ∧ isLive r.window now e.2 = true := by
  rw [prune, List.mem_filter]

theorem mem_revoke {r : Revocations} {id : Uuid} {now : Rat} {e : Uuid × Rat} :
    e ∈ (r.revoke id now).entries ↔ e = (id, now) ∨ e ∈ (r.prune now).entries ∧ e.1 ≠ id := by
  rw [revoke, List.mem_cons, List.mem_filter, bne_iff_ne]

/-! ## Lookups -/

theorem contains_eq_true_iff {r : Revocations} {id : Uuid} {now : Rat} :
    (r.contains id now).1 = true ↔ ∃ e ∈ r.entries, e.1 = id ∧ isLive r.window now e.2 = true := by
  rw [contains, holds, List.any_eq_true]
  constructor
  · rintro ⟨e, he, hid⟩
    obtain ⟨hmem, hlive⟩ := mem_prune.mp he
    exact ⟨e, hmem, beq_iff_eq.mp hid, hlive⟩
  · rintro ⟨e, hmem, hid, hlive⟩
    exact ⟨e, mem_prune.mpr ⟨hmem, hlive⟩, beq_iff_eq.mpr hid⟩

variable {r : Revocations} {log : Log} {now : Rat}

theorem records_empty (window now : Rat) : Records (empty window) (fun _ _ => False) now where
  logged _ he := absurd he List.not_mem_nil
  latest _ he := absurd he List.not_mem_nil
  kept _ _ h := h.elim
  distinct := List.nodup_nil
  past _ _ h := h.elim

namespace Records

/-- A list stays a record while time passes. -/
theorem later {now' : Rat} (h : Records r log now) (hnow : now ≤ now') : Records r log now' where
  logged := h.logged
  latest := h.latest
  kept id t hlog hage := h.kept id t hlog (by linarith)
  distinct := h.distinct
  past id t hlog := (h.past id t hlog).trans hnow

/-- Pruning drops no revocation that has not grown too old. -/
theorem prune (h : Records r log now) : Records (r.prune now) log now where
  logged e he := h.logged e (mem_prune.mp he).1
  latest e he := h.latest e (mem_prune.mp he).1
  kept id t hlog hage := by
    obtain ⟨e, he, rfl⟩ := h.kept id t hlog hage
    -- The entry may be of a later revocation than `t`, which is younger still.
    have hlate : t ≤ e.2 := h.latest e he t hlog
    have hpast : e.2 ≤ now := h.past e.1 e.2 (h.logged e he)
    rw [window_prune] at hage
    exact ⟨e, mem_prune.mpr ⟨he, (isLive_iff hpast).mpr (by linarith)⟩, rfl⟩
  distinct := h.distinct.sublist (List.filter_sublist.map _)
  past := h.past

/-- **An id is held exactly when it was revoked within the window.** -/
theorem contains_iff (h : Records r log now) (id : Uuid) :
    (r.contains id now).1 = true ↔ ∃ t, log id t ∧ now - t < r.window := by
  constructor
  · intro hheld
    obtain ⟨e, hmem, rfl, hlive⟩ := contains_eq_true_iff.mp hheld
    have hlog := h.logged e hmem
    exact ⟨e.2, hlog, (isLive_iff (h.past _ _ hlog)).mp hlive⟩
  · rintro ⟨t, hlog, hage⟩
    obtain ⟨e, he, hid⟩ := h.prune.kept id t hlog hage
    obtain ⟨hmem, hlive⟩ := mem_prune.mp he
    exact contains_eq_true_iff.mpr ⟨e, hmem, hid, hlive⟩

/-- Looking an id up only prunes. -/
theorem contains (h : Records r log now) (id : Uuid) : Records (r.contains id now).2 log now :=
  h.prune

/-- A revocation takes the place of the earlier ones of its id. -/
theorem revoke (h : Records r log now) (id : Uuid) :
    Records (r.revoke id now) (log.with id now) now := by
  have hprune := h.prune
  constructor
  · intro e he
    rcases mem_revoke.mp he with rfl | ⟨he, -⟩
    · exact .inr ⟨rfl, rfl⟩
    · exact .inl (hprune.logged e he)
  · intro e he t hlog
    rcases mem_revoke.mp he with rfl | ⟨he, hne⟩
    · rcases hlog with hlog | ⟨-, rfl⟩
      · exact h.past id t hlog
      · exact le_rfl
    · rcases hlog with hlog | ⟨hid, -⟩
      · exact hprune.latest e he t hlog
      · exact absurd hid hne
  · intro i t hlog hage
    by_cases hi : i = id
    · exact ⟨(id, now), mem_revoke.mpr (.inl rfl), hi.symm⟩
    · rcases hlog with hlog | ⟨hid, -⟩
      · obtain ⟨e, he, rfl⟩ := hprune.kept i t hlog hage
        exact ⟨e, mem_revoke.mpr (.inr ⟨he, hi⟩), rfl⟩
      · exact absurd hid hi
  · rw [Revocations.revoke, List.map_cons, List.nodup_cons]
    constructor
    · rw [List.mem_map]
      rintro ⟨e, he, hid⟩
      have hne := (List.mem_filter.mp he).2
      simp [hid] at hne
    · exact hprune.distinct.sublist (List.filter_sublist.map _)
  · intro i t hlog
    rcases hlog with hlog | ⟨-, rfl⟩
    · exact h.past i t hlog
    · exact le_rfl

end Records

end SignIn.Revocations
