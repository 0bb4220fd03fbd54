import Mathlib.Data.List.Induction
import SignIn.Proofs.Revocation

/-!
# The list of revocations refines its log

Every operation drops entries, so the list forgets more and more of what was done to it. It loses
nothing by that: after any run of operations a lookup answers as the whole log of the run would,
and the entries are the latest revocations in the log that have not grown too old.
-/

namespace SignIn.Revocations

/-! ## Runs -/

/-- An operation on the list, at an uptime. -/
inductive Operation where
  | revoke (id : Uuid) (now : Rat)
  | contains (id : Uuid) (now : Rat)
  deriving DecidableEq, Repr

namespace Operation

def now : Operation → Rat
  | revoke _ now => now
  | contains _ now => now

/-- The list that an operation leaves. -/
def perform (r : Revocations) : Operation → Revocations
  | revoke id now => r.revoke id now
  | contains id now => (r.contains id now).2

/-- The entries that an operation makes. -/
def made : Operation → List (Uuid × Rat)
  | revoke id now => [(id, now)]
  | contains _ _ => []

end Operation

/-- The list that operations leave, done one after the other on a list that is empty at first. -/
def run (window : Rat) (ops : List Operation) : Revocations :=
  ops.foldl Operation.perform (empty window)

/-- Everything that operations revoked. -/
def Log.of (ops : List Operation) : Log := fun id t => .revoke id t ∈ ops

/-- An uptime is the latest at which an id was revoked. -/
def Log.Latest (log : Log) (id : Uuid) (t : Rat) : Prop := log id t ∧ ∀ t', log id t' → t' ≤ t

/-- The uptime does not go back from one operation to the next. -/
def Ordered (ops : List Operation) : Prop := ops.Pairwise fun a b => a.now ≤ b.now

instance (ops : List Operation) : Decidable (Ordered ops) :=
  inferInstanceAs (Decidable (ops.Pairwise _))

theorem run_append (window : Rat) (ops : List Operation) (op : Operation) :
    run window (ops ++ [op]) = op.perform (run window ops) := by
  rw [run, List.foldl_append, List.foldl_cons, List.foldl_nil, run]

theorem window_perform (r : Revocations) (op : Operation) : (op.perform r).window = r.window := by
  cases op <;> rfl

theorem window_run (window : Rat) (ops : List Operation) : (run window ops).window = window := by
  induction ops using List.reverseRecOn with
  | nil => rfl
  | append_singleton ops op ih => rw [run_append, window_perform, ih]

/-- The last operation of an ordered run is the latest. -/
theorem Ordered.le_last {ops : List Operation} {op : Operation} (h : Ordered (ops ++ [op])) :
    ∀ x ∈ ops, x.now ≤ op.now := fun x hx =>
  (List.pairwise_append.mp h).2.2 x hx op (List.mem_singleton_self op)

theorem Ordered.front {ops rest : List Operation} (h : Ordered (ops ++ rest)) : Ordered ops :=
  (List.pairwise_append.mp h).1

/-! ## What a run keeps -/

theorem of_revoke (ops : List Operation) (id : Uuid) (now : Rat) :
    Log.of (ops ++ [.revoke id now]) = (Log.of ops).with id now := by
  funext i t
  simp [Log.of, Log.with]

theorem of_contains (ops : List Operation) (id : Uuid) (now : Rat) :
    Log.of (ops ++ [.contains id now]) = Log.of ops := by
  funext i t
  simp [Log.of]

/-- An operation keeps the list a record of what was done. -/
theorem Records.perform {r : Revocations} {ops : List Operation} {op : Operation}
    (h : Records r (.of ops) op.now) : Records (op.perform r) (.of (ops ++ [op])) op.now := by
  cases op with
  | revoke id now =>
    rw [of_revoke]
    exact h.revoke id
  | contains id now =>
    rw [of_contains]
    exact h.contains id

/-- **The list is a record of the run at any later time.** -/
theorem records_run (window : Rat) {ops : List Operation} (h : Ordered ops) {now : Rat}
    (hnow : ∀ op ∈ ops, op.now ≤ now) : Records (run window ops) (.of ops) now := by
  induction ops using List.reverseRecOn generalizing now with
  | nil =>
    have hnone : Log.of [] = fun _ _ => False := by
      funext id t
      simp [Log.of]
    rw [hnone]
    exact records_empty window now
  | append_singleton ops op ih =>
    rw [run_append]
    exact (ih h.front h.le_last).perform.later (hnow op (by simp))

/-! ## What is stored -/

/-- An operation leaves nothing that has grown too old, what it made itself included, unless the
window has no length. -/
theorem isLive_of_mem_perform {r : Revocations} {op : Operation} {e : Uuid × Rat}
    (hwindow : 0 < r.window) (he : e ∈ (op.perform r).entries) :
    isLive r.window op.now e.2 = true := by
  cases op with
  | revoke id now =>
    rcases mem_revoke.mp he with rfl | ⟨he, -⟩
    · refine (isLive_iff (le_refl now)).mpr ?_
      rwa [sub_self]
    · exact (mem_prune.mp he).2
  | contains id now => exact (mem_prune.mp he).2

/-- In a record without entries that have grown too old, these are the latest revocations that have
not. -/
theorem Records.mem_iff {r : Revocations} {log : Log} {now : Rat} (h : Records r log now)
    (hlive : ∀ e ∈ r.entries, now - e.2 < r.window) (id : Uuid) (t : Rat) :
    (id, t) ∈ r.entries ↔ log.Latest id t ∧ now - t < r.window := by
  constructor
  · intro hmem
    exact ⟨⟨h.logged _ hmem, h.latest _ hmem⟩, hlive _ hmem⟩
  · rintro ⟨⟨hlog, hlatest⟩, hage⟩
    obtain ⟨e, he, rfl⟩ := h.kept id t hlog hage
    have ht : e.2 = t := le_antisymm (hlatest e.2 (h.logged e he)) (h.latest e he t hlog)
    rw [← ht]
    exact he

/-- A list whose window has no length stores nothing but what an operation made. -/
theorem entries_perform_of_nonpos {r : Revocations} {log : Log} {op : Operation}
    (h : Records r log op.now) (hwindow : r.window ≤ 0) : (op.perform r).entries = op.made := by
  have hnone : (r.prune op.now).entries = [] := by
    refine List.eq_nil_iff_forall_not_mem.mpr fun e he => ?_
    obtain ⟨hmem, hlive⟩ := mem_prune.mp he
    have hpast := h.past _ _ (h.logged e hmem)
    have hage := (isLive_iff hpast).mp hlive
    linarith
  cases op with
  | revoke id now =>
    have hprune : (r.prune now).entries = [] := hnone
    rw [Operation.perform, revoke]
    dsimp only
    rw [hprune]
    rfl
  | contains id now => exact hnone

/-- **The list refines its log.** Take any run of operations on a list with any window, in which
the uptime never goes back. A lookup finds an id exactly if some earlier revocation of it is
younger than the window. After each operation no id is stored twice; and if the window has some
length, what is stored are the ids whose latest revocation is younger than the window, each with
the uptime of that one. If it has none, no revocation is ever found, but one is stored until the
next operation. -/
theorem list_refines_log (window : Rat) {ops : List Operation} (h : Ordered ops) :
    ∀ before op after, ops = before ++ op :: after →
      (∀ id now, op = .contains id now → (((run window before).contains id now).1 = true ↔
        ∃ t, .revoke id t ∈ before ∧ now - t < window)) ∧
      ((run window (before ++ [op])).entries.map (·.1)).Nodup ∧
      (0 < window → ∀ id t, (id, t) ∈ (run window (before ++ [op])).entries ↔
        (Log.of (before ++ [op])).Latest id t ∧ op.now - t < window) ∧
      (window ≤ 0 → (run window (before ++ [op])).entries = op.made) := by
  rintro before op after rfl
  have hordered : Ordered (before ++ [op]) := by
    rw [List.append_cons] at h
    exact h.front
  have hbefore : Records (run window before) (.of before) op.now :=
    records_run window hordered.front hordered.le_last
  have hafter : Records (run window (before ++ [op])) (.of (before ++ [op])) op.now := by
    rw [run_append]
    exact hbefore.perform
  refine ⟨?_, hafter.distinct, fun hwindow id t => ?_, fun hwindow => ?_⟩
  · rintro id now rfl
    have hfound := hbefore.contains_iff id
    rwa [window_run] at hfound
  · have hlive : ∀ e ∈ (run window (before ++ [op])).entries,
        op.now - e.2 < (run window (before ++ [op])).window := by
      intro e he
      have hpast := hafter.past _ _ (hafter.logged e he)
      rw [run_append] at he ⊢
      rw [window_perform]
      exact (isLive_iff hpast).mp (isLive_of_mem_perform (by rwa [window_run]) he)
    have hmem := hafter.mem_iff hlive id t
    rwa [window_run] at hmem
  · rw [run_append]
    exact entries_perform_of_nonpos hbefore (by rwa [window_run])

/-- A run in which an id is revoked again at the moment at which its first revocation
is dropped. -/
def againRun (again other : Uuid) : List Operation :=
  [.revoke again 0, .revoke other 30000, .contains again 60000, .revoke again 60000,
    .contains again 119999]

/-- The first revocation is not found any more, the second one is; both ids are stored
in between. -/
theorem list_refines_log_again :
    let other : Uuid := ⟨List.replicate 16 1, rfl⟩
    let ops := againRun .zero other
    Ordered ops ∧
      ((run 60000 (ops.take 2)).contains .zero 60000).1 = false ∧
      (.zero, 60000) ∈ (run 60000 (ops.take 4)).entries ∧
      (other, 30000) ∈ (run 60000 (ops.take 4)).entries ∧
      ((run 60000 (ops.take 4)).contains .zero 119999).1 = true := by
  intro other ops
  have hordered : Ordered ops := by decide +kernel
  have hne : other ≠ .zero := by decide +kernel
  have hmain := list_refines_log 60000 hordered
  obtain ⟨hfirst, -, -, -⟩ := hmain (ops.take 2) (.contains .zero 60000) (ops.drop 3) rfl
  obtain ⟨-, -, hstored, -⟩ := hmain (ops.take 3) (.revoke .zero 60000) (ops.drop 4) rfl
  obtain ⟨hsecond, -, -, -⟩ := hmain (ops.take 4) (.contains .zero 119999) [] rfl
  have hlog : ∀ id t, Log.of (ops.take 4) id t ↔
      id = .zero ∧ (t = 0 ∨ t = 60000) ∨ id = other ∧ t = 30000 := by
    intro id t
    simp only [Log.of, ops, againRun, List.take, List.mem_cons, List.not_mem_nil, or_false,
      Operation.revoke.injEq, reduceCtorEq, false_or]
    tauto
  refine ⟨hordered, ?_, ?_, ?_, ?_⟩
  · rw [← Bool.not_eq_true, hfirst .zero 60000 rfl]
    rintro ⟨t, ht, hage⟩
    simp only [ops, againRun, List.take, List.mem_cons, List.not_mem_nil, or_false,
      Operation.revoke.injEq] at ht
    rcases ht with ⟨-, rfl⟩ | ⟨hid, -⟩
    · norm_num at hage
    · exact hne hid.symm
  · refine (hstored (by norm_num) .zero 60000).mpr
      ⟨⟨(hlog _ _).mpr (.inl ⟨rfl, .inr rfl⟩), ?_⟩, ?_⟩
    · intro t ht
      rcases (hlog _ _).mp ht with ⟨-, rfl | rfl⟩ | ⟨-, rfl⟩ <;> norm_num
    · norm_num [Operation.now]
  · refine (hstored (by norm_num) other 30000).mpr ⟨⟨(hlog _ _).mpr (.inr ⟨rfl, rfl⟩), ?_⟩, ?_⟩
    · intro t ht
      rcases (hlog _ _).mp ht with ⟨hid, -⟩ | ⟨-, rfl⟩
      · exact absurd hid hne
      · exact le_rfl
    · norm_num [Operation.now]
  · refine (hsecond .zero 119999 rfl).mpr ⟨60000, ?_, by norm_num⟩
    simp [ops, againRun]

/-- With a window of no length an id is stored as soon as it is revoked, and is too old already. -/
theorem not_stored_iff_live : ¬∀ (window : Rat) (ops : List Operation), 0 ≤ window → Ordered ops →
    ∀ before op after, ops = before ++ op :: after →
      ∀ id t, (id, t) ∈ (run window (before ++ [op])).entries ↔
        (Log.of (before ++ [op])).Latest id t ∧ op.now - t < window := by
  intro hstored
  have hordered : Ordered [.revoke .zero 0] := by decide
  have hmem : (Uuid.zero, (0 : Rat)) ∈ (run 0 [.revoke .zero 0]).entries := by decide +kernel
  obtain ⟨-, hage⟩ :=
    (hstored 0 _ (le_refl 0) hordered [] (.revoke .zero 0) [] rfl .zero 0).mp hmem
  exact lt_irrefl 0 ((sub_self (0 : Rat)).symm.trans_lt hage)

end SignIn.Revocations
