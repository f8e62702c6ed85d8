/-
Dated logs, sliding windows and retention.

A log is a list of entries with a time `stamp`. A rate limiter that looks only at what is
recent when it admits a batch bounds every window there ever is, and it may look at a pruned
copy of the log as long as what is pruned is older than its windows.

* `Bounded`, `Bounded.append`: at most so many entries in every window; a batch that fits the
  window ending when it is admitted fits them all.
* `Alike`, `Alike.append`: entries close together agree; a batch that agrees with what is
  recent agrees with everything close.
* `Retains`: a ledger holds what is recent of a log; `Retains.record` is one pruning append.
-/
import A4s.Go.Result

namespace Go

variable {α β : Type} {stamp : α → ℤ} {width now : ℤ}

/-- The entries after an instant. -/
def since (stamp : α → ℤ) (cutoff : ℤ) (log : List α) : List α :=
  log.filter fun x => decide (cutoff < stamp x)

lemma mem_since {cutoff : ℤ} {log : List α} {x : α} :
    x ∈ since stamp cutoff log ↔ x ∈ log ∧ cutoff < stamp x := by
  rw [since, List.mem_filter, decide_eq_true_iff]

lemma since_append (cutoff : ℤ) (log log' : List α) :
    since stamp cutoff (log ++ log') = since stamp cutoff log ++ since stamp cutoff log' :=
  List.filter_append _ _

/-- Of two cutoffs the later one counts. -/
lemma since_since {cutoff later : ℤ} (h : cutoff ≤ later) (log : List α) :
    since stamp later (since stamp cutoff log) = since stamp later log := by
  rw [since, since, since, List.filter_filter]
  refine List.filter_congr fun x _ => ?_
  rw [← Bool.decide_and, decide_eq_decide]
  omega

/-! ### Windows -/

/-- How many entries lie in the window `(t - width, t]`. -/
def within (stamp : α → ℤ) (width t : ℤ) (log : List α) : ℕ :=
  log.countP fun x => decide (t - width < stamp x ∧ stamp x ≤ t)

/-- No window holds more than `limit` entries. -/
def Bounded (stamp : α → ℤ) (width limit : ℤ) (log : List α) : Prop :=
  ∀ t, within stamp width t log ≤ limit

/-- **A batch that fits the window ending when it is admitted fits every window.** -/
theorem Bounded.append {limit : ℤ} {log batch : List α} (h : Bounded stamp width limit log)
    (hbatch : ∀ x ∈ batch, now ≤ stamp x)
    (hroom : ((since stamp (now - width) log).length + batch.length : ℤ) ≤ limit) :
    Bounded stamp width limit (log ++ batch) := by
  intro t
  rw [within, List.countP_append]
  by_cases ht : t < now
  · -- the window ends before the batch
    have hnone : batch.countP (fun x => decide (t - width < stamp x ∧ stamp x ≤ t)) = 0 := by
      refine List.countP_eq_zero.mpr fun x hx => ?_
      have hlate := hbatch x hx
      rw [decide_eq_true_iff]
      omega
    rw [hnone, add_zero]
    exact h t
  · -- of the log, the window holds only what was recent at the admission
    have hold : log.countP (fun x => decide (t - width < stamp x ∧ stamp x ≤ t)) ≤
        (since stamp (now - width) log).length := by
      rw [since, ← List.countP_eq_length_filter]
      refine List.countP_mono_left fun x _ hx => ?_
      rw [decide_eq_true_iff] at hx ⊢
      omega
    have hnew : batch.countP (fun x => decide (t - width < stamp x ∧ stamp x ≤ t)) ≤
        batch.length := List.countP_le_length
    omega

/-! ### Entries close together -/

/-- Entries less than `gap` apart have the same `trait`. -/
def Alike (stamp : α → ℤ) (gap : ℤ) (trait : α → β) (log : List α) : Prop :=
  ∀ x ∈ log, ∀ y ∈ log, |stamp x - stamp y| < gap → trait x = trait y

/-- **A batch of one trait that agrees with what is recent agrees with everything close.** -/
theorem Alike.append {gap : ℤ} {trait : α → β} {log batch : List α} (h : Alike stamp gap trait log)
    (hbatch : ∀ x ∈ batch, now ≤ stamp x) (hone : ∀ x ∈ batch, ∀ y ∈ batch, trait x = trait y)
    (hrecent : ∀ x ∈ since stamp (now - gap) log, ∀ y ∈ batch, trait x = trait y) :
    Alike stamp gap trait (log ++ batch) := by
  have hacross : ∀ x ∈ log, ∀ y ∈ batch, |stamp x - stamp y| < gap → trait x = trait y := by
    intro x hx y hy hclose
    have hlate := hbatch y hy
    rw [abs_lt] at hclose
    exact hrecent x (mem_since.mpr ⟨hx, by omega⟩) y hy
  intro x hx y hy hclose
  rcases List.mem_append.mp hx with hx | hx <;> rcases List.mem_append.mp hy with hy | hy
  · exact h x hx y hy hclose
  · exact hacross x hx y hy hclose
  · rw [abs_sub_comm] at hclose
    exact (hacross y hy x hx hclose).symm
  · exact hone x hx y hy

/-! ### Retention -/

/-- The ledger is part of the log and holds all of it that is less than `keep` old. -/
structure Retains (stamp : α → ℤ) (keep clock : ℤ) (ledger log : List α) : Prop where
  part : ledger.Sublist log
  recent : ∀ cutoff, clock - keep ≤ cutoff → since stamp cutoff ledger = since stamp cutoff log

namespace Retains

variable {keep clock : ℤ} {ledger log : List α}

lemma refl (log : List α) : Retains stamp keep clock log log :=
  ⟨List.Sublist.refl log, fun _ _ => rfl⟩

/-- As time passes less is recent. -/
lemma later (h : Retains stamp keep clock ledger log) (hle : clock ≤ now) :
    Retains stamp keep now ledger log :=
  ⟨h.part, fun cutoff hcutoff => h.recent cutoff (by omega)⟩

/-- **A pruning append**: the entry joins both, and the ledger forgets what is too old. -/
lemma record (h : Retains stamp keep clock ledger log) (x : α) (hle : clock ≤ now) :
    Retains stamp keep now (since stamp (now - keep) (ledger ++ [x])) (log ++ [x]) := by
  constructor
  · exact List.filter_sublist.trans (h.part.append (List.Sublist.refl [x]))
  · intro cutoff hcutoff
    rw [since_since hcutoff, since_append, since_append, h.recent cutoff (by omega)]

end Retains

end Go
