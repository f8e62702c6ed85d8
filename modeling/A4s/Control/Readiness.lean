/-
How long an allocation has been ready, as far as its measurements say.

Readiness is perishable: a measurement is good until it runs out. A measurement that is recorded
goes on with the run of readiness if the one before it was still good, and starts it anew if not
(`applyReadiness` of `control/projection.go`). A round of the engine records its measurement only
if there is something to record (`refreshReadiness` of `control/engine.go`): one that is still
good is not renewed.

* `Readiness`: what an allocation remembers; `measured`, `refreshed`: the two ways in which a
  measurement that finds it ready changes that.
* `Occasion`, `afterAll`: a history of measurements.
* `Unbroken`: every measurement finds a recorded one that has not run out yet.
* `length_afterAll_iff`: **the length of a run of readiness**. It is counted from the first round
  exactly if the run begins there and is unbroken.
-/
import A4s.Control.Canary

namespace A4s

open Go

/-- What an allocation remembers of its measurements. -/
structure Readiness where
  ready : Bool
  since : Time
  expires : Time
  deriving DecidableEq

def Allocation.readiness (a : Allocation) : Readiness :=
  { ready := a.ready, since := a.readySince, expires := a.readyExpiresAt }

namespace Readiness

/-- Ready, and not run out. -/
def holds (r : Readiness) (now : Time) : Bool :=
  r.ready && (decide (r.expires = 0) || decide (now < r.expires))

/-- How long it has been ready. -/
def length (r : Readiness) (now : Time) : Duration :=
  if !r.holds now || decide (r.since = 0) || decide (now < r.since) then 0 else now - r.since

lemma holds_iff {r : Readiness} {now : Time} :
    r.holds now = true ↔ r.ready = true ∧ (r.expires = 0 ∨ now < r.expires) := by
  simp only [holds, Bool.and_eq_true, Bool.or_eq_true, decide_eq_true_eq]

lemma length_of_holds {r : Readiness} {now : Time} (h : r.holds now = true) :
    r.length now = if r.since = 0 ∨ now < r.since then 0 else now - r.since := by
  simp only [length, h, Bool.not_true, Bool.false_or, Bool.or_eq_true, decide_eq_true_eq]

/-- A measurement that is recorded and finds the allocation ready. -/
def measured (ttl : Duration) (t : Time) (r : Readiness) : Readiness :=
  { ready := true
    since := if r.holds t = true ∧ r.since ≠ 0 then r.since else t
    expires := t + ttl }

/-- The measurement of a round that finds the allocation ready. -/
def refreshed (ttl : Duration) (t : Time) (r : Readiness) : Readiness :=
  if r.holds t = true then r else r.measured ttl t

end Readiness

/-! ### Histories -/

/-- A measurement, in a round of the engine or recorded in any case. -/
inductive Occasion where
  | round (t : Time)
  | observed (t : Time)
  deriving DecidableEq

def Occasion.time : Occasion → Time
  | .round t => t
  | .observed t => t

namespace Readiness

/-- What is remembered after one measurement. -/
def after (ttl : Duration) (r : Readiness) : Occasion → Readiness
  | .round t => r.refreshed ttl t
  | .observed t => r.measured ttl t

/-- What is remembered after a history of measurements. -/
def afterAll (ttl : Duration) (r : Readiness) (history : List Occasion) : Readiness :=
  history.foldl (after ttl) r

end Readiness

/-- The time of the last measurement. -/
def lastTime (t : Time) (history : List Occasion) : Time := history.foldl (fun _ o => o.time) t

/-- The times of the history increase from the given one. -/
def Increasing (t : Time) : List Occasion → Prop
  | [] => True
  | o :: history => t < o.time ∧ Increasing o.time history

/-- Every measurement comes before what is recorded runs out. Rounds do not put that off. -/
def Unbroken (ttl : Duration) (expires : Time) : List Occasion → Prop
  | [] => True
  | .round t :: history => (expires = 0 ∨ t < expires) ∧ Unbroken ttl expires history
  | .observed t :: history => (expires = 0 ∨ t < expires) ∧ Unbroken ttl (t + ttl) history

lemma lastTime_gt {t : Time} {history : List Occasion} (h : Increasing t history)
    (hne : history ≠ []) : t < lastTime t history := by
  induction history generalizing t with
  | nil => exact absurd rfl hne
  | cons o history ih =>
    obtain ⟨hfirst, hrest⟩ := h
    by_cases hnil : history = []
    · subst hnil
      exact hfirst
    · exact hfirst.trans (ih hrest hnil)

lemma Increasing.pos {t : Time} {history : List Occasion} (ht : 0 < t)
    (h : Increasing t history) : ∀ o ∈ history, 0 < o.time := by
  induction history generalizing t with
  | nil => exact List.forall_mem_nil _
  | cons o history ih =>
    have hpos : 0 < o.time := ht.trans h.1
    exact List.forall_mem_cons.mpr ⟨hpos, ih hpos h.2⟩

/-- Between rounds alone, nothing is renewed. -/
lemma unbroken_rounds_iff {ttl : Duration} {expires t : Time} {times : List Time}
    (h : Increasing t (times.map .round)) (hstart : expires = 0 ∨ t < expires) :
    Unbroken ttl expires (times.map .round) ↔
      expires = 0 ∨ lastTime t (times.map .round) < expires := by
  induction times generalizing t with
  | nil => exact iff_of_true trivial hstart
  | cons u times ih =>
    obtain ⟨-, hrest⟩ := h
    rw [List.map_cons, Unbroken]
    change _ ↔ expires = 0 ∨ lastTime u (times.map .round) < expires
    constructor
    · rintro ⟨hu, htimes⟩
      exact (ih hrest hu).mp htimes
    · intro hlast
      have hu : expires = 0 ∨ u < expires := by
        refine hlast.imp_right fun hlast => lt_of_le_of_lt ?_ hlast
        by_cases hnil : times.map Occasion.round = []
        · rw [hnil]
          exact le_rfl
        · exact (lastTime_gt hrest hnil).le
      exact ⟨hu, (ih hrest hu).mpr hlast⟩

/-! ### The run of readiness -/

namespace Readiness

variable {ttl : Duration} {r : Readiness} {t : Time} {history : List Occasion}

lemma measured_holds (httl : 0 < ttl) : (r.measured ttl t).holds t = true := by
  rw [holds_iff]
  exact ⟨rfl, .inr (lt_add_of_pos_right t httl)⟩

lemma refreshed_holds (httl : 0 < ttl) : (r.refreshed ttl t).holds t = true := by
  rw [refreshed]
  split_ifs with h
  · exact h
  · exact measured_holds httl

/-- A second prober finds nothing to record. -/
lemma refreshed_again (httl : 0 < ttl) :
    (r.refreshed ttl t).refreshed ttl t = r.refreshed ttl t := if_pos (refreshed_holds httl)

lemma after_holds (httl : 0 < ttl) (o : Occasion) : (r.after ttl o).holds o.time = true := by
  cases o with
  | round t => exact refreshed_holds httl
  | observed t => exact measured_holds httl

/-- Every measurement leaves the allocation ready. -/
lemma afterAll_holds (httl : 0 < ttl) (h : r.holds t = true) :
    (r.afterAll ttl history).holds (lastTime t history) = true := by
  induction history generalizing r t with
  | nil => exact h
  | cons o history ih => exact ih (after_holds httl o)

/-- A run goes on, or begins at the measurement. -/
lemma since_after (o : Occasion) :
    (r.after ttl o).since = r.since ∨ (r.after ttl o).since = o.time := by
  cases o with
  | round t =>
    simp only [after, refreshed, measured, Occasion.time]
    split_ifs <;> simp
  | observed t =>
    simp only [after, measured, Occasion.time]
    split_ifs <;> simp

/-- The run at the end is the one of the start, or began later. -/
lemma since_afterAll (h : Increasing t history) :
    (r.afterAll ttl history).since = r.since ∨ t < (r.afterAll ttl history).since := by
  induction history generalizing r t with
  | nil => exact .inl rfl
  | cons o history ih =>
    obtain ⟨hfirst, hrest⟩ := h
    change ((r.after ttl o).afterAll ttl history).since = _ ∨
      t < ((r.after ttl o).afterAll ttl history).since
    rcases ih (r := r.after ttl o) hrest with hsame | hlater
    · rw [hsame]
      refine (since_after o).imp_right fun hnew => ?_
      rw [hnew]
      exact hfirst
    · exact .inr (hfirst.trans hlater)

/-- What is still good at a measurement is carried on. -/
lemma after_of_holds {o : Occasion} (h : r.holds o.time = true) (hsince : r.since ≠ 0) :
    (r.after ttl o).since = r.since := by
  cases o with
  | round t => exact congrArg Readiness.since (if_pos h)
  | observed t => exact if_pos ⟨h, hsince⟩

/-- What has run out is started anew. -/
lemma after_of_not_holds {o : Occasion} (h : ¬ r.holds o.time = true) :
    (r.after ttl o).since = o.time := by
  cases o with
  | round t =>
    have hrecorded : r.after ttl (.round t) = r.measured ttl t := if_neg h
    rw [hrecorded]
    exact if_neg fun hboth => h hboth.1
  | observed t => exact if_neg fun hboth => h hboth.1

/-- When the next measurement comes in time, the history goes on from it. -/
lemma unbroken_cons_iff {o : Occasion} (hready : r.ready = true) :
    Unbroken ttl r.expires (o :: history) ↔
      r.holds o.time = true ∧ Unbroken ttl (r.after ttl o).expires history := by
  rw [holds_iff, and_iff_right hready]
  cases o with
  | round t =>
    refine and_congr_right fun hgood => ?_
    have hholds : r.holds t = true := holds_iff.mpr ⟨hready, hgood⟩
    rw [after, refreshed, if_pos hholds]
  | observed t => exact Iff.rfl

lemma after_ready (httl : 0 < ttl) (o : Occasion) : (r.after ttl o).ready = true :=
  (holds_iff.mp (after_holds httl o)).1

/-- **An unbroken run** is the same run at its end. -/
theorem since_of_unbroken (httl : 0 < ttl) (hready : r.ready = true) (hsince : r.since ≠ 0)
    (h : Unbroken ttl r.expires history) : (r.afterAll ttl history).since = r.since := by
  induction history generalizing r with
  | nil => rfl
  | cons o history ih =>
    obtain ⟨hgood, hrest⟩ := (unbroken_cons_iff hready).mp h
    have hkept : (r.after ttl o).since = r.since := after_of_holds hgood hsince
    rw [← hkept]
    exact ih (after_ready httl o) (hkept ▸ hsince) hrest

/-- **A broken run** is replaced by one that begins later. -/
theorem since_of_broken (httl : 0 < ttl) (hready : r.ready = true) (htimes : Increasing t history)
    (h : ¬ Unbroken ttl r.expires history) : t < (r.afterAll ttl history).since := by
  induction history generalizing r t with
  | nil => exact absurd trivial h
  | cons o history ih =>
    obtain ⟨hfirst, hrest⟩ := htimes
    rw [unbroken_cons_iff hready, not_and_or] at h
    change t < ((r.after ttl o).afterAll ttl history).since
    rcases h with hlate | hlater
    · -- the run restarts here, and whatever comes after begins no earlier
      have hnew : (r.after ttl o).since = o.time := after_of_not_holds hlate
      rcases since_afterAll (r := r.after ttl o) hrest with hsame | hlater
      · rw [hsame, hnew]
        exact hfirst
      · exact hfirst.trans hlater
    · exact hfirst.trans (ih (after_ready httl o) hrest hlater)

end Readiness

/-- The run of readiness begins at the first round and is unbroken. If the allocation is ready
already, the round records nothing. -/
def Kept (ttl : Duration) (r : Readiness) (t : Time) (history : List Occasion) : Prop :=
  if r.holds t = true then
    (r.since = t ∨ history = [] ∧ (r.since = 0 ∨ t < r.since)) ∧ Unbroken ttl r.expires history
  else Unbroken ttl (t + ttl) history

/-- A span up to `last` is counted from `t` if it begins there, or if no time has passed and it has
no beginning up to then. -/
lemma span_iff {t since last : ℤ} (ht : 0 < t) (hlast : t ≤ last) :
    (if since = 0 ∨ last < since then 0 else last - since) = last - t ↔
      since = t ∨ last = t ∧ (since = 0 ∨ t < since) := by
  split_ifs <;> omega

/-- **The length of a run of readiness** after a first round and a history of measurements that all
find the allocation ready. -/
theorem length_afterAll_iff {ttl : Duration} {r : Readiness} {t : Time} {history : List Occasion}
    (httl : 0 < ttl) (ht : 0 < t) (htimes : Increasing t history) :
    (r.afterAll ttl (.round t :: history)).length (lastTime t history) = lastTime t history - t ↔
      Kept ttl r t history := by
  have hholds : (r.refreshed ttl t).holds t = true := Readiness.refreshed_holds httl
  have hready : (r.refreshed ttl t).ready = true := (Readiness.holds_iff.mp hholds).1
  have hempty : lastTime t history = t ↔ history = [] := by
    constructor
    · intro hsame
      by_contra hne
      exact (lastTime_gt htimes hne).ne' hsame
    · rintro rfl
      rfl
  have hle : t ≤ lastTime t history := by
    by_cases hnil : history = []
    · exact (hempty.mpr hnil).ge
    · exact (lastTime_gt htimes hnil).le
  -- a run that has been broken begins after the first round
  have hbroken : ¬ Unbroken ttl (r.refreshed ttl t).expires history →
      ¬ (((r.refreshed ttl t).afterAll ttl history).since = t ∨ lastTime t history = t ∧
        (((r.refreshed ttl t).afterAll ttl history).since = 0 ∨
          t < ((r.refreshed ttl t).afterAll ttl history).since)) := by
    rintro hbroken (hsame | ⟨hsame, -⟩)
    · exact (Readiness.since_of_broken httl hready htimes hbroken).ne' hsame
    · rw [hempty.mp hsame] at hbroken
      exact hbroken trivial
  change ((r.refreshed ttl t).afterAll ttl history).length _ = _ ↔ _
  rw [Readiness.length_of_holds (Readiness.afterAll_holds httl hholds), span_iff ht hle, Kept]
  by_cases hheld : r.holds t = true
  · have hsame : r.refreshed ttl t = r := if_pos hheld
    rw [if_pos hheld]
    rw [hsame] at hready hbroken ⊢
    by_cases hgood : Unbroken ttl r.expires history
    · rw [and_iff_left hgood, hempty]
      by_cases hzero : r.since = 0
      · have hsince : (r.afterAll ttl history).since = 0 ∨
            t < (r.afterAll ttl history).since := hzero ▸ Readiness.since_afterAll htimes
        have hnot : (r.afterAll ttl history).since ≠ t := by
          rcases hsince with hnone | hlater
          · rw [hnone]
            exact ht.ne
          · exact hlater.ne'
        rw [hzero]
        constructor
        · rintro (hstart | ⟨hnil, -⟩)
          · exact absurd hstart hnot
          · exact .inr ⟨hnil, .inl rfl⟩
        · rintro (hstart | ⟨hnil, -⟩)
          · exact absurd hstart ht.ne
          · exact .inr ⟨hnil, hsince⟩
      · rw [Readiness.since_of_unbroken httl hready hzero hgood]
    · exact iff_of_false (hbroken hgood) fun h => hgood h.2
  · have hbegun : r.refreshed ttl t = { ready := true, since := t, expires := t + ttl } := by
      rw [Readiness.refreshed, if_neg hheld, Readiness.measured, if_neg fun h => hheld h.1]
    rw [if_neg hheld]
    rw [hbegun] at hready hbroken ⊢
    by_cases hgood : Unbroken ttl (t + ttl) history
    · exact iff_of_true (.inl (Readiness.since_of_unbroken httl hready ht.ne' hgood)) hgood
    · exact iff_of_false (hbroken hgood) hgood

end A4s
