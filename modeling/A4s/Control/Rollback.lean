/-
Rolling back a failed rollout (`control/rollout.go`).

When an operator has approved a rollback, every agent and validator works from a goal with
another image. `CompensatedGoal` decides that. It asks for a live rollback approval first,
and takes the one that a loop over a map meets first.

* `compensatedGoal_eq`: the first live approval decides alone.
* `compensates_iff_agree`: **the outcome is the same in every order, and what the approvals
  say, exactly when** the live approvals agree on whether there is anything to roll back to.
* `compensated_known_good_iff`: **the compensated image was known good exactly when** the
  live approvals name no other image.
-/
import A4s.Go.Run
import A4s.Control.Approval

namespace A4s

open Go

/-! ### The compensated goal -/

/-- A replacement that crashed or exhausted its restart budget. -/
def Allocation.failedRollout (a : Allocation) (goal : Goal) : Bool :=
  decide (a.workload = goal.workload.name) && decide (a.image = goal.workload.image) &&
    decide (a.phase = .stopped) && (decide (a.exitCode ≠ 0) || decide (0 < a.restarts))

/-- `RollbackTarget`: the image a failed rollout should return to. -/
def rollbackTarget (goal : Goal) (w : World) : Option String :=
  match w.knownGood[goal.workload.name]? with
  | none => none
  | some knownGood =>
    if knownGood = goal.workload.image then none
    else if w.allocations.toList.any fun (_, a) => a.failedRollout goal then some knownGood
    else none

/-- A live rollback grant for the goal. -/
def Approval.rollsBack (a : Approval) (host : Host) (w : World) (goalID : String) : Bool :=
  decide (a.goalID = goalID) && decide (a.scope = "rollback") && a.valid (w.now host.wall)

/-- `rollbackApproval`: the first live grant that the loop over the approvals meets. -/
def rollbackApproval (host : Host) (order : List (String × Approval)) (w : World)
    (goalID : String) : Option Approval :=
  (order.find? fun (_, a) => a.rollsBack host w goalID).map (·.2)

/-- The image an approval returns to: the one it names, or the last known good one. -/
def Approval.returnsTo (a : Approval) (goal : Goal) (w : World) : Option String :=
  if a.rollback = "" then rollbackTarget goal w else some a.rollback

/-- `CompensatedGoal`: the goal to work from, the image that is rolled back, and whether it
is. -/
def compensatedGoal (host : Host) (order : List (String × Approval)) (goal : Goal) (w : World) :
    Goal × String × Bool :=
  match rollbackApproval host order w goal.id with
  | none => (goal, "", false)
  | some approval =>
    if approval.subject ≠ "" ∧ approval.subject ≠ goal.workload.image then (goal, "", false)
    else
      match approval.returnsTo goal w with
      | none => (goal, "", false)
      | some target =>
        if target = goal.workload.image then (goal, "", false)
        else ({ goal with workload := { goal.workload with image := target } },
          goal.workload.image, true)

/-! ### What an approval determines -/

/-- The approval is about the goal's image, or about any. -/
def Approval.concerns (a : Approval) (goal : Goal) : Prop :=
  a.subject = "" ∨ a.subject = goal.workload.image

/-- The approval concerns the goal and determines an image other than the goal's. -/
def Approval.compensates (a : Approval) (goal : Goal) (w : World) : Prop :=
  a.concerns goal ∧ ∃ target, a.returnsTo goal w = some target ∧ target ≠ goal.workload.image

/-- The approval is recorded in the world, and is a live rollback grant for the goal. -/
def LiveRollback (host : Host) (w : World) (goal : Goal) (a : Approval) : Prop :=
  ∃ key : String, w.approvals[key]? = some a ∧ a.rollsBack host w goal.id = true

section Outcome

variable {host : Host} {order : List (String × Approval)} {goal : Goal} {w : World}
  {a : Approval}

/-- **The first live approval decides alone.** -/
lemma compensatedGoal_cases (h : rollbackApproval host order w goal.id = some a) :
    (¬a.compensates goal w ∧ compensatedGoal host order goal w = (goal, "", false)) ∨
      ∃ target, a.concerns goal ∧ a.returnsTo goal w = some target ∧
        target ≠ goal.workload.image ∧ compensatedGoal host order goal w =
          ({ goal with workload := { goal.workload with image := target } },
            goal.workload.image, true) := by
  rw [compensatedGoal, h]
  by_cases hsubject : a.subject ≠ "" ∧ a.subject ≠ goal.workload.image
  · refine .inl ⟨?_, if_pos hsubject⟩
    rintro ⟨hempty | hsame, -⟩
    · exact hsubject.1 hempty
    · exact hsubject.2 hsame
  · have hconcerns : a.concerns goal := by
      unfold Approval.concerns
      tauto
    simp only [if_neg hsubject]
    cases htarget : a.returnsTo goal w with
    | none =>
      refine .inl ⟨?_, rfl⟩
      rintro ⟨-, target, hsome, -⟩
      rw [htarget] at hsome
      cases hsome
    | some target =>
      by_cases hsame : target = goal.workload.image
      · refine .inl ⟨?_, if_pos hsame⟩
        rintro ⟨-, target', hsome, hother⟩
        cases htarget.symm.trans hsome
        exact hother hsame
      · exact .inr ⟨target, hconcerns, rfl, hsame, if_neg hsame⟩

lemma compensatedGoal_iff (h : rollbackApproval host order w goal.id = some a) :
    (compensatedGoal host order goal w).2.2 = true ↔ a.compensates goal w := by
  rcases compensatedGoal_cases h with ⟨hnot, heq⟩ | ⟨target, hconcerns, htarget, hother, heq⟩
  · rw [heq]
    exact iff_of_false Bool.false_ne_true hnot
  · rw [heq]
    exact iff_of_true rfl ⟨hconcerns, target, htarget, hother⟩

/-- The loop meets a live approval if there is one. -/
lemma rollbackApproval_ranges (host : Host) (goal : Goal) (hrange : w.approvals.Ranges order) :
    (rollbackApproval host order w goal.id = none ∧ ∀ a, ¬LiveRollback host w goal a) ∨
      ∃ a, rollbackApproval host order w goal.id = some a ∧ LiveRollback host w goal a := by
  rcases hrange.find fun entry => entry.2.rollsBack host w goal.id with
    ⟨hnone, hall⟩ | ⟨key, a, hfind, hget, hlive⟩
  · refine .inl ⟨by rw [rollbackApproval, hnone, Option.map_none], ?_⟩
    rintro a ⟨key, hget, hlive⟩
    rw [hall key a hget] at hlive
    cases hlive
  · exact .inr ⟨a, by rw [rollbackApproval, hfind, Option.map_some], key, hget, hlive⟩

/-- Any live approval may be the one the loop meets first. -/
lemma exists_rollbackApproval (h : LiveRollback host w goal a) :
    ∃ order, w.approvals.Ranges order ∧ rollbackApproval host order w goal.id = some a := by
  obtain ⟨key, hget, hlive⟩ := h
  obtain ⟨order, hrange, hfind⟩ := Table.exists_ranges_find hget hlive
    (p := fun entry => entry.2.rollsBack host w goal.id)
  exact ⟨order, hrange, by rw [rollbackApproval, hfind, Option.map_some]⟩

/-- **Compensation in every order.** The goal is compensated, whatever order the approvals
are visited in, if and only if some live approval compensates it: this holds exactly when
all live approvals do or none does. -/
theorem compensates_iff_agree (host : Host) (goal : Goal) (w : World) :
    (∀ order, w.approvals.Ranges order →
      ((compensatedGoal host order goal w).2.2 = true ↔
        ∃ a, LiveRollback host w goal a ∧ a.compensates goal w)) ↔
    (∀ a, LiveRollback host w goal a → a.compensates goal w) ∨
      ∀ a, LiveRollback host w goal a → ¬a.compensates goal w := by
  constructor
  · intro hall
    by_contra hmixed
    obtain ⟨hsome, hnone⟩ := not_or.mp hmixed
    push Not at hsome hnone
    obtain ⟨idle, hidle, hnot⟩ := hsome
    -- an order that meets the idle one first misses the other
    obtain ⟨order, hrange, hfirst⟩ := exists_rollbackApproval hidle
    exact hnot ((compensatedGoal_iff hfirst).mp ((hall order hrange).mpr hnone))
  · intro hagree order hrange
    rcases rollbackApproval_ranges host goal hrange with ⟨hnone, hno⟩ | ⟨a, hfirst, hlive⟩
    · rw [compensatedGoal, hnone]
      refine iff_of_false Bool.false_ne_true ?_
      rintro ⟨a, hlive, -⟩
      exact hno a hlive
    · rw [compensatedGoal_iff hfirst]
      constructor
      · exact fun hcompensates => ⟨a, hlive, hcompensates⟩
      · rintro ⟨other, hother, hcompensates⟩
        rcases hagree with hevery | hnone
        · exact hevery a hlive
        · exact absurd hcompensates (hnone other hother)

end Outcome

namespace Rollback

def goal : Goal := { id := "web", workload := { name := "web", image := "web@2" } }

/-- A grant that an operator issued about an earlier version. -/
def earlier : Approval :=
  { id := "earlier", goalID := "web", scope := "rollback", granted := true, subject := "web@1",
    rollback := "web@0" }

/-- A grant to return from the goal's version to the one before. -/
def current : Approval :=
  { id := "current", goalID := "web", scope := "rollback", granted := true, subject := "web@2",
    rollback := "web@1" }

def world : World :=
  { approvals := Table.ofEntries [("current", current), ("earlier", earlier)] }

end Rollback

open Rollback

/-- A live approval for the goal's own version, which one order of the loop overlooks. -/
theorem compensation_overlooked :
    LiveRollback quietHost world goal current ∧
      current.compensates goal world ∧
      world.approvals.Ranges [("earlier", earlier), ("current", current)] ∧
      (compensatedGoal quietHost [("earlier", earlier), ("current", current)]
        goal world).2.2 = false := by
  refine ⟨⟨"current", by decide, by decide⟩, ⟨.inr rfl, "web@1", rfl, by decide⟩, ?_, by decide⟩
  have hlist : world.approvals.toList = [("current", current), ("earlier", earlier)] := by decide
  rw [Table.Ranges, hlist]
  exact List.Perm.swap _ _ _

/-! ### What was known good -/

/-- The image was recorded as known good for the workload in some state of the run. -/
def WasKnownGood (start : World) (es : List Evidence) (workload image : String) : Prop :=
  ∃ before after t, es = before ++ after ∧ Run project start before t ∧
    t.knownGood[workload]? = some image

section KnownGood

variable {host : Host} {goal : Goal} {start w : World} {es : List Evidence} {a : Approval}

/-- The target of a failed rollout is what the world has as known good. -/
lemma rollbackTarget_known {target : String} (h : rollbackTarget goal w = some target) :
    w.knownGood[goal.workload.name]? = some target := by
  unfold rollbackTarget at h
  split at h
  · cases h
  · rename_i knownGood hget
    split_ifs at h
    cases h
    exact hget

/-- What an approval returns to was known good, if it names nothing or something that
was. -/
lemma returnsTo_known {target : String} (hrun : Run project start es w)
    (hnames : a.rollback = "" ∨ a.rollback = goal.workload.image ∨
      WasKnownGood start es goal.workload.name a.rollback)
    (htarget : a.returnsTo goal w = some target) :
    target = goal.workload.image ∨ WasKnownGood start es goal.workload.name target := by
  unfold Approval.returnsTo at htarget
  split_ifs at htarget with hempty
  · exact .inr ⟨es, [], w, (List.append_nil es).symm, hrun, rollbackTarget_known htarget⟩
  · cases htarget
    exact hnames.resolve_left hempty

/-- **Known good images.** After any run, the image of the compensated goal is the goal's own
or one that was known good for the workload in the run, whatever order the approvals are
visited in, exactly when every live rollback approval that concerns the goal names no image,
the goal's image, or one that was known good. -/
theorem compensated_known_good_iff (hrun : Run project start es w) :
    (∀ order, w.approvals.Ranges order →
      (compensatedGoal host order goal w).1.workload.image = goal.workload.image ∨
        WasKnownGood start es goal.workload.name
          (compensatedGoal host order goal w).1.workload.image) ↔
    ∀ a, LiveRollback host w goal a → a.concerns goal →
      a.rollback = "" ∨ a.rollback = goal.workload.image ∨
        WasKnownGood start es goal.workload.name a.rollback := by
  constructor
  · intro hall a hlive hconcerns
    by_cases hempty : a.rollback = ""
    · exact .inl hempty
    have htarget : a.returnsTo goal w = some a.rollback := if_neg hempty
    obtain ⟨order, hrange, hfirst⟩ := exists_rollbackApproval hlive
    rcases compensatedGoal_cases hfirst with ⟨hnot, -⟩ | ⟨target, -, hsome, -, heq⟩
    · by_cases hsame : a.rollback = goal.workload.image
      · exact .inr (.inl hsame)
      · exact absurd ⟨hconcerns, a.rollback, htarget, hsame⟩ hnot
    · cases htarget.symm.trans hsome
      have himage := hall order hrange
      rw [heq] at himage
      exact .inr himage
  · intro hnames order hrange
    rcases rollbackApproval_ranges host goal hrange with ⟨hnone, -⟩ | ⟨a, hfirst, hlive⟩
    · rw [compensatedGoal, hnone]
      exact .inl rfl
    · rcases compensatedGoal_cases hfirst with ⟨-, heq⟩ | ⟨target, hconcerns, hsome, -, heq⟩
      · rw [heq]
        exact .inl rfl
      · rw [heq]
        exact returnsTo_known hrun (hnames a hlive hconcerns) hsome

end KnownGood

namespace Rollback

/-- A well-formed grant to return to an image the cluster has never seen. -/
def anything : ApprovalGrant :=
  { id := "back", goalID := "web", scope := "rollback", issuedBy := "operator", keyID := "ops"
    issuedAt := 1000 * second, expiresAt := 2000 * second, rollback := "unknown@9" }

def granted : World := (project {} (anything.evidence quietHost)).toOption.getD {}

lemma granted_run : Run project {} [anything.evidence quietHost] granted :=
  .cons (t := granted) (by decide) (.nil _)

end Rollback

/-- A rollback approval makes an image run that was never known good. -/
theorem rollback_to_anything :
    validateGrant quietHost anything = .ok () ∧
      Run project {} [anything.evidence quietHost] granted ∧
      granted.approvals.Ranges granted.approvals.toList ∧
      (compensatedGoal quietHost granted.approvals.toList goal
        granted).1.workload.image = "unknown@9" ∧
      goal.workload.image ≠ "unknown@9" ∧
      ¬WasKnownGood {} [anything.evidence quietHost] "web" "unknown@9" := by
  refine ⟨by decide, granted_run, List.Perm.refl _, by decide, by decide, ?_⟩
  rintro ⟨before, after, t, hsplit, hrun, hknown⟩
  cases before with
  | nil =>
    cases hrun
    exact absurd hknown (by decide)
  | cons e rest =>
    obtain ⟨rfl, hrest⟩ := List.cons.inj hsplit
    obtain ⟨rfl, -⟩ := List.append_eq_nil_iff.mp hrest.symm
    cases hrun.unique granted_run
    exact absurd hknown (by decide)

/-- The equivalence after that grant. -/
theorem compensated_known_good_iff_granted :
    (∀ order, granted.approvals.Ranges order →
      (compensatedGoal quietHost order goal granted).1.workload.image = goal.workload.image ∨
        WasKnownGood {} [anything.evidence quietHost] goal.workload.name
          (compensatedGoal quietHost order goal granted).1.workload.image) ↔
    ∀ a, LiveRollback quietHost granted goal a → a.concerns goal →
      a.rollback = "" ∨ a.rollback = goal.workload.image ∨
        WasKnownGood {} [anything.evidence quietHost] goal.workload.name a.rollback :=
  compensated_known_good_iff granted_run

end A4s
