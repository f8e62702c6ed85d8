/-
Plans that take allocations out of service (`RolloutAgent.Propose` of `control/rollout.go`,
`RemediationAgent.Propose` of `control/remediation.go`, the validators of `control/policy.go`).

Both agents pick an allocation and propose to stop and delete it, or one of the two. Whether the
kernel lets them is decided elsewhere: a stop wants a running allocation that works on nothing, a
deletion one that holds no volume.

* `Passes`: every action is accepted in the world simulated so far, or is refused for the
  availability floor or a missing approval.
* `stop_passes_iff`, `delete_passes_iff`, `drain_passes_iff`: what the validators want.
* `Retirer`: the two agents; `Retirer.chosen` is the allocation that an agent picks.
* `retirement_passes_iff`: **when the kernel lets a plan pass.**
-/
import A4s.Control.Effect
import A4s.Control.Proposers
import A4s.Go.Run

namespace A4s

open Go

/-! ### Refusals -/

/-- The refusal of a stop that would leave too few ready replicas. -/
def floorText (host : Host) (goal : Goal) (w : World) (a : Action) : String :=
  let remaining : Int := servingAllocations host goal w - 1
  s!"stopping {quote a.target} would leave {remaining} ready replicas, below the " ++
    s!"availability floor of {sprintInt (disruptionFloor goal)}"

/-- The refusal of a deletion that an operator has to approve. -/
def approvalText (a : Action) : String :=
  s!"deleting stateful allocation {quote a.target} requires destroy-stateful approval"

/-- The kernel refuses the action for the availability floor, or for a missing approval. -/
def Excused (host : Host) (goal : Goal) (w : World) (a : Action) : Prop :=
  validateAction host goal w a = fail (floorText host goal w a) ∨
    validateAction host goal w a = fail (approvalText a)

/-- Every action is accepted in the world simulated so far, or excused. -/
def Passes (host : Host) (goal : Goal) : World → List Action → Prop
  | _, [] => True
  | sim, a :: rest => (validateAction host goal sim a = .ok () ∨ Excused host goal sim a) ∧
      ∃ sim', simulateAction sim a = .ok sim' ∧ Passes host goal sim' rest

/-- An agent instance that is in the middle of a task. -/
def Working (goal : Goal) (x : Allocation) : Prop :=
  goal.workload.runtime ≠ none ∧ x.task ≠ "" ∧ x.exhausted = false

instance (goal : Goal) (x : Allocation) : Decidable (Working goal x) :=
  inferInstanceAs (Decidable (_ ∧ _ ∧ _))

section Validators

variable {host : Host} {goal : Goal} {w : World} {a : Action} {x : Allocation}

/-- The first character of a text. -/
def Starts (c : Char) (text : String) : Prop := text.toList.head? = some c

lemma Starts.append {c : Char} {x y : String} (h : Starts c x) : Starts c (x ++ y) := by
  rw [Starts, String.toList_append, List.head?_append, h]
  rfl

lemma Starts.unique {c c' : Char} {x : String} (h : Starts c x) (h' : Starts c' x) : c = c' :=
  Option.some.inj (h.symm.trans h')

lemma starts_floorText : Starts 's' (floorText host goal w a) := by
  have hword : Starts 's' "stopping " := by simp [Starts]
  exact .append (.append (.append (.append (.append hword))))

lemma starts_approvalText : Starts 'd' (approvalText a) := by
  have hword : Starts 'd' "deleting stateful allocation " := by simp [Starts]
  exact .append (.append hword)

/-- An action refused in words that start like no excuse does not pass. -/
lemma not_passes {text : String} (h : validateAction host goal w a = fail text)
    (hstarts : Starts 'a' text) :
    ¬(validateAction host goal w a = .ok () ∨ Excused host goal w a) := by
  rintro (hok | hfloor | happroval)
  · exact fail_ne_ok (h.symm.trans hok)
  · rw [fail_inj.mp (h.symm.trans hfloor)] at hstarts
    exact absurd (hstarts.unique starts_floorText) (by decide)
  · rw [fail_inj.mp (h.symm.trans happroval)] at hstarts
    exact absurd (hstarts.unique starts_approvalText) (by decide)

lemma starts_allocation : Starts 'a' "allocation " := by simp [Starts]

lemma starts_agent : Starts 'a' "agent allocation " := by simp [Starts]

lemma existingAllocation_of_get (hget : w.allocations[a.target]? = some x) :
    existingAllocation w a = .ok x := require_ok.mpr hget

variable (hget : w.allocations[a.target]? = some x) (hworkload : a.workload = x.workload)

include hget hworkload

/-- **What a stop wants**: a running allocation that works on nothing. -/
lemma stop_passes_iff (hk : a.kind = .stopAllocation) :
    validateAction host goal w a = .ok () ∨ Excused host goal w a ↔
      x.phase = .running ∧ ¬Working goal x := by
  have hvalidate : validateAction host goal w a = validateStopAllocation host goal w a := by
    simp only [validateAction, hk]
  have hsame : ¬a.workload ≠ x.workload := not_not_intro hworkload
  rw [validateStopAllocation, existingAllocation_of_get hget, ok_bind] at hvalidate
  by_cases hphase : x.phase = .running
  · rw [refuseIf_of_not (not_not_intro hphase), ok_bind, refuseIf_of_not hsame, ok_bind]
      at hvalidate
    dsimp only at hvalidate
    by_cases hworking : Working goal x
    · refine iff_of_false ?_ fun h => h.2 hworking
      rw [if_pos (show _ ∧ _ ∧ _ from hworking)] at hvalidate
      by_cases hdraining : x.draining = false
      · rw [refuseIf_of hdraining, fail_bind] at hvalidate
        exact not_passes hvalidate (.append (.append starts_agent))
      · rw [refuseIf_of_not hdraining, ok_bind, fail_bind] at hvalidate
        exact not_passes hvalidate (.append (.append (.append starts_agent)))
    · refine iff_of_true ?_ ⟨hphase, hworking⟩
      rw [if_neg (show ¬(_ ∧ _ ∧ _) from hworking)] at hvalidate
      by_cases hready : x.readyAt (w.now host.wall) = true
      · rw [if_pos hready] at hvalidate
        by_cases hfloor : (servingAllocations host goal w : Int) - 1 < (disruptionFloor goal).toInt
        · exact .inr (.inl (hvalidate.trans (refuseIf_of hfloor)))
        · exact .inl (hvalidate.trans (refuseIf_of_not hfloor))
      · exact .inl (hvalidate.trans (if_neg hready))
  · rw [refuseIf_of hphase, fail_bind] at hvalidate
    exact iff_of_false (not_passes hvalidate (.append (.append starts_allocation)))
      fun h => hphase h.1

/-- **What a deletion wants**: an allocation that does not run and holds no volume. -/
lemma delete_passes_iff (hk : a.kind = .deleteAllocation) :
    validateAction host goal w a = .ok () ∨ Excused host goal w a ↔
      x.phase ≠ .running ∧ x.volumes.isEmpty = true := by
  have hvalidate : validateAction host goal w a = validateDeleteAllocation host goal w a := by
    simp only [validateAction, hk]
  have hsame : ¬a.workload ≠ x.workload := not_not_intro hworkload
  rw [validateDeleteAllocation, existingAllocation_of_get hget, ok_bind] at hvalidate
  by_cases hphase : x.phase = .running
  · rw [refuseIf_of hphase, fail_bind] at hvalidate
    exact iff_of_false (not_passes hvalidate (.append (.append starts_allocation)))
      fun h => h.1 hphase
  · rw [refuseIf_of_not hphase, ok_bind, refuseIf_of_not hsame, ok_bind] at hvalidate
    by_cases hvolumes : x.volumes.isEmpty = false
    · rw [refuseIf_of hvolumes, fail_bind] at hvalidate
      refine iff_of_false (not_passes hvalidate (.append (.append starts_allocation))) fun h => ?_
      exact absurd (hvolumes.symm.trans h.2) (by decide)
    · rw [refuseIf_of_not hvolumes, ok_bind] at hvalidate
      refine iff_of_true ?_ ⟨hphase, by simpa using hvolumes⟩
      by_cases happroval : x.stateful = true ∧ hasApproval host w goal.id "destroy-stateful" = false
      · exact .inr (.inr (hvalidate.trans (refuseIf_of happroval)))
      · exact .inl (hvalidate.trans (refuseIf_of_not happroval))

/-- **What a drain wants**: a running agent. -/
lemma drain_passes_iff (hk : a.kind = .drainAllocation) (hruntime : goal.workload.runtime ≠ none) :
    validateAction host goal w a = .ok () ∨ Excused host goal w a ↔ x.phase = .running := by
  have hvalidate : validateAction host goal w a = validateDrainAllocation host goal w a := by
    simp only [validateAction, hk]
  rw [validateDrainAllocation, existingAllocation_of_get hget, ok_bind] at hvalidate
  by_cases hphase : x.phase = .running
  · rw [refuseIf_of_not (not_not_intro hphase), ok_bind, refuseIf_of_not hruntime, ok_bind,
      refuseIf_of_not (not_not_intro hworkload)] at hvalidate
    exact iff_of_true (.inl hvalidate) hphase
  · rw [refuseIf_of hphase, fail_bind] at hvalidate
    exact iff_of_false (not_passes hvalidate (.append (.append starts_allocation))) hphase

end Validators

/-! ### Plans -/

section Plans

variable {host : Host} {goal : Goal} {w : World} {a b : Action} {x : Allocation}

/-- A plan of one action passes when its action does and can be simulated. -/
lemma passes_singleton (hsim : ∃ sim, simulateAction w a = .ok sim) :
    Passes host goal w [a] ↔ validateAction host goal w a = .ok () ∨ Excused host goal w a :=
  ⟨fun h => h.1, fun h => ⟨h, hsim.imp fun _ hok => ⟨hok, trivial⟩⟩⟩

/-- A node of the world can be cordoned. -/
lemma passes_cordon {node : Node} (hk : a.kind = .cordonNode) (htarget : a.target ≠ "")
    (hnode : w.nodes[a.target]? = some node) : Passes host goal w [a] := by
  have hvalidate : validateAction host goal w a = .ok () := by
    simp only [validateAction, hk, validateCordonNode, hnode]
    rw [refuseIf_of_not htarget, ok_bind]
    rfl
  have hexists : existingNode w a.target = .ok node := require_ok.mpr hnode
  have hsim : simulateAction w a = .ok (w.setNode a.target
      { node with cordoned := true, cordonReason := a.reason }) := by
    simp only [simulateAction, hk, updateNode, hexists, ok_bind]
    rfl
  exact (passes_singleton ⟨_, hsim⟩).mpr (.inl hvalidate)

variable (hget : w.allocations[a.target]? = some x) (hworkload : a.workload = x.workload)

include hget hworkload

/-- **A deletion alone.** -/
lemma passes_delete_iff (hk : a.kind = .deleteAllocation) :
    Passes host goal w [a] ↔ x.phase ≠ .running ∧ x.volumes.isEmpty = true := by
  have hsim : ∃ sim, simulateAction w a = .ok sim := by
    simp only [simulateAction, hk, simulateDeleteAllocation, existingAllocation_of_get hget, ok_bind]
    exact ⟨_, rfl⟩
  rw [passes_singleton hsim]
  exact delete_passes_iff hget hworkload hk

/-- **A drain alone.** -/
lemma passes_drain_iff (hk : a.kind = .drainAllocation) (hruntime : goal.workload.runtime ≠ none) :
    Passes host goal w [a] ↔ x.phase = .running := by
  have hsim : ∃ sim, simulateAction w a = .ok sim := by
    simp only [simulateAction, hk, updateAllocation, existingAllocation_of_get hget, ok_bind]
    exact ⟨_, rfl⟩
  rw [passes_singleton hsim]
  exact drain_passes_iff hget hworkload hk hruntime

/-- **A stop and a deletion of one allocation.** The stop releases no volume. -/
lemma passes_stop_delete_iff (hk : a.kind = .stopAllocation) (hk' : b.kind = .deleteAllocation)
    (htarget : b.target = a.target) (hworkload' : b.workload = x.workload) :
    Passes host goal w [a, b] ↔
      x.phase = .running ∧ ¬Working goal x ∧ x.volumes.isEmpty = true := by
  have hsim : simulateAction w a =
      .ok (w.setAllocation a.target { x with phase := .stopped, ready := false }) := by
    simp only [simulateAction, hk, updateAllocation, existingAllocation_of_get hget, ok_bind]
    rfl
  have hstopped : (w.setAllocation a.target { x with phase := .stopped, ready := false }
      ).allocations[b.target]? = some { x with phase := .stopped, ready := false } := by
    rw [htarget]
    exact get_insert_self
  have hdelete : Passes host goal _ [b] ↔ _ := passes_delete_iff hstopped hworkload' hk'
  constructor
  · rintro ⟨hstop, sim, hsim', hrest⟩
    cases hsim.symm.trans hsim'
    obtain ⟨hphase, hfree⟩ := (stop_passes_iff hget hworkload hk).mp hstop
    exact ⟨hphase, hfree, (hdelete.mp hrest).2⟩
  · rintro ⟨hphase, hfree, hvolumes⟩
    exact ⟨(stop_passes_iff hget hworkload hk).mpr ⟨hphase, hfree⟩, _, hsim,
      hdelete.mpr ⟨nofun, hvolumes⟩⟩

end Plans

/-! ### Allocations are kept under their ids -/

/-- Every allocation is kept under its id. -/
def AllocationsKept (w : World) : Prop :=
  ∀ (key : String) x, w.allocations[key]? = some x → x.id = key

/-- A record that keeps the id may take its place. -/
lemma AllocationsKept.insert {w w' : World} {key : String} {x : Allocation} (h : AllocationsKept w)
    (ha : w'.allocations = w.allocations.insert key x) (hid : x.id = key) :
    AllocationsKept w' := by
  intro key' x' hget
  rw [ha, get_insert] at hget
  split_ifs at hget with hkey
  · cases hget
    exact hid.trans hkey.symm
  · exact h key' x' hget

/-- Evidence keeps allocations under their ids. -/
lemma AllocationsKept.project {w w' : World} {e : Evidence} (h : AllocationsKept w)
    (hproject : A4s.project w e = .ok w') : AllocationsKept w' := by
  cases (project_effect hproject).populates with
  | same _ _ _ ha => exact fun key x hget => h key x (ha ▸ hget)
  | updated a a' hk hget hup ha => exact h.insert ha (hup.identity.id.trans (h _ _ hget))
  | created node resources hk hnew hnode hres ha => exact h.insert ha rfl
  | deleted a hk hget ha =>
    intro key x hkey
    rw [ha, get_erase] at hkey
    split_ifs at hkey
    exact h key x hkey
  | holds id a volumes hk hget ha => exact h.insert ha (h _ a hget)

/-! ### The agents -/

/-- The agents that take allocations out of service. -/
inductive Retirer where
  | rollout (r : RolloutAgent)
  | remediation
  deriving DecidableEq

namespace Retirer

def builtIn : Retirer → BuiltIn
  | .rollout r => .rollout r
  | .remediation => .remediation

/-- The allocation that an agent picks: a rollout takes the first stopped one of the drifted, or
the first of them; remediation one to clear, or one to move, unless it has a node to cordon. -/
def chosen (goal : Goal) (w : World) : Retirer → Option Allocation
  | .rollout _ =>
    let drifted := RolloutAgent.driftedAllocations goal w
    (drifted.find? fun x => decide (x.phase = .stopped)).or drifted.head?
  | .remediation =>
    let retired := RemediationAgent.retirableAllocation w goal.workload.name
    let evacuated := RemediationAgent.evacuableAllocation w goal.workload.name
    if RemediationAgent.failedNodeHolding w goal.workload.name ≠ "" then none
    else if retired ≠ "" then w.allocations[retired]?
    else if evacuated ≠ "" then w.allocations[evacuated]?
    else none

/-- An allocation that an agent can take out of service: it has started, it holds no volume, and
if it runs it works on nothing. A rollout may also drain one that works. -/
def Ready (goal : Goal) (x : Allocation) : Retirer → Prop
  | .rollout _ => x.phase ≠ .created ∧
      if x.phase = .running ∧ Working goal x then x.draining = false else x.volumes.isEmpty = true
  | .remediation => x.phase ≠ .created ∧ (x.phase = .running → ¬Working goal x) ∧
      x.volumes.isEmpty = true

instance (goal : Goal) (x : Allocation) (agent : Retirer) : Decidable (agent.Ready goal x) :=
  match agent with
  | .rollout _ => inferInstanceAs (Decidable (_ ∧ _))
  | .remediation => inferInstanceAs (Decidable (_ ∧ _))

lemma ready_of_chosen {goal : Goal} {w : World} {x : Allocation} {agent : Retirer}
    (h : agent.chosen goal w = some x) :
    (∀ y, agent.chosen goal w = some y → agent.Ready goal y) ↔ agent.Ready goal x := by
  rw [h]
  exact ⟨fun hall => hall x rfl, fun hx y hy => Option.some.inj hy ▸ hx⟩

end Retirer

section Rollout

variable {r : RolloutAgent} {host : Host} {goal : Goal} {w : World} {p : Proposal}

/-- The plans of a rollout. -/
inductive RolloutAgent.Plan (goal : Goal) (w : World) (actions : List Action) : Prop
  /-- nothing has drifted -/
  | nothing (hdrifted : driftedAllocations goal w = []) (ha : actions = [])
  /-- a stopped allocation is deleted -/
  | delete (x : Allocation)
      (hfind : (driftedAllocations goal w).find? (fun x => decide (x.phase = .stopped)) = some x)
      (ha : actions = [actionOn x "delete-" .deleteAllocation []])
  /-- an agent that works is drained -/
  | drain (x : Allocation) (rest : List Allocation)
      (hdrifted : driftedAllocations goal w = x :: rest)
      (hfind : (x :: rest).find? (fun x => decide (x.phase = .stopped)) = none)
      (hworking : Working goal x) (hdraining : x.draining = false)
      (ha : actions = [actionOn x "drain-" .drainAllocation []])
  /-- the first allocation is stopped and deleted -/
  | stop (x : Allocation) (rest : List Allocation)
      (hdrifted : driftedAllocations goal w = x :: rest)
      (hfind : (x :: rest).find? (fun x => decide (x.phase = .stopped)) = none)
      (hbusy : Working goal x → x.draining = true)
      (ha : actions = [actionOn x "stop-" .stopAllocation [],
        actionOn x "delete-" .deleteAllocation ["stop-" ++ x.id]])

lemma RolloutAgent.propose_plan (h : r.propose host goal w = .ok p) : Plan goal w p.actions := by
  unfold propose at h
  dsimp only at h
  cases htarget : rollbackTarget goal w with
  | some knownGood =>
    rw [htarget] at h
    cases h
  | none =>
    rw [htarget] at h
    dsimp only at h
    cases hdrifted : driftedAllocations goal w with
    | nil =>
      rw [hdrifted] at h
      cases h
      exact .nothing hdrifted rfl
    | cons candidate rest =>
      rw [hdrifted] at h
      dsimp only at h
      cases hstopped : (candidate :: rest).find? fun x => decide (x.phase = .stopped) with
      | some stopped =>
        rw [hstopped] at h
        cases h
        exact .delete stopped (hdrifted ▸ hstopped) rfl
      | none =>
        rw [hstopped] at h
        dsimp only at h
        generalize (servingAllocations host goal w : Int) - _ = left at h
        split_ifs at h with hfloor hdrain
        · cases h
          obtain ⟨hruntime, htask, hdraining, hspent⟩ := hdrain
          exact .drain candidate rest hdrifted hstopped
            ⟨Option.isSome_iff_ne_none.mp hruntime, htask, hspent⟩ hdraining rfl
        · cases h
          refine .stop candidate rest hdrifted hstopped (fun hworking => ?_) rfl
          obtain ⟨hruntime, htask, hspent⟩ := hworking
          by_contra hdraining
          exact hdrain ⟨Option.isSome_iff_ne_none.mpr hruntime, htask,
            Bool.eq_false_iff.mpr hdraining, hspent⟩

/-- A rollout that has no stopped allocation to delete picks the first. -/
lemma RolloutAgent.chosen_first {x : Allocation} {rest : List Allocation}
    (hdrifted : driftedAllocations goal w = x :: rest)
    (hfind : (x :: rest).find? (fun x => decide (x.phase = .stopped)) = none) :
    (Retirer.rollout r).chosen goal w = some x ∧ x.phase ≠ .stopped := by
  constructor
  · simp only [Retirer.chosen, hdrifted, hfind, Option.none_or, List.head?_cons]
  · simpa using (List.find?_eq_none.mp hfind) x List.mem_cons_self

/-- **A rollout's plan passes** when the allocation it picked is ready for it. -/
lemma RolloutAgent.passes_iff (hkept : AllocationsKept w) (h : r.propose host goal w = .ok p) :
    Passes host goal w p.actions ↔
      ∀ x, (Retirer.rollout r).chosen goal w = some x → (Retirer.rollout r).Ready goal x := by
  have hget : ∀ x ∈ driftedAllocations goal w, w.allocations[x.id]? = some x := by
    intro x hx
    obtain ⟨key, hkey⟩ := mem_driftedAllocations hx
    rwa [hkept key x hkey]
  cases propose_plan h with
  | nothing hdrifted ha =>
    have hchosen : (Retirer.rollout r).chosen goal w = none := by
      simp only [Retirer.chosen, hdrifted]
      rfl
    rw [ha, hchosen]
    exact iff_of_true trivial nofun
  | delete x hfind ha =>
    have hchosen : (Retirer.rollout r).chosen goal w = some x := by
      simp only [Retirer.chosen, hfind, Option.some_or]
    have hstopped : x.phase = .stopped := of_decide_eq_true (List.find?_some hfind :)
    have hx := hget x (List.mem_of_find?_eq_some hfind)
    rw [ha, Retirer.ready_of_chosen hchosen]
    refine (passes_delete_iff hx rfl rfl).trans ?_
    simp [Retirer.Ready, hstopped]
  | drain x rest hdrifted hfind hworking hdraining ha =>
    obtain ⟨hchosen, hphase⟩ := chosen_first hdrifted hfind
    have hx := hget x (hdrifted ▸ List.mem_cons_self)
    rw [ha, Retirer.ready_of_chosen hchosen]
    refine (passes_drain_iff hx rfl rfl hworking.1).trans ?_
    cases hcase : x.phase with
    | created => simp [Retirer.Ready, hcase]
    | running => simp [Retirer.Ready, hcase, hworking, hdraining]
    | stopped => exact absurd hcase hphase
  | stop x rest hdrifted hfind hbusy ha =>
    obtain ⟨hchosen, hphase⟩ := chosen_first hdrifted hfind
    have hx := hget x (hdrifted ▸ List.mem_cons_self)
    have hpasses : Passes host goal w [actionOn x "stop-" .stopAllocation [],
        actionOn x "delete-" .deleteAllocation ["stop-" ++ x.id]] ↔ _ :=
      passes_stop_delete_iff hx rfl rfl rfl rfl rfl
    rw [ha, Retirer.ready_of_chosen hchosen, hpasses]
    cases hcase : x.phase with
    | created => simp [Retirer.Ready, hcase]
    | running =>
      by_cases hworking : Working goal x
      · simp [Retirer.Ready, hcase, hworking, hbusy hworking]
      · simp [Retirer.Ready, hcase, hworking]
    | stopped => exact absurd hcase hphase

end Rollout

/-! ### Remediation -/

section Remediation

variable {host : Host} {goal : Goal} {w : World}

/-- A node that has failed is a node of the world. -/
lemma RemediationAgent.failedNodeHolding_mem {workload : String}
    (h : failedNodeHolding w workload ≠ "") :
    ∃ node, w.nodes[failedNodeHolding w workload]? = some node := by
  unfold failedNodeHolding at h ⊢
  cases hfind : List.find? _ (unhealthyNodes w) with
  | none =>
    rw [hfind] at h
    exact absurd rfl h
  | some id =>
    obtain ⟨⟨_, node⟩, hentry, rfl⟩ := List.mem_map.mp (List.mem_of_find?_eq_some hfind)
    have hmem := (List.mem_filter.mp hentry).1
    exact ⟨node, Table.mem_toList.mp hmem⟩

/-- What a search by id finds is in the world. -/
lemma RemediationAgent.found_get {p : String × Allocation → Bool}
    (h : ((w.allocations.toList.find? p).map (·.1)).getD "" ≠ "") : ∃ x,
    w.allocations[((w.allocations.toList.find? p).map (·.1)).getD ""]? = some x ∧
      p (((w.allocations.toList.find? p).map (·.1)).getD "", x) = true := by
  cases hfind : w.allocations.toList.find? p with
  | none =>
    rw [hfind] at h
    exact absurd rfl h
  | some entry =>
    exact ⟨entry.2, Table.mem_toList.mp (List.mem_of_find?_eq_some hfind), List.find?_some hfind⟩

/-- **Remediation's plan passes** when the allocation it picked is ready for it. -/
lemma RemediationAgent.passes_iff :
    Passes host goal w (propose goal w).actions ↔
      ∀ x, Retirer.remediation.chosen goal w = some x → Retirer.remediation.Ready goal x := by
  unfold propose
  dsimp only
  split_ifs with hfailed hretired hevacuated
  · obtain ⟨node, hnode⟩ := failedNodeHolding_mem hfailed
    refine iff_of_true (passes_cordon rfl hfailed hnode) fun x hx => ?_
    simp only [Retirer.chosen] at hx
    rw [if_pos hfailed] at hx
    cases hx
  · obtain ⟨x, hx, hfound⟩ := found_get hretired
    change w.allocations[retirableAllocation w goal.workload.name]? = some x at hx
    simp only [Bool.and_eq_true, decide_eq_true_eq] at hfound
    obtain ⟨⟨hworkload, hstopped⟩, -⟩ := hfound
    have hchosen : Retirer.remediation.chosen goal w = some x := by
      simp only [Retirer.chosen]
      rw [if_neg hfailed, if_pos hretired, hx]
    rw [Retirer.ready_of_chosen hchosen]
    refine (passes_delete_iff hx hworkload.symm rfl).trans ?_
    simp [Retirer.Ready, hstopped]
  · obtain ⟨x, hx, hfound⟩ := found_get hevacuated
    change w.allocations[evacuableAllocation w goal.workload.name]? = some x at hx
    simp only [Bool.and_eq_true, decide_eq_true_eq] at hfound
    obtain ⟨⟨hworkload, hphase⟩, -⟩ := hfound
    have hchosen : Retirer.remediation.chosen goal w = some x := by
      simp only [Retirer.chosen]
      rw [if_neg hfailed, if_neg hretired, if_pos hevacuated, hx]
    generalize evacuableAllocation w goal.workload.name = target at hx ⊢
    have hpasses : Passes host goal w [actionOn goal target "stop-" .stopAllocation [],
        actionOn goal target "delete-" .deleteAllocation ["stop-" ++ target]] ↔ _ :=
      passes_stop_delete_iff hx hworkload.symm rfl rfl rfl hworkload.symm
    rw [Retirer.ready_of_chosen hchosen, hpasses]
    cases hcase : x.phase with
    | created => simp [Retirer.Ready, hcase]
    | running => simp [Retirer.Ready, hcase]
    | stopped => exact absurd hcase hphase
  · refine iff_of_true trivial fun x hx => ?_
    simp only [Retirer.chosen] at hx
    rw [if_neg hfailed, if_neg hretired, if_neg hevacuated] at hx
    cases hx

end Remediation

/-! ### Plans in worlds that evidence built -/

/-- **When the kernel lets a plan pass.** Whatever evidence has built the world, every action of
what a rollout or remediation proposes is accepted, or refused for the availability floor or a
missing approval, exactly when the allocation the agent picked has started, holds no volume and
works on nothing, or is a working agent that a rollout has still to drain. -/
theorem retirement_passes_iff {host : Host} {goal : Goal} {w₀ w : World} {es : List Evidence}
    {agent : Retirer} {p : Proposal} (hkept : AllocationsKept w₀) (hrun : Run project w₀ es w)
    (h : agent.builtIn.propose host goal w = .ok p) :
    Passes host goal w p.actions ↔
      ∀ x, agent.chosen goal w = some x → agent.Ready goal x := by
  have hkept' : AllocationsKept w := hrun.invariant (fun h hstep => h.project hstep) hkept
  cases agent with
  | rollout r => exact RolloutAgent.passes_iff hkept' h
  | remediation =>
    cases h
    exact RemediationAgent.passes_iff

namespace Retirement

/-- One node. -/
def fleet : World :=
  { nodes := Table.ofEntries
      [("n1", { id := "n1", healthy := true, capacity := { cpuMillis := 4000, memoryMB := 4096 } })] }

/-- An image whose digest repeats one digit. -/
def image (digit : Char) : String := "app@sha256:" ++ String.ofList (List.replicate 64 digit)

/-- A workload that is to run a new image. -/
def web : Goal :=
  { apiVersion := "a4s.io/v1alpha1", id := "web", objective := "keep it running"
    workload := { name := "web", image := image '1', replicas := 1, port := 8080
                  resources := { cpuMillis := 100, memoryMB := 100 } } }

/-- The workload, run by agents. -/
def desk : Goal := { web with workload := { web.workload with runtime := some {} } }

/-- An instance of the old image is created. -/
def creation : Evidence :=
  { kind := .allocationCreated, target := "web-0"
    observed := Table.ofEntries [("node", "n1"), ("workload", "web"), ("image", image '0'),
      ("replica", "0"), ("cpu_millis", "100"), ("memory_mb", "100")] }

def start : Evidence := { kind := .allocationRunning, target := "web-0" }

def stop : Evidence := { kind := .allocationStopped, target := "web-0" }

/-- Its volume is made and attached to it. -/
def volume : Evidence :=
  { kind := .volumeCreated, target := "data", observed := Table.ofEntries [("node", "n1")] }

def attachment : Evidence :=
  { kind := .volumeAttached, target := "data"
    observed := Table.ofEntries [("allocation", "web-0")] }

/-- It is told to finish the task it has. -/
def drain : Evidence :=
  { kind := .agentDraining, target := "web-0", observed := Table.ofEntries [("task", "t1")] }

/-- The world after evidence that it accepts. -/
def after : World → List Evidence → World
  | w, [] => w
  | w, e :: rest => after ((project w e).toOption.getD w) rest

/-- Every piece of evidence is accepted. -/
def accepts : World → List Evidence → Bool
  | _, [] => true
  | w, e :: rest =>
    (project w e).toOption.isSome && accepts ((project w e).toOption.getD w) rest

lemma run {es : List Evidence} {w : World} (h : accepts w es = true) :
    Run project w es (after w es) := by
  induction es generalizing w with
  | nil => exact .nil _
  | cons e rest ih =>
    obtain ⟨hsome, hrest⟩ := Bool.and_eq_true_iff.mp h
    obtain ⟨w', hproject⟩ := ok_of_isSome hsome
    refine .cons hproject ?_
    have hafter := ih hrest
    rw [hproject] at hafter
    rwa [after, hproject]

lemma kept : AllocationsKept fleet := fun key x hget => by
  rw [fleet, get_empty] at hget
  cases hget

/-- What the kernel says to the first action that an agent proposes. -/
def verdict (agent : Retirer) (goal : Goal) (w : World) : Option (Result Unit) :=
  (agent.builtIn.propose quietHost goal w).toOption.bind fun p =>
    p.actions.head?.map (validateAction quietHost goal w)

/-- An agent proposes a plan that does not pass. -/
def Stuck (agent : Retirer) (goal : Goal) (w : World) : Prop :=
  ∃ p, agent.builtIn.propose quietHost goal w = .ok p ∧ ¬Passes quietHost goal w p.actions

lemma stuck_of_verdict {agent : Retirer} {goal : Goal} {w : World} {text : String}
    (h : verdict agent goal w = some (fail text)) (hstarts : Starts 'a' text) :
    Stuck agent goal w := by
  rw [verdict] at h
  obtain ⟨p, hp, hfirst⟩ := Option.bind_eq_some_iff.mp h
  obtain ⟨a, ha, hrefused⟩ := Option.map_eq_some_iff.mp hfirst
  refine ⟨p, toOption_eq_some.mp hp, fun hpasses => ?_⟩
  obtain ⟨rest, hactions⟩ := List.head?_eq_some_iff.mp ha
  rw [hactions] at hpasses
  exact not_passes hrefused hstarts hpasses.1

end Retirement

open Retirement in
/-- A running instance of the old image is retired: the condition holds, and the plan passes. -/
theorem retirement_passes_iff_running :
    Run project fleet [creation, start] (after fleet [creation, start]) ∧
      ∃ p, (Retirer.rollout {}).builtIn.propose quietHost web (after fleet [creation, start]) =
          .ok p ∧
        Passes quietHost web (after fleet [creation, start]) p.actions := by
  have hrun := run (show accepts fleet [creation, start] = true by decide +kernel)
  have hready : ∀ x ∈ (Retirer.rollout {}).chosen web (after fleet [creation, start]),
      (Retirer.rollout {}).Ready web x := by decide +kernel
  obtain ⟨p, hp⟩ := ok_of_isSome (show ((Retirer.rollout {}).builtIn.propose quietHost web
    (after fleet [creation, start])).toOption.isSome = true by decide +kernel)
  exact ⟨hrun, p, hp, (retirement_passes_iff kept hrun hp).mpr hready⟩

open Retirement in
/-- An instance that was created and never started is not running; one that stopped with its
volume attached must release it; one that was told to drain is still working. The plans that the
agents make for them are refused. -/
theorem retirement_refused :
    (Run project fleet [creation] (after fleet [creation]) ∧
      verdict (.rollout {}) web (after fleet [creation]) =
        some (fail "allocation \"web-0\" is not running") ∧
      Stuck (.rollout {}) web (after fleet [creation])) ∧
    (Run project fleet [creation, volume, attachment, start, stop]
        (after fleet [creation, volume, attachment, start, stop]) ∧
      (∀ agent ∈ [.rollout {}, .remediation],
        verdict agent web (after fleet [creation, volume, attachment, start, stop]) =
          some (fail "allocation \"web-0\" must release its volumes before deletion") ∧
        Stuck agent web (after fleet [creation, volume, attachment, start, stop]))) ∧
    (Run project fleet [creation, start, drain] (after fleet [creation, start, drain]) ∧
      verdict (.rollout {}) desk (after fleet [creation, start, drain]) =
        some (fail "agent allocation \"web-0\" is still working on task \"t1\"") ∧
      Stuck (.rollout {}) desk (after fleet [creation, start, drain])) := by
  have hcreated : verdict (.rollout {}) web (after fleet [creation]) =
      some (fail "allocation \"web-0\" is not running") := by decide +kernel
  have hstopped : ∀ agent ∈ [.rollout {}, .remediation],
      verdict agent web (after fleet [creation, volume, attachment, start, stop]) =
        some (fail "allocation \"web-0\" must release its volumes before deletion") := by
    decide +kernel
  have hdraining : verdict (.rollout {}) desk (after fleet [creation, start, drain]) =
      some (fail "agent allocation \"web-0\" is still working on task \"t1\"") := by
    decide +kernel
  refine ⟨⟨run (by decide +kernel), hcreated, stuck_of_verdict hcreated (by simp [Starts])⟩,
    ⟨run (by decide +kernel), fun agent hagent => ?_⟩,
    ⟨run (by decide +kernel), hdraining, stuck_of_verdict hdraining (by simp [Starts])⟩⟩
  have hrefused := hstopped agent hagent
  exact ⟨hrefused, stuck_of_verdict hrefused (by simp [Starts])⟩

end A4s
