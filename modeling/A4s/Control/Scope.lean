/-
How far an accepted proposal reaches.

A proposal is accepted for one goal. The validators of creations, starts and
attachments tie their action to that goal; those of stops, deletions, drains,
releases and of everything that is done to a volume's contents do not.

* `OnlyTouches`: between two worlds only allocations of the goal's workload and
  volumes it declares have changed.
* `KeepsTo`: an action addresses nothing that exists and belongs to another goal.
* `Trespasses`: an action destroys, releases, moves or restores what belongs to
  another goal.
* `accepted_scope`: **the reach of an accepted proposal**: if all its actions keep to
  the goal, so does every prefix of its execution; a single action that trespasses
  is carried out all the same.
-/
import A4s.Control.Execution

namespace A4s

open Go

/-! ### The property and its condition -/

/-- Only allocations of the goal's workload and volumes it declares differ. -/
structure OnlyTouches (goal : Goal) (w w' : World) : Prop where
  allocations : ∀ (id : String) (x : Allocation), w.allocations[id]? = some x →
    x.workload ≠ goal.workload.name → w'.allocations[id]? = some x
  created : ∀ (id : String) (x : Allocation), w.allocations[id]? = none →
    w'.allocations[id]? = some x → x.workload = goal.workload.name
  volumes : ∀ name : String, workloadDeclaresVolume goal name = false →
    w'.volumes[name]? = w.volumes[name]?

/-- The allocations an action addresses. A volume without owner is released from
the empty id. -/
def Action.addressed (a : Action) : List String :=
  match a.kind with
  | .createAllocation | .attachNetwork | .mountSecret | .attachVolume | .startAllocation
  | .stopAllocation | .deleteAllocation | .grantTools | .drainAllocation => [a.target]
  | .detachVolume => [a.target, ""]
  | _ => []

/-- What the action addresses is the goal's own, as far as it exists. -/
structure KeepsTo (goal : Goal) (w : World) (a : Action) : Prop where
  allocations : ∀ id ∈ a.addressed, ∀ x, w.allocations[id]? = some x →
    x.workload = goal.workload.name
  volumes : a.kind.onVolume = true → ∀ ref, a.volume = some ref →
    workloadDeclaresVolume goal ref.name = true

/-! ### What reports name -/

section Named

variable {host : Host} {goal : Goal} {sim w : World} {a : Action} {e : Evidence}

/-- A report names the allocations its action addresses. -/
lemma Reports.allocations (hreport : Reports a e) (hledger : sim.ledger = w.ledger)
    (hvalid : validateAction host goal sim a = .ok ()) {id : String}
    (hid : id ∈ allocationsNamed w e) : id ∈ a.addressed := by
  obtain ⟨hkind, hsubject, -, hholder⟩ := hreport
  cases hk : a.kind <;> simp only [hk, ActionKind.reports, List.mem_cons, List.not_mem_nil,
    or_false] at hkind
  case detachVolume =>
    -- the owner on record is the one the validator has seen
    simp only [Action.subject, hk, ActionKind.onVolume, if_true, Option.map_eq_some_iff] at hsubject
    obtain ⟨ref, href, hname⟩ := hsubject
    simp only [validateAction, hk] at hvalid
    obtain ⟨ref', v, href', hget, howner⟩ := validateDetachVolume_ok hvalid
    rw [href] at href'
    cases href'
    have hsame : w.volumes[e.target]?.map Volume.owner = some v.owner := by
      rw [← owners_of_get hget, hledger, hname]
      rfl
    simp only [allocationsNamed, hkind, hsame, Option.toList_some, List.mem_singleton] at hid
    simp only [Action.addressed, hk, List.mem_cons, List.not_mem_nil, or_false, hid]
    exact howner.symm
  case attachVolume =>
    simp only [allocationsNamed, hkind, hholder (.inl hk)] at hid
    simpa [Action.addressed, hk] using hid
  case drainAllocation =>
    simp only [Action.subject, hk, ActionKind.onVolume, Bool.false_eq_true, if_false,
      Option.some.injEq] at hsubject
    rcases hkind with hkind | hkind <;>
      simpa [allocationsNamed, hkind, EvidenceKind.updatesAllocation, ← hsubject,
        Action.addressed, hk] using hid
  case createAllocation | attachNetwork | mountSecret | startAllocation | stopAllocation
      | deleteAllocation | grantTools =>
    simp only [Action.subject, hk, ActionKind.onVolume, Bool.false_eq_true, if_false,
      Option.some.injEq] at hsubject
    simpa [allocationsNamed, hkind, EvidenceKind.updatesAllocation, ← hsubject,
      Action.addressed, hk] using hid
  all_goals simp [allocationsNamed, hkind, EvidenceKind.updatesAllocation] at hid

/-- A report names a volume only if its action is on it. -/
lemma Reports.volumes (hreport : Reports a e) {name : String} (hname : name ∈ volumesNamed e) :
    a.kind.onVolume = true ∧ ∃ ref, a.volume = some ref ∧ ref.name = name := by
  obtain ⟨hkind, hsubject, -, -⟩ := hreport
  have htarget : name = e.target := by
    revert hname
    unfold volumesNamed
    split <;> simp
  have hon : a.kind.onVolume = true := by
    cases hk : a.kind <;> simp only [hk, ActionKind.reports, List.mem_cons, List.not_mem_nil,
      or_false] at hkind
    case drainAllocation =>
      rcases hkind with hkind | hkind <;>
        simp [volumesNamed, hkind, EvidenceKind.updatesVolume] at hname
    all_goals first
      | rfl
      | simp [volumesNamed, hkind, EvidenceKind.updatesVolume] at hname
  rw [Action.subject, if_pos hon, Option.map_eq_some_iff] at hsubject
  obtain ⟨ref, href, hsame⟩ := hsubject
  exact ⟨hon, ref, href, hsame.trans htarget.symm⟩

end Named

/-! ### Keeping to the goal -/

lemma enter_workload {l : Ledger} {id j : String} {phase : AllocationPhase} {s' : Slot}
    (h : (l.enter j phase).slots id = some s') :
    ∃ s, l.slots id = some s ∧ s'.workload = s.workload := by
  simp only [Ledger.enter, Function.update_apply] at h
  split_ifs at h with hid
  · obtain ⟨s, hget, rfl⟩ := Option.map_eq_some_iff.mp h
    exact ⟨s, hid ▸ hget, rfl⟩
  · exact ⟨s', h, rfl⟩

/-- The workload of an allocation is fixed by its creation. -/
lemma intent_workload {a : Action} {l : Ledger} {id : String} {s' : Slot}
    (h : (a.intent l).slots id = some s') :
    (∃ s, l.slots id = some s ∧ s'.workload = s.workload) ∨
      (a.kind = .createAllocation ∧ s'.workload = a.workload) := by
  unfold Action.intent at h
  split at h
  · rename_i hk
    simp only [Ledger.place, Function.update_apply] at h
    split_ifs at h
    · cases h
      exact .inr ⟨hk, rfl⟩
    · exact .inl ⟨s', h, rfl⟩
  · exact .inl (enter_workload h)
  · exact .inl (enter_workload h)
  · simp only [Ledger.forget, Function.update_apply] at h
    split_ifs at h
    exact .inl ⟨s', h, rfl⟩
  all_goals exact .inl ⟨s', h, rfl⟩

/-- One accepted and reported action that keeps to the goal. -/
lemma OnlyTouches.step {host : Host} {goal : Goal} {w sim sim₁ w₁ w₂ : World} {a : Action}
    {e : Evidence} (h : OnlyTouches goal w w₁) (hledger : sim.ledger = w₁.ledger)
    (hkeeps : KeepsTo goal w a) (hvalid : validateAction host goal sim a = .ok ())
    (hsim : simulateAction sim a = .ok sim₁) (hreport : Reports a e)
    (hproject : project w₁ e = .ok w₂) : OnlyTouches goal w w₂ := by
  have heffect := project_effect hproject
  refine ⟨fun id x hget hother => ?_, fun id x hnone hget => ?_, fun name hundeclared => ?_⟩
  · -- another goal's allocation is not addressed, so it is not named
    have hnamed : id ∉ allocationsNamed w₁ e := fun hid =>
      hother (hkeeps.allocations id (hreport.allocations hledger hvalid hid) x hget)
    rw [heffect.allocation_frame hnamed]
    exact h.allocations id x hget hother
  · -- a new allocation has the workload of its creation
    have hslots : (a.intent w₁.ledger).slots id = some x.slot := by
      rw [← hledger, ← simulate_ledger hsim, ledger_lockstep hledger hvalid hsim hreport hproject]
      exact slots_of_get hget
    rcases intent_workload hslots with ⟨s, hs, hworkload⟩ | ⟨hk, hworkload⟩
    · obtain ⟨x₁, hget₁, rfl⟩ := Option.map_eq_some_iff.mp hs
      exact hworkload.trans (h.created id x₁ hnone hget₁)
    · simp only [validateAction, hk] at hvalid
      exact hworkload.trans (validateCreateAllocation_ok hvalid).2.1
  · have hnamed : name ∉ volumesNamed e := by
      intro hname
      obtain ⟨hon, ref, href, rfl⟩ := hreport.volumes hname
      rw [hkeeps.volumes hon ref href] at hundeclared
      cases hundeclared
    rw [heffect.volume_frame hnamed]
    exact h.volumes name hundeclared

/-- Actions that keep to the goal leave everything else alone, at every prefix. -/
lemma keeps_onlyTouches {host : Host} {grants : Grants} {goal : Goal} {w w' simEnd : World}
    {actions : List Action} (hwalk : Admitted host grants goal w actions simEnd)
    (hkeeps : ∀ a ∈ actions, KeepsTo goal w a) (n : ℕ) (hexec : Executes w (actions.take n) w') :
    OnlyTouches goal w w' := by
  let R : World → World → Prop := fun sim w₁ => sim.ledger = w₁.ledger ∧ OnlyTouches goal w w₁
  have hrefl : OnlyTouches goal w w := by
    refine ⟨fun _ _ h _ => h, fun _ _ hnone hget => ?_, fun _ _ => rfl⟩
    rw [hnone] at hget
    cases hget
  refine (hwalk.lockstep (P := fun a => KeepsTo goal w a) (R := R) ?_ hkeeps n hexec
    ⟨rfl, hrefl⟩).elim fun _ h => h.2.2
  rintro sim sim₁ w₁ w₂ a e ⟨hledger, honly⟩ hkeep - hvalid hsim hreport hproject
  exact ⟨ledger_lockstep hledger hvalid hsim hreport hproject,
    honly.step hledger hkeep hvalid hsim hreport hproject⟩

/-! ### Trespassing -/

/-- An action that certainly changes what belongs to another goal: it stops or
deletes its allocation, or releases, moves or restores its volume. A restore that
repeats the last one changes nothing. -/
inductive Trespasses (goal : Goal) (w : World) (a : Action) : Prop
  | allocation (x : Allocation) (hk : a.kind = .stopAllocation ∨ a.kind = .deleteAllocation)
      (hget : w.allocations[a.target]? = some x) (hother : x.workload ≠ goal.workload.name)
  | volume (ref : VolumeRef) (v : Volume)
      (hk : a.kind = .detachVolume ∨ a.kind = .adoptVolume ∨
        (a.kind = .restoreSnapshot ∧ v.restoredFrom ≠ a.snapshot))
      (href : a.volume = some ref) (hget : w.volumes[ref.name]? = some v)
      (hother : workloadDeclaresVolume goal ref.name = false)

section Trespass

variable {host : Host} {v : Volume}

variable {goal : Goal} {w w' : World} {a : Action}

/-- The ledger shows that a permitted action was carried out. -/
lemma Executes.single_ledger (hexec : Executes w [a] w') (hperm : a.Permitted w.ledger) :
    w'.ledger = a.intent w.ledger := by
  cases hexec with
  | cons hreport hproject hrest =>
    cases hrest
    rw [project_ledger hproject, hreport.meaning hperm]

/-- What the validators of stops and deletions say about the phase. -/
lemma validateStopAllocation_running {x : Allocation}
    (h : validateStopAllocation host goal w a = .ok ()) (hget : w.allocations[a.target]? = some x) :
    x.phase = .running := by
  simp only [validateStopAllocation, existingAllocation, require_bind_ok, hget,
    refuseIf_bind_ok] at h
  obtain ⟨_, hsome, hphase, -⟩ := h
  cases hsome
  exact not_not.mp hphase

/-- Another goal's allocation is stopped or deleted. -/
lemma allocation_trespass {x : Allocation}
    (hk : a.kind = .stopAllocation ∨ a.kind = .deleteAllocation)
    (hget : w.allocations[a.target]? = some x) (hother : x.workload ≠ goal.workload.name)
    (hvalid : validateAction host goal w a = .ok ()) :
    ∃ w', Executes w [a] w' ∧ ¬OnlyTouches goal w w' := by
  obtain ⟨w', hplays⟩ := allocation_plays quietHost (by tauto) hget
  refine ⟨w', hplays.executes, fun honly => ?_⟩
  have hsame := slots_of_get (honly.allocations _ x hget hother)
  rw [hplays.executes.single_ledger (validate_permitted hvalid)] at hsame
  rcases hk with hk | hk
  · simp only [validateAction, hk] at hvalid
    have hrunning := validateStopAllocation_running hvalid hget
    simp [Action.intent, hk, Ledger.enter, slots_of_get hget, Allocation.slot, hrunning] at hsame
  · simp [Action.intent, hk, Ledger.forget] at hsame

/-- A report whose projection rewrites another goal's volume. -/
lemma volume_trespass {e : Evidence} {next : World} {name : String} {v' : Volume}
    (hexec : MemoryExecutor.execute host w a = .ok e) (hinto : projectInto w e = .ok next)
    (hget : w.volumes[name]? = some v) (hnext : next.volumes[name]? = some v') (hne : v' ≠ v)
    (hother : workloadDeclaresVolume goal name = false) :
    ∃ w', Executes w [a] w' ∧ ¬OnlyTouches goal w w' := by
  obtain ⟨w', hplays, hvolumes⟩ := Plays.of_into hexec hinto
  refine ⟨w', hplays.executes, fun honly => hne ?_⟩
  have hsame := honly.volumes name hother
  rw [hvolumes, hnext, hget] at hsame
  exact Option.some.inj hsame

section Volumes

variable {ref : VolumeRef} (href : a.volume = some ref) (hget : w.volumes[ref.name]? = some v)
  (hother : workloadDeclaresVolume goal ref.name = false)
  (hvalid : validateAction host goal w a = .ok ())
include href hget hother hvalid

/-- Another goal's volume is released: its generation moves. -/
lemma detach_trespass (hk : a.kind = .detachVolume) :
    ∃ w', Executes w [a] w' ∧ ¬OnlyTouches goal w w' := by
  let e : Evidence :=
    { kind := .volumeDetached, target := ref.name
      observed := Table.ofEntries [("allocation", a.target)] }
  have hexec : MemoryExecutor.execute quietHost w a = .ok e := by
    simp only [MemoryExecutor.execute, hk, volumeRef, href]
    rfl
  have howner : v.owner = "" ∨ v.owner = a.target := by
    simp only [validateAction, hk] at hvalid
    obtain ⟨ref', v', href', hget', howner⟩ := validateDetachVolume_ok hvalid
    rw [href] at href'
    cases href'
    rw [hget] at hget'
    cases hget'
    exact howner
  have hmay : ¬(v.owner ≠ "" ∧ e.observe "allocation" ≠ "" ∧ v.owner ≠ e.observe "allocation") := by
    rw [show e.observe "allocation" = a.target by simp [e, Evidence.observe]]
    tauto
  have hinto : ∃ next, projectInto w e = .ok next ∧ next.volumes[ref.name]? =
      some { v with owner := "", generation := v.generation + 1 } := by
    simp only [projectInto, e, projectVolumeDetached, hget]
    rw [if_neg hmay]
    exact ⟨_, rfl, get_insert_self⟩
  obtain ⟨next, hinto, hnext⟩ := hinto
  refine volume_trespass hexec hinto hget hnext (fun heq => ?_) hother
  have hgeneration : v.generation + 1 = v.generation := congrArg Volume.generation heq
  simp at hgeneration

/-- Another goal's volume is moved: its handoff ends. -/
lemma adopt_trespass (hk : a.kind = .adoptVolume) :
    ∃ w', Executes w [a] w' ∧ ¬OnlyTouches goal w w' := by
  simp only [validateAction, hk, validateAdoptVolume, volumeRef, existingVolume, href,
    require_bind_ok, refuseIf_bind_ok, refuseIf_ok] at hvalid
  obtain ⟨_, hsome, v', hget', handoff, hhandoff, hphase, hnode⟩ := hvalid
  cases hsome
  rw [hget] at hget'
  cases hget'
  let e : Evidence :=
    { kind := .volumeAdopted, target := ref.name
      observed := Table.ofEntries [("node", a.node)] }
  have hexec : MemoryExecutor.execute quietHost w a = .ok e := by
    simp only [MemoryExecutor.execute, hk, volumeRef, href]
    rfl
  have hadopter : e.observe "node" = handoff.to_ := by
    simpa [e, Evidence.observe] using hnode
  let moved : Volume :=
    { v with node := handoff.to_, generation := v.generation + 1, handoff := none }
  have hinto : projectVolumeAdopted w e = .ok (w.setVolume ref.name moved) := by
    simp only [projectVolumeAdopted, knownVolume, require_bind_ok, refuseIf_bind_ok, pure_ok]
    exact ⟨v, hget, handoff, hhandoff, hphase, not_not.mpr hadopter, rfl⟩
  refine volume_trespass hexec hinto hget (get_insert_self) (fun heq => ?_) hother
  have hnone : none = v.handoff := congrArg Volume.handoff heq
  rw [hhandoff] at hnone
  cases hnone

/-- Another goal's volume is restored, under this goal's approval. -/
lemma restore_trespass (hk : a.kind = .restoreSnapshot) (hnews : v.restoredFrom ≠ a.snapshot) :
    ∃ w', Executes w [a] w' ∧ ¬OnlyTouches goal w w' := by
  simp only [validateAction, hk, validateRestoreSnapshot, volumeRef, existingVolume,
    recordedSnapshot, href, require_bind_ok, refuseIf_bind_ok, refuseIf_ok] at hvalid
  obtain ⟨_, hsome, hsnapshot, v', hget', hrecorded, -, -⟩ := hvalid
  cases hsome
  rw [hget] at hget'
  cases hget'
  let e : Evidence :=
    { kind := .volumeRestored, target := ref.name
      observed := Table.ofEntries [("snapshot", a.snapshot)] }
  have hobserve : e.observe "snapshot" = a.snapshot := by simp [e, Evidence.observe]
  have hexec : MemoryExecutor.execute quietHost w a = .ok e := by
    simp only [MemoryExecutor.execute, hk, volumeSnapshot, href, refuseIf, hsnapshot]
    rfl
  let restored : Volume := { v with restoredFrom := a.snapshot }
  have hinto : projectVolumeRestored w e = .ok (w.setVolume ref.name restored) := by
    simp only [projectVolumeRestored, knownVolume, require_bind_ok, refuseIf_bind_ok,
      pure_ok, hobserve]
    exact ⟨v, hget, hsnapshot, hrecorded, rfl⟩
  refine volume_trespass hexec hinto hget (get_insert_self) (fun heq => ?_) hother
  exact hnews (congrArg Volume.restoredFrom heq).symm

end Volumes

/-- A validated action that trespasses is carried out. -/
lemma Trespasses.executes (h : Trespasses goal w a)
    (hvalid : validateAction host goal w a = .ok ()) :
    ∃ w', Executes w [a] w' ∧ ¬OnlyTouches goal w w' := by
  cases h with
  | allocation x hk hget hother => exact allocation_trespass hk hget hother hvalid
  | volume ref v hk href hget hother =>
    rcases hk with hk | hk | ⟨hk, hnews⟩
    · exact detach_trespass href hget hother hvalid hk
    · exact adopt_trespass href hget hother hvalid hk
    · exact restore_trespass href hget hother hvalid hk hnews

end Trespass

/-- **The reach of an accepted proposal**: when every action keeps to the goal, only
what belongs to it changes, at every prefix of the execution; when the proposal is a
single action that trespasses, some execution changes what belongs to another goal. -/
theorem accepted_scope {host : Host} {actor : AgentDescriptor} {goal : Goal} {w : World}
    {p : Proposal} (haccepted : authorize host ⟨defaultPolicy⟩ actor goal w p = .ok ()) :
    ((∀ a ∈ p.actions, KeepsTo goal w a) →
        ∀ n w', Executes w (p.actions.take n) w' → OnlyTouches goal w w') ∧
      ∀ a, p.actions = [a] → Trespasses goal w a →
        ∃ w', Executes w p.actions w' ∧ ¬OnlyTouches goal w w' := by
  obtain ⟨-, sim, hwalk⟩ := authorize_admitted haccepted
  refine ⟨fun hkeeps n w' hexec => keeps_onlyTouches hwalk hkeeps n hexec, ?_⟩
  intro a hsingle htrespass
  rw [hsingle] at hwalk ⊢
  cases hwalk with
  | cons hgrant hvalid hsim hrest => exact htrespass.executes hvalid

/-! ### One goal's approval restores another goal's volume -/

namespace Scope

/-- The goal the approval is for. It declares no volume. -/
def goal : Goal := { id := "web", workload := { name := "web", replicas := 1 } }

/-- The volume of another goal, with a recorded snapshot. -/
def data : Volume := { name := "ledger-data", node := "n1",
                       snapshots := Table.ofEntries [("monday", "sum")] }

def approval : Approval :=
  { id := "a1", goalID := "web", scope := "restore-volume", issuedBy := "op", granted := true }

def world : World :=
  { nodes := Table.ofEntries [("n1", { id := "n1", healthy := true })]
    allocations := Table.ofEntries
      [("ledger-0", { id := "ledger-0", workload := "ledger", node := "n1", phase := .stopped })]
    volumes := Table.ofEntries [("ledger-data", data)]
    approvals := Table.ofEntries [("a1", approval)] }

def restore : Action :=
  { id := "restore", kind := .restoreSnapshot, volume := some { name := "ledger-data" },
    snapshot := "monday" }

/-- The world after the restore. -/
def restored : World :=
  { world with
    revision := 1
    volumes := Table.ofEntries [("ledger-data", { data with restoredFrom := "monday" })] }

def delete : Action :=
  { id := "delete", kind := .deleteAllocation, target := "ledger-0", workload := "ledger" }

/-- The world after the deletion. -/
def deleted : World := { world with revision := 1, allocations := ∅ }

def proposal (agent : String) (a : Action) : Proposal :=
  { id := "p", agentID := agent, goalID := "web", basedOnRevision := 0, actions := [a] }

lemma executes_restore : Executes world [restore] restored := by
  have hexec : MemoryExecutor.execute quietHost world restore = .ok
      { kind := .volumeRestored, target := "ledger-data"
        observed := Table.ofEntries [("snapshot", "monday")] } := by decide
  exact .single hexec (by decide)

lemma executes_delete : Executes world [delete] deleted := by
  have hexec : MemoryExecutor.execute quietHost world delete = .ok
      { kind := .allocationDeleted, target := "ledger-0"
        observed := Table.ofEntries [("deleted", "true")] } := by decide
  exact .single hexec (by decide)

end Scope

open Scope

/-- Under an approval for `web` the kernel accepts the restore of the volume of
`ledger`, and a proposal for `web` deletes the allocation of `ledger`. -/
theorem accepted_out_of_scope :
    (authorize quietHost ⟨defaultPolicy⟩ { id := "storage-agent" } goal world
        (proposal "storage-agent" restore) = .ok () ∧
      Executes world [restore] restored ∧
      workloadDeclaresVolume goal "ledger-data" = false ∧
      restored.volumes["ledger-data"]? ≠ world.volumes["ledger-data"]?) ∧
    (authorize quietHost ⟨defaultPolicy⟩ { id := "rollout-agent" } goal world
        (proposal "rollout-agent" delete) = .ok () ∧
      Executes world [delete] deleted ∧
      world.allocations["ledger-0"]?.map Allocation.workload = some "ledger" ∧
      deleted.allocations["ledger-0"]? = none) := by
  refine ⟨⟨?_, executes_restore, ?_, ?_⟩, ?_, executes_delete, ?_, ?_⟩ <;> decide

/-- The reach of the accepted restore. -/
theorem accepted_scope_restore :
    ((∀ a ∈ [restore], KeepsTo goal world a) →
        ∀ n w', Executes world ([restore].take n) w' →
          OnlyTouches goal world w') ∧
      ∀ a, [restore] = [a] → Trespasses goal world a →
        ∃ w', Executes world [restore] w' ∧ ¬OnlyTouches goal world w' := by
  have haccepted : authorize quietHost ⟨defaultPolicy⟩ { id := "storage-agent" } goal
      world (proposal "storage-agent" restore) = .ok () := by decide
  exact accepted_scope haccepted

end A4s
