/-
Carrying out an accepted proposal.

The kernel walks a proposal over a simulated world (`Admitted`). Executors then
carry it out action by action and the projection applies what they report
(`Executes`). What an executor may report for an action is `Reports`: the kind of
evidence, what it is about, and the observations the ledger depends on.

* `memoryExecutor_reports`: the in-memory data plane reports so; of a creation it
  reports every field (`memoryExecutor_recordsCreation`).
* `authorize_admitted`: what acceptance established, action by action.
* `Admitted.lockstep`: the rule for a relation between the simulated world and the
  world that is executed in.
* `execution_follows_plan`: **a proposal that was accepted is carried out as
  planned**: at every prefix the executed world and the simulated one have the same
  ledger.
-/
import Mathlib.Logic.Relation
import A4s.Control.Ledger

namespace A4s

variable {sim simEnd w w' : World} {a : Action} {host : Host} {goal : Goal} {e : Evidence}
  {grants : Grants} {actions : List Action}

open Go

/-! ### What executors report -/

/-- The kinds of evidence an executor reports for an action. A drained agent and
one that still works on a task are told apart. -/
def ActionKind.reports : ActionKind → List EvidenceKind
  | .pullImage => [.imagePresent]
  | .createAllocation => [.allocationCreated]
  | .attachNetwork => [.networkAttached]
  | .mountSecret => [.secretMounted]
  | .createVolume => [.volumeCreated]
  | .attachVolume => [.volumeAttached]
  | .detachVolume => [.volumeDetached]
  | .snapshotVolume => [.volumeSnapshotted]
  | .restoreSnapshot => [.volumeRestored]
  | .backupSnapshot => [.volumeBackedUp]
  | .quiesceVolume => [.volumeQuiesced]
  | .transferVolume => [.volumeTransferred]
  | .adoptVolume => [.volumeAdopted]
  | .pruneSnapshots => [.snapshotsPruned]
  | .collectImages => [.imagesCollected]
  | .verifyBackup => [.backupVerified]
  | .databaseBackup => [.databaseBackedUp]
  | .startAllocation => [.allocationRunning]
  | .stopAllocation => [.allocationStopped]
  | .deleteAllocation => [.allocationDeleted]
  | .publishRoute => [.routeReachable]
  | .applyPolicy => [.policyApplied]
  | .publishZone => [.zonePublished]
  | .grantTools => [.toolsGranted]
  | .drainAllocation => [.allocationDrained, .agentDraining]
  | .cordonNode => [.nodeCordoned]
  | .uncordonNode => [.nodeUncordoned]
  | .probeReadiness => []
  | .other _ => []

/-- Actions on a volume. -/
def ActionKind.onVolume : ActionKind → Bool
  | .createVolume | .attachVolume | .detachVolume | .snapshotVolume | .restoreSnapshot
  | .backupSnapshot | .quiesceVolume | .transferVolume | .adoptVolume | .pruneSnapshots
  | .verifyBackup | .databaseBackup => true
  | _ => false

/-- What the evidence for an action is about. -/
def Action.subject (a : Action) : Option String :=
  if a.kind.onVolume then a.volume.map (·.name)
  else match a.kind with
    | .pullImage => some a.image
    | .applyPolicy => some a.node
    | .publishZone => some a.node
    | .collectImages => some a.node
    | _ => some a.target

/-- What an executor reports for an action it carried out. -/
structure Reports (a : Action) (e : Evidence) : Prop where
  kind : e.kind ∈ a.kind.reports
  subject : a.subject = some e.target
  created : a.kind = .createAllocation →
    e.observe "workload" = a.workload ∧ e.observedInt "replica" = a.replica
  holder : a.kind = .attachVolume ∨ a.kind = .detachVolume →
    e.observe "allocation" = a.target

/-- The engine stamps evidence that carries no time. -/
lemma Reports.stamp (h : Reports a e) (now : Time) : Reports a { e with observedAt := now } :=
  ⟨h.kind, h.subject, h.created, h.holder⟩

/-- Most reports carry nothing the ledger reads beyond their kind and subject. -/
lemma Reports.plain (hkind : e.kind ∈ a.kind.reports)
    (hsubject : a.subject = some e.target) (hcreate : a.kind ≠ .createAllocation)
    (hattach : a.kind ≠ .attachVolume) (hdetach : a.kind ≠ .detachVolume) : Reports a e :=
  ⟨hkind, hsubject, fun h => absurd h hcreate,
    fun h => (h.elim hattach hdetach).elim⟩

/-- The report of an action that changes what a volume holds. -/
lemma Reports.ofVolume {ref : VolumeRef} (href : a.volume = some ref) (hon : a.kind.onVolume = true)
    (hkind : e.kind ∈ a.kind.reports) (htarget : e.target = ref.name)
    (hattach : a.kind ≠ .attachVolume) (hdetach : a.kind ≠ .detachVolume) : Reports a e := by
  refine Reports.plain hkind (by simp [Action.subject, hon, href, htarget]) ?_ hattach hdetach
  rintro hk
  rw [hk] at hon
  cases hon

/-- **The in-memory data plane reports what it did.** -/
theorem memoryExecutor_reports (h : MemoryExecutor.execute host w a = .ok e) : Reports a e := by
  unfold MemoryExecutor.execute at h
  split at h <;> rename_i hk
  case h_2 =>
    simp only [existingNode, require_bind_ok, pure_ok] at h
    obtain ⟨node, -, rfl⟩ := h
    refine ⟨by simp [hk, ActionKind.reports], by simp [Action.subject, hk, ActionKind.onVolume],
      fun _ => ⟨?_, ?_⟩, by simp [hk]⟩
    · simp [Evidence.observe]
    · simp [Evidence.observedInt, Evidence.observe, sscanInt_sprintInt]
  case h_4 =>
    simp only [volumeRef, existingAllocation, require_bind_ok, pure_ok] at h
    obtain ⟨ref, href, x, -, rfl⟩ := h
    exact ⟨by simp [hk, ActionKind.reports],
      by simp [Action.subject, hk, ActionKind.onVolume, href],
      by simp [hk], fun _ => by simp [Evidence.observe]⟩
  case h_7 =>
    simp only [volumeRef, require_bind_ok, pure_ok] at h
    obtain ⟨ref, href, rfl⟩ := h
    exact ⟨by simp [hk, ActionKind.reports],
      by simp [Action.subject, hk, ActionKind.onVolume, href],
      by simp [hk], fun _ => by simp [Evidence.observe]⟩
  case h_28 | h_29 => exact absurd h fail_ne_ok
  case h_1 | h_14 | h_15 | h_21 | h_22 | h_23 | h_24 | h_25 | h_26 =>
    simp only [existingNode, existingAllocation, require_bind_ok, pure_ok] at h
    obtain ⟨_, -, rfl⟩ := h
    exact Reports.plain (by simp [hk, ActionKind.reports])
      (by simp [Action.subject, hk, ActionKind.onVolume]) (by simp [hk]) (by simp [hk])
      (by simp [hk])
  case h_5 | h_6 =>
    simp only [existingNode, cordonEvidence, require_bind_ok, refuseIf_bind_ok, pure_ok] at h
    obtain ⟨_, -, -, rfl⟩ := h
    exact Reports.plain (by simp [hk, ActionKind.reports])
      (by simp [Action.subject, hk, ActionKind.onVolume]) (by simp [hk]) (by simp [hk])
      (by simp [hk])
  case h_20 =>
    simp only [existingAllocation, require_bind_ok, pure_ok] at h
    obtain ⟨_, -, secret, -, rfl⟩ := h
    exact Reports.plain (by simp [hk, ActionKind.reports])
      (by simp [Action.subject, hk, ActionKind.onVolume]) (by simp [hk]) (by simp [hk])
      (by simp [hk])
  case h_16 | h_27 =>
    cases h
    exact Reports.plain (by simp [hk, ActionKind.reports])
      (by simp [Action.subject, hk, ActionKind.onVolume]) (by simp [hk]) (by simp [hk])
      (by simp [hk])
  case h_8 | h_9 | h_11 =>
    simp only [volumeRef, require_bind_ok, pure_ok] at h
    obtain ⟨ref, href, rfl⟩ := h
    exact Reports.ofVolume href (by simp [hk, ActionKind.onVolume])
      (by simp [hk, ActionKind.reports]) rfl (by simp [hk]) (by simp [hk])
  case h_3 | h_10 | h_17 =>
    simp only [volumeRef, existingNode, existingVolume, require_bind_ok, pure_ok] at h
    obtain ⟨ref, href, _, -, rfl⟩ := h
    exact Reports.ofVolume href (by simp [hk, ActionKind.onVolume])
      (by simp [hk, ActionKind.reports]) rfl (by simp [hk]) (by simp [hk])
  case h_12 | h_18 | h_19 =>
    obtain ⟨ref, hsnap, h⟩ := bind_ok.mp h
    cases h
    exact Reports.ofVolume (volumeSnapshot_eq_ok.mp hsnap).1 (by simp [hk, ActionKind.onVolume])
      (by simp [hk, ActionKind.reports]) rfl (by simp [hk]) (by simp [hk])
  case h_13 =>
    obtain ⟨ref, hsnap, h⟩ := bind_ok.mp h
    obtain ⟨v, -, h⟩ := bind_ok.mp h
    cases h
    exact Reports.ofVolume (volumeSnapshot_eq_ok.mp hsnap).1 (by simp [hk, ActionKind.onVolume])
      (by simp [hk, ActionKind.reports]) rfl (by simp [hk]) (by simp [hk])

/-- Evidence of a creation carries every field of the action. -/
structure RecordsCreation (a : Action) (e : Evidence) : Prop where
  kind : e.kind = .allocationCreated
  target : e.target = a.target
  node : e.observe "node" = a.node
  workload : e.observe "workload" = a.workload
  image : e.observe "image" = a.image
  replica : e.observedInt "replica" = a.replica
  resources : e.observedInt "cpu_millis" = a.resources.cpuMillis ∧
    e.observedInt "memory_mb" = a.resources.memoryMB
  budget : e.observedBudget = a.budget

/-- The in-memory data plane reports every field of a creation. -/
lemma memoryExecutor_recordsCreation (hk : a.kind = .createAllocation)
    (h : MemoryExecutor.execute host w a = .ok e) : RecordsCreation a e := by
  simp only [MemoryExecutor.execute, hk, existingNode, require_bind_ok, pure_ok] at h
  obtain ⟨-, -, rfl⟩ := h
  by_cases hzero : a.budget.isZero = true
  · have hbudget : a.budget = {} := of_decide_eq_true hzero
    constructor <;>
      simp only [budgetEntries, hzero, if_true, Evidence.observe, Evidence.observedInt,
        Evidence.observedBudget, List.cons_append, List.nil_append, get_ofEntries_cons,
        get_ofEntries_nil, String.reduceEq, if_true, if_false, Option.getD_some,
        Option.getD_none, sscanInt_sprintInt, and_self]
    rw [hbudget]
    rfl
  · constructor <;>
      simp only [budgetEntries, hzero, Bool.false_eq_true, Evidence.observe, Evidence.observedInt,
        Evidence.observedBudget, List.cons_append, List.nil_append, get_ofEntries_cons,
        get_ofEntries_nil, String.reduceEq, if_true, if_false, Option.getD_some,
        sscanInt_sprintInt, and_self]

/-! ### Reports and plans -/

/-- What the ledger must say for an action to be reported as it was meant. -/
def Action.Permitted (a : Action) (l : Ledger) : Prop :=
  match a.kind, a.volume with
  | .createAllocation, _ => l.slots a.target = none
  | .detachVolume, some ref =>
    ∀ owner, l.owners ref.name = some owner → owner = "" ∨ owner = a.target
  | _, _ => True

/-- The report of a permitted action means what the action was meant to do. -/
lemma Reports.meaning {l : Ledger} (h : Reports a e)
    (hperm : a.Permitted l) : e.meaning l = a.intent l := by
  obtain ⟨hkind, hsubject, hcreated, hholder⟩ := h
  cases hk : a.kind <;> simp only [hk, ActionKind.reports, List.mem_cons, List.not_mem_nil,
    or_false] at hkind
  case createAllocation =>
    simp only [Action.subject, hk, ActionKind.onVolume, Bool.false_eq_true, if_false,
      Option.some.injEq] at hsubject
    obtain ⟨hworkload, hreplica⟩ := hcreated hk
    simp only [Action.Permitted, hk] at hperm
    simp only [Evidence.meaning, Action.intent, hkind, hk, ← hsubject, hperm, hworkload, hreplica]
    rfl
  case startAllocation | stopAllocation | deleteAllocation =>
    simp only [Action.subject, hk, ActionKind.onVolume, Bool.false_eq_true, if_false,
      Option.some.injEq] at hsubject
    simp only [Evidence.meaning, Action.intent, hkind, hk, hsubject]
  case createVolume =>
    simp only [Action.subject, hk, ActionKind.onVolume, if_true, Option.map_eq_some_iff] at hsubject
    obtain ⟨ref, href, hname⟩ := hsubject
    simp only [Evidence.meaning, Action.intent, hkind, hk, href, hname]
  case attachVolume =>
    simp only [Action.subject, hk, ActionKind.onVolume, if_true, Option.map_eq_some_iff] at hsubject
    obtain ⟨ref, href, hname⟩ := hsubject
    simp only [Evidence.meaning, Action.intent, hkind, hk, href, hname, hholder (.inl hk)]
  case detachVolume =>
    simp only [Action.subject, hk, ActionKind.onVolume, if_true, Option.map_eq_some_iff] at hsubject
    obtain ⟨ref, href, hname⟩ := hsubject
    simp only [Action.Permitted, hk, href, hname] at hperm
    simp only [Evidence.meaning, Action.intent, hkind, hk, href, hname, hholder (.inr hk)]
    cases howner : l.owners e.target with
    | none => exact (Ledger.release_of_absent howner).symm
    | some owner => exact if_neg fun hheld => (hperm owner howner).elim hheld.1 hheld.2.2
  case drainAllocation =>
    rcases hkind with hkind | hkind <;> simp only [Evidence.meaning, Action.intent, hkind, hk]
  all_goals simp only [Evidence.meaning, Action.intent, hkind, hk]

/-- What the validator of creations established. -/
lemma validateCreateAllocation_ok (h : validateCreateAllocation host goal w a = .ok ()) :
    w.allocations[a.target]? = none ∧ a.workload = goal.workload.name ∧
      0 ≤ a.replica ∧ a.replica < authorizedReplicas goal w := by
  simp only [validateCreateAllocation, healthyNode, refuseIf_bind_ok, require_bind_ok] at h
  obtain ⟨hnew, node, -, -, -, hworkload, -, -, -, hindex, -⟩ := h
  simp only [not_or, Int64.not_lt, Int64.not_le] at hindex
  exact ⟨by simpa using hnew, not_not.mp hworkload, hindex.1, hindex.2⟩

/-- What the validator of releases established. -/
lemma validateDetachVolume_ok (h : validateDetachVolume host goal w a = .ok ()) :
    ∃ ref v, a.volume = some ref ∧ w.volumes[ref.name]? = some v ∧
      (v.owner = "" ∨ v.owner = a.target) := by
  simp only [validateDetachVolume, volumeRef, existingVolume, refuseIf_bind_ok,
    require_bind_ok] at h
  obtain ⟨ref, href, v, hget, howner, -⟩ := h
  exact ⟨ref, v, href, hget, by tauto⟩

/-- The validators permit. -/
lemma validate_permitted (h : validateAction host goal w a = .ok ()) : a.Permitted w.ledger := by
  unfold Action.Permitted
  split
  · rename_i hk
    simp only [validateAction, hk] at h
    exact slots_of_absent (validateCreateAllocation_ok h).1
  · rename_i ref hk href
    simp only [validateAction, hk] at h
    obtain ⟨ref', v, href', hget, howner⟩ := validateDetachVolume_ok h
    rw [href] at href'
    cases href'
    intro owner hown
    rw [owners_of_get hget] at hown
    cases hown
    exact howner
  · trivial

/-! ### Acceptance -/

/-- The kernel's walk over a proposal: each action is granted, validated against
the world simulated so far, and simulated. -/
inductive Admitted (host : Host) (grants : Grants) (goal : Goal) :
    World → List Action → World → Prop
  | nil (sim : World) : Admitted host grants goal sim [] sim
  | cons {sim sim₁ sim' : World} {a : Action} {rest : List Action}
      (hgrant : grants.lookup a.kind = some true)
      (hvalid : validateAction host goal sim a = .ok ())
      (hsim : simulateAction sim a = .ok sim₁)
      (hrest : Admitted host grants goal sim₁ rest sim') :
      Admitted host grants goal sim (a :: rest) sim'

lemma authorizeActions_admitted {agentID : String} {completed : List String} {sim' : World}
    (h : authorizeActions host agentID grants goal sim completed actions = .ok sim') :
    Admitted host grants goal sim actions sim' := by
  induction actions generalizing sim completed with
  | nil =>
    cases h
    exact .nil _
  | cons a rest ih =>
    simp only [authorizeActions, refuseIf_bind_ok] at h
    obtain ⟨-, hgrant, h⟩ := h
    obtain ⟨_, -, h⟩ := bind_ok.mp h
    obtain ⟨_, hvalid, h⟩ := bind_ok.mp h
    obtain ⟨sim₁, hsim, h⟩ := bind_ok.mp h
    exact .cons (not_not.mp hgrant) (wrapError_ok.mp hvalid) (wrapError_ok.mp hsim) (ih h)

/-- Each action of an accepted proposal was granted, and validated over the nodes of
the world. -/
lemma Admitted.validated (hwalk : Admitted host grants goal sim actions simEnd) (ha : a ∈ actions) :
    grants.lookup a.kind = some true ∧ ∃ sim' : World,
      (∀ id : String, sim'.nodes[id]?.isSome = sim.nodes[id]?.isSome) ∧
        validateAction host goal sim' a = .ok () := by
  induction hwalk with
  | nil => cases ha
  | cons hgrant hvalid hsim hrest ih =>
    rcases List.mem_cons.mp ha with rfl | ha
    · exact ⟨hgrant, _, fun _ => rfl, hvalid⟩
    · obtain ⟨hlookup, sim', hnodes, hvalid'⟩ := ih ha
      refine ⟨hlookup, sim', fun id => ?_, hvalid'⟩
      rw [hnodes, (simulate_effect hsim).2.nodes]

/-- An accepted action was validated in the world that the actions before it lead to. -/
lemma Admitted.validated_after {before after : List Action}
    (h : Admitted host grants goal sim (before ++ a :: after) simEnd) :
    ∃ sim', Admitted host grants goal sim before sim' ∧
      validateAction host goal sim' a = .ok () := by
  induction before generalizing sim with
  | nil =>
    cases h with
    | cons _ hvalid _ _ => exact ⟨sim, .nil sim, hvalid⟩
  | cons b rest ih =>
    cases h with
    | cons hgrant hvalid hsim hrest =>
      obtain ⟨sim', hbefore, ha⟩ := ih hrest
      exact ⟨sim', .cons hgrant hvalid hsim hbefore, ha⟩

/-- The capability set a policy gives an agent. -/
def Kernel.grantsFor (k : Kernel) (agentID : String) : Grants :=
  k.policy.grants[agentID]?.getD []

/-- **What acceptance established**: the proposal is the actor's own, and the
kernel's walk went through. -/
theorem authorize_admitted {k : Kernel} {actor : AgentDescriptor} {p : Proposal}
    (h : authorize host k actor goal w p = .ok ()) :
    p.agentID = actor.id ∧
      ∃ sim, Admitted host (k.grantsFor actor.id) goal w p.actions sim := by
  simp only [authorize, refuseIf_bind_ok] at h
  obtain ⟨hactor, -, -, -, -, -, h⟩ := h
  obtain ⟨sim, hsim, -⟩ := bind_ok.mp h
  have hid : p.agentID = actor.id := not_not.mp hactor
  rw [hid] at hsim
  exact ⟨hid, sim, authorizeActions_admitted hsim⟩

/-! ### Execution -/

/-- Actions are carried out in order, and the projection applies each report. -/
inductive Executes : World → List Action → World → Prop
  | nil (w : World) : Executes w [] w
  | cons {w w₁ w' : World} {a : Action} {e : Evidence} {rest : List Action}
      (hreport : Reports a e) (hproject : project w e = .ok w₁) (hrest : Executes w₁ rest w') :
      Executes w (a :: rest) w'

/-- **The lockstep rule**: a relation between the simulated and the executed world
that every accepted and reported action keeps holds at every prefix. -/
theorem Admitted.lockstep {P : Action → Prop} {R : World → World → Prop}
    (hstep : ∀ {sim sim₁ w w₁ : World} {a : Action} {e : Evidence}, R sim w → P a →
      grants.lookup a.kind = some true → validateAction host goal sim a = .ok () →
      simulateAction sim a = .ok sim₁ → Reports a e → project w e = .ok w₁ → R sim₁ w₁)
    (h : Admitted host grants goal sim actions simEnd) (hP : ∀ a ∈ actions, P a) (n : ℕ)
    (hexec : Executes w (actions.take n) w') (hR : R sim w) :
    ∃ sim', Admitted host grants goal sim (actions.take n) sim' ∧ R sim' w' := by
  induction h generalizing w n with
  | nil sim =>
    rw [List.take_nil] at hexec ⊢
    cases hexec
    exact ⟨sim, .nil sim, hR⟩
  | cons hgrant hvalid hsim hrest ih =>
    cases n with
    | zero =>
      cases hexec
      exact ⟨_, .nil _, hR⟩
    | succ n =>
      cases hexec with
      | cons hreport hproject hexec =>
        obtain ⟨sim', hadm, hR'⟩ := ih (fun a ha => hP a (List.mem_cons_of_mem _ ha)) n hexec
          (hstep hR (hP _ List.mem_cons_self) hgrant hvalid hsim hreport hproject)
        exact ⟨sim', .cons hgrant hvalid hsim hadm, hR'⟩

/-- One accepted and reported action keeps the ledgers equal. -/
lemma ledger_lockstep {sim₁ w₁ : World} (hledger : sim.ledger = w.ledger)
    (hvalid : validateAction host goal sim a = .ok ()) (hsim : simulateAction sim a = .ok sim₁)
    (hreport : Reports a e) (hproject : project w e = .ok w₁) : sim₁.ledger = w₁.ledger := by
  rw [simulate_ledger hsim, project_ledger hproject, ← hledger]
  exact (hreport.meaning (validate_permitted hvalid)).symm

/-- **A proposal that was accepted is carried out as planned**: at every prefix
the executed world has the ledger of the world the kernel simulated for it. -/
theorem execution_follows_plan (h : Admitted host grants goal w actions simEnd) (n : ℕ)
    (hexec : Executes w (actions.take n) w') :
    ∃ sim', Admitted host grants goal w (actions.take n) sim' ∧
      World.ledger sim' = w'.ledger :=
  h.lockstep (P := fun _ => True) (R := fun sim w => sim.ledger = w.ledger)
    (fun hR _ _ hvalid hsim hreport hproject =>
      ledger_lockstep hR hvalid hsim hreport hproject)
    (fun _ _ => trivial) n hexec rfl

/-- The simulated and the executed world agree on what allocations, volumes and nodes
there are. -/
structure Abreast (sim w : World) : Prop where
  ledger : sim.ledger = w.ledger
  nodes : ∀ id : String, sim.nodes[id]?.isSome = w.nodes[id]?.isSome

lemma Abreast.allocation (h : Abreast sim w) {id : String} {x : Allocation}
    (hget : sim.allocations[id]? = some x) : ∃ y, w.allocations[id]? = some y := by
  have hslot : w.ledger.slots id = some x.slot := by
    rw [← h.ledger]
    exact slots_of_get hget
  obtain ⟨y, hy, -⟩ := Option.map_eq_some_iff.mp hslot
  exact ⟨y, hy⟩

lemma Abreast.absent (h : Abreast sim w) {id : String}
    (hget : sim.allocations[id]? = none) : w.allocations[id]? = none := by
  have hslot : w.ledger.slots id = none := by
    rw [← h.ledger]
    exact slots_of_absent hget
  exact Option.map_eq_none_iff.mp hslot

/-- One accepted and reported action keeps the worlds abreast. -/
lemma Abreast.step {sim₁ w₁ : World} (h : Abreast sim w)
    (hvalid : validateAction host goal sim a = .ok ()) (hsim : simulateAction sim a = .ok sim₁)
    (hreport : Reports a e) (hproject : project w e = .ok w₁) : Abreast sim₁ w₁ := by
  refine ⟨ledger_lockstep h.ledger hvalid hsim hreport hproject, fun id => ?_⟩
  rw [(simulate_effect hsim).2.nodes, h.nodes, (project_effect hproject).nodes_isSome]

/-- **An accepted action meets the world it was accepted for**: when its turn comes,
the world is abreast of the one it was validated in. -/
theorem Admitted.turn {w₁ : World} {before rest : List Action}
    (h : Admitted host grants goal sim (before ++ a :: rest) simEnd)
    (hexec : Executes w before w₁) (habreast : Abreast sim w) :
    ∃ sim', Abreast sim' w₁ ∧ validateAction host goal sim' a = .ok () := by
  induction hexec generalizing sim with
  | nil w =>
    cases h with
    | cons _ hvalid _ _ => exact ⟨sim, habreast, hvalid⟩
  | cons hreport hproject _ ih =>
    cases h with
    | cons _ hvalid hsim hwalk =>
      exact ih hwalk (habreast.step hvalid hsim hreport hproject)

/-- An invariant of the projection is an invariant of execution. -/
lemma Executes.invariant {I : World → Prop}
    (hstep : ∀ {w w' : World} {e : Evidence}, I w → project w e = .ok w' → I w')
    (h : Executes w actions w') (hI : I w) : I w' := by
  induction h with
  | nil w => exact hI
  | cons hreport hproject hrest ih => exact ih (hstep hI hproject)

/-- One round of the engine: a proposal is accepted in the world read at some
instant, and a prefix of it is carried out. -/
def Round (k : Kernel) (w w' : World) : Prop :=
  ∃ (host : Host) (actor : AgentDescriptor) (goal : Goal) (now : Time) (p : Proposal) (n : ℕ),
    authorize host k actor goal { w with observedAt := now } p = .ok () ∧
      Executes w (p.actions.take n) w'

/-- Actions are carried out in order by the in-memory data plane. -/
inductive Plays (host : Host) : World → List Action → World → Prop
  | nil (w : World) : Plays host w [] w
  | cons {w w₁ w' : World} {a : Action} {e : Evidence} {rest : List Action}
      (hplay : MemoryExecutor.execute host w a = .ok e) (hproject : project w e = .ok w₁)
      (hrest : Plays host w₁ rest w') : Plays host w (a :: rest) w'

section Plays

variable {host : Host} {w w' : World} {a : Action} {e : Evidence}

lemma Plays.executes (h : Plays host w actions w') : Executes w actions w' := by
  induction h with
  | nil w => exact .nil w
  | cons hplay hproject _ ih => exact .cons (memoryExecutor_reports hplay) hproject ih

/-- What the in-memory data plane does with one action, and the projection of its
report. -/
lemma Executes.single (hexec : MemoryExecutor.execute host w a = .ok e)
    (hproject : project w e = .ok w') : Executes w [a] w' :=
  .cons (memoryExecutor_reports hexec) hproject (.nil w')

/-- An action is carried out once the data plane reports it and its kind's case of
the projection accepts the report. -/
lemma Plays.of_into {next : World} (hplay : MemoryExecutor.execute host w a = .ok e)
    (hinto : projectInto w e = .ok next) :
    ∃ w', Plays host w [a] w' ∧ w'.volumes = next.volumes := by
  have hproject : ∃ w', project w e = .ok w' ∧ w'.volumes = next.volumes := by
    rw [project, hinto]
    refine ⟨_, rfl, ?_⟩
    split_ifs <;> rfl
  obtain ⟨w', hproject, hvolumes⟩ := hproject
  exact ⟨w', .cons hplay hproject (.nil w'), hvolumes⟩

/-- A report that the projection accepts is an action carried out. -/
lemma Plays.of_report (h : ∃ e, MemoryExecutor.execute host w a = .ok e ∧
    ∃ next, projectInto w e = .ok next) : ∃ w', Plays host w [a] w' := by
  obtain ⟨e, hplay, next, hinto⟩ := h
  obtain ⟨w', hplays, -⟩ := Plays.of_into hplay hinto
  exact ⟨w', hplays⟩

/-- An allocation of the world can be taken out of service. -/
lemma allocation_plays (host : Host) {x : Allocation} (hk : a.kind = .stopAllocation ∨
    a.kind = .deleteAllocation ∨ a.kind = .drainAllocation)
    (hget : w.allocations[a.target]? = some x) : ∃ w', Plays host w [a] w' := by
  apply Plays.of_report
  rcases hk with hk | hk | hk <;>
    simp only [MemoryExecutor.execute, hk, existingAllocation, hget, require_some_bind]
  · refine ⟨_, rfl, ?_⟩
    simp only [projectInto, projectAllocationStopped, knownAllocation, hget]
    exact ⟨_, rfl⟩
  · refine ⟨_, rfl, ?_⟩
    simp only [projectInto, projectAllocationDeleted, hget]
    exact ⟨_, rfl⟩
  · refine ⟨_, rfl, ?_⟩
    simp only [projectInto, projectAllocationDrained, knownAllocation, hget]
    exact ⟨_, rfl⟩

end Plays

end A4s
