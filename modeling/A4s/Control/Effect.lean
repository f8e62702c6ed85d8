/-
What one piece of evidence can do to the world.

The projection is a switch over forty kinds of evidence. `Effect` says once what
a projection that succeeded did to the parts of the world that are located
somewhere (allocations, volumes, nodes) and to the approvals; every invariant of
the projection is derived from it, not from the switch.

* `Updates`: how the record of an allocation may change; its identity never
  does, its phase follows the kind of evidence.
* `projectInto_effect`, `project_effect`: **the inversion of the projection**.
* `allocationsNamed`, `volumesNamed`, `nodesNamed`: the entries a piece of
  evidence names; `Effect.allocation_frame`, `Effect.volume_frame` and
  `Effect.node_frame` say that the projection writes no others, and
  `Effect.approvals_frame` that only decisions write approvals.
-/
import A4s.Control.Projection

namespace A4s

open Go

/-! ### Kinds by what they write -/

/-- Evidence that updates the allocation it targets. -/
def EvidenceKind.updatesAllocation : EvidenceKind → Bool
  | .secretMounted | .networkAttached | .networkDetached | .allocationRunning
  | .allocationReady | .allocationStopped | .allocationFailed | .toolsGranted | .agentReady
  | .agentSpent | .agentDraining | .allocationDrained => true
  | _ => false

/-- Evidence that updates the volume it targets, and nothing else. -/
def EvidenceKind.updatesVolume : EvidenceKind → Bool
  | .volumeSnapshotted | .volumeBackedUp | .volumeQuiesced | .volumeTransferred
  | .volumeAdopted | .snapshotsPruned | .databaseBackedUp | .backupVerified
  | .volumeRestored => true
  | _ => false

/-- Evidence that updates the node it targets. -/
def EvidenceKind.updatesTargetNode : EvidenceKind → Bool
  | .policyApplied | .zonePublished | .imagesCollected | .nodeCordoned | .nodeUncordoned
  | .nodeReachable | .nodeUnreachable => true
  | _ => false

/-- Evidence that updates the node it observes. -/
def EvidenceKind.updatesObservedNode : EvidenceKind → Bool
  | .imagePresent | .providerReachable => true
  | _ => false

/-- Evidence that grants or withdraws authority. -/
def EvidenceKind.decides : EvidenceKind → Bool
  | .approvalGranted | .approvalRevoked => true
  | _ => false

/-- Evidence that measures readiness. -/
def EvidenceKind.measuresReadiness : EvidenceKind → Bool
  | .allocationReady | .agentReady => true
  | _ => false

/-- Evidence that takes an allocation out of service. -/
def EvidenceKind.retires : EvidenceKind → Bool
  | .allocationStopped | .allocationFailed | .allocationDrained => true
  | _ => false

/-- The phase of an allocation after evidence about it. -/
def phaseAfter (kind : EvidenceKind) (phase : AllocationPhase) : AllocationPhase :=
  match kind with
  | .allocationRunning => .running
  | .allocationStopped => .stopped
  | .allocationFailed => .stopped
  | _ => phase

/-! ### The record of an allocation -/

/-- What an allocation is, as opposed to how it is doing. -/
structure SameIdentity (a a' : Allocation) : Prop where
  id : a'.id = a.id
  workload : a'.workload = a.workload
  replica : a'.replica = a.replica
  node : a'.node = a.node
  image : a'.image = a.image
  resources : a'.resources = a.resources
  stateful : a'.stateful = a.stateful
  budget : a'.budget = a.budget

/-- How evidence of a given kind may change the record of an allocation. -/
structure Updates (kind : EvidenceKind) (a a' : Allocation) : Prop where
  identity : SameIdentity a a'
  volumes : a'.volumes = a.volumes
  phase : a'.phase = phaseAfter kind a.phase
  expiry : kind.measuresReadiness = false → a'.readyExpiresAt = a.readyExpiresAt
  gains : a'.ready = true → a.ready = true ∨ kind.measuresReadiness = true
  retired : kind.retires = true → a'.ready = false
  keeps : kind.retires = false → kind.measuresReadiness = false → kind ≠ .agentSpent →
    a'.ready = a.ready
  working : kind ≠ .agentDraining → kind ≠ .allocationDrained →
    a'.draining = a.draining ∧ a'.task = a.task

/-- Evidence that a volume is being moved to another node. -/
def EvidenceKind.moves : EvidenceKind → Bool
  | .volumeSnapshotted | .volumeQuiesced | .volumeTransferred | .volumeAdopted => true
  | _ => false

/-- How evidence of a given kind may change the record of a volume. -/
structure Rewrites (kind : EvidenceKind) (v v' : Volume) : Prop where
  generation : v'.generation = if kind = .volumeAdopted then v.generation + 1 else v.generation
  node : kind ≠ .volumeAdopted → v'.node = v.node
  handoff : kind.moves = false → v'.handoff = v.handoff

/-- What a node has committed is kept. -/
structure SameLoad (n n' : Node) : Prop where
  used : n'.used = n.used
  budgetUsed : n'.budgetUsed = n.budgetUsed

/-! ### Effects -/

/-- Evidence that is accepted and writes nothing located: it repeats what the
world knows, comes too late, or is about something else. -/
def Idle (w : World) (e : Evidence) : Prop :=
  match e.kind with
  | .allocationCreated => w.allocations[e.target]?.isSome
  | .allocationDeleted | .networkDetached => w.allocations[e.target]? = none
  | .volumeCreated => w.volumes[e.target]?.isSome
  | .volumeDetached => ∀ v, w.volumes[e.target]? = some v →
      v.owner ≠ "" ∧ e.observe "allocation" ≠ "" ∧ v.owner ≠ e.observe "allocation"
  | .agentSpent | .backupVerified | .providerReachable | .routeReachable | .routeRemoved
  | .queueObserved | .diagnosisRecorded => True
  | _ => False

/-- What a successful projection did. The parts a constructor does not mention
are unchanged. -/
inductive Effect (w : World) (e : Evidence) (w' : World) : Prop
  /-- nothing located changed, and no approval -/
  | unchanged (hidle : Idle w e) (ha : w'.allocations = w.allocations)
      (hv : w'.volumes = w.volumes) (hn : w'.nodes = w.nodes) (hp : w'.approvals = w.approvals)
  /-- the targeted allocation was updated -/
  | allocation (a a' : Allocation) (hk : e.kind.updatesAllocation = true)
      (hget : w.allocations[e.target]? = some a) (hup : Updates e.kind a a')
      (ha : w'.allocations = w.allocations.insert e.target a')
      (hv : w'.volumes = w.volumes) (hn : w'.nodes = w.nodes) (hp : w'.approvals = w.approvals)
  /-- an allocation came into being on the observed node -/
  | created (node : Node) (resources : Resources) (hk : e.kind = .allocationCreated)
      (hnew : w.allocations[e.target]? = none) (hnode : w.nodes[e.observe "node"]? = some node)
      (hres : e.observedResources = .ok resources)
      (ha : w'.allocations = w.allocations.insert e.target
        { id := e.target, workload := e.observe "workload", replica := e.observedInt "replica",
          node := node.id, image := e.observe "image", resources := resources,
          phase := .created, budget := e.observedBudget })
      (hv : w'.volumes = w.volumes)
      (hn : w'.nodes = w.nodes.insert (e.observe "node")
        { node with used := node.used.add resources,
                    budgetUsed := node.budgetUsed.add e.observedBudget })
      (hp : w'.approvals = w.approvals)
  /-- the targeted allocation was forgotten and its node released -/
  | deleted (a : Allocation) (hk : e.kind = .allocationDeleted)
      (hget : w.allocations[e.target]? = some a)
      (ha : w'.allocations = w.allocations.erase e.target) (hv : w'.volumes = w.volumes)
      (hn : (w.nodes[a.node]? = none ∧ w'.nodes = w.nodes) ∨
        ∃ node, w.nodes[a.node]? = some node ∧ w'.nodes = w.nodes.insert a.node
          { node with used := node.used.subtract a.resources })
      (hp : w'.approvals = w.approvals)
  /-- the targeted volume was updated -/
  | volume (v v' : Volume) (hk : e.kind.updatesVolume = true)
      (hget : w.volumes[e.target]? = some v) (hname : v'.name = v.name)
      (howner : v'.owner = v.owner) (ha : w'.allocations = w.allocations)
      (hv : w'.volumes = w.volumes.insert e.target v') (hn : w'.nodes = w.nodes)
      (hp : w'.approvals = w.approvals) (hup : Rewrites e.kind v v')
  /-- a volume came into being on the observed node -/
  | volumeCreated (v : Volume) (hk : e.kind = .volumeCreated)
      (hnew : w.volumes[e.target]? = none) (hname : v.name = e.target)
      (hnode : v.node = e.observe "node") (howner : v.owner = "")
      (ha : w'.allocations = w.allocations) (hv : w'.volumes = w.volumes.insert e.target v)
      (hn : w'.nodes = w.nodes) (hp : w'.approvals = w.approvals) (hgen : v.generation = 0)
      (hrest : v.handoff = none)
  /-- the targeted volume was attached to the observed allocation -/
  | attached (v v' : Volume) (a : Allocation) (hk : e.kind = .volumeAttached)
      (hget : w.volumes[e.target]? = some v)
      (hown : w.allocations[e.observe "allocation"]? = some a)
      (howner : v'.owner = e.observe "allocation")
      (ha : w'.allocations = w.allocations.insert (e.observe "allocation")
        { a with volumes := a.volumes.insert e.target v'.generation })
      (hv : w'.volumes = w.volumes.insert e.target v') (hn : w'.nodes = w.nodes)
      (hp : w'.approvals = w.approvals)
      (hfree : v.owner = "" ∨ v.owner = e.observe "allocation") (hne : e.observe "allocation" ≠ "")
      (hheld : v' = if v.owner ≠ e.observe "allocation" then
          { v with owner := e.observe "allocation", generation := v.generation + 1 }
        else v)
  /-- the targeted volume was released by its owner -/
  | detached (v v' : Volume) (hk : e.kind = .volumeDetached)
      (hget : w.volumes[e.target]? = some v)
      (hmay : v.owner = "" ∨ e.observe "allocation" = "" ∨ v.owner = e.observe "allocation")
      (hgen : v'.generation = v.generation + 1) (howner : v'.owner = "")
      (ha : (w.allocations[v.owner]? = none ∧ w'.allocations = w.allocations) ∨
        ∃ a, w.allocations[v.owner]? = some a ∧ w'.allocations = w.allocations.insert v.owner
          { a with volumes := a.volumes.erase e.target })
      (hv : w'.volumes = w.volumes.insert e.target v') (hn : w'.nodes = w.nodes)
      (hp : w'.approvals = w.approvals)
      (hfreed : v' = { v with owner := "", generation := v.generation + 1 })
  /-- a node's record was updated -/
  | node (id : String) (n n' : Node)
      (hk : (e.kind.updatesTargetNode = true ∧ id = e.target) ∨
        (e.kind.updatesObservedNode = true ∧ id = e.observe "node"))
      (hget : w.nodes[id]? = some n) (hid : n'.id = n.id) (ha : w'.allocations = w.allocations)
      (hv : w'.volumes = w.volumes) (hn : w'.nodes = w.nodes.insert id n')
      (hp : w'.approvals = w.approvals) (hload : SameLoad n n')
  /-- an operator's decision was recorded -/
  | decision (hk : e.kind.decides = true) (ha : w'.allocations = w.allocations)
      (hv : w'.volumes = w.volumes) (hn : w'.nodes = w.nodes)
      (hp : ∀ id, id ≠ e.target → w'.approvals[id]? = w.approvals[id]?)

/-! ### Ledgers are kept apart from the located state -/

section Ledgers

variable (w : World) (a : Allocation) (kind : EvidenceKind) (at_ : Time) (target : String)

@[simp] lemma recordDisruption_allocations :
    (recordDisruption w a kind at_).allocations = w.allocations := by
  unfold recordDisruption
  split_ifs <;> rfl

@[simp] lemma recordDisruption_volumes : (recordDisruption w a kind at_).volumes = w.volumes := by
  unfold recordDisruption
  split_ifs <;> rfl

@[simp] lemma recordDisruption_nodes : (recordDisruption w a kind at_).nodes = w.nodes := by
  unfold recordDisruption
  split_ifs <;> rfl

@[simp] lemma recordDisruption_approvals :
    (recordDisruption w a kind at_).approvals = w.approvals := by
  unfold recordDisruption
  split_ifs <;> rfl

variable (e : Evidence)

@[simp] lemma applyReadiness_volumes : (applyReadiness w a e).volumes = w.volumes := by
  simp only [applyReadiness]
  split_ifs <;> rfl

@[simp] lemma applyReadiness_nodes : (applyReadiness w a e).nodes = w.nodes := by
  simp only [applyReadiness]
  split_ifs <;> rfl

@[simp] lemma applyReadiness_approvals : (applyReadiness w a e).approvals = w.approvals := by
  simp only [applyReadiness]
  split_ifs <;> rfl

lemma applyReadiness_allocations :
    (applyReadiness w a e).allocations = w.allocations.insert e.target
      { a with readySince := readySinceAfter a e, ready := decide (e.observe "ready" = "true"),
               readyExpiresAt := e.expiresAt } := by
  simp only [applyReadiness]
  split_ifs <;> rfl

end Ledgers

section Inversion

variable {w w' : World} {e : Evidence}

/-! ### Allocations -/

/-- Evidence that is idle and leaves the world as it is. -/
lemma effect_idle (h : Idle w e) : Effect w e w := .unchanged h rfl rfl rfl rfl

/-- Evidence that leaves the readiness of the targeted allocation alone. -/
lemma effect_quiet {k : EvidenceKind} {a : Allocation} {secrets : Table String}
    {address task : String} {tools : List ToolGrant} {spent : Budget} {draining : Bool}
    (hkind : e.kind = k) (hget : w.allocations[e.target]? = some a)
    (hk : k.updatesAllocation = true) (hr : k.retires = false)
    (hwork : k ≠ .agentDraining → draining = a.draining ∧ task = a.task) :
    Effect w e (w.setAllocation e.target
      { a with
        phase := phaseAfter k a.phase, secrets := secrets, address := address, tools := tools
        spent := spent, draining := draining, task := task }) := by
  subst hkind
  refine .allocation a _ hk hget ?_ rfl rfl rfl rfl
  refine ⟨⟨rfl, rfl, rfl, rfl, rfl, rfl, rfl, rfl⟩, rfl, rfl, fun _ => rfl, .inl, fun h => ?_,
    fun _ _ _ => rfl, fun h _ => hwork h⟩
  rw [hr] at h
  cases h

/-- Evidence that takes the targeted allocation out of service; a ledger may
have been written on the way. -/
lemma effect_out {k : EvidenceKind} {a : Allocation} {task : String} {draining : Bool}
    {exitCode restarts : Int64} (hkind : e.kind = k) (hget : w.allocations[e.target]? = some a)
    (hk : k.updatesAllocation = true) (hr : k.retires = true)
    (hwork : k ≠ .allocationDrained → draining = a.draining ∧ task = a.task)
    (ha : w'.allocations = w.allocations.insert e.target
      { a with
        phase := phaseAfter k a.phase, ready := false, readySince := 0, draining := draining
        task := task, exitCode := exitCode, restarts := restarts })
    (hvol : w'.volumes = w.volumes) (hn : w'.nodes = w.nodes)
    (happ : w'.approvals = w.approvals) : Effect w e w' := by
  subst hkind
  refine .allocation a _ hk hget ?_ ha hvol hn happ
  refine ⟨⟨rfl, rfl, rfl, rfl, rfl, rfl, rfl, rfl⟩, rfl, rfl, fun _ => rfl,
    fun h => absurd h Bool.false_ne_true, fun _ => rfl, fun h => ?_, fun _ => hwork⟩
  rw [hr] at h
  cases h

lemma projectNetworkDetached_effect (hk : e.kind = .networkDetached)
    (h : projectNetworkDetached w e = .ok w') : Effect w e w' := by
  unfold projectNetworkDetached at h
  split at h
  · rename_i hget
    cases h
    exact effect_idle (by rw [Idle, hk]; exact hget)
  · rename_i a hget
    cases h
    exact effect_quiet hk hget rfl rfl fun _ => ⟨rfl, rfl⟩

lemma projectReady_effect (hk : e.kind.measuresReadiness = true)
    (h : projectReady w e = .ok w') : Effect w e w' := by
  simp only [projectReady, knownAllocation, require_bind_ok, refuseIf_bind_ok, pure_ok] at h
  obtain ⟨a, hget, -, rfl⟩ := h
  have hkinds : e.kind = .allocationReady ∨ e.kind = .agentReady := by
    revert hk
    cases e.kind <;> simp [EvidenceKind.measuresReadiness]
  refine .allocation a _ ?_ hget ?_ (applyReadiness_allocations w a e) (by simp) (by simp) (by simp)
  · rcases hkinds with hk' | hk' <;> rw [hk'] <;> rfl
  · refine ⟨⟨rfl, rfl, rfl, rfl, rfl, rfl, rfl, rfl⟩, rfl, ?_, ?_, fun _ => .inr hk, ?_, ?_,
      fun _ _ => ⟨rfl, rfl⟩⟩
    · rcases hkinds with hk' | hk' <;> rw [hk'] <;> rfl
    · intro h
      rw [hk] at h
      cases h
    · intro h
      rcases hkinds with hk' | hk' <;> rw [hk'] at h <;> cases h
    · intro _ h
      rw [hk] at h
      cases h

lemma projectToolsGranted_effect (hk : e.kind = .toolsGranted)
    (h : projectToolsGranted w e = .ok w') : Effect w e w' := by
  simp only [projectToolsGranted, knownAllocation, require_bind_ok, refuseIf_bind_ok] at h
  obtain ⟨a, hget, -, h⟩ := h
  split at h
  · obtain ⟨_, hcrash, -⟩ := bind_ok.mp h
    exact absurd hcrash crash_ne_ok
  · cases h
    exact effect_quiet hk hget rfl rfl fun _ => ⟨rfl, rfl⟩

lemma projectAgentSpent_effect (hk : e.kind = .agentSpent)
    (h : projectAgentSpent w e = .ok w') : Effect w e w' := by
  simp only [projectAgentSpent, knownAllocation, require_bind_ok] at h
  obtain ⟨a, hget, h⟩ := h
  split at h
  · cases h
    exact effect_idle (by rw [Idle, hk]; trivial)
  · cases h
    -- an exhausted agent loses its readiness, otherwise only the spend moves
    split_ifs
    · refine .allocation a _ (by rw [hk]; rfl) hget ?_ rfl rfl rfl rfl
      exact ⟨⟨rfl, rfl, rfl, rfl, rfl, rfl, rfl, rfl⟩, rfl, by rw [hk]; rfl, fun _ => rfl,
        fun h => absurd h Bool.false_ne_true, fun _ => rfl, fun _ _ hne => absurd hk hne,
        fun _ _ => ⟨rfl, rfl⟩⟩
    · exact effect_quiet hk hget rfl rfl fun _ => ⟨rfl, rfl⟩

lemma projectAllocationCreated_effect (hk : e.kind = .allocationCreated)
    (h : projectAllocationCreated w e = .ok w') : Effect w e w' := by
  simp only [projectAllocationCreated, knownNode, require_bind_ok, refuseIf_bind_ok] at h
  obtain ⟨node, hnode, -, h⟩ := h
  split at h
  · rename_i hold
    cases h
    exact effect_idle (by rw [Idle, hk]; exact hold)
  · rename_i hnew
    obtain ⟨resources, hres, h⟩ := bind_ok.mp h
    cases h
    exact .created node resources hk (by simpa using hnew) hnode hres rfl rfl rfl rfl

lemma projectAllocationDeleted_effect (hk : e.kind = .allocationDeleted)
    (h : projectAllocationDeleted w e = .ok w') : Effect w e w' := by
  unfold projectAllocationDeleted at h
  split at h
  · rename_i hget
    cases h
    exact effect_idle (by rw [Idle, hk]; exact hget)
  · rename_i a hget
    cases h
    cases hnode : w.nodes[a.node]? with
    | none =>
      exact .deleted a hk hget (by simp) (by simp) (.inl ⟨hnode, by simp⟩) (by simp)
    | some node =>
      exact .deleted a hk hget (by simp [World.setNode]) (by simp [World.setNode])
        (.inr ⟨node, hnode, by simp [World.setNode]⟩) (by simp [World.setNode])

/-! ### Volumes -/

lemma projectVolumeCreated_effect (hk : e.kind = .volumeCreated)
    (h : projectVolumeCreated w e = .ok w') : Effect w e w' := by
  simp only [projectVolumeCreated, knownNode, require_bind_ok, refuseIf_bind_ok] at h
  obtain ⟨-, _, -, h⟩ := h
  split at h
  · rename_i hold
    cases h
    exact effect_idle (by rw [Idle, hk]; exact hold)
  · rename_i hnew
    cases h
    exact .volumeCreated _ hk (by simpa using hnew) rfl rfl rfl rfl rfl rfl rfl rfl rfl

lemma projectVolumeAttached_effect (hk : e.kind = .volumeAttached)
    (h : projectVolumeAttached w e = .ok w') : Effect w e w' := by
  simp only [projectVolumeAttached, knownVolume, require_bind_ok, refuseIf_bind_ok, pure_ok] at h
  obtain ⟨v, hget, hne, a, hown, hheld, rfl⟩ := h
  refine .attached v _ a hk hget hown ?_ rfl rfl rfl rfl (by tauto) hne rfl
  split_ifs with howner
  · rfl
  · exact not_not.mp howner

lemma projectVolumeDetached_effect (hk : e.kind = .volumeDetached)
    (h : projectVolumeDetached w e = .ok w') : Effect w e w' := by
  unfold projectVolumeDetached at h
  split at h
  · rename_i hget
    cases h
    refine .unchanged ?_ rfl rfl rfl rfl
    rw [Idle, hk]
    intro v hv
    rw [hget] at hv
    cases hv
  · rename_i v hget
    dsimp only at h
    split_ifs at h with hheld
    · cases h
      refine .unchanged ?_ rfl rfl rfl rfl
      rw [Idle, hk]
      intro v' hv'
      rw [hget] at hv'
      cases hv'
      exact hheld
    · cases h
      have hmay : v.owner = "" ∨ e.observe "allocation" = "" ∨
          v.owner = e.observe "allocation" := by
        by_contra hnot
        simp only [not_or] at hnot
        exact hheld hnot
      cases hown : w.allocations[v.owner]? with
      | none => exact .detached v _ hk hget hmay rfl rfl (.inl ⟨hown, rfl⟩) rfl rfl rfl rfl
      | some a => exact .detached v _ hk hget hmay rfl rfl (.inr ⟨a, hown, rfl⟩) rfl rfl rfl rfl

/-- Evidence that rewrites the targeted volume where it is. -/
lemma effect_volume {k : EvidenceKind} {v v' : Volume} (hkind : e.kind = k)
    (hget : w.volumes[e.target]? = some v) (hk : k.updatesVolume = true)
    (hstays : decide (k = .volumeAdopted) = false) (hname : v'.name = v.name)
    (howner : v'.owner = v.owner) (hgen : v'.generation = v.generation) (hnode : v'.node = v.node)
    (hhandoff : k.moves = true ∨ v'.handoff = v.handoff) :
    Effect w e (w.setVolume e.target v') := by
  subst hkind
  refine .volume v v' hk hget hname howner rfl rfl rfl rfl ⟨?_, fun _ => hnode, fun hmoves => ?_⟩
  · rw [if_neg (of_decide_eq_false hstays), hgen]
  · exact hhandoff.resolve_left (hmoves ▸ Bool.false_ne_true)

/-- Dropping snapshots changes the records of snapshots only. -/
lemma foldl_dropSnapshot (ids : List String) (v : Volume) :
    ids.foldl dropSnapshot v = { v with
      snapshots := ids.foldl (fun t id => t.erase id) v.snapshots
      backups := ids.foldl (fun t id => t.erase id) v.backups
      snapshotOrder := v.snapshotOrder.diff ids } := by
  induction ids generalizing v with
  | nil => rfl
  | cons id ids ih =>
    rw [List.foldl_cons, ih, List.foldl_cons, List.foldl_cons, List.diff_cons]
    rfl

lemma projectBackupVerified_effect (hk : e.kind = .backupVerified)
    (h : projectBackupVerified w e = .ok w') : Effect w e w' := by
  simp only [projectBackupVerified, knownVolume, require_bind_ok, refuseIf_bind_ok] at h
  obtain ⟨v, hget, -, h⟩ := h
  split at h
  · cases h
    exact effect_idle (by rw [Idle, hk]; trivial)
  · simp only [refuseIf_bind_ok, pure_ok] at h
    obtain ⟨-, rfl⟩ := h
    exact effect_volume hk hget rfl rfl rfl rfl rfl rfl (.inr rfl)

/-! ### Nodes -/

/-- Evidence that sets fields of the node it targets. -/
lemma effect_targetNode {f : Node → Node} (hk : e.kind.updatesTargetNode = true)
    (h : (knownNode w e e.target >>= fun n => pure (w.setNode e.target (f n))) = .ok w')
    (hid : ∀ n, (f n).id = n.id) (hload : ∀ n, SameLoad n (f n)) : Effect w e w' := by
  simp only [knownNode, require_bind_ok, pure_ok] at h
  obtain ⟨n, hget, rfl⟩ := h
  exact .node e.target n (f n) (.inl ⟨hk, rfl⟩) hget (hid n) rfl rfl rfl rfl (hload n)

/-- Evidence that rewrites the record of the observed node. -/
lemma effect_observedNode {k : EvidenceKind} {n n' : Node} (hkind : e.kind = k)
    (hget : w.nodes[e.observe "node"]? = some n) (hk : k.updatesObservedNode = true)
    (hid : n'.id = n.id) (hload : SameLoad n n') : Effect w e (w.setNode (e.observe "node") n') := by
  subst hkind
  exact .node (e.observe "node") n n' (.inr ⟨hk, rfl⟩) hget hid rfl rfl rfl rfl hload

lemma projectProviderReachable_effect (hk : e.kind = .providerReachable)
    (h : projectProviderReachable w e = .ok w') : Effect w e w' := by
  simp only [projectProviderReachable, knownNode, require_bind_ok, refuseIf_bind_ok] at h
  obtain ⟨n, hget, -, h⟩ := h
  split_ifs at h <;> cases h
  · exact effect_idle (by rw [Idle, hk]; trivial)
  · exact effect_observedNode hk hget rfl rfl ⟨rfl, rfl⟩

/-! ### Decisions -/

lemma projectApprovalRevoked_effect (hk : e.kind = .approvalRevoked)
    (h : projectApprovalRevoked w e = .ok w') : Effect w e w' := by
  unfold projectApprovalRevoked at h
  split at h
  · cases h
    exact .decision (by rw [hk]; rfl) rfl rfl rfl fun _ _ => rfl
  · cases h
    exact .decision (by rw [hk]; rfl) rfl rfl rfl fun id hid => get_insert_of_ne hid

/-! ### The inversion -/

/-- **What one piece of evidence can do**, from the switch of `projectInto`. -/
theorem projectInto_effect (h : projectInto w e = .ok w') : Effect w e w' := by
  cases hk : e.kind <;> simp only [projectInto, hk] at h
  -- the cases that look at nothing but the record they write
  all_goals try simp only [projectSecretMounted, projectNetworkAttached, projectAllocationRunning,
    projectAllocationStopped, projectAllocationFailed, projectAgentDraining,
    projectAllocationDrained, projectVolumeSnapshotted, projectVolumeBackedUp,
    projectVolumeQuiesced, projectVolumeTransferred, projectVolumeAdopted, projectSnapshotsPruned,
    projectDatabaseBackedUp, projectVolumeRestored, projectImagePresent, projectRouteReachable,
    projectQueueObserved, projectApprovalGranted, knownAllocation, knownVolume, knownNode,
    require_bind_ok, refuseIf_bind_ok, pure_ok] at h
  case secretMounted | networkAttached =>
    obtain ⟨a, hget, -, rfl⟩ := h
    exact effect_quiet hk hget rfl rfl fun _ => ⟨rfl, rfl⟩
  case networkDetached => exact projectNetworkDetached_effect hk h
  case allocationRunning =>
    obtain ⟨a, hget, rfl⟩ := h
    exact effect_quiet hk hget rfl rfl fun _ => ⟨rfl, rfl⟩
  case agentDraining =>
    obtain ⟨a, hget, rfl⟩ := h
    exact effect_quiet hk hget rfl rfl fun h => absurd rfl h
  case toolsGranted => exact projectToolsGranted_effect hk h
  case allocationReady | agentReady => exact projectReady_effect (by rw [hk]; rfl) h
  case allocationStopped =>
    obtain ⟨a, hget, rfl⟩ := h
    exact effect_out hk hget rfl rfl (fun _ => ⟨rfl, rfl⟩) (by simp [World.setAllocation]; rfl)
      (recordDisruption_volumes _ _ _ _) (recordDisruption_nodes _ _ _ _)
      (recordDisruption_approvals _ _ _ _)
  case allocationFailed =>
    obtain ⟨a, hget, rfl⟩ := h
    exact effect_out hk hget rfl rfl (fun _ => ⟨rfl, rfl⟩) rfl rfl rfl rfl
  case allocationDrained =>
    obtain ⟨a, hget, rfl⟩ := h
    exact effect_out hk hget rfl rfl (fun h => absurd rfl h) (recordDisruption_allocations _ _ _ _)
      (recordDisruption_volumes _ _ _ _) (recordDisruption_nodes _ _ _ _)
      (recordDisruption_approvals _ _ _ _)
  case agentSpent => exact projectAgentSpent_effect hk h
  case allocationCreated => exact projectAllocationCreated_effect hk h
  case allocationDeleted => exact projectAllocationDeleted_effect hk h
  case volumeCreated => exact projectVolumeCreated_effect hk h
  case volumeAttached => exact projectVolumeAttached_effect hk h
  case volumeDetached => exact projectVolumeDetached_effect hk h
  case volumeSnapshotted =>
    obtain ⟨v, hget, -, -, rfl⟩ := h
    exact effect_volume hk hget rfl rfl rfl rfl rfl rfl (.inl rfl)
  case volumeQuiesced =>
    obtain ⟨v, hget, -, _, -, -, rfl⟩ := h
    exact effect_volume hk hget rfl rfl rfl rfl rfl rfl (.inl rfl)
  case volumeTransferred =>
    obtain ⟨v, hget, _, -, -, -, -, rfl⟩ := h
    exact effect_volume hk hget rfl rfl rfl rfl rfl rfl (.inl rfl)
  case volumeAdopted =>
    obtain ⟨v, hget, _, -, -, -, rfl⟩ := h
    refine .volume v _ (by rw [hk]; rfl) hget ?_ ?_ rfl rfl rfl rfl
      ⟨(if_pos hk).symm, fun hother => absurd hk hother, fun hstill => ?_⟩
    · rfl
    · rfl
    · rw [hk] at hstill
      cases hstill
  case volumeBackedUp =>
    obtain ⟨v, hget, -, _, -, -, rfl⟩ := h
    exact effect_volume hk hget rfl rfl rfl rfl rfl rfl (.inr rfl)
  case databaseBackedUp =>
    obtain ⟨v, hget, -, rfl⟩ := h
    exact effect_volume hk hget rfl rfl rfl rfl rfl rfl (.inr rfl)
  case volumeRestored =>
    obtain ⟨v, hget, -, -, rfl⟩ := h
    exact effect_volume hk hget rfl rfl rfl rfl rfl rfl (.inr rfl)
  case snapshotsPruned =>
    obtain ⟨v, hget, rfl⟩ := h
    rw [foldl_dropSnapshot]
    refine effect_volume hk hget rfl rfl ?_ ?_ ?_ ?_ (.inr ?_)
    all_goals split_ifs <;> rfl
  case backupVerified => exact projectBackupVerified_effect hk h
  case imagePresent =>
    obtain ⟨n, hget, -, rfl⟩ := h
    exact effect_observedNode hk hget rfl rfl ⟨rfl, rfl⟩
  case providerReachable => exact projectProviderReachable_effect hk h
  case policyApplied | zonePublished | imagesCollected | nodeCordoned | nodeUncordoned |
      nodeReachable | nodeUnreachable =>
    exact effect_targetNode (by rw [hk]; rfl) h (fun _ => rfl) fun _ => ⟨rfl, rfl⟩
  case routeReachable =>
    obtain ⟨-, rfl⟩ := h
    exact .unchanged (by rw [Idle, hk]; trivial) rfl rfl rfl rfl
  case queueObserved =>
    obtain ⟨-, _, -, rfl⟩ := h
    exact .unchanged (by rw [Idle, hk]; trivial) rfl rfl rfl rfl
  case routeRemoved | diagnosisRecorded =>
    cases h
    exact .unchanged (by rw [Idle, hk]; trivial) rfl rfl rfl rfl
  case approvalGranted =>
    obtain ⟨-, -, -, rfl⟩ := h
    exact .decision (by rw [hk]; rfl) rfl rfl rfl fun id hid => get_insert_of_ne hid
  case approvalRevoked => exact projectApprovalRevoked_effect hk h
  case other => exact absurd h fail_ne_ok

/-- Revision and time are no part of an effect. -/
lemma Effect.advanced {next : World} (h : Effect w e next) : Effect w e (advance w next e) := by
  cases h with
  | unchanged hidle ha hv hn hp => exact .unchanged hidle ha hv hn hp
  | allocation a a' hk hget hup ha hv hn hp => exact .allocation a a' hk hget hup ha hv hn hp
  | created node resources hk hnew hnode hres ha hv hn hp =>
    exact .created node resources hk hnew hnode hres ha hv hn hp
  | deleted a hk hget ha hv hn hp => exact .deleted a hk hget ha hv hn hp
  | volume v v' hk hget hname howner ha hv hn hp hup =>
    exact .volume v v' hk hget hname howner ha hv hn hp hup
  | volumeCreated v hk hnew hname hnode howner ha hv hn hp hgen hrest =>
    exact .volumeCreated v hk hnew hname hnode howner ha hv hn hp hgen hrest
  | attached v v' a hk hget hown howner ha hv hn hp hfree hne hheld =>
    exact .attached v v' a hk hget hown howner ha hv hn hp hfree hne hheld
  | detached v v' hk hget hmay hgen howner ha hv hn hp hfreed =>
    exact .detached v v' hk hget hmay hgen howner ha hv hn hp hfreed
  | node id n n' hk hget hid ha hv hn hp hload =>
    exact .node id n n' hk hget hid ha hv hn hp hload
  | decision hk ha hv hn hp => exact .decision hk ha hv hn hp

/-- **The inversion of the projection**: evidence that was accepted had one of the
effects of its kind. -/
theorem project_effect (h : project w e = .ok w') : Effect w e w' := by
  obtain ⟨next, hinto, hnext⟩ := bind_ok.mp h
  have heff := projectInto_effect hinto
  cases hnext
  split_ifs
  · exact heff
  · exact heff.advanced

end Inversion

/-! ### The frame -/

/-- The allocations a piece of evidence names. A release names the owner the
world has on record. -/
def allocationsNamed (w : World) (e : Evidence) : List String :=
  match e.kind with
  | .volumeAttached => [e.observe "allocation"]
  | .volumeDetached => (w.volumes[e.target]?.map (·.owner)).toList
  | .allocationCreated => [e.target]
  | .allocationDeleted => [e.target]
  | kind => if kind.updatesAllocation then [e.target] else []

/-- The volumes a piece of evidence names. -/
def volumesNamed (e : Evidence) : List String :=
  match e.kind with
  | .volumeCreated => [e.target]
  | .volumeAttached => [e.target]
  | .volumeDetached => [e.target]
  | kind => if kind.updatesVolume then [e.target] else []

/-- The nodes a piece of evidence names. A deletion names the node the world has
the allocation on. -/
def nodesNamed (w : World) (e : Evidence) : List String :=
  match e.kind with
  | .allocationCreated => [e.observe "node"]
  | .allocationDeleted => (w.allocations[e.target]?.map (·.node)).toList
  | kind => (if kind.updatesTargetNode then [e.target] else []) ++
      (if kind.updatesObservedNode then [e.observe "node"] else [])

section Frame

variable {w w' : World} {e : Evidence}

/-- No other allocation is written. -/
lemma Effect.allocation_frame (h : Effect w e w') {id : String}
    (hid : id ∉ allocationsNamed w e) : w'.allocations[id]? = w.allocations[id]? := by
  cases h with
  | unchanged | volume | volumeCreated | node | decision =>
    rw [‹w'.allocations = w.allocations›]
  | allocation a a' hk hget hup ha =>
    rw [ha]
    refine get_insert_of_ne fun heq => hid ?_
    subst heq
    generalize hkind : e.kind = kind at hk
    cases kind <;> simp_all [allocationsNamed, EvidenceKind.updatesAllocation]
  | created node resources hk hnew hnode hres ha =>
    rw [ha]
    exact get_insert_of_ne fun heq => hid (by simp [allocationsNamed, hk, heq])
  | deleted a hk hget ha =>
    rw [ha]
    exact get_erase_of_ne fun heq => hid (by simp [allocationsNamed, hk, heq])
  | attached v v' a hk hget hown howner ha =>
    rw [ha]
    exact get_insert_of_ne fun heq => hid (by simp [allocationsNamed, hk, heq])
  | detached v v' hk hget hmay hgen howner ha =>
    rcases ha with ⟨-, ha⟩ | ⟨a, -, ha⟩
    · rw [ha]
    · rw [ha]
      exact get_insert_of_ne fun heq =>
        hid (by simp [allocationsNamed, hk, hget, heq])

/-- What evidence does to the allocations. -/
inductive Populates (w : World) (e : Evidence) (w' : World) : Prop
  /-- Nothing: what it reports deleted was not there. -/
  | same (hretires : e.kind.retires = false)
      (hcreated : e.kind = .allocationCreated → w.allocations[e.target]?.isSome)
      (hdeleted : e.kind = .allocationDeleted → w.allocations[e.target]? = none)
      (ha : w'.allocations = w.allocations)
  | updated (a a' : Allocation) (hk : e.kind.updatesAllocation = true)
      (hget : w.allocations[e.target]? = some a) (hup : Updates e.kind a a')
      (ha : w'.allocations = w.allocations.insert e.target a')
  | created (node : Node) (resources : Resources) (hk : e.kind = .allocationCreated)
      (hnew : w.allocations[e.target]? = none) (hnode : w.nodes[e.observe "node"]? = some node)
      (hres : e.observedResources = .ok resources)
      (ha : w'.allocations = w.allocations.insert e.target
        { id := e.target, workload := e.observe "workload", replica := e.observedInt "replica"
          node := node.id, image := e.observe "image", resources := resources
          phase := .created, budget := e.observedBudget })
  | deleted (a : Allocation) (hk : e.kind = .allocationDeleted)
      (hget : w.allocations[e.target]? = some a)
      (ha : w'.allocations = w.allocations.erase e.target)
  /-- The volumes that one of them holds. -/
  | holds (id : String) (a : Allocation) (volumes : Table UInt64)
      (hk : e.kind = .volumeAttached ∨ e.kind = .volumeDetached)
      (hget : w.allocations[id]? = some a)
      (ha : w'.allocations = w.allocations.insert id { a with volumes := volumes })

lemma Effect.populates (h : Effect w e w') : Populates w e w' := by
  -- evidence about something else
  have hother (ha : w'.allocations = w.allocations) (hk : e.kind.retires = false ∧
      e.kind ≠ .allocationCreated ∧ e.kind ≠ .allocationDeleted) : Populates w e w' :=
    .same hk.1 (fun h => absurd h hk.2.1) (fun h => absurd h hk.2.2) ha
  cases h with
  | unchanged hidle ha =>
    refine .same ?_ (fun hk => ?_) (fun hk => ?_) ha
    · cases hk : e.kind <;> simp_all [Idle, EvidenceKind.retires]
    · rwa [Idle, hk] at hidle
    · rwa [Idle, hk] at hidle
  | allocation a a' hk hget hup ha => exact .updated a a' hk hget hup ha
  | created node resources hk hnew hnode hres ha =>
    exact .created node resources hk hnew hnode hres ha
  | deleted a hk hget ha => exact .deleted a hk hget ha
  | attached v v' a hk hget hown howner ha => exact .holds _ a _ (.inl hk) hown ha
  | detached v v' hk hget hmay hgen howner ha =>
    rcases ha with ⟨-, ha⟩ | ⟨a, hown, ha⟩
    · exact hother ha (by simp [hk, EvidenceKind.retires])
    · exact .holds _ a _ (.inr hk) hown ha
  | volume v v' hk hget hname howner ha =>
    refine hother ha ?_
    cases hkind : e.kind <;> simp_all [EvidenceKind.updatesVolume, EvidenceKind.retires]
  | volumeCreated v hk hnew hname hnode howner ha =>
    exact hother ha (by simp [hk, EvidenceKind.retires])
  | node id n n' hk hget hid ha =>
    refine hother ha ?_
    cases hkind : e.kind <;> simp_all [EvidenceKind.updatesTargetNode,
      EvidenceKind.updatesObservedNode, EvidenceKind.retires]
  | decision hk ha =>
    refine hother ha ?_
    cases hkind : e.kind <;> simp_all [EvidenceKind.decides, EvidenceKind.retires]

/-- What becomes of an allocation: if it was not the subject, it may hold other volumes. -/
lemma Populates.of_get (h : Populates w e w') {id : String} {x : Allocation}
    (hx : w.allocations[id]? = some x) :
    (∃ volumes, w'.allocations[id]? = some { x with volumes := volumes }) ∨
      id = e.target ∧ (e.kind.updatesAllocation = true ∨ w'.allocations[id]? = none) := by
  -- the others keep theirs
  have hother (hsame : w'.allocations[id]? = w.allocations[id]?) :
      ∃ volumes, w'.allocations[id]? = some { x with volumes := volumes } :=
    ⟨x.volumes, hsame.trans hx⟩
  cases h with
  | same _ _ _ ha => exact .inl (hother (by rw [ha]))
  | updated a a' hk hget hup ha =>
    by_cases hid : id = e.target
    · exact .inr ⟨hid, .inl hk⟩
    · exact .inl (hother (by rw [ha, get_insert_of_ne hid]))
  | created node resources hk hnew hnode hres ha =>
    have hid : id ≠ e.target := fun hid => absurd (hnew.symm.trans (hid ▸ hx)) (by simp)
    exact .inl (hother (by rw [ha, get_insert_of_ne hid]))
  | deleted a hk hget ha =>
    by_cases hid : id = e.target
    · exact .inr ⟨hid, .inr (by rw [ha, get_erase, if_pos hid])⟩
    · exact .inl (hother (by rw [ha, get_erase, if_neg hid]))
  | holds j a volumes hk hget ha =>
    by_cases hid : id = j
    · subst hid
      cases hget.symm.trans hx
      exact .inl ⟨volumes, by rw [ha, get_insert_self]⟩
    · exact .inl (hother (by rw [ha, get_insert_of_ne hid]))

/-- Where an allocation comes from: it is new and idle, or it was on its node before,
and only a drain of it changes what is known of its work. -/
lemma Effect.comes_from (h : Effect w e w') {id : String} {x' : Allocation}
    (hx' : w'.allocations[id]? = some x') :
    (e.kind = .allocationCreated ∧ x'.draining = false ∧ x'.ready = false) ∨
      ∃ x, w.allocations[id]? = some x ∧ x'.node = x.node ∧
        (x'.draining = x.draining ∧ x'.task = x.task ∨
          id = e.target ∧ (e.kind = .agentDraining ∨ e.kind = .allocationDrained)) := by
  by_cases hx : w.allocations[id]? = some x'
  · exact .inr ⟨x', hx, rfl, .inl ⟨rfl, rfl⟩⟩
  cases h.populates with
  | same _ _ _ ha => exact absurd (ha ▸ hx') hx
  | updated a a' hk hget hup ha =>
    rw [ha, get_insert] at hx'
    split_ifs at hx' with hid
    · cases hx'
      refine .inr ⟨a, hid ▸ hget, hup.identity.node, ?_⟩
      by_cases hdrain : e.kind = .agentDraining ∨ e.kind = .allocationDrained
      · exact .inr ⟨hid, hdrain⟩
      · rw [not_or] at hdrain
        exact .inl (hup.working hdrain.1 hdrain.2)
    · exact absurd hx' hx
  | created node resources hk hnew hnode hres ha =>
    rw [ha, get_insert] at hx'
    split_ifs at hx'
    · cases hx'
      exact .inl ⟨hk, rfl, rfl⟩
    · exact absurd hx' hx
  | deleted a hk hget ha =>
    rw [ha, get_erase] at hx'
    split_ifs at hx'
    exact absurd hx' hx
  | holds j a volumes hk hget ha =>
    rw [ha, get_insert] at hx'
    split_ifs at hx' with hid
    · cases hx'
      exact .inr ⟨a, hid ▸ hget, rfl, .inl ⟨rfl, rfl⟩⟩
    · exact absurd hx' hx

/-- No other volume is written. -/
lemma Effect.volume_frame (h : Effect w e w') {name : String}
    (hname : name ∉ volumesNamed e) : w'.volumes[name]? = w.volumes[name]? := by
  cases h with
  | unchanged | allocation | created | deleted | node | decision =>
    rw [‹w'.volumes = w.volumes›]
  | volume v v' hk hget hn howner ha hv =>
    rw [hv]
    refine get_insert_of_ne fun heq => hname ?_
    subst heq
    generalize hkind : e.kind = kind at hk
    cases kind <;> simp_all [volumesNamed, EvidenceKind.updatesVolume]
  | volumeCreated v hk hnew hn hnode howner ha hv =>
    rw [hv]
    exact get_insert_of_ne fun heq => hname (by simp [volumesNamed, hk, heq])
  | attached v v' a hk hget hown howner ha hv =>
    rw [hv]
    exact get_insert_of_ne fun heq => hname (by simp [volumesNamed, hk, heq])
  | detached v v' hk hget hmay hgen howner ha hv =>
    rw [hv]
    exact get_insert_of_ne fun heq => hname (by simp [volumesNamed, hk, heq])

/-- No other node is written. -/
lemma Effect.node_frame (h : Effect w e w') {id : String} (hid : id ∉ nodesNamed w e) :
    w'.nodes[id]? = w.nodes[id]? := by
  cases h with
  | unchanged | allocation | volume | volumeCreated | attached | detached | decision =>
    rw [‹w'.nodes = w.nodes›]
  | created node resources hk hnew hnode hres ha hv hn =>
    rw [hn]
    exact get_insert_of_ne fun heq => hid (by simp [nodesNamed, hk, heq])
  | deleted a hk hget ha hv hn =>
    rcases hn with ⟨-, hn⟩ | ⟨node, -, hn⟩
    · rw [hn]
    · rw [hn]
      exact get_insert_of_ne fun heq => hid (by simp [nodesNamed, hk, hget, heq])
  | node name n n' hk hget hname ha hv hn =>
    rw [hn]
    refine get_insert_of_ne fun heq => hid ?_
    subst heq
    generalize hkind : e.kind = kind at hk
    cases kind <;>
      simp_all [nodesNamed, EvidenceKind.updatesTargetNode, EvidenceKind.updatesObservedNode]

/-- Evidence keeps the identities of nodes. -/
lemma Effect.nodes_id (h : Effect w e w') (name : String) :
    w'.nodes[name]?.map (·.id) = w.nodes[name]?.map (·.id) := by
  cases h with
  | unchanged | allocation | volume | volumeCreated | attached | detached | decision =>
    rw [‹w'.nodes = w.nodes›]
  | created node resources hk hnew hnode hres ha hv hn =>
    rw [hn]
    exact Table.map_get_insert hnode (by rfl) name
  | deleted a hk hget ha hv hn =>
    rcases hn with ⟨-, hn⟩ | ⟨node, hnode, hn⟩
    · rw [hn]
    · rw [hn]
      exact Table.map_get_insert hnode (by rfl) name
  | node name' n n' hk hget hname ha hv hn =>
    rw [hn]
    exact Table.map_get_insert hget hname name

/-- Evidence neither adds nor removes nodes. -/
lemma Effect.nodes_isSome (h : Effect w e w') (name : String) :
    w'.nodes[name]?.isSome = w.nodes[name]?.isSome := by
  rw [← Option.isSome_map, h.nodes_id name, Option.isSome_map]

/-- Approvals are written by decisions only. -/
lemma Effect.approvals_frame (h : Effect w e w') (hk : e.kind.decides = false) :
    w'.approvals = w.approvals := by
  cases h with
  | decision hd => rw [hd] at hk; cases hk
  | _ => exact ‹w'.approvals = w.approvals›

end Frame

end A4s
