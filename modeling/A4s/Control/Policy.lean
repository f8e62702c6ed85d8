/-
The kernel's per-action validators (`control/policy.go`, with `hasApproval` of
`validate.go`, the spread rule of `spread.go` and the cordon validators of
`node_lifecycle.go`).

Each validator is the complete argument for why one kind of action is safe: it
reads the goal the proposal serves, the world simulated so far and the action,
and refuses or passes. `validateAction` is the table that picks it.
-/
import A4s.Control.Directory
import A4s.Control.Projection

namespace A4s

open Go

/-! ### What validators ask about goals and worlds -/

/-- A live operator grant covers this goal and scope. -/
def hasApproval (host : Host) (w : World) (goalID scope : String) : Bool :=
  w.approvals.toList.any fun (_, approval) =>
    decide (approval.goalID = goalID) && decide (approval.scope = scope) &&
      approval.valid (w.now host.wall)

def nodeAllowed (constraints : Constraints) (node : Node) : Bool :=
  (constraints.allowedNodes.isEmpty || constraints.allowedNodes.contains node.id) &&
    constraints.requiredLabels.toList.all fun (key, value) =>
      decide (node.labels[key]?.getD "" = value)

/-- The ready replicas that must survive a disruption. -/
def disruptionFloor (goal : Goal) : Int64 :=
  if goal.workload.replicas ≤ 1 then 0 else goal.workload.replicas - 1

/-- Replicas of a workload ready at a time, whatever image they run. -/
def readyReplicas (w : World) (workload : String) (now : Time) : ℕ :=
  Table.count (fun _ a => decide (a.workload = workload) && a.readyAt now) w.allocations

def servingAllocations (host : Host) (goal : Goal) (w : World) : ℕ :=
  readyReplicas w goal.workload.name (w.now host.wall)

/-- Replicas that serve the goal's own version on an allowed node. A draining or
exhausted agent is not serving capacity. -/
def matchingReadyAllocations (host : Host) (goal : Goal) (w : World) : ℕ :=
  Table.count (fun _ a =>
    match w.nodes[a.node]? with
    | none => false
    | some node =>
      a.readyAt (w.now host.wall) && decide (a.workload = goal.workload.name) &&
        decide (a.image = goal.workload.image) &&
        decide (a.resources = goal.workload.resources) &&
        nodeAllowed goal.constraints node && !a.draining && !a.exhausted) w.allocations

/-- The highest replica count the kernel will permit: the declared count, or the
queue's `MaxWorkers` when that is larger. -/
def authorizedReplicas (goal : Goal) (w : World) : Int64 :=
  match goal.workload.runtime with
  | none => goal.workload.replicas
  | some runtime =>
    if runtime.queue = "" then goal.workload.replicas
    else match w.queues[runtime.queue]? with
      | none => goal.workload.replicas
      | some queue =>
        if queue.workload ≠ goal.workload.name then goal.workload.replicas
        else if queue.maxWorkers > goal.workload.replicas then queue.maxWorkers
        else goal.workload.replicas

def goalDeclaresSecret (goal : Goal) (ref : SecretRef) : Bool :=
  goal.workload.secrets.contains ref

def goalDeclaresTool (goal : Goal) (grant : ToolGrant) : Bool :=
  match goal.workload.runtime with
  | none => false
  | some runtime => runtime.tools.contains grant

def actionGrantsMutatingTool (a : Action) : Bool := a.tools.any (·.mutating)

def workloadDeclaresVolume (goal : Goal) (name : String) : Bool :=
  goal.workload.volumes.any fun ref => decide (ref.name = name)

/-- `World.ProtectedImages`: what garbage collection must never reclaim. -/
def World.protectedImages (w : World) : List String :=
  (((w.allocations.toList.map fun e => e.2.image).filter (· ≠ "")).dedup).insertionSort (· ≤ ·)

/-! ### Spread (`spread.go`) -/

/-- `AllocationID`. -/
def allocationID (workload : String) (replica : Int64) : String :=
  workload ++ "-" ++ sprintInt replica

def Goal.maxPerDomain (goal : Goal) : Int64 :=
  match goal.workload.placement with
  | none => 0
  | some placement => placement.maxPerDomain

/-- A workload's live allocations in one failure domain. -/
def domainOccupancy (w : World) (workload domain : String) : ℕ :=
  Table.count (fun _ a =>
    match w.nodes[a.node]? with
    | none => false
    | some node =>
      decide (a.workload = workload) && decide (a.phase ≠ .stopped) &&
        decide (node.failureDomain = domain)) w.allocations

def checkSpread (goal : Goal) (w : World) (a : Action) : Result Unit :=
  let ceiling := goal.maxPerDomain
  if ceiling ≤ 0 then .ok ()
  else match w.nodes[a.node]? with
    | none => .ok ()
    | some node =>
      let domain := node.failureDomain
      let held := domainOccupancy w goal.workload.name domain
      refuseIf (ceiling.toInt ≤ held)
        (s!"failure domain {quote domain} already holds {held} of at most " ++
          s!"{sprintInt ceiling} replicas of workload {quote goal.workload.name}")

/-! ### Placement -/

/-- A node that is known and healthy. -/
def healthyNode (w : World) (name text : String) : Result Node :=
  require (w.nodes[name]?.filter (·.healthy)) text

def validatePullImage (_ : Host) (goal : Goal) (w : World) (a : Action) : Result Unit := do
  let _ ← healthyNode w a.node s!"node {quote a.node} is missing or unhealthy"
  refuseIf (a.image ≠ goal.workload.image ∨ contains a.image "@sha256:" = false)
    "image must match the goal's pinned digest"

/-- The feasibility inputs unique to an agent: provider egress and budget. -/
def validateAgentPlacement (goal : Goal) (node : Node) (a : Action) (now : Time) : Result Unit :=
  match goal.workload.runtime with
  | none => refuseIf (a.budget.isZero = false) "only agent workloads may reserve budget"
  | some runtime => do
      refuseIf (a.budget ≠ runtime.budget) "allocation budget differs from goal"
      refuseIf (node.canReach runtime.provider now = false)
        s!"node {quote node.id} cannot reach provider {quote runtime.provider}"
      refuseIf ((node.budgetUsed.add a.budget).fits node.budgetCapacity = false)
        s!"node {quote node.id} lacks agent budget capacity"

def validateCreateAllocation (host : Host) (goal : Goal) (w : World) (a : Action) :
    Result Unit := do
  refuseIf (w.allocations[a.target]?.isSome) s!"allocation {quote a.target} already exists"
  let node ← healthyNode w a.node s!"node {quote a.node} is missing or unhealthy"
  refuseIf (node.cordoned = true) s!"node {quote a.node} is cordoned: {node.cordonReason}"
  refuseIf (nodeAllowed goal.constraints node = false)
    s!"node {quote a.node} violates placement constraints"
  refuseIf (a.workload ≠ goal.workload.name) "workload differs from goal"
  refuseIf (a.image ≠ goal.workload.image ∨ node.hasImage a.image = false)
    s!"pinned image is not present on node {quote a.node}"
  refuseIf (a.resources ≠ goal.workload.resources) "resources differ from goal"
  refuseIf ((node.used.add a.resources).fits node.capacity = false)
    s!"node {quote a.node} lacks capacity"
  refuseIf (a.replica < 0 ∨ authorizedReplicas goal w ≤ a.replica) "replica index is outside goal"
  checkSpread goal w a
  validateAgentPlacement goal node a (w.now host.wall)

/-! ### Volumes -/

/-- `action.Volume == nil` is refused with the validator's own text. -/
def volumeRef (a : Action) (what : String) : Result VolumeRef :=
  require a.volume s!"{what} requires a volume reference"

def existingVolume (w : World) (name : String) : Result Volume :=
  require w.volumes[name]? s!"volume {quote name} does not exist"

def existingAllocation (w : World) (a : Action) : Result Allocation :=
  require w.allocations[a.target]? s!"allocation {quote a.target} does not exist"

def validateCreateVolume (_ : Host) (goal : Goal) (w : World) (a : Action) : Result Unit := do
  let ref ← volumeRef a "create volume"
  refuseIf (workloadDeclaresVolume goal ref.name = false)
    s!"volume {quote ref.name} is not declared by the goal"
  let node ← healthyNode w a.node s!"node {quote a.node} is missing or unhealthy"
  refuseIf (node.cordoned = true) s!"node {quote a.node} is cordoned: {node.cordonReason}"
  match w.volumes[ref.name]? with
  | none => .ok ()
  | some existing =>
    refuseIf (existing.node ≠ a.node)
      s!"volume {quote ref.name} already exists on node {quote existing.node}"

def validateAttachVolume (_ : Host) (goal : Goal) (w : World) (a : Action) : Result Unit := do
  let ref ← volumeRef a "attach volume"
  let allocation ← existingAllocation w a
  refuseIf (allocation.phase ≠ .created)
    s!"volumes must be attached before allocation {quote a.target} starts"
  let volume ← existingVolume w ref.name
  refuseIf (workloadDeclaresVolume goal ref.name = false)
    s!"volume {quote ref.name} is not declared by the goal"
  refuseIf (volume.owner ≠ "" ∧ volume.owner ≠ a.target)
    s!"volume {quote ref.name} is owned by allocation {quote volume.owner}"
  match volume.handoff with
  | some handoff =>
    fail
      (s!"volume {quote ref.name} is being moved to node {quote handoff.to_} and cannot be " ++
        "attached")
  | none =>
    refuseIf (volume.node ≠ allocation.node)
      (s!"volume {quote ref.name} lives on node {quote volume.node} but allocation " ++
        s!"{quote a.target} is on {quote allocation.node}")

def validateDetachVolume (_ : Host) (_ : Goal) (w : World) (a : Action) : Result Unit := do
  let ref ← volumeRef a "detach volume"
  let volume ← existingVolume w ref.name
  refuseIf (volume.owner ≠ "" ∧ volume.owner ≠ a.target)
    s!"allocation {quote a.target} does not own volume {quote ref.name}"
  match w.allocations[a.target]? with
  | none => .ok ()
  | some allocation =>
    refuseIf (allocation.phase = .running)
      s!"allocation {quote a.target} must stop before releasing volume {quote ref.name}"

def validateSnapshotVolume (_ : Host) (goal : Goal) (w : World) (a : Action) : Result Unit := do
  let ref ← volumeRef a "snapshot volume"
  let volume ← existingVolume w ref.name
  refuseIf (goal.workload.engine ≠ "")
    (s!"volume {quote ref.name} backs a {goal.workload.engine} database; use " ++
      "database_backup for a consistent copy")
  refuseIf (volume.owner ≠ "")
    (s!"volume {quote ref.name} must be quiesced before snapshotting; it is attached to " ++
      s!"{quote volume.owner}")

def validateQuiesceVolume (host : Host) (goal : Goal) (w : World) (a : Action) : Result Unit := do
  let ref ← volumeRef a "quiesce volume"
  let volume ← existingVolume w ref.name
  refuseIf (volume.owner ≠ "")
    s!"volume {quote ref.name} must be detached before a move; it is held by {quote volume.owner}"
  let target ← healthyNode w a.node s!"handoff target {quote a.node} is missing or unhealthy"
  refuseIf (target.cordoned = true)
    s!"handoff target {quote a.node} is cordoned: {target.cordonReason}"
  refuseIf (a.node = volume.node) s!"volume {quote ref.name} already lives on node {quote a.node}"
  refuseIf (hasApproval host w goal.id "move-volume" = false)
    s!"moving volume {quote ref.name} requires move-volume approval"

def validateTransferVolume (_ : Host) (_ : Goal) (w : World) (a : Action) : Result Unit := do
  let ref ← volumeRef a "transfer volume"
  let volume ← existingVolume w ref.name
  let handoff ← require volume.handoff s!"volume {quote ref.name} has no handoff in progress"
  refuseIf (handoff.phase ≠ .snapshotted)
    s!"volume {quote ref.name} must be snapshotted before transfer, not {quote handoff.phase.text}"
  refuseIf (a.node ≠ handoff.to_)
    s!"transfer target {quote a.node} is not the handoff target {quote handoff.to_}"

def validateAdoptVolume (_ : Host) (_ : Goal) (w : World) (a : Action) : Result Unit := do
  let ref ← volumeRef a "adopt volume"
  let volume ← existingVolume w ref.name
  let handoff ← require volume.handoff s!"volume {quote ref.name} has no handoff in progress"
  refuseIf (handoff.phase ≠ .transferred)
    s!"volume {quote ref.name} must be transferred before adoption, not {quote handoff.phase.text}"
  refuseIf (a.node ≠ handoff.to_)
    s!"adoption node {quote a.node} is not the handoff target {quote handoff.to_}"

def validateDatabaseBackup (_ : Host) (goal : Goal) (w : World) (a : Action) : Result Unit := do
  let ref ← volumeRef a "database backup"
  refuseIf (a.snapshot = "") "database backup requires a backup label"
  refuseIf (goal.workload.engine = "") "database backup is only for database workloads"
  let volume ← existingVolume w ref.name
  refuseIf (volume.owner = "") s!"database volume {quote ref.name} must be attached to back it up"

/-- A recorded snapshot of a volume. -/
def recordedSnapshot (volume : Volume) (ref : VolumeRef) (a : Action) : Result Unit :=
  refuseIf (volume.snapshots[a.snapshot]?.isNone)
    s!"snapshot {quote a.snapshot} of volume {quote ref.name} was never recorded"

def validateVerifyBackup (_ : Host) (_ : Goal) (w : World) (a : Action) : Result Unit := do
  let ref ← volumeRef a "verify backup"
  refuseIf (a.snapshot = "") "verify backup requires a snapshot id"
  let volume ← existingVolume w ref.name
  recordedSnapshot volume ref a

def validatePruneSnapshots (_ : Host) (_ : Goal) (w : World) (a : Action) : Result Unit := do
  let ref ← volumeRef a "prune snapshots"
  let volume ← existingVolume w ref.name
  refuseIf (a.retain < 1) "prune must retain at least one snapshot"
  refuseIf (volume.handoff.isSome) s!"volume {quote ref.name} is being moved and cannot be pruned"

def validateBackupSnapshot (_ : Host) (_ : Goal) (w : World) (a : Action) : Result Unit := do
  let ref ← volumeRef a "backup snapshot"
  refuseIf (a.snapshot = "") "backup snapshot requires a snapshot id"
  let volume ← existingVolume w ref.name
  recordedSnapshot volume ref a

def validateRestoreSnapshot (host : Host) (goal : Goal) (w : World) (a : Action) : Result Unit := do
  let ref ← volumeRef a "restore snapshot"
  refuseIf (a.snapshot = "") "restore snapshot requires a snapshot id"
  let volume ← existingVolume w ref.name
  recordedSnapshot volume ref a
  refuseIf (volume.owner ≠ "")
    (s!"volume {quote ref.name} must be detached before restore; it is attached to " ++
      s!"{quote volume.owner}")
  refuseIf (hasApproval host w goal.id "restore-volume" = false)
    s!"restoring volume {quote ref.name} requires restore-volume approval"

/-! ### Nodes: firewall policy, names, image storage, cordons -/

def validateApplyPolicy (_ : Host) (_ : Goal) (w : World) (a : Action) : Result Unit := do
  refuseIf (a.node = "") "apply policy requires a node"
  refuseIf (w.nodes[a.node]?.isNone) s!"node {quote a.node} does not exist"
  let policy ← require a.policy "apply policy requires a compiled ruleset"
  refuseIf (policy.node ≠ a.node)
    s!"policy was compiled for node {quote policy.node} but is addressed to {quote a.node}"
  refuseIf (policy.table ≠ policyTable)
    s!"policy must target the {quote policyTable} table, not {quote policy.table}"
  refuseIf (policy.rules = []) "compiled policy holds no rules"

def validatePublishZone (_ : Host) (_ : Goal) (w : World) (a : Action) : Result Unit := do
  refuseIf (a.node = "") "publish zone requires a node"
  refuseIf (w.nodes[a.node]?.isNone) s!"node {quote a.node} does not exist"
  let zone ← require a.zone "publish zone requires a zone"
  refuseIf (zone.node ≠ a.node)
    s!"zone was built for node {quote zone.node} but is addressed to {quote a.node}"

def validateCollectImages (_ : Host) (_ : Goal) (w : World) (a : Action) : Result Unit := do
  refuseIf (a.node = "") "collect images requires a node"
  let _ ← healthyNode w a.node s!"node {quote a.node} is not healthy enough to collect images"
  w.protectedImages.forM fun image =>
    refuseIf (image ∉ a.protected_)
      s!"collect images must protect {quote image}, which an allocation still references"

/-- A cordon names a known node; repeating it is permitted. -/
def validateCordonNode (_ : Host) (_ : Goal) (w : World) (a : Action) : Result Unit := do
  refuseIf (a.target = "") "cordon requires a node"
  refuseIf (w.nodes[a.target]?.isNone) s!"node {quote a.target} does not exist"

def validateUncordonNode (_ : Host) (_ : Goal) (w : World) (a : Action) : Result Unit := do
  refuseIf (a.target = "") "uncordon requires a node"
  refuseIf (w.nodes[a.target]?.isNone) s!"node {quote a.target} does not exist"

/-! ### Allocations -/

def validateMountSecret (_ : Host) (goal : Goal) (w : World) (a : Action) : Result Unit := do
  let allocation ← existingAllocation w a
  refuseIf (allocation.phase ≠ .created)
    s!"secrets must be mounted before allocation {quote a.target} starts"
  let secret ← require a.secret "mount secret requires a secret reference"
  refuseIf (goalDeclaresSecret goal secret = false)
    s!"secret {quote secret.name} is not declared by the goal"

def validateGrantTools (host : Host) (goal : Goal) (w : World) (a : Action) : Result Unit := do
  let allocation ← existingAllocation w a
  refuseIf (allocation.phase ≠ .created)
    s!"tools must be granted before allocation {quote a.target} starts"
  refuseIf (goal.workload.runtime = none) "tool grants are only for agent workloads"
  a.tools.forM fun grant =>
    refuseIf (goalDeclaresTool goal grant = false)
      s!"tool {quote grant.name} is not declared by the goal"
  refuseIf (actionGrantsMutatingTool a = true ∧
      hasApproval host w goal.id "agent-mutating-tools" = false)
    s!"granting mutating tools to {quote a.target} requires agent-mutating-tools approval"

def validateDrainAllocation (_ : Host) (goal : Goal) (w : World) (a : Action) : Result Unit := do
  let allocation ← existingAllocation w a
  refuseIf (allocation.phase ≠ .running) s!"allocation {quote a.target} is not running"
  refuseIf (goal.workload.runtime = none) "drain is only for agent workloads"
  refuseIf (a.workload ≠ allocation.workload) "workload differs from allocation"

def validateAttachNetwork (_ : Host) (_ : Goal) (w : World) (a : Action) : Result Unit := do
  let allocation ← existingAllocation w a
  refuseIf (allocation.phase ≠ .created)
    s!"allocation {quote a.target} must be attached before it starts"
  refuseIf (a.workload ≠ allocation.workload) "workload differs from allocation"

/-- A declared volume is attached to the allocation at its current generation. -/
def checkAttached (w : World) (a : Action) (allocation : Allocation) (ref : VolumeRef) :
    Result Unit := do
  let volume ← require w.volumes[ref.name]?
    s!"allocation {quote a.target} needs volume {quote ref.name}, which does not exist"
  let attached ← require allocation.volumes[ref.name]?
    s!"allocation {quote a.target} is missing volume {quote ref.name}"
  refuseIf (attached ≠ volume.generation)
    s!"allocation {quote a.target} holds a fenced generation of volume {quote ref.name}"
  refuseIf (volume.owner ≠ a.target)
    s!"volume {quote ref.name} is no longer owned by allocation {quote a.target}"

def validateStartAllocation (_ : Host) (goal : Goal) (w : World) (a : Action) : Result Unit := do
  let allocation ← require (w.allocations[a.target]?.filter fun x => decide (x.phase = .created))
    s!"allocation {quote a.target} is not created"
  refuseIf (a.workload ≠ goal.workload.name ∨ allocation.workload ≠ a.workload)
    "workload differs from goal"
  goal.workload.volumes.forM (checkAttached w a allocation)
  goal.workload.secrets.forM fun ref =>
    refuseIf (allocation.secrets[ref.name]?.getD "" ≠ ref.version)
      s!"allocation {quote a.target} is missing secret {quote ref.name} version {quote ref.version}"
  refuseIf (goal.workload.port > 0 ∧ allocation.address = "")
    s!"allocation {quote a.target} has no network address"
  match goal.workload.runtime with
  | none => .ok ()
  | some runtime => do
      refuseIf (runtime.tools ≠ [] ∧ allocation.tools = [])
        s!"agent allocation {quote a.target} has no tool grant"
      refuseIf (allocation.budget.isZero = true)
        s!"agent allocation {quote a.target} holds no budget"
      refuseIf (allocation.exhausted = true)
        s!"agent allocation {quote a.target} has exhausted its budget"

/-- An agent instance that holds a task is drained before it stops, and a stop
keeps the availability floor of the proposing goal. -/
def validateStopAllocation (host : Host) (goal : Goal) (w : World) (a : Action) : Result Unit := do
  let allocation ← existingAllocation w a
  refuseIf (allocation.phase ≠ .running) s!"allocation {quote a.target} is not running"
  refuseIf (a.workload ≠ allocation.workload) "workload differs from allocation"
  if goal.workload.runtime ≠ none ∧ allocation.task ≠ "" ∧ allocation.exhausted = false then
    refuseIf (allocation.draining = false)
      s!"agent allocation {quote a.target} must be drained before it stops"
    fail s!"agent allocation {quote a.target} is still working on task {quote allocation.task}"
  if allocation.readyAt (w.now host.wall) then
    let remaining : Int := servingAllocations host goal w - 1
    let floor := disruptionFloor goal
    refuseIf (remaining < floor.toInt)
      (s!"stopping {quote a.target} would leave {remaining} ready replicas, below the " ++
        s!"availability floor of {sprintInt floor}")

def validateDeleteAllocation (host : Host) (goal : Goal) (w : World) (a : Action) :
    Result Unit := do
  let allocation ← existingAllocation w a
  refuseIf (allocation.phase = .running)
    s!"allocation {quote a.target} must be stopped before deletion"
  refuseIf (a.workload ≠ allocation.workload) "workload differs from allocation"
  refuseIf (allocation.volumes.isEmpty = false)
    s!"allocation {quote a.target} must release its volumes before deletion"
  refuseIf (allocation.stateful = true ∧ hasApproval host w goal.id "destroy-stateful" = false)
    s!"deleting stateful allocation {quote a.target} requires destroy-stateful approval"

def validatePublishRoute (host : Host) (goal : Goal) (w : World) (a : Action) : Result Unit := do
  let route ← require goal.route "goal does not request a route"
  refuseIf (a.target ≠ route.host ∨ a.port ≠ route.port ∨ a.exposure ≠ route.exposure)
    "route differs from goal"
  refuseIf (a.workload ≠ goal.workload.name) "workload differs from goal"
  refuseIf (a.exposure = "public" ∧ hasApproval host w goal.id "public-route" = false)
    "public route requires public-route approval"
  refuseIf ((matchingReadyAllocations host goal w : Int) < goal.workload.replicas.toInt)
    "workload is not ready"

/-! ### The table of validators -/

/-- `validateAction`: `probe_readiness` and texts no constant names have no
validator. -/
def validateAction (host : Host) (goal : Goal) (w : World) (a : Action) : Result Unit :=
  match a.kind with
  | .pullImage => validatePullImage host goal w a
  | .createAllocation => validateCreateAllocation host goal w a
  | .createVolume => validateCreateVolume host goal w a
  | .attachVolume => validateAttachVolume host goal w a
  | .detachVolume => validateDetachVolume host goal w a
  | .snapshotVolume => validateSnapshotVolume host goal w a
  | .quiesceVolume => validateQuiesceVolume host goal w a
  | .transferVolume => validateTransferVolume host goal w a
  | .adoptVolume => validateAdoptVolume host goal w a
  | .databaseBackup => validateDatabaseBackup host goal w a
  | .verifyBackup => validateVerifyBackup host goal w a
  | .pruneSnapshots => validatePruneSnapshots host goal w a
  | .collectImages => validateCollectImages host goal w a
  | .publishZone => validatePublishZone host goal w a
  | .applyPolicy => validateApplyPolicy host goal w a
  | .backupSnapshot => validateBackupSnapshot host goal w a
  | .restoreSnapshot => validateRestoreSnapshot host goal w a
  | .mountSecret => validateMountSecret host goal w a
  | .grantTools => validateGrantTools host goal w a
  | .drainAllocation => validateDrainAllocation host goal w a
  | .attachNetwork => validateAttachNetwork host goal w a
  | .startAllocation => validateStartAllocation host goal w a
  | .stopAllocation => validateStopAllocation host goal w a
  | .deleteAllocation => validateDeleteAllocation host goal w a
  | .publishRoute => validatePublishRoute host goal w a
  | .cordonNode => validateCordonNode host goal w a
  | .uncordonNode => validateUncordonNode host goal w a
  | .probeReadiness => fail s!"unknown action kind {quote a.kind.text}"
  | .other text => fail s!"unknown action kind {quote text}"

end A4s
