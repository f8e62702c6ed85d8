/-
The world projection (`control/projection.go`, with the ledgers of
`control/disruption.go` it writes).

`project` is the only path from observation to world state: it applies one piece
of evidence to the world, or refuses it. The source is one switch over the
evidence kinds; here each case is a definition of its own, named after the kind,
and `projectInto` is the switch.

* `recordDisruption`, `recordFailure`, `clearBackoff`: the disruption ledger and
  the failure backoff, written by the projection alone.
* `observedInt`, `observedBudget`, `observedResources`: numbers travel through
  evidence as text.
* `applyReadiness`: what a readiness measurement does to an allocation.
-/
import A4s.Control.Types

namespace A4s

open Go

/-! ### The disruption ledger -/

/-- `DisruptionRetention`. -/
def disruptionRetention : Duration := hour

/-- `BaseBackoff`. -/
def baseBackoff : Duration := 15 * second

/-- `MaxBackoff`. -/
def maxBackoff : Duration := 10 * minute

/-- The doubling loop of `backoffFor`, `n` iterations left. -/
def backoffLoop : ℕ → Duration → Duration
  | 0, delay => delay
  | n + 1, delay => if delay * 2 ≥ maxBackoff then maxBackoff else backoffLoop n (delay * 2)

/-- The delay after a number of consecutive failures. -/
def backoffFor (failures : Int64) : Duration :=
  if failures ≤ 1 then baseBackoff else backoffLoop (failures.toInt - 1).toNat baseBackoff

def Backoff.active (b : Backoff) (now : Time) : Bool :=
  decide (b.until_ ≠ 0) && decide (now < b.until_)

/-- The failure domain of a node the world may not know. -/
def domainOf (w : World) (node : String) : String :=
  match w.nodes[node]? with
  | some n => n.failureDomain
  | none => ""

/-- Appends a disruption and prunes the ledger relative to the observation. An
allocation that had already stopped is charged nothing. -/
def recordDisruption (w : World) (a : Allocation) (kind : EvidenceKind) (at_ : Time) : World :=
  if at_ = 0 ∨ a.phase = .stopped then w
  else
    let entry : Disruption :=
      { target := a.id, workload := a.workload, node := a.node,
        domain := domainOf w a.node, kind := kind, at_ := at_ }
    { w with disruptions :=
        (w.disruptions ++ [entry]).filter fun d => decide (at_ - disruptionRetention < d.at_) }

/-- Advances a target's backoff after an observed failure. -/
def recordFailure (w : World) (target : String) (at_ : Time) : World :=
  let state := w.backoff[target]?.getD {}
  let failures := state.failures + 1
  let state : Backoff :=
    { failures := failures, lastFailure := at_, until_ := at_ + backoffFor failures }
  { w with backoff := w.backoff.insert target state }

def clearBackoff (w : World) (target : String) : World :=
  { w with backoff := w.backoff.erase target }

/-! ### Reading evidence -/

/-- `observedInt`: a value that does not scan reads as zero. -/
def Evidence.observedInt (e : Evidence) (key : String) : Int64 :=
  (sscanInt (e.observe key)).getD 0

def Evidence.observedBudget (e : Evidence) : Budget :=
  { tokens := e.observedInt "tokens", costMillis := e.observedInt "cost_millis",
    wallSeconds := e.observedInt "wall_seconds", toolCalls := e.observedInt "tool_calls" }

def Evidence.observedResources (e : Evidence) : Result Resources := do
  let resources : Resources := ⟨e.observedInt "cpu_millis", e.observedInt "memory_mb"⟩
  refuseIf (resources.cpuMillis < 1 ∨ resources.memoryMB < 1)
    s!"evidence {quote e.kind.text} must observe positive resources"
  return resources

/-- The non-empty lines of an observed value. -/
def splitLines (value : String) : List String := (split value '\n').filter (· ≠ "")

/-- `evidence %q must …`. -/
def Evidence.must (e : Evidence) (text : String) : String :=
  s!"evidence {quote e.kind.text} must {text}"

/-- `evidence %q names unknown <what> %q`. -/
def Evidence.unknown (e : Evidence) (what name : String) : String :=
  s!"evidence {quote e.kind.text} names unknown {what} {quote name}"

def knownNode (w : World) (e : Evidence) (name : String) : Result Node :=
  require w.nodes[name]? (e.unknown "node" name)

def knownAllocation (w : World) (e : Evidence) : Result Allocation :=
  require w.allocations[e.target]? (e.unknown "allocation" e.target)

def knownVolume (w : World) (e : Evidence) : Result Volume :=
  require w.volumes[e.target]? (e.unknown "volume" e.target)

/-! ### Evidence about nodes -/

def projectImagePresent (w : World) (e : Evidence) : Result World := do
  let name := e.observe "node"
  let node ← knownNode w e name
  let image := e.observe "image"
  refuseIf (image = "") (e.must "observe an image")
  return w.setNode name { node with images := node.images.insert image true }

def projectPolicyApplied (w : World) (e : Evidence) : Result World := do
  let node ← knownNode w e e.target
  return w.setNode e.target { node with policyFingerprint := e.observe "fingerprint" }

def projectZonePublished (w : World) (e : Evidence) : Result World := do
  let node ← knownNode w e e.target
  return w.setNode e.target { node with zoneFingerprint := e.observe "fingerprint" }

/-- A reclaimed image is no longer present on the node. -/
def projectImagesCollected (w : World) (e : Evidence) : Result World := do
  let node ← knownNode w e e.target
  let images :=
    (splitLines (e.observe "reclaimed")).foldl (fun t image => t.erase image) node.images
  return w.setNode e.target { node with images := images }

def projectNodeCordoned (w : World) (e : Evidence) : Result World := do
  let node ← knownNode w e e.target
  return w.setNode e.target { node with cordoned := true, cordonReason := e.observe "reason" }

def projectNodeUncordoned (w : World) (e : Evidence) : Result World := do
  let node ← knownNode w e e.target
  return w.setNode e.target { node with cordoned := false, cordonReason := "" }

/-- `node.reachable` and `node.unreachable`: only health changes. -/
def projectNodeReachability (w : World) (e : Evidence) : Result World := do
  let node ← knownNode w e e.target
  return w.setNode e.target { node with healthy := decide (e.kind = .nodeReachable) }

/-- A report older than the recorded one is ignored. -/
def projectProviderReachable (w : World) (e : Evidence) : Result World := do
  let name := e.observe "node"
  let node ← knownNode w e name
  refuseIf (e.target = "") (e.must "name a provider")
  let stale : Bool := match node.providers[e.target]? with
    | some existing =>
      decide (existing.observedAt ≠ 0) && decide (e.observedAt < existing.observedAt)
    | none => false
  if stale then return w
  let reach : ProviderReach :=
    { reachable := decide (e.observe "reachable" = "true"), observedAt := e.observedAt,
      expiresAt := e.expiresAt, detail := e.observe "detail" }
  return w.setNode name { node with providers := node.providers.insert e.target reach }

/-! ### Evidence about allocations -/

/-- Re-projecting a creation changes nothing, so capacity is not counted twice. -/
def projectAllocationCreated (w : World) (e : Evidence) : Result World := do
  let name := e.observe "node"
  let node ← knownNode w e name
  refuseIf (e.target = "") (e.must "name an allocation")
  if w.allocations[e.target]?.isSome then return w
  let resources ← e.observedResources
  let budget := e.observedBudget
  let allocation : Allocation :=
    { id := e.target, workload := e.observe "workload", replica := e.observedInt "replica",
      node := node.id, image := e.observe "image", resources := resources,
      phase := .created, budget := budget }
  let charged := { node with
    used := node.used.add resources, budgetUsed := node.budgetUsed.add budget }
  return (w.setAllocation e.target allocation).setNode name charged

def projectSecretMounted (w : World) (e : Evidence) : Result World := do
  let a ← knownAllocation w e
  let name := e.observe "secret"
  let version := e.observe "version"
  refuseIf (name = "" ∨ version = "") (e.must "observe a secret name and version")
  return w.setAllocation e.target { a with secrets := a.secrets.insert name version }

def projectNetworkAttached (w : World) (e : Evidence) : Result World := do
  let a ← knownAllocation w e
  let address := e.observe "address"
  refuseIf (address = "") (e.must "observe an address")
  return w.setAllocation e.target { a with address := address }

/-- Detaching from an allocation that is already gone is a replayed teardown. -/
def projectNetworkDetached (w : World) (e : Evidence) : Result World :=
  match w.allocations[e.target]? with
  | none => .ok w
  | some a => .ok (w.setAllocation e.target { a with address := "" })

/-- Running is not ready. -/
def projectAllocationRunning (w : World) (e : Evidence) : Result World := do
  let a ← knownAllocation w e
  return w.setAllocation e.target { a with phase := .running }

/-- `ReadySince` restarts whenever readiness lapsed: it was not held, or the
previous observation had expired by the time of this one. -/
def readySinceAfter (a : Allocation) (e : Evidence) : Time :=
  let lapsed :=
    !a.ready || (decide (a.readyExpiresAt ≠ 0) && decide (a.readyExpiresAt ≤ e.observedAt))
  if e.observe "ready" ≠ "true" then 0
  else if lapsed ∨ a.readySince = 0 then e.observedAt
  else a.readySince

/-- Records a readiness observation. An allocation observed healthy forgets its
failures, and its image becomes the workload's known-good one. -/
def applyReadiness (w : World) (a : Allocation) (e : Evidence) : World :=
  let ready := decide (e.observe "ready" = "true")
  let w := w.setAllocation e.target
    { a with readySince := readySinceAfter a e, ready := ready, readyExpiresAt := e.expiresAt }
  if ready then
    let w := clearBackoff w a.id
    { w with knownGood := w.knownGood.insert a.workload a.image }
  else w

/-- `allocation.ready` and `agent.ready`. -/
def projectReady (w : World) (e : Evidence) : Result World := do
  let a ← knownAllocation w e
  refuseIf (a.phase ≠ .running)
    s!"allocation {quote e.target} cannot be ready in phase {quote a.phase.text}"
  return applyReadiness w a e

/-- The disruption is recorded before the phase changes. -/
def projectAllocationStopped (w : World) (e : Evidence) : Result World := do
  let a ← knownAllocation w e
  let w := recordDisruption w a e.kind e.observedAt
  return w.setAllocation e.target { a with phase := .stopped, ready := false, readySince := 0 }

/-- A failure is charged to the backoff, not to the disruption ledger. -/
def projectAllocationFailed (w : World) (e : Evidence) : Result World := do
  let a ← knownAllocation w e
  let w := w.setAllocation e.target
    { a with phase := .stopped, ready := false, readySince := 0,
             exitCode := e.observedInt "exit_code", restarts := e.observedInt "restarts" }
  return recordFailure w e.target e.observedAt

/-- Releases the node's resources (not its budget) and forgets the allocation. -/
def projectAllocationDeleted (w : World) (e : Evidence) : Result World :=
  match w.allocations[e.target]? with
  | none => .ok w
  | some a =>
    let w := match w.nodes[a.node]? with
      | some node => w.setNode a.node { node with used := node.used.subtract a.resources }
      | none => w
    let w := recordDisruption w a e.kind e.observedAt
    .ok { w with allocations := w.allocations.erase e.target }

/-- `make([]T, 0, n)` of `size`-byte elements panics on a negative capacity and
on one beyond the 48-bit address space. -/
def makeslicePanics (n : Int64) (size : ℕ) : Bool :=
  decide (n < 0) || decide (n.toInt * size > 2 ^ 48)

/-- Only the size of the envelope is taken from evidence. -/
def projectToolsGranted (w : World) (e : Evidence) : Result World := do
  let a ← knownAllocation w e
  refuseIf (a.phase ≠ .created)
    s!"allocation {quote e.target} cannot receive tools in phase {quote a.phase.text}"
  let count := e.observedInt "count"
  if makeslicePanics count 40 then crash "makeslice: cap out of range"
  return w.setAllocation e.target { a with tools := List.replicate count.toInt.toNat {} }

/-- Spend only ever increases: a lower reading is ignored. -/
def projectAgentSpent (w : World) (e : Evidence) : Result World := do
  let a ← knownAllocation w e
  let spent := e.observedBudget
  if spent.tokens < a.spent.tokens ∨ spent.costMillis < a.spent.costMillis then return w
  let a := { a with spent := spent }
  return w.setAllocation e.target (if a.exhausted then { a with ready := false } else a)

/-- A task is taken over only when the evidence reports one. -/
def projectAgentDraining (w : World) (e : Evidence) : Result World := do
  let a ← knownAllocation w e
  let task := match e.observed["task"]? with
    | some task => task
    | none => a.task
  return w.setAllocation e.target { a with draining := true, task := task }

def projectAllocationDrained (w : World) (e : Evidence) : Result World := do
  let a ← knownAllocation w e
  let a := { a with draining := true, task := "", ready := false, readySince := 0 }
  return recordDisruption (w.setAllocation e.target a) a e.kind e.observedAt

/-! ### Evidence about volumes -/

/-- Re-creating an existing volume does not reset its ownership. -/
def projectVolumeCreated (w : World) (e : Evidence) : Result World := do
  refuseIf (e.target = "") (e.must "name a volume")
  let name := e.observe "node"
  let _ ← knownNode w e name
  if w.volumes[e.target]?.isSome then return w
  return w.setVolume e.target
    { name := e.target, node := name, sizeMB := e.observedInt "size_mb" }

/-- Attaching to a second allocation while the volume is held is refused;
attaching to the current owner repeats. -/
def projectVolumeAttached (w : World) (e : Evidence) : Result World := do
  let volume ← knownVolume w e
  let owner := e.observe "allocation"
  refuseIf (owner = "") (e.must "observe an allocation")
  let a ← require w.allocations[owner]? (e.unknown "allocation" owner)
  refuseIf (volume.owner ≠ "" ∧ volume.owner ≠ owner)
    s!"volume {quote e.target} is owned by allocation {quote volume.owner}"
  let volume := if volume.owner ≠ owner then
      { volume with owner := owner, generation := volume.generation + 1 }
    else volume
  return (w.setVolume e.target volume).setAllocation owner
    { a with volumes := a.volumes.insert e.target volume.generation }

/-- Only the current owner may release; the generation advances on release. -/
def projectVolumeDetached (w : World) (e : Evidence) : Result World :=
  match w.volumes[e.target]? with
  | none => .ok w
  | some volume =>
    let owner := e.observe "allocation"
    if volume.owner ≠ "" ∧ owner ≠ "" ∧ volume.owner ≠ owner then .ok w
    else
      let w := match w.allocations[volume.owner]? with
        | some a => w.setAllocation volume.owner { a with volumes := a.volumes.erase e.target }
        | none => w
      .ok (w.setVolume e.target
        { volume with owner := "", generation := volume.generation + 1 })

/-- A snapshot taken during a quiesced handoff is the one being moved. -/
def handoffAfterSnapshot (snapshot checksum : String) : Option VolumeHandoff → Option VolumeHandoff
  | some h =>
    if h.phase = .quiesced then
      some { h with phase := .snapshotted, snapshot := snapshot, checksum := checksum }
    else some h
  | none => none

def projectVolumeSnapshotted (w : World) (e : Evidence) : Result World := do
  let volume ← knownVolume w e
  let snapshot := e.observe "snapshot"
  let checksum := e.observe "checksum"
  refuseIf (snapshot = "" ∨ checksum = "") (e.must "observe a snapshot id and checksum")
  let taken := volume.snapshots[snapshot]?
  refuseIf (taken.isSome ∧ taken ≠ some checksum)
    (s!"snapshot {quote snapshot} of volume {quote e.target} already exists with a " ++
      "different checksum")
  return w.setVolume e.target { volume with
    snapshotOrder := if taken.isSome then volume.snapshotOrder
      else volume.snapshotOrder ++ [snapshot]
    snapshots := volume.snapshots.insert snapshot checksum
    lastSnapshot := snapshot
    handoff := handoffAfterSnapshot snapshot checksum volume.handoff }

def projectVolumeBackedUp (w : World) (e : Evidence) : Result World := do
  let volume ← knownVolume w e
  let snapshot := e.observe "snapshot"
  let location := e.observe "location"
  let checksum := e.observe "checksum"
  refuseIf (snapshot = "" ∨ location = "") (e.must "observe a snapshot id and location")
  let recorded ← require volume.snapshots[snapshot]?
    s!"volume {quote e.target} has no snapshot {quote snapshot} to back up"
  refuseIf (checksum ≠ "" ∧ checksum ≠ recorded)
    s!"backup of snapshot {quote snapshot} does not match its recorded checksum"
  return w.setVolume e.target { volume with backups := volume.backups.insert snapshot location }

def projectVolumeQuiesced (w : World) (e : Evidence) : Result World := do
  let volume ← knownVolume w e
  let target := e.observe "to"
  refuseIf (target = "") (e.must "observe a target node")
  let _ ← knownNode w e target
  refuseIf (volume.owner ≠ "")
    s!"volume {quote e.target} cannot be quiesced while allocation {quote volume.owner} holds it"
  return w.setVolume e.target { volume with
    handoff := some { from_ := volume.node, to_ := target, phase := .quiesced } }

/-- The target must reproduce the checksum of the snapshot it received. -/
def projectVolumeTransferred (w : World) (e : Evidence) : Result World := do
  let volume ← knownVolume w e
  let handoff ← require volume.handoff s!"volume {quote e.target} has no handoff in progress"
  refuseIf (handoff.phase ≠ .snapshotted)
    s!"volume {quote e.target} must be snapshotted before transfer, not {quote handoff.phase.text}"
  let checksum := e.observe "checksum"
  refuseIf (checksum = "") (e.must "observe a checksum")
  refuseIf (checksum ≠ handoff.checksum)
    s!"transfer of volume {quote e.target} does not match the snapshot checksum"
  return w.setVolume e.target { volume with
    handoff := some { handoff with phase := .transferred } }

/-- Ownership moves only after the target has proven it holds the data. -/
def projectVolumeAdopted (w : World) (e : Evidence) : Result World := do
  let volume ← knownVolume w e
  let handoff ← require volume.handoff s!"volume {quote e.target} has no handoff in progress"
  refuseIf (handoff.phase ≠ .transferred)
    s!"volume {quote e.target} must be transferred before adoption, not {quote handoff.phase.text}"
  let adopter := e.observe "node"
  refuseIf (adopter ≠ handoff.to_)
    (s!"volume {quote e.target} was adopted by {quote adopter}, not the handoff target " ++
      s!"{quote handoff.to_}")
  return w.setVolume e.target { volume with
    node := handoff.to_, generation := volume.generation + 1, handoff := none }

/-- Drops one snapshot id from a volume's records. -/
def dropSnapshot (volume : Volume) (id : String) : Volume :=
  { volume with snapshots := volume.snapshots.erase id, backups := volume.backups.erase id,
                snapshotOrder := volume.snapshotOrder.erase id }

def projectSnapshotsPruned (w : World) (e : Evidence) : Result World := do
  let volume ← knownVolume w e
  let volume := (splitLines (e.observe "removed")).foldl dropSnapshot volume
  -- the most recent surviving snapshot becomes last-known
  let volume := if volume.snapshots[volume.lastSnapshot]?.isSome then volume
    else { volume with lastSnapshot := volume.snapshotOrder.getLastD "" }
  return w.setVolume e.target volume

def projectDatabaseBackedUp (w : World) (e : Evidence) : Result World := do
  let volume ← knownVolume w e
  let label := e.observe "label"
  let checksum := e.observe "checksum"
  refuseIf (label = "" ∨ checksum = "") (e.must "observe a backup label and checksum")
  return w.setVolume e.target { volume with
    snapshotOrder := if volume.snapshots[label]?.isSome then volume.snapshotOrder
      else volume.snapshotOrder ++ [label]
    snapshots := volume.snapshots.insert label checksum
    lastSnapshot := label }

/-- A failed verification records nothing as verified. -/
def projectBackupVerified (w : World) (e : Evidence) : Result World := do
  let volume ← knownVolume w e
  let snapshot := e.observe "snapshot"
  refuseIf (snapshot = "") (e.must "observe a snapshot id")
  if e.observe "verified" ≠ "true" then return w
  refuseIf (volume.snapshots[snapshot]?.isNone)
    s!"verification names unknown snapshot {quote snapshot} of volume {quote e.target}"
  return w.setVolume e.target { volume with
    verifiedSnapshot := snapshot
    verifiedAt := if e.observedAt ≠ 0 then e.observedAt else volume.verifiedAt }

def projectVolumeRestored (w : World) (e : Evidence) : Result World := do
  let volume ← knownVolume w e
  let snapshot := e.observe "snapshot"
  refuseIf (snapshot = "") (e.must "observe a snapshot id")
  refuseIf (volume.snapshots[snapshot]?.isNone)
    s!"volume {quote e.target} was restored from unknown snapshot {quote snapshot}"
  return w.setVolume e.target { volume with restoredFrom := snapshot }

/-! ### Evidence about routes, queues and decisions -/

def projectRouteReachable (w : World) (e : Evidence) : Result World := do
  refuseIf (e.target = "") (e.must "name a route host")
  let route : Route :=
    { host := e.target, workload := e.observe "workload", port := e.observedInt "port",
      exposure := e.observe "exposure" }
  return { w with routes := w.routes.insert e.target route }

/-- `ApprovalScopes` (`approval.go`): the decisions an operator can authorise. -/
def approvalScopes : List String :=
  ["public-route", "destroy-stateful", "restore-volume", "move-volume", "agent-mutating-tools",
    "rollback"]

/-- The scope is checked again, since a log is replayed on every start. -/
def projectApprovalGranted (w : World) (e : Evidence) : Result World := do
  refuseIf (e.target = "") (e.must "name an approval")
  let goalID := e.observe "goal"
  let scope := e.observe "scope"
  refuseIf (goalID = "" ∨ scope = "") (e.must "name a goal and scope")
  refuseIf (scope ∉ approvalScopes)
    s!"evidence {quote e.kind.text} names ungated scope {quote scope}"
  let approval : Approval :=
    { id := e.target, goalID := goalID, scope := scope, issuedBy := e.observe "issued_by",
      granted := true, issuedAt := e.observedAt, expiresAt := e.expiresAt,
      revision := (e.observedInt "revision").toUInt64, reason := e.observe "reason",
      subject := e.observe "subject", rollback := e.observe "rollback" }
  return { w with approvals := w.approvals.insert e.target approval }

/-- The record is kept, with the grant withdrawn. -/
def projectApprovalRevoked (w : World) (e : Evidence) : Result World :=
  match w.approvals[e.target]? with
  | none => .ok w
  | some approval =>
    .ok { w with approvals := w.approvals.insert e.target { approval with granted := false } }

def projectQueueObserved (w : World) (e : Evidence) : Result World := do
  refuseIf (e.target = "") (e.must "name a queue")
  let queue ← require w.queues[e.target]? (e.unknown "queue" e.target)
  let measured := { queue with
    depth := e.observedInt "depth", inFlight := e.observedInt "in_flight",
    observedAt := e.observedAt }
  return { w with queues := w.queues.insert e.target measured }

/-! ### The projection -/

/-- Evidence that is recorded purely for audit. -/
def observesNothing (kind : EvidenceKind) : Bool := decide (kind = .diagnosisRecorded)

def projectInto (w : World) (e : Evidence) : Result World :=
  match e.kind with
  | .imagePresent => projectImagePresent w e
  | .allocationCreated => projectAllocationCreated w e
  | .volumeCreated => projectVolumeCreated w e
  | .volumeAttached => projectVolumeAttached w e
  | .volumeDetached => projectVolumeDetached w e
  | .volumeSnapshotted => projectVolumeSnapshotted w e
  | .volumeBackedUp => projectVolumeBackedUp w e
  | .volumeQuiesced => projectVolumeQuiesced w e
  | .volumeTransferred => projectVolumeTransferred w e
  | .volumeAdopted => projectVolumeAdopted w e
  | .policyApplied => projectPolicyApplied w e
  | .zonePublished => projectZonePublished w e
  | .imagesCollected => projectImagesCollected w e
  | .snapshotsPruned => projectSnapshotsPruned w e
  | .databaseBackedUp => projectDatabaseBackedUp w e
  | .backupVerified => projectBackupVerified w e
  | .volumeRestored => projectVolumeRestored w e
  | .secretMounted => projectSecretMounted w e
  | .networkAttached => projectNetworkAttached w e
  | .networkDetached => projectNetworkDetached w e
  | .allocationRunning => projectAllocationRunning w e
  | .allocationReady => projectReady w e
  | .nodeCordoned => projectNodeCordoned w e
  | .nodeUncordoned => projectNodeUncordoned w e
  | .nodeReachable => projectNodeReachability w e
  | .nodeUnreachable => projectNodeReachability w e
  | .allocationStopped => projectAllocationStopped w e
  | .allocationFailed => projectAllocationFailed w e
  | .allocationDeleted => projectAllocationDeleted w e
  | .routeReachable => projectRouteReachable w e
  | .routeRemoved => .ok { w with routes := w.routes.erase e.target }
  | .toolsGranted => projectToolsGranted w e
  | .agentReady => projectReady w e
  | .agentSpent => projectAgentSpent w e
  | .agentDraining => projectAgentDraining w e
  | .allocationDrained => projectAllocationDrained w e
  | .providerReachable => projectProviderReachable w e
  | .approvalGranted => projectApprovalGranted w e
  | .approvalRevoked => projectApprovalRevoked w e
  | .diagnosisRecorded => .ok w
  | .queueObserved => projectQueueObserved w e
  | .other text => fail s!"unknown evidence kind {quote text}"

/-- Revision and evaluation time advance with every observation. -/
def advance (w next : World) (e : Evidence) : World :=
  { next with
    revision := w.revision + 1
    observedAt := if e.observedAt ≠ 0 ∧ next.observedAt < e.observedAt then e.observedAt
      else next.observedAt }

/-- `Project`: the updated copy of the world, or the refusal of the evidence. -/
def project (w : World) (e : Evidence) : Result World := do
  let next ← projectInto w e
  return if observesNothing e.kind then next else advance w next e

/-- Projecting a sequence of evidence in order, as a replay does. -/
def projectAll (w : World) (es : List Evidence) : Result World := es.foldlM project w

/-! ### Panics -/

section Panics

variable {w : World} {e : Evidence}

/-- Only the branch that makes a slice can panic. -/
lemma projectInto_safe (h : e.kind ≠ .toolsGranted) : Safe (projectInto w e) := by
  cases hkind : e.kind
  case toolsGranted => exact absurd hkind h
  all_goals simp only [projectInto, hkind, projectImagePresent, projectAllocationCreated,
    projectVolumeCreated, projectVolumeAttached, projectVolumeDetached, projectVolumeSnapshotted,
    projectVolumeBackedUp, projectVolumeQuiesced, projectVolumeTransferred, projectVolumeAdopted,
    projectSnapshotsPruned, projectDatabaseBackedUp, projectBackupVerified, projectVolumeRestored,
    projectSecretMounted, projectNetworkAttached, projectNetworkDetached, projectAllocationRunning,
    projectReady, projectAllocationStopped, projectAllocationFailed, projectAllocationDeleted,
    projectRouteReachable, projectAgentSpent, projectAgentDraining, projectAllocationDrained,
    projectProviderReachable, projectQueueObserved, projectApprovalGranted, projectApprovalRevoked,
    projectPolicyApplied, projectZonePublished, projectImagesCollected, projectNodeCordoned,
    projectNodeUncordoned, projectNodeReachability, knownAllocation, knownNode, knownVolume,
    Evidence.observedResources, Safe.bind_iff, Safe.ite_iff, Safe.ok, Safe.ret, Safe.fail,
    Safe.refuseIf, Safe.require, implies_true, and_self]
  case volumeDetached | networkDetached | allocationDeleted | approvalRevoked =>
    split <;> simp [Safe.ok, Safe.ite_iff, -ne_eq]

/-- **When a projection panics**: exactly if the evidence grants tools to an allocation that may
receive them, and their number is no capacity of a slice. -/
theorem project_safe_iff : Safe (project w e) ↔
    ¬(e.kind = .toolsGranted ∧ ∃ a, w.allocations[e.target]? = some a ∧ a.phase = .created ∧
      makeslicePanics (e.observedInt "count") 40 = true) := by
  rw [project, Safe.bind_iff, and_iff_left fun _ _ => Safe.ret _]
  by_cases hkind : e.kind = .toolsGranted
  swap
  · exact iff_of_true (projectInto_safe hkind) fun h => hkind h.1
  simp only [projectInto, hkind, true_and, projectToolsGranted, knownAllocation, Safe.bind_iff,
    Safe.require, require_ok, Safe.refuseIf, refuseIf_ok, not_not, Safe.ite_iff, Safe.ret,
    Safe.not_crash]
  constructor
  · rintro h ⟨a, ha, hcreated, hpanics⟩
    exact (h a ha () hcreated).1 hpanics |>.1
  · intro h a ha _ hcreated
    exact ⟨fun hpanics => absurd ⟨a, ha, hcreated, hpanics⟩ h, fun _ => trivial⟩

end Panics

namespace Hostile

def agent : Allocation :=
  { id := "agent-0", workload := "agent", replica := 0, node := "n1", image := "i"
    resources := ⟨1, 1⟩, phase := .created }

def grant : Evidence :=
  { kind := .toolsGranted, target := "agent-0", observed := Table.ofEntries [("count", "-1")] }

end Hostile

/-- **A negative number of tools** brings the projection down. -/
theorem project_panics : ¬Safe (project
    { allocations := Table.ofEntries [("agent-0", Hostile.agent)] } Hostile.grant) :=
  fun h => h "makeslice: cap out of range" rfl

end A4s
