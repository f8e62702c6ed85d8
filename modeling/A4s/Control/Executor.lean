/-
Executors (`control/executor.go`, with `CordonEvidence` of `node_lifecycle.go`
and `prunableSnapshots` of `projection.go`).

* `MemoryExecutor.execute`: the deterministic data plane. It reports what a real
  executor could observe, and never that a workload is ready.
* `simulateAction`: how the kernel advances its copy of the world while it
  checks a plan. It is not an execution path.
-/
import A4s.Control.Policy

namespace A4s

open Go

/-- The snapshots that may be removed while keeping `retain` recent ones, the
last-known recovery point and everything shipped off-host. -/
def prunableSnapshots (volume : Volume) (retain : Int64) : List String :=
  let retain := if retain < 1 then 1 else retain
  let recent := volume.snapshotOrder.reverse.take retain.toInt.toNat
  volume.snapshotOrder.filter fun id =>
    !(decide (volume.lastSnapshot ≠ "" ∧ id = volume.lastSnapshot) ||
      volume.backups[id]?.isSome || recent.contains id)

/-- The observation a cordon or uncordon action produces. -/
def cordonEvidence (a : Action) : Result Evidence := do
  refuseIf (a.target = "") s!"{a.kind.text} requires a node"
  return { kind := if a.kind = .uncordonNode then .nodeUncordoned else .nodeCordoned
           target := a.target
           observed := Table.ofEntries [("node", a.target), ("reason", a.reason)] }

/-- `fmt.Sprintf("%t", b)`. -/
def boolText (b : Bool) : String := if b then "true" else "false"

/-! ### The in-memory data plane -/

/-- `node %q does not exist`. -/
def existingNode (w : World) (name : String) : Result Node :=
  require w.nodes[name]? s!"node {quote name} does not exist"

/-- The budget entries of creation evidence; a zero budget is not reported. -/
def budgetEntries (b : Budget) : List (String × String) :=
  if b.isZero then []
  else [("tokens", sprintInt b.tokens), ("cost_millis", sprintInt b.costMillis),
    ("wall_seconds", sprintInt b.wallSeconds), ("tool_calls", sprintInt b.toolCalls)]

/-- `fmt.Sprintf("10.42.%d.%d", …)`: a distinct address per replica. -/
def simulatedAddress (replica : Int64) : String :=
  "10.42." ++ sprintInt (replica / 256 + 1) ++ "." ++ sprintInt (replica % 256 + 2)

/-- A volume reference and a snapshot id, refused together. -/
def volumeSnapshot (a : Action) (text : String) : Result VolumeRef := do
  let ref ← require a.volume text
  refuseIf (a.snapshot = "") text
  return ref

/-- `MemoryExecutor.Execute` on the executor's own copy of the world. -/
def MemoryExecutor.execute (host : Host) (w : World) (a : Action) : Result Evidence :=
  match a.kind with
  | .pullImage => do
      let _ ← existingNode w a.node
      return { kind := .imagePresent, target := a.image
               observed := Table.ofEntries [("node", a.node), ("image", a.image)] }
  | .createAllocation => do
      let _ ← existingNode w a.node
      return { kind := .allocationCreated, target := a.target
               observed := Table.ofEntries
                 ([("node", a.node), ("workload", a.workload), ("image", a.image),
                   ("replica", sprintInt a.replica),
                   ("cpu_millis", sprintInt a.resources.cpuMillis),
                   ("memory_mb", sprintInt a.resources.memoryMB)] ++ budgetEntries a.budget) }
  | .createVolume => do
      let ref ← volumeRef a "create volume"
      let _ ← existingNode w a.node
      return { kind := .volumeCreated, target := ref.name
               observed := Table.ofEntries [("node", a.node)] }
  | .attachVolume => do
      let ref ← volumeRef a "attach volume"
      let _ ← existingAllocation w a
      return { kind := .volumeAttached, target := ref.name
               observed := Table.ofEntries
                 [("allocation", a.target), ("mount_path", ref.mountPath)] }
  | .cordonNode => do
      let _ ← existingNode w a.target
      cordonEvidence a
  | .uncordonNode => do
      let _ ← existingNode w a.target
      cordonEvidence a
  | .detachVolume => do
      let ref ← volumeRef a "detach volume"
      return { kind := .volumeDetached, target := ref.name
               observed := Table.ofEntries [("allocation", a.target)] }
  | .snapshotVolume => do
      let ref ← volumeRef a "snapshot volume"
      return { kind := .volumeSnapshotted, target := ref.name
               observed := Table.ofEntries
                 [("snapshot", ref.name ++ "-simulated"), ("checksum", "simulated")] }
  | .quiesceVolume => do
      let ref ← volumeRef a "quiesce volume"
      return { kind := .volumeQuiesced, target := ref.name
               observed := Table.ofEntries [("to", a.node)] }
  | .transferVolume => do
      let ref ← volumeRef a "transfer volume"
      let handoff ← require (w.volumes[ref.name]?.bind (·.handoff))
        s!"volume {quote ref.name} has no handoff in progress"
      return { kind := .volumeTransferred, target := ref.name
               observed := Table.ofEntries [("node", a.node), ("checksum", handoff.checksum)] }
  | .adoptVolume => do
      let ref ← volumeRef a "adopt volume"
      return { kind := .volumeAdopted, target := ref.name
               observed := Table.ofEntries [("node", a.node)] }
  | .databaseBackup => do
      let ref ← volumeSnapshot a "database backup requires a volume reference and label"
      return { kind := .databaseBackedUp, target := ref.name
               observed := Table.ofEntries [("label", a.snapshot), ("checksum", "simulated")] }
  | .verifyBackup => do
      let ref ← volumeSnapshot a "verify backup requires a volume reference and snapshot id"
      let _ ← existingVolume w ref.name
      return { kind := .backupVerified, target := ref.name
               observed := Table.ofEntries [("snapshot", a.snapshot), ("verified", "true")] }
  | .applyPolicy => do
      let policy ← require a.policy "apply policy requires a compiled ruleset"
      return { kind := .policyApplied, target := a.node
               observed := Table.ofEntries
                 [("fingerprint", policy.fingerprint host),
                  ("rules", toString policy.rules.length)] }
  | .publishZone => do
      let zone ← require a.zone "publish zone requires a zone"
      return { kind := .zonePublished, target := a.node
               observed := Table.ofEntries
                 [("names", toString zone.records.size),
                  ("fingerprint", zone.fingerprint host)] }
  | .collectImages =>
    .ok { kind := .imagesCollected, target := a.node
          observed := Table.ofEntries
            [("reclaimed", ""), ("protected", String.intercalate "\n" w.protectedImages),
             ("dry_run", boolText a.dryRun)] }
  | .pruneSnapshots => do
      let ref ← volumeRef a "prune snapshots"
      let volume ← existingVolume w ref.name
      let removable := prunableSnapshots volume a.retain
      return { kind := .snapshotsPruned, target := ref.name
               observed := Table.ofEntries
                 [("removed", String.intercalate "\n" removable),
                  ("retained", toString ((volume.snapshotOrder.length : Int) - removable.length)),
                  ("dry_run", boolText a.dryRun)] }
  | .backupSnapshot => do
      let ref ← volumeSnapshot a "backup snapshot requires a volume reference and snapshot id"
      return { kind := .volumeBackedUp, target := ref.name
               observed := Table.ofEntries
                 [("snapshot", a.snapshot), ("location", "simulated")] }
  | .restoreSnapshot => do
      let ref ← volumeSnapshot a "restore snapshot requires a volume reference and snapshot id"
      return { kind := .volumeRestored, target := ref.name
               observed := Table.ofEntries [("snapshot", a.snapshot)] }
  | .mountSecret => do
      let _ ← existingAllocation w a
      let secret ← require a.secret "mount secret requires a secret reference"
      return { kind := .secretMounted, target := a.target
               observed := Table.ofEntries
                 [("secret", secret.name), ("version", secret.version),
                  ("mount_path", secret.mountPath)] }
  | .attachNetwork => do
      let allocation ← existingAllocation w a
      return { kind := .networkAttached, target := a.target
               observed := Table.ofEntries
                 [("node", allocation.node), ("address", simulatedAddress allocation.replica)] }
  | .startAllocation => do
      let allocation ← existingAllocation w a
      return { kind := .allocationRunning, target := a.target
               observed := Table.ofEntries
                 [("node", allocation.node), ("phase", AllocationPhase.running.text)] }
  | .stopAllocation => do
      let _ ← existingAllocation w a
      return { kind := .allocationStopped, target := a.target
               observed := Table.ofEntries [("phase", AllocationPhase.stopped.text)] }
  | .deleteAllocation => do
      let _ ← existingAllocation w a
      return { kind := .allocationDeleted, target := a.target
               observed := Table.ofEntries [("deleted", "true")] }
  | .grantTools => do
      let _ ← existingAllocation w a
      return { kind := .toolsGranted, target := a.target
               observed := Table.ofEntries [("count", toString a.tools.length)] }
  | .drainAllocation => do
      let _ ← existingAllocation w a
      return { kind := .allocationDrained, target := a.target
               observed := Table.ofEntries [("drained", "true")] }
  | .publishRoute =>
    .ok { kind := .routeReachable, target := a.target
          observed := Table.ofEntries
            [("workload", a.workload), ("exposure", a.exposure),
             ("port", sprintInt a.port)] }
  | .probeReadiness => fail s!"unsupported action {quote a.kind.text}"
  | .other text => fail s!"unsupported action {quote text}"

/-! ### Simulation -/

def simulateCreateAllocation (w : World) (a : Action) : Result World := do
  let node ← existingNode w a.node
  let allocation : Allocation :=
    { id := a.target, workload := a.workload, replica := a.replica, node := a.node,
      image := a.image, resources := a.resources, phase := .created, budget := a.budget }
  let charged := { node with
    used := node.used.add a.resources, budgetUsed := node.budgetUsed.add a.budget }
  return (w.setAllocation a.target allocation).setNode a.node charged

def simulateAttachVolume (w : World) (a : Action) : Result World := do
  let ref ← volumeRef a "attach volume"
  let volume ← existingVolume w ref.name
  let allocation ← existingAllocation w a
  let volume := if volume.owner ≠ a.target then
      { volume with owner := a.target, generation := volume.generation + 1 }
    else volume
  return (w.setVolume ref.name volume).setAllocation a.target
    { allocation with volumes := allocation.volumes.insert ref.name volume.generation }

def simulateDetachVolume (w : World) (a : Action) : Result World := do
  let ref ← volumeRef a "detach volume"
  match w.volumes[ref.name]? with
  | none => return w
  | some volume =>
    let w := match w.allocations[volume.owner]? with
      | some x => w.setAllocation volume.owner { x with volumes := x.volumes.erase ref.name }
      | none => w
    return w.setVolume ref.name
      { volume with owner := "", generation := volume.generation + 1 }

/-- Unlike the projection, the simulation releases the node's budget as well. -/
def simulateDeleteAllocation (w : World) (a : Action) : Result World := do
  let allocation ← existingAllocation w a
  let w := match w.nodes[allocation.node]? with
    | some node => w.setNode allocation.node { node with
        used := node.used.subtract allocation.resources
        budgetUsed := node.budgetUsed.subtract allocation.budget }
    | none => w
  return { w with allocations := w.allocations.erase a.target }

/-- Updates an allocation that must exist. -/
def updateAllocation (w : World) (a : Action) (f : Allocation → Allocation) : Result World := do
  let allocation ← existingAllocation w a
  return w.setAllocation a.target (f allocation)

/-- Updates a volume if it exists. -/
def updateVolume (w : World) (name : String) (f : Volume → Volume) : World :=
  match w.volumes[name]? with
  | some volume => w.setVolume name (f volume)
  | none => w

/-- Updates a node that must exist. -/
def updateNode (w : World) (name : String) (f : Node → Node) : Result World := do
  let node ← existingNode w name
  return w.setNode name (f node)

/-- `simulateAction`: the intended effect of an action on the kernel's copy of
the world. -/
def simulateAction (w : World) (a : Action) : Result World :=
  match a.kind with
  | .pullImage =>
    updateNode w a.node fun node => { node with images := node.images.insert a.image true }
  | .createAllocation => simulateCreateAllocation w a
  | .createVolume => do
      let ref ← volumeRef a "create volume"
      return if w.volumes[ref.name]?.isSome then w
        else w.setVolume ref.name { name := ref.name, node := a.node }
  | .attachVolume => simulateAttachVolume w a
  | .cordonNode =>
    updateNode w a.target fun node => { node with cordoned := true, cordonReason := a.reason }
  | .uncordonNode =>
    updateNode w a.target fun node => { node with cordoned := false, cordonReason := "" }
  | .detachVolume => simulateDetachVolume w a
  | .snapshotVolume => do
      let ref ← volumeRef a "snapshot volume"
      return updateVolume w ref.name fun v => { v with
        snapshots := v.snapshots.insert "simulated" "simulated", lastSnapshot := "simulated" }
  | .quiesceVolume => do
      let ref ← volumeRef a "quiesce volume"
      return updateVolume w ref.name fun v => { v with
        handoff := some { from_ := v.node, to_ := a.node, phase := .quiesced } }
  | .transferVolume => do
      let ref ← volumeRef a "transfer volume"
      return updateVolume w ref.name fun v => { v with
        handoff := v.handoff.map fun h => { h with phase := .transferred } }
  | .adoptVolume => do
      let ref ← volumeRef a "adopt volume"
      return updateVolume w ref.name fun v => match v.handoff with
        | some h => { v with node := h.to_, generation := v.generation + 1, handoff := none }
        | none => v
  | .databaseBackup => do
      let ref ← volumeSnapshot a "database backup requires a volume reference and label"
      return updateVolume w ref.name fun v => { v with
        snapshotOrder := if v.snapshots[a.snapshot]?.isSome then v.snapshotOrder
          else v.snapshotOrder ++ [a.snapshot]
        snapshots := v.snapshots.insert a.snapshot "simulated"
        lastSnapshot := a.snapshot }
  | .verifyBackup => do
      let _ ← volumeSnapshot a "verify backup requires a volume reference and snapshot id"
      return w
  | .applyPolicy => .ok w
  | .publishZone => .ok w
  | .collectImages => .ok w
  | .pruneSnapshots => do
      let ref ← volumeRef a "prune snapshots"
      return if a.dryRun then w
        else updateVolume w ref.name fun v =>
          (prunableSnapshots v a.retain).foldl dropSnapshot v
  | .backupSnapshot => do
      let ref ← volumeSnapshot a "backup snapshot requires a volume reference and snapshot id"
      return updateVolume w ref.name fun v => { v with
        backups := v.backups.insert a.snapshot "simulated" }
  | .restoreSnapshot => do
      let ref ← volumeSnapshot a "restore snapshot requires a volume reference and snapshot id"
      return updateVolume w ref.name fun v => { v with restoredFrom := a.snapshot }
  | .mountSecret => do
      let allocation ← existingAllocation w a
      let secret ← require a.secret "mount secret requires a secret reference"
      return w.setAllocation a.target { allocation with
        secrets := allocation.secrets.insert secret.name secret.version }
  | .attachNetwork => updateAllocation w a fun x => { x with address := "simulated" }
  | .startAllocation => updateAllocation w a fun x => { x with phase := .running, ready := true }
  | .stopAllocation => updateAllocation w a fun x => { x with phase := .stopped, ready := false }
  | .deleteAllocation => simulateDeleteAllocation w a
  | .grantTools => updateAllocation w a fun x => { x with tools := a.tools }
  | .drainAllocation => updateAllocation w a fun x => { x with draining := true, task := "" }
  | .publishRoute =>
    let route : Route := ⟨a.target, a.workload, a.port, a.exposure⟩
    .ok { w with routes := w.routes.insert a.target route }
  | .probeReadiness => fail s!"unsupported action {quote a.kind.text}"
  | .other text => fail s!"unsupported action {quote text}"

end A4s
