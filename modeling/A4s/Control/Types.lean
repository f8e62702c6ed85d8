/-
The data model of the control plane (`control/types.go`, with the record types
of `disruption.go`, `netpolicy.go`, `resolve.go`, `provenance.go` and
`probe.go`).

Agents propose, the kernel authorises, executors mutate and probes observe. All
four speak about the types of this file: a `Goal` an operator declared, the
`World` the control plane believes in, an `Action` an agent proposes, and the
`Evidence` that reports what was observed.

Conventions of the translation:

* `int` is `Int64` and `uint64` is `UInt64`, so arithmetic wraps as it does in
  Go; `time.Time` is `Time`, nanoseconds since the zero time, whose zero is
  `IsZero`;
* a map is a `Table`, a slice a `List`, a pointer that may be nil an `Option`;
  field defaults are Go's zero values;
* a string type with declared constants is an inductive type; where the code
  reads the text from outside, a constructor `other` holds the texts it does not
  know.
-/
import A4s.Go.Result
import A4s.Go.Table
import A4s.Go.Text

namespace A4s

open Go

/-- `time.Time`: nanoseconds since the zero time. -/
abbrev Time := Int

/-- `time.Duration`: nanoseconds. -/
abbrev Duration := Int

/-- A byte string. -/
abbrev Bytes := List UInt8

-- named, so that all tables of byte strings compare by this one instance
instance : LawfulBEq Bytes := inferInstance

/-- `time.Second`. -/
def second : Duration := 1000000000

/-- `time.Minute`. -/
def minute : Duration := 60 * second

/-- `time.Hour`. -/
def hour : Duration := 60 * minute

/-! ### Resources and budgets -/

structure Resources where
  cpuMillis : Int64 := 0
  memoryMB : Int64 := 0
  deriving DecidableEq

namespace Resources

def add (r other : Resources) : Resources :=
  ⟨r.cpuMillis + other.cpuMillis, r.memoryMB + other.memoryMB⟩

/-- A negative difference is clamped at zero. -/
def clamp (i : Int64) : Int64 := if i < 0 then 0 else i

def subtract (r other : Resources) : Resources :=
  ⟨clamp (r.cpuMillis - other.cpuMillis), clamp (r.memoryMB - other.memoryMB)⟩

def fits (r capacity : Resources) : Bool :=
  decide (r.cpuMillis ≤ capacity.cpuMillis) && decide (r.memoryMB ≤ capacity.memoryMB)

end Resources

/-- What an agent workload may consume. -/
structure Budget where
  tokens : Int64 := 0
  costMillis : Int64 := 0
  wallSeconds : Int64 := 0
  toolCalls : Int64 := 0
  deriving DecidableEq

namespace Budget

/-- The reservation question, inclusive. -/
def fits (b ceiling : Budget) : Bool :=
  decide (b.tokens ≤ ceiling.tokens) && decide (b.costMillis ≤ ceiling.costMillis) &&
    decide (b.wallSeconds ≤ ceiling.wallSeconds) && decide (b.toolCalls ≤ ceiling.toolCalls)

/-- The spending question: some dimension has reached its ceiling. -/
def exhausts (b ceiling : Budget) : Bool :=
  decide (b.tokens ≥ ceiling.tokens) || decide (b.costMillis ≥ ceiling.costMillis) ||
    decide (b.wallSeconds ≥ ceiling.wallSeconds) || decide (b.toolCalls ≥ ceiling.toolCalls)

def add (b other : Budget) : Budget :=
  ⟨b.tokens + other.tokens, b.costMillis + other.costMillis,
    b.wallSeconds + other.wallSeconds, b.toolCalls + other.toolCalls⟩

def subtract (b other : Budget) : Budget :=
  ⟨Resources.clamp (b.tokens - other.tokens), Resources.clamp (b.costMillis - other.costMillis),
    Resources.clamp (b.wallSeconds - other.wallSeconds),
    Resources.clamp (b.toolCalls - other.toolCalls)⟩

def isZero (b : Budget) : Bool := decide (b = {})

end Budget

/-! ### Goals -/

structure ToolGrant where
  name : String := ""
  scope : String := ""
  mutating : Bool := false
  deriving DecidableEq

structure VolumeRef where
  name : String
  mountPath : String := ""
  readOnly : Bool := false
  checksum : String := ""
  deriving DecidableEq

structure SecretRef where
  name : String
  version : String := ""
  mountPath : String := ""
  deriving DecidableEq

structure RouteSpec where
  host : String
  port : Int64
  exposure : String
  deriving DecidableEq

structure Constraints where
  requiredLabels : Table String := ∅
  allowedNodes : List String := []
  deriving DecidableEq

structure AgentRuntime where
  name : String := ""
  provider : String := ""
  model : String := ""
  budget : Budget := {}
  tools : List ToolGrant := []
  queue : String := ""
  deriving DecidableEq

structure IngressRule where
  fromWorkload : String := ""
  fromCIDR : String := ""
  port : Int64 := 0
  deriving DecidableEq

structure EgressRule where
  toWorkload : String := ""
  toCIDR : String := ""
  port : Int64 := 0
  deriving DecidableEq

structure NetworkPolicy where
  workload : String
  ingress : List IngressRule := []
  egress : List EgressRule := []
  deriving DecidableEq

structure Placement where
  maxPerDomain : Int64 := 0
  deriving DecidableEq

/-- A builder's statement about an image, as signed. -/
structure SignedAttestation where
  statementBytes : Bytes
  keyID : String
  signature : String
  deriving DecidableEq

/-- What a due run does about a run already going: any text can be declared. -/
inductive ConcurrencyPolicy where
  | unset
  | forbid
  | allow
  | replace
  | other (text : String)
  deriving DecidableEq

/-- `Schedule` (`schedule.go`): when a workload runs and how a run completes. -/
structure Schedule where
  cron : String := ""
  deadline : Duration := 0
  concurrency : ConcurrencyPolicy := .unset
  completions : Int64 := 0
  retries : Int64 := 0
  deriving DecidableEq

/-- `Canary` (`canary.go`): the percentages of traffic a new version takes, in order. -/
structure Canary where
  steps : List Int64 := []
  holdFor : Duration := 0
  deriving DecidableEq

structure WorkloadSpec where
  name : String
  image : String := ""
  replicas : Int64 := 0
  port : Int64 := 0
  resources : Resources := {}
  privileged : Bool := false
  stateful : Bool := false
  secrets : List SecretRef := []
  volumes : List VolumeRef := []
  engine : String := ""
  runtime : Option AgentRuntime := none
  policy : Option NetworkPolicy := none
  schedule : Option Schedule := none
  placement : Option Placement := none
  attestation : Option SignedAttestation := none
  deriving DecidableEq

structure Goal where
  apiVersion : String := ""
  id : String
  objective : String := ""
  workload : WorkloadSpec
  route : Option RouteSpec := none
  constraints : Constraints := {}
  canary : Option Canary := none
  deriving DecidableEq

/-! ### The world -/

/-- One measured answer to whether a node can reach a provider. -/
structure ProviderReach where
  reachable : Bool
  observedAt : Time := 0
  expiresAt : Time := 0
  detail : String := ""
  deriving DecidableEq

structure Node where
  id : String
  labels : Table String := ∅
  capacity : Resources := {}
  used : Resources := {}
  images : Table Bool := ∅
  healthy : Bool := false
  domain : String := ""
  cordoned : Bool := false
  cordonReason : String := ""
  address : String := ""
  gatewayPort : Int64 := 0
  zoneFingerprint : String := ""
  policyFingerprint : String := ""
  providers : Table ProviderReach := ∅
  budgetCapacity : Budget := {}
  budgetUsed : Budget := {}
  deriving DecidableEq

namespace Node

def canReach (n : Node) (provider : String) (now : Time) : Bool :=
  match n.providers[provider]? with
  | none => false
  | some reach =>
    reach.reachable && (decide (reach.expiresAt = 0) || decide (now < reach.expiresAt))

def schedulable (n : Node) : Bool := n.healthy && !n.cordoned

/-- A node that declares no domain is its own. -/
def failureDomain (n : Node) : String := if n.domain ≠ "" then n.domain else n.id

/-- `node.Images[image]`: a missing entry reads as absent. -/
def hasImage (n : Node) (image : String) : Bool := n.images[image]?.getD false

end Node

inductive AllocationPhase where
  | created
  | running
  | stopped
  deriving DecidableEq

def AllocationPhase.text : AllocationPhase → String
  | .created => "created"
  | .running => "running"
  | .stopped => "stopped"

structure Allocation where
  id : String
  workload : String
  replica : Int64 := 0
  node : String
  image : String := ""
  resources : Resources := {}
  phase : AllocationPhase
  ready : Bool := false
  stateful : Bool := false
  volumes : Table UInt64 := ∅
  secrets : Table String := ∅
  address : String := ""
  exitCode : Int64 := 0
  restarts : Int64 := 0
  readyExpiresAt : Time := 0
  readySince : Time := 0
  budget : Budget := {}
  spent : Budget := {}
  draining : Bool := false
  task : String := ""
  tools : List ToolGrant := []
  deriving DecidableEq

namespace Allocation

def exhausted (a : Allocation) : Bool := !a.budget.isZero && a.spent.exhausts a.budget

def drained (a : Allocation) : Bool := a.draining && decide (a.task = "")

def readyAt (a : Allocation) (now : Time) : Bool :=
  a.ready && (decide (a.readyExpiresAt = 0) || decide (now < a.readyExpiresAt))

end Allocation

inductive HandoffPhase where
  | quiesced
  | snapshotted
  | transferred
  | adopted
  deriving DecidableEq

def HandoffPhase.text : HandoffPhase → String
  | .quiesced => "quiesced"
  | .snapshotted => "snapshotted"
  | .transferred => "transferred"
  | .adopted => "adopted"

structure VolumeHandoff where
  from_ : String
  to_ : String
  phase : HandoffPhase
  snapshot : String := ""
  checksum : String := ""
  deriving DecidableEq

structure Volume where
  name : String
  node : String
  owner : String := ""
  generation : UInt64 := 0
  sizeMB : Int64 := 0
  lastSnapshot : String := ""
  snapshots : Table String := ∅
  snapshotOrder : List String := []
  restoredFrom : String := ""
  verifiedAt : Time := 0
  verifiedSnapshot : String := ""
  handoff : Option VolumeHandoff := none
  backups : Table String := ∅
  deriving DecidableEq

structure Route where
  host : String
  workload : String
  port : Int64
  exposure : String
  deriving DecidableEq

structure Queue where
  name : String
  workload : String
  depth : Int64 := 0
  inFlight : Int64 := 0
  maxWorkers : Int64 := 0
  observedAt : Time := 0
  deriving DecidableEq

structure Approval where
  id : String
  goalID : String
  scope : String
  issuedBy : String := ""
  granted : Bool := false
  issuedAt : Time := 0
  expiresAt : Time := 0
  revision : UInt64 := 0
  subject : String := ""
  rollback : String := ""
  reason : String := ""
  deriving DecidableEq

/-- A revoked or expired grant is not an approval. -/
def Approval.valid (a : Approval) (now : Time) : Bool :=
  a.granted && (decide (a.expiresAt = 0) || decide (now < a.expiresAt))

/-! ### Evidence kinds -/

/-- The vocabulary that advances the world projection. -/
inductive EvidenceKind where
  | imagePresent
  | allocationCreated
  | secretMounted
  | volumeCreated
  | volumeAttached
  | volumeDetached
  | volumeSnapshotted
  | volumeRestored
  | volumeBackedUp
  | volumeQuiesced
  | volumeTransferred
  | volumeAdopted
  | snapshotsPruned
  | backupVerified
  | databaseBackedUp
  | networkAttached
  | networkDetached
  | allocationRunning
  | allocationReady
  | nodeCordoned
  | nodeUncordoned
  | nodeReachable
  | nodeUnreachable
  | allocationStopped
  | allocationDeleted
  | allocationFailed
  | routeReachable
  | routeRemoved
  | toolsGranted
  | agentReady
  | agentSpent
  | agentDraining
  | allocationDrained
  | queueObserved
  | providerReachable
  | policyApplied
  | zonePublished
  | imagesCollected
  | approvalGranted
  | approvalRevoked
  | diagnosisRecorded
  | other (text : String)
  deriving DecidableEq

def EvidenceKind.text : EvidenceKind → String
  | .imagePresent => "image.present"
  | .allocationCreated => "allocation.created"
  | .secretMounted => "secret.mounted"
  | .volumeCreated => "volume.created"
  | .volumeAttached => "volume.attached"
  | .volumeDetached => "volume.detached"
  | .volumeSnapshotted => "volume.snapshotted"
  | .volumeRestored => "volume.restored"
  | .volumeBackedUp => "volume.backed_up"
  | .volumeQuiesced => "volume.quiesced"
  | .volumeTransferred => "volume.transferred"
  | .volumeAdopted => "volume.adopted"
  | .snapshotsPruned => "volume.snapshots_pruned"
  | .backupVerified => "volume.backup_verified"
  | .databaseBackedUp => "database.backed_up"
  | .networkAttached => "network.attached"
  | .networkDetached => "network.detached"
  | .allocationRunning => "allocation.running"
  | .allocationReady => "allocation.ready"
  | .nodeCordoned => "node.cordoned"
  | .nodeUncordoned => "node.uncordoned"
  | .nodeReachable => "node.reachable"
  | .nodeUnreachable => "node.unreachable"
  | .allocationStopped => "allocation.stopped"
  | .allocationDeleted => "allocation.deleted"
  | .allocationFailed => "allocation.failed"
  | .routeReachable => "route.reachable"
  | .routeRemoved => "route.removed"
  | .toolsGranted => "agent.tools_granted"
  | .agentReady => "agent.ready"
  | .agentSpent => "agent.spent"
  | .agentDraining => "agent.draining"
  | .allocationDrained => "allocation.drained"
  | .queueObserved => "queue.observed"
  | .providerReachable => "provider.reachable"
  | .policyApplied => "policy.applied"
  | .zonePublished => "zone.published"
  | .imagesCollected => "images.collected"
  | .approvalGranted => "approval.granted"
  | .approvalRevoked => "approval.revoked"
  | .diagnosisRecorded => "diagnosis.recorded"
  | .other text => text

structure Evidence where
  kind : EvidenceKind
  target : String := ""
  source : String := ""
  observedAt : Time := 0
  expiresAt : Time := 0
  observed : Table String := ∅
  deriving DecidableEq

/-- `evidence.Observed[key]`: a missing key reads as the empty string. -/
def Evidence.observe (e : Evidence) (key : String) : String := e.observed[key]?.getD ""

/-- One recorded disruptive change to a running workload (`disruption.go`). -/
structure Disruption where
  target : String
  workload : String
  node : String
  domain : String
  kind : EvidenceKind
  at_ : Time
  deriving DecidableEq

/-- Consecutive failures on one target (`disruption.go`). -/
structure Backoff where
  failures : Int64 := 0
  until_ : Time := 0
  lastFailure : Time := 0
  deriving DecidableEq

structure World where
  revision : UInt64 := 0
  observedAt : Time := 0
  nodes : Table Node := ∅
  allocations : Table Allocation := ∅
  routes : Table Route := ∅
  volumes : Table Volume := ∅
  queues : Table Queue := ∅
  approvals : Table Approval := ∅
  knownGood : Table String := ∅
  disruptions : List Disruption := []
  backoff : Table Backoff := ∅
  deriving DecidableEq

namespace World

/-- `World.Now`: the snapshot's own time, or the wall clock when it has none. -/
def now (w : World) (wall : Time) : Time := if w.observedAt = 0 then wall else w.observedAt

def setNode (w : World) (id : String) (n : Node) : World :=
  { w with nodes := w.nodes.insert id n }

def setAllocation (w : World) (id : String) (a : Allocation) : World :=
  { w with allocations := w.allocations.insert id a }

def setVolume (w : World) (name : String) (v : Volume) : World :=
  { w with volumes := w.volumes.insert name v }

lemma setNode_get {w : World} {id : String} {n : Node} (h : w.nodes[id]? = some n) :
    w.setNode id n = w := by
  rw [setNode, Table.insert_get_self h]

lemma setAllocation_get {w : World} {id : String} {a : Allocation}
    (h : w.allocations[id]? = some a) : w.setAllocation id a = w := by
  rw [setAllocation, Table.insert_get_self h]

lemma setVolume_get {w : World} {name : String} {v : Volume} (h : w.volumes[name]? = some v) :
    w.setVolume name v = w := by
  rw [setVolume, Table.insert_get_self h]

end World

/-! ### Proposals -/

inductive ActionKind where
  | pullImage
  | createAllocation
  | attachNetwork
  | mountSecret
  | createVolume
  | attachVolume
  | detachVolume
  | snapshotVolume
  | restoreSnapshot
  | backupSnapshot
  | quiesceVolume
  | transferVolume
  | adoptVolume
  | pruneSnapshots
  | collectImages
  | verifyBackup
  | databaseBackup
  | startAllocation
  | stopAllocation
  | deleteAllocation
  | publishRoute
  | applyPolicy
  | publishZone
  | grantTools
  | drainAllocation
  | cordonNode
  | uncordonNode
  | probeReadiness
  | other (text : String)
  deriving DecidableEq

def ActionKind.text : ActionKind → String
  | .pullImage => "pull_image"
  | .createAllocation => "create_allocation"
  | .attachNetwork => "attach_network"
  | .mountSecret => "mount_secret"
  | .createVolume => "create_volume"
  | .attachVolume => "attach_volume"
  | .detachVolume => "detach_volume"
  | .snapshotVolume => "snapshot_volume"
  | .restoreSnapshot => "restore_snapshot"
  | .backupSnapshot => "backup_snapshot"
  | .quiesceVolume => "quiesce_volume"
  | .transferVolume => "transfer_volume"
  | .adoptVolume => "adopt_volume"
  | .pruneSnapshots => "prune_snapshots"
  | .collectImages => "collect_images"
  | .verifyBackup => "verify_backup"
  | .databaseBackup => "database_backup"
  | .startAllocation => "start_allocation"
  | .stopAllocation => "stop_allocation"
  | .deleteAllocation => "delete_allocation"
  | .publishRoute => "publish_route"
  | .applyPolicy => "apply_policy"
  | .publishZone => "publish_zone"
  | .grantTools => "grant_tools"
  | .drainAllocation => "drain_allocation"
  | .cordonNode => "cordon_node"
  | .uncordonNode => "uncordon_node"
  | .probeReadiness => "probe_readiness"
  | .other text => text

/-- Actions the control plane settles itself (`node_lifecycle.go`). -/
def ActionKind.controlPlaneLocal : ActionKind → Bool
  | .cordonNode => true
  | .uncordonNode => true
  | _ => false

/-- One address a caller on a given node should dial (`resolve.go`). -/
structure ResolvedEndpoint where
  address : String
  port : Int64
  allocation : String
  node : String
  isLocal : Bool := false
  deriving DecidableEq

/-- The names a node's resolver should answer (`resolve.go`). -/
structure ServiceZone where
  node : String
  records : Table (List ResolvedEndpoint) := ∅
  deriving DecidableEq

/-- The nftables ruleset a node should install (`netpolicy.go`). -/
structure CompiledPolicy where
  node : String := ""
  table : String := ""
  rules : List String := []
  deriving DecidableEq

inductive ProbeKind where
  | process
  | tcp
  | http
  | database
  | agent
  deriving DecidableEq

/-- What to measure for an allocation (`probe.go`). -/
structure ProbeTarget where
  allocation : String
  kind : ProbeKind
  port : Int64 := 0
  path : String := ""
  provider : String := ""
  address : String := ""
  engine : String := ""
  node : String := ""
  deriving DecidableEq

structure Action where
  id : String
  kind : ActionKind
  target : String := ""
  workload : String := ""
  node : String := ""
  image : String := ""
  replica : Int64 := 0
  resources : Resources := {}
  port : Int64 := 0
  exposure : String := ""
  volume : Option VolumeRef := none
  snapshot : String := ""
  engine : String := ""
  retain : Int64 := 0
  dryRun : Bool := false
  zone : Option ServiceZone := none
  policy : Option CompiledPolicy := none
  protected_ : List String := []
  secret : Option SecretRef := none
  tools : List ToolGrant := []
  budget : Budget := {}
  reason : String := ""
  probe : Option ProbeTarget := none
  dependsOn : List String := []
  deriving DecidableEq

inductive CheckKind where
  | allocationReady
  | routeReachable
  | agentReady
  | allocationDrained
  | other (text : String)
  deriving DecidableEq

def CheckKind.text : CheckKind → String
  | .allocationReady => "allocation_ready"
  | .routeReachable => "route_reachable"
  | .agentReady => "agent_ready"
  | .allocationDrained => "allocation_drained"
  | .other text => text

structure Check where
  kind : CheckKind
  target : String
  want : String
  deriving DecidableEq

structure AgentDescriptor where
  id : String
  role : String := ""
  capabilities : List ActionKind := []
  deriving DecidableEq

structure Proposal where
  id : String
  agentID : String
  goalID : String
  basedOnRevision : UInt64
  reasoning : String := ""
  actions : List Action
  expectedEvidence : List Check := []
  deriving DecidableEq

/-! ### The host -/

/-- A builder's claim about one image (`provenance.go`). -/
structure ImageStatement where
  version : Int64
  image : String
  builder : String
  keyID : String
  builtAt : Time
  expiresAt : Time := 0
  deriving DecidableEq

/-- What a call reads from the machine it runs on and from libraries that are
not part of the repository: the wall clock, Ed25519 and SHA-256, base64, the
strict JSON decoding of an image statement (with whether more input follows),
`net.ParseCIDR` (whether the prefix is IPv4), and the renderings of times. -/
structure Host where
  wall : Time
  verify : Bytes → Bytes → Bytes → Bool
  sha256Hex : String → String
  base64 : String → Option Bytes
  decodeStatement : Bytes → Option (ImageStatement × Bool)
  parseCIDR : String → Option Bool
  rfc3339 : Time → String
  durationText : Duration → String

/-- A host whose libraries know nothing: enough for worlds without signatures. -/
def quietHost : Host :=
  { wall := 0, verify := fun _ _ _ => false, sha256Hex := fun text => text,
    base64 := fun _ => none, decodeStatement := fun _ => none, parseCIDR := fun _ => none,
    rfc3339 := fun _ => "", durationText := fun _ => "" }

end A4s
