/-
The kernel (`Kernel.Authorize` of `control/policy.go`, with the governor of
`disruption.go`, the provenance check of `provenance.go` and the cluster
ceilings of `clusterbudget.go`).

`authorize` accepts or refuses a whole proposal. It walks the actions over a
simulated copy of the world (`authorizeActions`), then asks for the declared
evidence, and finally runs the governor against the observed world.
-/
import A4s.Control.Executor

namespace A4s

open Go

/-! ### Policy -/

/-- `map[ActionKind]bool`, one entry per key. -/
abbrev Grants := List (ActionKind × Bool)

structure Policy where
  maxActionsPerProposal : Int64 := 0
  grants : Table Grants := ∅
  maxDisruptionsPerWindow : Int64 := 0
  disruptionWindow : Duration := 0
  disruptionCooldown : Duration := 0
  imageSigners : Table Bytes := ∅
  requireSignedImages : Bool := false
  clusterCeiling : Resources := {}
  maxAllocations : Int64 := 0
  clusterBudget : Budget := {}
  deriving DecidableEq

structure Kernel where
  policy : Policy

/-- `DefaultDisruptionWindow`. -/
def defaultDisruptionWindow : Duration := 10 * minute

/-- `DefaultMaxDisruptions`. -/
def defaultMaxDisruptions : Int64 := 12

/-- `DefaultDisruptionCooldown`. -/
def defaultDisruptionCooldown : Duration := 30 * second

/-- Every listed kind granted. -/
def grantAll (kinds : List ActionKind) : Grants := kinds.map fun kind => (kind, true)

/-- The capability sets of the shipped agents. Creation, destruction and backup
authority are kept apart. -/
def defaultGrants : Table Grants := Table.ofEntries [
  ("placement-agent", grantAll [.pullImage, .createAllocation, .attachNetwork, .mountSecret,
    .createVolume, .attachVolume, .startAllocation, .grantTools]),
  ("network-agent", grantAll [.publishRoute, .applyPolicy, .publishZone]),
  ("remediation-agent", grantAll [.cordonNode, .stopAllocation, .deleteAllocation]),
  ("rollout-agent", grantAll [.stopAllocation, .deleteAllocation, .drainAllocation,
    .detachVolume]),
  ("storage-agent", grantAll [.snapshotVolume, .databaseBackup, .backupSnapshot,
    .restoreSnapshot, .quiesceVolume, .transferVolume, .adoptVolume, .pruneSnapshots,
    .collectImages, .verifyBackup])]

/-- `DefaultPolicy`. -/
def defaultPolicy : Policy :=
  { maxActionsPerProposal := 8
    maxDisruptionsPerWindow := defaultMaxDisruptions
    disruptionWindow := defaultDisruptionWindow
    disruptionCooldown := defaultDisruptionCooldown
    grants := defaultGrants }

/-! ### The disruption governor -/

/-- Actions that take capacity away from a running workload. -/
def disruptive : ActionKind → Bool
  | .stopAllocation => true
  | .deleteAllocation => true
  | .drainAllocation => true
  | _ => false

/-- `RecentDisruptions`: the disruptions inside a window ending now. -/
def recentDisruptions (w : World) (now : Time) (window : Duration) : List Disruption :=
  if window ≤ 0 then []
  else (w.disruptions.filter fun d => decide (now - window < d.at_)).insertionSort
    fun x y => x.at_ ≤ y.at_

/-- The failure domain an action would disturb. -/
def actionDomain (w : World) (a : Action) : String :=
  match w.allocations[a.target]? with
  | some allocation => domainOf w (if allocation.node ≠ "" then allocation.node else a.node)
  | none => domainOf w a.node

def checkDisruptionBudget (host : Host) (k : Kernel) (w : World) (p : Proposal) : Result Unit :=
  let disrupting := p.actions.filter (disruptive ·.kind)
  if disrupting = [] then .ok ()
  else do
    let now := w.now host.wall
    if k.policy.maxDisruptionsPerWindow > 0 then
      let window := if k.policy.disruptionWindow ≤ 0 then defaultDisruptionWindow
        else k.policy.disruptionWindow
      let recent := (recentDisruptions w now window).length
      refuseIf (k.policy.maxDisruptionsPerWindow.toInt < recent + disrupting.length)
        (s!"disruption budget exhausted: {recent} disruptions in the last " ++
          s!"{host.durationText window} plus {disrupting.length} proposed exceeds " ++
          s!"{sprintInt k.policy.maxDisruptionsPerWindow}")
    if k.policy.disruptionCooldown > 0 then
      let proposed := ((disrupting.map (actionDomain w)).filter (· ≠ "")).dedup
      refuseIf (1 < proposed.length)
        s!"proposal disrupts {proposed.length} failure domains at once; disrupt one at a time"
      let active := ((recentDisruptions w now k.policy.disruptionCooldown).map (·.domain)).filter
        (· ≠ "")
      proposed.forM fun domain => active.forM fun other =>
        refuseIf (other ≠ domain)
          (s!"failure domain {quote other} was disrupted within the last " ++
            s!"{host.durationText k.policy.disruptionCooldown}; wait before disrupting " ++
            s!"{quote domain}")

/-- Re-creating or restarting a target in backoff is refused. -/
def checkBackoff (host : Host) (w : World) (p : Proposal) : Result Unit :=
  p.actions.forM fun a =>
    if a.kind = .createAllocation ∨ a.kind = .startAllocation then
      match w.backoff[a.target]? with
      | none => .ok ()
      | some state =>
        refuseIf (state.active (w.now host.wall) = true)
          (s!"target {quote a.target} failed {sprintInt state.failures} times and is in " ++
            s!"backoff until {host.rfc3339 state.until_}")
    else .ok ()

/-! ### Image provenance -/

/-- `digestPattern`: the text ends in `@sha256:` and 64 lower-case hex digits. -/
def digestPinned (image : String) : Bool :=
  let tail := image.toList.reverse
  decide ((tail.take 64).length = 64) &&
    (tail.take 64).all (fun c => decide (('a' ≤ c ∧ c ≤ 'f') ∨ ('0' ≤ c ∧ c ≤ '9'))) &&
    decide ((tail.drop 64).take 8 = "@sha256:".toList.reverse)

def validateStatement (s : ImageStatement) : Result Unit := do
  refuseIf (s.version ≠ 1) s!"unsupported image attestation version {sprintInt s.version}"
  refuseIf (digestPinned s.image = false) "image attestation must name a digest-pinned image"
  refuseIf (s.builder = "") "image attestation must name a builder"
  refuseIf (s.builtAt = 0) "image attestation requires a build time"
  refuseIf (s.expiresAt ≠ 0 ∧ s.expiresAt ≤ s.builtAt)
    "image attestation expiry must follow its build time"

/-- The signature is verified before the statement is decoded. -/
def verifyImageAttestation (host : Host) (signed : SignedAttestation) (image : String)
    (signers : Table Bytes) (now : Time) : Result ImageStatement := do
  refuseIf (signers.isEmpty = true) "no image signers are configured"
  refuseIf (signed.statementBytes = []) "image attestation carries no statement"
  let key ← require (signers[signed.keyID]?.filter fun key => decide (key.length = 32))
    "image is not attested by a trusted signer"
  let signature ← require (host.base64 signed.signature)
    "image attestation signature is malformed"
  refuseIf (host.verify key signed.statementBytes signature = false)
    "image is not attested by a trusted signer"
  let (statement, more) ← require (host.decodeStatement signed.statementBytes)
    "image attestation is malformed"
  refuseIf (more = true) "image attestation has trailing content"
  validateStatement statement
  refuseIf (statement.keyID ≠ signed.keyID)
    "image attestation key id does not match its signature"
  refuseIf (statement.image ≠ image)
    s!"image attestation covers {quote statement.image}, not {quote image}"
  refuseIf (statement.expiresAt ≠ 0 ∧ statement.expiresAt ≤ now)
    s!"image attestation expired at {host.rfc3339 statement.expiresAt}"
  return statement

/-- Actions that make a node fetch or run the goal's image. -/
def runsImage : ActionKind → Bool
  | .pullImage => true
  | .createAllocation => true
  | .startAllocation => true
  | _ => false

/-- An attestation that is present is always verified. -/
def checkImageProvenance (host : Host) (k : Kernel) (goal : Goal) (w : World) (p : Proposal) :
    Result Unit :=
  if p.actions.any (runsImage ·.kind) = false then .ok ()
  else match goal.workload.attestation with
    | none =>
      refuseIf (k.policy.requireSignedImages = true)
        (s!"image {quote goal.workload.image} carries no provenance attestation and " ++
          "policy requires one")
    | some attestation => do
        let _ ← wrapError "image provenance: " (verifyImageAttestation host attestation
          goal.workload.image k.policy.imageSigners (w.now host.wall))
        return ()

/-! ### Cluster ceilings -/

/-- What the world, or a proposal, commits against the ceilings. -/
structure ClusterCommitment where
  allocations : Int64 := 0
  resources : Resources := {}
  budget : Budget := {}
  deriving DecidableEq

def ClusterCommitment.commit (c : ClusterCommitment) (resources : Resources) (budget : Budget) :
    ClusterCommitment :=
  { allocations := c.allocations + 1
    resources := c.resources.add resources
    budget := c.budget.add budget }

/-- `Commitment`: stopped allocations are excluded. -/
def commitment (w : World) : ClusterCommitment :=
  (w.allocations.toList.map Prod.snd).foldl
    (fun total a => if a.phase = .stopped then total else total.commit a.resources a.budget) {}

/-- What the creations of a proposal would add. -/
def addedCommitment (p : Proposal) : ClusterCommitment :=
  p.actions.foldl
    (fun total a => if a.kind = .createAllocation then total.commit a.resources a.budget else total)
    {}

/-- A zero ceiling is no ceiling. -/
def exceeds (total ceiling : Int64) : Bool := decide (ceiling > 0) && decide (total > ceiling)

def checkClusterBudget (k : Kernel) (w : World) (p : Proposal) : Result Unit :=
  let adding := addedCommitment p
  if adding.allocations = 0 then .ok ()
  else do
    let held := commitment w
    refuseIf (exceeds (held.allocations + adding.allocations) k.policy.maxAllocations = true)
      (s!"cluster allocation ceiling reached: {sprintInt held.allocations} live plus " ++
        s!"{sprintInt adding.allocations} proposed exceeds " ++
        s!"{sprintInt k.policy.maxAllocations}")
    let ceiling := k.policy.clusterCeiling
    let total := held.resources.add adding.resources
    refuseIf (exceeds total.cpuMillis ceiling.cpuMillis = true)
      (s!"cluster cpu ceiling reached: {sprintInt held.resources.cpuMillis} millis " ++
        s!"committed plus {sprintInt adding.resources.cpuMillis} proposed exceeds " ++
        s!"{sprintInt ceiling.cpuMillis}")
    refuseIf (exceeds total.memoryMB ceiling.memoryMB = true)
      (s!"cluster memory ceiling reached: {sprintInt held.resources.memoryMB} MB committed " ++
        s!"plus {sprintInt adding.resources.memoryMB} proposed exceeds " ++
        s!"{sprintInt ceiling.memoryMB}")
    let spend := k.policy.clusterBudget
    let committed := held.budget.add adding.budget
    [("tokens", committed.tokens, spend.tokens), ("cost", committed.costMillis, spend.costMillis),
      ("wall seconds", committed.wallSeconds, spend.wallSeconds),
      ("tool calls", committed.toolCalls, spend.toolCalls)].forM fun (name, total, ceiling) =>
        refuseIf (exceeds total ceiling = true)
          (s!"cluster agent {name} ceiling reached: {sprintInt total} committed exceeds " ++
            s!"{sprintInt ceiling}")

/-! ### Authorisation -/

/-- The evidence an action obliges its proposal to declare. -/
def requiredCheck (goal : Goal) : ActionKind → Option CheckKind
  | .startAllocation =>
    some (if goal.workload.runtime = none then .allocationReady else .agentReady)
  | .publishRoute => some .routeReachable
  | .drainAllocation => some .allocationDrained
  | _ => none

def requireEvidenceChecks (goal : Goal) (p : Proposal) : Result Unit :=
  p.actions.forM fun a =>
    match requiredCheck goal a.kind with
    | none => .ok ()
    | some kind =>
      refuseIf ((⟨kind, a.target, "true"⟩ : Check) ∉ p.expectedEvidence)
        s!"action {quote a.id} requires {kind.text} evidence"

/-- The loop of `Authorize`: each action is validated against the world simulated
so far, and then simulated. -/
def authorizeActions (host : Host) (agentID : String) (grants : Grants) (goal : Goal) :
    World → List String → List Action → Result World
  | sim, _, [] => .ok sim
  | sim, completed, a :: rest => do
      refuseIf (a.id = "" ∨ a.id ∈ completed) "action ids must be non-empty and unique"
      refuseIf (grants.lookup a.kind ≠ some true)
        s!"agent {quote agentID} is not granted {a.kind.text}"
      a.dependsOn.forM fun dependency =>
        refuseIf (dependency ∉ completed)
          s!"action {quote a.id} has unsatisfied dependency {quote dependency}"
      wrapError s!"action {quote a.id}: " (validateAction host goal sim a)
      let sim ← wrapError s!"simulate action {quote a.id}: " (simulateAction sim a)
      authorizeActions host agentID grants goal sim (a.id :: completed) rest

/-- `Kernel.Authorize`. -/
def authorize (host : Host) (k : Kernel) (actor : AgentDescriptor) (goal : Goal) (w : World)
    (p : Proposal) : Result Unit := do
  refuseIf (p.agentID ≠ actor.id)
    s!"proposal agent {quote p.agentID} does not match authenticated actor {quote actor.id}"
  refuseIf (p.agentID = "" ∨ p.goalID ≠ goal.id) "proposal identity does not match goal"
  refuseIf (p.basedOnRevision ≠ w.revision)
    s!"stale proposal: based on revision {p.basedOnRevision}, current revision is {w.revision}"
  refuseIf (p.actions = []) "proposal contains no actions"
  refuseIf (k.policy.maxActionsPerProposal.toInt < p.actions.length)
    s!"proposal exceeds {sprintInt k.policy.maxActionsPerProposal} action limit"
  let grants := k.policy.grants[p.agentID]?.getD []
  refuseIf (grants = []) s!"agent {quote p.agentID} has no capability grants"
  let _ ← authorizeActions host p.agentID grants goal w [] p.actions
  requireEvidenceChecks goal p
  checkDisruptionBudget host k w p
  checkBackoff host w p
  checkImageProvenance host k goal w p
  checkClusterBudget k w p

end A4s
