/-
The node daemon (`node/container_runtime.go`, `node/containerd_linux.go`,
`node/router.go`, `node/dispatcher.go`, and the wiring of `cmd/a4s`).

A `NodeState` is what a node remembers. `CompositeRuntime.execute` hands an action to
the capability that owns it, `dispatch` verifies an envelope, answers repeats from the
ledger, executes, attributes the evidence to the node and records the intent.

The capabilities whose state no modelled action reads (routes, firewall, names,
databases, image collection, and what actions do to the contents of a volume) are
taken as they are (`Capabilities`).
-/
import A4s.Node.Agents
import A4s.Node.Envelope
import A4s.Control.Execution

namespace A4s.Daemon

open Go

/-! ### Containers -/

/-- What a container is created with. The sandbox profile is the host's and the same
for every container. -/
structure ContainerSpec where
  id : String
  workload : String
  image : String
  resources : Resources
  volumeMounts : List VolumeMountSpec
  secretMounts : List SecretMountSpec
  namespace_ : String
  deriving DecidableEq

/-- A container and whether it carries the label of a managed one. -/
structure Container where
  managed : Bool
  spec : ContainerSpec
  deriving DecidableEq

/-- A stored answer. -/
structure DispatchResult where
  envelopeDigest : String := ""
  evidence : Evidence
  attested : Option AttestedEvidence := none
  deriving DecidableEq

structure HeldLease where
  leaseID : String
  expiresAt : Time
  deriving DecidableEq

/-- What a node remembers. The secret and agent capabilities are optional. -/
structure NodeState where
  containers : Table Container := ∅
  volumes : Volumes
  secrets : Option Secrets := none
  desired : DesiredState := ∅
  agents : Option Agents := none
  queues : List TaskQueue := []
  ledger : Table DispatchResult := ∅
  leases : Table HeldLease := ∅
  deriving DecidableEq

/-- Capabilities whose state is not modelled, and whether the node serves the runtime
interface agents call. Each reports what it was asked to do. -/
structure Capabilities where
  elsewhere : Action → Result Evidence
  contents : Action → Proc Volumes Evidence
  runtimeAPI : Bool
  elsewhere_reports : ∀ {a e}, elsewhere a = .ok e → Reports a e
  contents_reports : ∀ {a v e v'}, Proc.Returns (contents a) v e v' → Reports a e

/-- A node without those capabilities. -/
def bareCapabilities (runtimeAPI : Bool) : Capabilities :=
  { elsewhere := fun _ => fail "not here", contents := fun _ => Proc.lift (fail "not here")
    runtimeAPI := runtimeAPI, elsewhere_reports := nofun
    contents_reports := fun h => nomatch (returns_lift.mp h).1 }

/-- The node's configuration. -/
structure Config where
  nodeID : String
  keys : Table Bytes
  identityKey : Bytes

section Containers

/-- `imageDigest`: an image is named by an immutable digest. -/
def imageDigest (ref : String) : Result String := do
  let chars := ref.toList
  let digest := (chars.dropWhile (· ≠ '@')).drop 1
  refuseIf ('@' ∉ chars ∨ ¬"sha256:".toList <+: digest ∨ digest.length ≠ 71)
    s!"image {quote ref} must use an immutable sha256 digest"
  refuseIf (¬(digest.drop 7).all fun c => c ∈ "0123456789abcdef".toList)
    s!"image {quote ref} has an invalid sha256 digest"
  return String.ofList digest

/-- `VolumeMountsFor` as `cmd/a4s` wires it: the volumes the node was told to attach
and that the allocation holds. -/
def NodeState.volumeMountsFor (d : NodeState) (allocation : String) : List VolumeMountSpec :=
  d.volumes.mounts allocation ((d.desired[allocation]?.map (·.volumes)).getD [])

/-- `SecretMountsFor` as `cmd/a4s` wires it. -/
def NodeState.secretMountsFor (d : NodeState) (allocation : String) : List SecretMountSpec :=
  match d.secrets with
  | none => []
  | some secrets => secrets.specs allocation

/-- `containerdBackend.Create`: a container that exists under the id and is the
requested allocation is kept as it is. -/
def createContainer (m : Machine) (spec : ContainerSpec) : Proc NodeState Bool := do
  Proc.lift (m.load spec.id)
  let existing ← Proc.read fun d => d.containers[spec.id]?
  match existing with
  | some c =>
    Proc.guard (c.managed = false ∨ c.spec.workload ≠ spec.workload ∨ c.spec.image ≠ spec.image)
      s!"container {quote spec.id} exists but is not the requested a4s allocation"
    return false
  | none =>
    Proc.lift (m.getImage spec.image)
    Proc.lift (m.newContainer spec.id)
    Proc.modify fun d => { d with
      containers := d.containers.insert spec.id { managed := true, spec := spec } }
    return true

/-- The specification of a new container, from the action and what the node holds for
the allocation at this moment. -/
def NodeState.specFor (d : NodeState) (m : Machine) (a : Action) : ContainerSpec :=
  { id := a.target, workload := a.workload, image := a.image, resources := a.resources
    volumeMounts := d.volumeMountsFor a.target, secretMounts := d.secretMountsFor a.target
    namespace_ := m.namespace_ a.target }

/-- `ContainerRuntime.Execute` on `create_allocation`. -/
def createAllocation (m : Machine) (a : Action) : Proc NodeState Evidence := do
  Proc.guard (a.target = "" ∨ a.workload = "" ∨ a.image = "")
    "create allocation requires target, workload, and image"
  Proc.guard (a.resources.cpuMillis ≤ 0 ∨ a.resources.memoryMB ≤ 0)
    "create allocation requires positive resource limits"
  let d ← Proc.read fun d => d
  let created ← Proc.wrapped s!"create allocation {quote a.target}: "
    (createContainer m (d.specFor m a))
  return { kind := .allocationCreated, target := a.target
           observed := Table.ofEntries [("created", boolText created), ("image", a.image)] }

def pullImage (m : Machine) (a : Action) : Result Evidence := do
  let want ← imageDigest a.image
  let got ← wrapError s!"pull image {quote a.image}: " (m.pull a.image)
  refuseIf (got ≠ want)
    s!"pulled image digest {quote got} does not match requested digest {quote want}"
  return { kind := .imagePresent, target := a.image, observed := Table.ofEntries [("digest", got)] }

def startAllocation (m : Machine) (a : Action) : Result Evidence := do
  refuseIf (a.target = "") "start allocation requires target"
  let task ← wrapError s!"start allocation {quote a.target}: " (m.start a.target)
  return { kind := .allocationRunning, target := a.target
           observed := Table.ofEntries [("pid", toString task.pid),
             ("already_running", boolText task.alreadyRunning)] }

def stopAllocation (m : Machine) (a : Action) : Result Evidence := do
  refuseIf (a.target = "") "stop allocation requires target"
  let stopped ← wrapError s!"stop allocation {quote a.target}: " (m.stop a.target)
  return { kind := .allocationStopped, target := a.target
           observed := Table.ofEntries [("exit_code", toString stopped.exitCode),
             ("already_gone", boolText stopped.alreadyGone),
             ("killed", boolText stopped.killed)] }

def deleteAllocation (m : Machine) (a : Action) : Proc NodeState Evidence := do
  Proc.guard (a.target = "") "delete allocation requires target"
  let deleted ← Proc.lift (wrapError s!"delete allocation {quote a.target}: " (m.delete a.target))
  Proc.modify fun d => { d with containers := d.containers.erase a.target }
  return { kind := .allocationDeleted, target := a.target
           observed := Table.ofEntries [("deleted", boolText deleted)] }

/-- `Network.Execute`. -/
def attachNetwork (m : Machine) (a : Action) : Result Evidence := do
  refuseIf (a.target = "" ∨ a.workload = "") "attach network requires target and workload"
  let attachment ← wrapError s!"attach network for {quote a.target}: " (m.attach a.target)
  refuseIf (attachment.address = "")
    s!"network backend returned no address for {quote a.target}"
  refuseIf (m.validIP attachment.address = false)
    (s!"network backend returned invalid address {quote attachment.address} for " ++
      quote a.target)
  return { kind := .networkAttached, target := a.target
           observed := Table.ofEntries [("address", attachment.address),
             ("namespace", attachment.namespace_), ("interface", attachment.interface),
             ("already_attached", boolText attachment.alreadyAttached)] }

end Containers

/-! ### The composite runtime -/

section Composite

/-- A method of the volumes. -/
def onVolumes {α : Type} (x : Proc Volumes α) : Proc NodeState α :=
  Proc.onField (·.volumes) (fun d v => { d with volumes := v }) x

/-- A method of the secrets, where the node has them. -/
def onSecrets {α : Type} (x : Proc Secrets α) : Proc NodeState α := fun d =>
  match d.secrets with
  | none => (fail "node has no secret capability", d)
  | some s => ((x s).1, { d with secrets := some (x s).2 })

/-- A method of the agents, where the node has them. -/
def onAgents {α : Type} (x : Proc Agents α) : Proc NodeState α := fun d =>
  match d.agents with
  | none => (fail "node has no agent capability", d)
  | some s => ((x s).1, { d with agents := some (x s).2 })

/-- A method of the desired state. -/
def onDesired {α : Type} (x : Proc DesiredState α) : Proc NodeState α :=
  Proc.onField (·.desired) (fun d s => { d with desired := s }) x

/-- The volume reference of an action on a volume. -/
def volumeOf (a : Action) : Proc NodeState VolumeRef :=
  Proc.lift (require a.volume s!"{a.kind.text} requires a volume reference")

/-- The reservation and the credential that come with an agent's container. -/
def reserveAgent (c : Capabilities) (m : Machine) (a : Action) : Proc NodeState Unit := do
  let hasAgents ← Proc.read fun d => d.agents.isSome
  Proc.when (hasAgents && !a.budget.isZero) do
    onAgents (Proc.modify fun s => s.reserve a.target a.budget)
    Proc.when c.runtimeAPI do
      let _ ← onAgents (Agents.issueToken m a.target)
      Proc.lift (m.provision a.target)

/-- Every queue returns what the allocation held; the first failure stops. -/
def releaseQueues (m : Machine) (allocation : String) :
    List TaskQueue → Result Unit × List TaskQueue
  | [] => (.ok (), [])
  | q :: rest =>
    match TaskQueue.releaseAllocation m allocation q with
    | (.error e, q') => (.error e, q' :: rest)
    | (.ok (), q') => ((releaseQueues m allocation rest).1,
        q' :: (releaseQueues m allocation rest).2)

/-- What deleting an allocation tears down besides its container. -/
def tearDown (c : Capabilities) (m : Machine) (allocation : String) : Proc NodeState Unit := do
  let _ ← Proc.lift (wrapError s!"detach network for {quote allocation}: " (m.detach allocation))
  let d ← Proc.read fun d => d
  Proc.when d.secrets.isSome (onSecrets (Secrets.release m allocation))
  Proc.onField (·.queues) (fun d qs => { d with queues := qs }) (releaseQueues m allocation)
  Proc.when c.runtimeAPI (Proc.lift (m.revoke allocation))
  Proc.when d.agents.isSome (onAgents (Proc.modify fun s => s.release allocation))

/-- `CompositeRuntime.Execute`: each action reaches the capability that owns it. -/
def CompositeRuntime.execute (c : Capabilities) (m : Machine) (a : Action) :
    Proc NodeState Evidence :=
  match a.kind with
  | .publishRoute | .applyPolicy | .publishZone | .databaseBackup | .collectImages =>
    Proc.lift (c.elsewhere a)
  | .attachNetwork => Proc.lift (attachNetwork m a)
  | .mountSecret => onSecrets (Secrets.execute m a)
  | .createVolume => do
      let ref ← volumeOf a
      onVolumes (Volumes.create m a ref)
  | .attachVolume => do
      let ref ← volumeOf a
      onVolumes (Volumes.attach m a ref)
  | .detachVolume => do
      let ref ← volumeOf a
      onVolumes (Volumes.detach m a ref)
  | .snapshotVolume | .restoreSnapshot | .backupSnapshot | .quiesceVolume | .transferVolume
  | .adoptVolume | .pruneSnapshots | .verifyBackup => do
      let _ ← volumeOf a
      onVolumes (c.contents a)
  | .grantTools => onAgents (Agents.grant a)
  | .drainAllocation => onAgents (Agents.drain a)
  | .deleteAllocation => do
      let e ← deleteAllocation m a
      tearDown c m a.target
      return e
  | .createAllocation => do
      let e ← createAllocation m a
      reserveAgent c m a
      return e
  | .pullImage => Proc.lift (pullImage m a)
  | .startAllocation => Proc.lift (startAllocation m a)
  | .stopAllocation => Proc.lift (stopAllocation m a)
  | .cordonNode | .uncordonNode | .probeReadiness | .other _ =>
    Proc.lift (fail s!"container runtime does not support action kind {quote a.kind.text}")

lemma returns_onSecrets {α : Type} {x : Proc Secrets α} {d d' : NodeState} {r : α}
    (h : Proc.Returns (onSecrets x) d r d') :
    ∃ s s', d.secrets = some s ∧ Proc.Returns x s r s' ∧ d' = { d with secrets := some s' } := by
  unfold Proc.Returns onSecrets at h
  cases hs : d.secrets with
  | none =>
    rw [hs] at h
    cases h
  | some s =>
    rw [hs] at h
    obtain ⟨hok, hset⟩ := Prod.mk.inj h
    exact ⟨s, (x s).2, rfl, Prod.ext hok rfl, hset.symm⟩

lemma returns_onAgents {α : Type} {x : Proc Agents α} {d d' : NodeState} {r : α}
    (h : Proc.Returns (onAgents x) d r d') :
    ∃ s s', d.agents = some s ∧ Proc.Returns x s r s' ∧ d' = { d with agents := some s' } := by
  unfold Proc.Returns onAgents at h
  cases hs : d.agents with
  | none =>
    rw [hs] at h
    cases h
  | some s =>
    rw [hs] at h
    obtain ⟨hok, hset⟩ := Prod.mk.inj h
    exact ⟨s, (x s).2, rfl, Prod.ext hok rfl, hset.symm⟩

end Composite

/-! ### What the capabilities leave alone -/

section Keeps

variable {τ : Type} {f : NodeState → τ} {c : Capabilities} {m : Machine}

lemma onVolumes_keeps {α : Type} (x : Proc Volumes α)
    (hf : ∀ d v, f { d with volumes := v } = f d) : Proc.Keeps f (onVolumes x) :=
  keeps_onField x hf

lemma onSecrets_keeps {α : Type} (x : Proc Secrets α)
    (hf : ∀ d s, f { d with secrets := s } = f d) : Proc.Keeps f (onSecrets x) := by
  intro d
  unfold onSecrets
  split
  · rfl
  · exact hf d _

lemma onAgents_keeps {α : Type} (x : Proc Agents α)
    (hf : ∀ d s, f { d with agents := s } = f d) : Proc.Keeps f (onAgents x) := by
  intro d
  unfold onAgents
  split
  · rfl
  · exact hf d _

lemma createAllocation_keeps (a : Action) (hf : ∀ d cs, f { d with containers := cs } = f d) :
    Proc.Keeps f (createAllocation m a) := by
  refine keeps_bind (keeps_guard _ _) fun _ => ?_
  refine keeps_bind (keeps_guard _ _) fun _ => ?_
  refine keeps_bind (keeps_read _) fun d => ?_
  refine keeps_bind (keeps_wrapped _ ?_) fun _ => keeps_pure _
  refine keeps_bind (keeps_lift _) fun _ => keeps_bind (keeps_read _) ?_
  rintro (_ | existing)
  · exact keeps_bind (keeps_lift _) fun _ => keeps_bind (keeps_lift _)
      fun _ => keeps_bind (keeps_modify fun _ => hf _ _) fun _ => keeps_pure _
  · exact keeps_bind (keeps_guard _ _) fun _ => keeps_pure _

lemma deleteAllocation_keeps (a : Action) (hf : ∀ d cs, f { d with containers := cs } = f d) :
    Proc.Keeps f (deleteAllocation m a) := by
  refine keeps_bind (keeps_guard _ _) fun _ => ?_
  refine keeps_bind (keeps_lift _) fun _ => ?_
  exact keeps_bind (keeps_modify fun _ => hf _ _) fun _ => keeps_pure _

lemma reserveAgent_keeps (a : Action) (hf : ∀ d s, f { d with agents := s } = f d) :
    Proc.Keeps f (reserveAgent c m a) := by
  refine keeps_bind (keeps_read _) fun _ => keeps_when _ ?_
  refine keeps_bind (onAgents_keeps _ hf) fun _ => keeps_when _ ?_
  exact keeps_bind (onAgents_keeps _ hf) fun _ => keeps_lift _

end Keeps

/-! ### The dispatcher -/

section Dispatcher

/-- `attribute`: evidence is completed with what only the node can supply. -/
def attribute_ (config : Config) (now : Time) (e : Evidence) (a : Action) : Evidence :=
  let base := e.observed.insert "node" config.nodeID
  let observed := match a.kind with
    | .pullImage => base.insert "image" a.image
    | .createAllocation =>
      ((((base.insert "workload" a.workload).insert "image" a.image).insert "replica"
        (sprintInt a.replica)).insert "cpu_millis" (sprintInt a.resources.cpuMillis)).insert
          "memory_mb" (sprintInt a.resources.memoryMB)
    | .publishRoute =>
      ((base.insert "workload" a.workload).insert "port" (sprintInt a.port)).insert "exposure"
        a.exposure
    | _ => base
  { e with
    source := "node:" ++ config.nodeID
    observedAt := if e.observedAt = 0 then now else e.observedAt
    observed := observed }

/-- `attest`: a node without an identity key reports unattested evidence. -/
def attest (wire : Wire) (config : Config) (e : Evidence) : Result (Option AttestedEvidence) := do
  if config.identityKey = [] then return none
  let attested ← wrapError "attest evidence: "
    (signEvidence wire e config.nodeID config.identityKey)
  return some attested

def probeKindFor (port : Int64) : ProbeKind := if port > 0 then .tcp else .process

/-- `recordDesired`: an authorised action becomes local supervision intent. -/
def recordDesired (m : Machine) (a : Action) : Proc DesiredState Unit :=
  match a.kind with
  | .createAllocation =>
    DesiredState.record m
      { id := a.target, workload := a.workload, image := a.image, resources := a.resources
        running := false
        probe := { allocation := a.target, kind := probeKindFor a.port, port := a.port }
        updatedAt := m.now }
  | .attachVolume =>
    match a.volume with
    | none => return ()
    | some ref => DesiredState.addVolume m a.target ref
  | .startAllocation => DesiredState.setRunning m a.target true
  | .stopAllocation => DesiredState.setRunning m a.target false
  | .deleteAllocation => DesiredState.forget m a.target
  | _ => return ()

/-- `checkLease`: an envelope must not contradict a lease that is still held. -/
def checkLease (wire : Wire) (d : NodeState) (now : Time) (e : ActionEnvelope) : Result Unit :=
  if e.action.target = "" ∨ e.leaseID = "" then .ok ()
  else match d.leases[e.action.target]? with
    | none => .ok ()
    | some held =>
      refuseIf (now < held.expiresAt ∧ held.leaseID ≠ e.leaseID)
        (s!"target {quote e.action.target} is held by lease {quote held.leaseID} until " ++
          wire.rfc3339 held.expiresAt)

def noteLease (e : ActionEnvelope) (d : NodeState) : NodeState :=
  if e.action.target = "" ∨ e.leaseID = "" then d
  else
    let held : HeldLease := { leaseID := e.leaseID, expiresAt := e.expiresAt }
    { d with leases := d.leases.insert e.action.target held }

/-- `DefaultReadinessTTL`. -/
def defaultReadinessTTL : Duration := 30 * second

/-- `probe`: a measurement is attributed and attested, and never stored. -/
def probe (wire : Wire) (config : Config) (m : Machine) (e : ActionEnvelope) :
    Result DispatchResult := do
  let target ← require e.action.probe "probe action carries no target"
  refuseIf (target.allocation = "") "probe target names no allocation"
  let (ready, observed) ← wrapError s!"probe {quote target.allocation}: " (m.observe target)
  let evidence := attribute_ config m.now
    { kind := if target.kind = .agent then .agentReady else .allocationReady
      target := target.allocation
      observed := observed.insert "ready" (boolText ready)
      expiresAt := m.now + defaultReadinessTTL } e.action
  let attested ← attest wire config evidence
  return { evidence := evidence, attested := attested }

/-- `Ledger.Put`. -/
def putLedger (m : Machine) (key : String) (result : DispatchResult) : Proc NodeState Unit := do
  let d ← Proc.read fun d => d
  Proc.guard (d.ledger[key]?.isSome = true) s!"idempotency key {quote key} already stored"
  Proc.lift m.saveLedger
  Proc.modify fun d => { d with ledger := d.ledger.insert key result }

/-- Carrying out an action and remembering the intent: the part of `Dispatch` that
changes the node. -/
def perform (wire : Wire) (config : Config) (c : Capabilities) (m : Machine) (a : Action) :
    Proc NodeState (Evidence × Option AttestedEvidence) := do
  let e ← CompositeRuntime.execute c m a
  let evidence := attribute_ config m.now e a
  let attested ← Proc.lift (attest wire config evidence)
  onDesired (recordDesired m a)
  return (evidence, attested)

/-- `Dispatcher.Dispatch`. -/
def dispatch (wire : Wire) (config : Config) (c : Capabilities) (m : Machine)
    (signed : SignedAction) : Proc NodeState DispatchResult := do
  let envelope ← Proc.lift (verify wire signed config.keys config.nodeID m.now)
  if envelope.action.kind = .probeReadiness then Proc.lift (probe wire config m envelope)
  else
    let digest := workDigest wire envelope
    let d ← Proc.read fun d => d
    match d.ledger[envelope.idempotencyKey]? with
    | some previous =>
      Proc.guard (previous.envelopeDigest ≠ digest)
        (s!"idempotency key {quote envelope.idempotencyKey} was reused for a different " ++
          "envelope")
      return previous
    | none =>
      Proc.lift (checkLease wire d m.now envelope)
      let (evidence, attested) ← perform wire config c m envelope.action
      Proc.modify (noteLease envelope)
      let result : DispatchResult :=
        { envelopeDigest := digest, evidence := evidence, attested := attested }
      putLedger m envelope.idempotencyKey result
      return result

end Dispatcher

/-! ### What a dispatch does -/

section Dispatching

variable {wire : Wire} {config : Config} {c : Capabilities} {m : Machine} {signed : SignedAction}
  {d d' : NodeState} {work : ActionEnvelope} {r : DispatchResult} {answer : Result DispatchResult}

/-- What the node remembers of the envelopes it has accepted. -/
def NodeState.books (d : NodeState) : Table DispatchResult × Table HeldLease :=
  (d.ledger, d.leases)

/-- The capabilities write neither the ledger nor the leases. -/
lemma execute_keeps_books (a : Action) :
    Proc.Keeps NodeState.books (CompositeRuntime.execute c m a) := by
  unfold CompositeRuntime.execute
  cases a.kind
  case createAllocation =>
    exact keeps_bind (createAllocation_keeps a fun _ _ => rfl) fun _ =>
      keeps_bind (reserveAgent_keeps a fun _ _ => rfl) fun _ => keeps_pure _
  case deleteAllocation =>
    refine keeps_bind (deleteAllocation_keeps a fun _ _ => rfl) fun _ => ?_
    refine keeps_bind ?_ fun _ => keeps_pure _
    refine keeps_bind (keeps_lift _) fun _ => ?_
    refine keeps_bind (keeps_read _) fun d => ?_
    refine keeps_bind (keeps_when _ (onSecrets_keeps _ fun _ _ => rfl)) fun _ => ?_
    refine keeps_bind (keeps_onField _ fun _ _ => rfl) fun _ => ?_
    refine keeps_bind (keeps_when _ (keeps_lift _)) fun _ => ?_
    exact keeps_when _ (onAgents_keeps _ fun _ _ => rfl)
  case mountSecret => exact onSecrets_keeps _ fun _ _ => rfl
  case grantTools | drainAllocation => exact onAgents_keeps _ fun _ _ => rfl
  case createVolume | attachVolume | detachVolume | snapshotVolume | restoreSnapshot
      | backupSnapshot | quiesceVolume | transferVolume | adoptVolume | pruneSnapshots
      | verifyBackup =>
    exact keeps_bind (keeps_lift _) fun _ => onVolumes_keeps _ fun _ _ => rfl
  all_goals exact keeps_lift _

lemma perform_keeps_books (wire : Wire) (config : Config) (c : Capabilities) (m : Machine)
    (a : Action) : Proc.Keeps NodeState.books (perform wire config c m a) := by
  refine keeps_bind (execute_keeps_books a) fun _ => ?_
  refine keeps_bind (keeps_lift _) fun _ => ?_
  exact keeps_bind (keeps_onField _ fun _ _ => rfl) fun _ => keeps_pure _

lemma noteLease_ledger (work : ActionEnvelope) (d : NodeState) :
    (noteLease work d).ledger = d.ledger := by
  unfold noteLease
  split_ifs <;> rfl

/-- The node accepts the envelope for execution: it is no probe, was not answered before and
contradicts no lease. -/
structure Fresh (wire : Wire) (config : Config) (m : Machine) (signed : SignedAction)
    (d : NodeState) (work : ActionEnvelope) : Prop where
  verified : verify wire signed config.keys config.nodeID m.now = .ok work
  mutation : work.action.kind ≠ .probeReadiness
  new : d.ledger[work.idempotencyKey]? = none
  free : checkLease wire d m.now work = .ok ()

/-- The ways a dispatch can end. -/
inductive Dispatching (wire : Wire) (config : Config) (c : Capabilities) (m : Machine)
    (signed : SignedAction) (d : NodeState) : Result DispatchResult → NodeState → Prop
  | unverified {fault : Fault}
      (h : verify wire signed config.keys config.nodeID m.now = .error fault) :
      Dispatching wire config c m signed d (.error fault) d
  | probed {work : ActionEnvelope}
      (h : verify wire signed config.keys config.nodeID m.now = .ok work)
      (hprobe : work.action.kind = .probeReadiness) :
      Dispatching wire config c m signed d (probe wire config m work) d
  | known {work : ActionEnvelope} {r : DispatchResult}
      (h : verify wire signed config.keys config.nodeID m.now = .ok work)
      (hprobe : work.action.kind ≠ .probeReadiness)
      (hget : d.ledger[work.idempotencyKey]? = some r) :
      Dispatching wire config c m signed d
        (if r.envelopeDigest = workDigest wire work then .ok r
          else fail (s!"idempotency key {quote work.idempotencyKey} was reused for a different " ++
            "envelope")) d
  | held {work : ActionEnvelope} {fault : Fault}
      (h : verify wire signed config.keys config.nodeID m.now = .ok work)
      (hprobe : work.action.kind ≠ .probeReadiness)
      (hnew : d.ledger[work.idempotencyKey]? = none)
      (hlease : checkLease wire d m.now work = .error fault) :
      Dispatching wire config c m signed d (.error fault) d
  | failed {work : ActionEnvelope} {fault : Fault} {d₁ : NodeState}
      (hfresh : Fresh wire config m signed d work)
      (hperform : perform wire config c m work.action d = (.error fault, d₁)) :
      Dispatching wire config c m signed d (.error fault) d₁
  | unsaved {work : ActionEnvelope} {e : Evidence} {attested : Option AttestedEvidence}
      {fault : Fault} {d₁ : NodeState} (hfresh : Fresh wire config m signed d work)
      (hperform : Proc.Returns (perform wire config c m work.action) d (e, attested) d₁)
      (hsave : m.saveLedger = .error fault) :
      Dispatching wire config c m signed d (.error fault) (noteLease work d₁)
  | performed {work : ActionEnvelope} {r : DispatchResult} {d₁ : NodeState}
      (hfresh : Fresh wire config m signed d work)
      (hperform : Proc.Returns (perform wire config c m work.action) d (r.evidence, r.attested) d₁)
      (hdigest : r.envelopeDigest = workDigest wire work) (hsave : m.saveLedger = .ok ()) :
      Dispatching wire config c m signed d (.ok r)
        { noteLease work d₁ with ledger := d.ledger.insert work.idempotencyKey r }

/-- A measurement is taken at once and changes nothing. -/
lemma dispatch_of_probe (hverify : verify wire signed config.keys config.nodeID m.now = .ok work)
    (hprobe : work.action.kind = .probeReadiness) (d : NodeState) :
    dispatch wire config c m signed d = (probe wire config m work, d) := by
  have hbind : dispatch wire config c m signed d = _ :=
    bind_of_returns (returns_lift.mpr ⟨hverify, rfl⟩)
  rw [hbind, if_pos hprobe]
  rfl

/-- Work that was carried out before is answered from the ledger. -/
lemma dispatch_of_stored (hverify : verify wire signed config.keys config.nodeID m.now = .ok work)
    (hprobe : work.action.kind ≠ .probeReadiness) (hget : d.ledger[work.idempotencyKey]? = some r) :
    dispatch wire config c m signed d =
      (if r.envelopeDigest = workDigest wire work then .ok r
        else fail (s!"idempotency key {quote work.idempotencyKey} was reused for a different " ++
          "envelope"), d) := by
  have hbind : dispatch wire config c m signed d = _ :=
    bind_of_returns (returns_lift.mpr ⟨hverify, rfl⟩)
  rw [hbind, if_neg hprobe, bind_of_returns (returns_read.mpr ⟨rfl, rfl⟩)]
  dsimp only
  rw [hget]
  by_cases hsame : r.envelopeDigest = workDigest wire work
  · rw [if_pos hsame]
    exact bind_of_returns (a := ()) (returns_guard.mpr ⟨not_not.mpr hsame, rfl⟩)
  · rw [if_neg hsame]
    exact bind_of_stops (by rw [Proc.guard, Proc.lift, refuseIf, if_pos hsame, fail])

/-- What follows once an envelope is accepted for execution. -/
lemma dispatch_of_fresh (hfresh : Fresh wire config m signed d work) :
    dispatch wire config c m signed d = (do
      let (evidence, attested) ← perform wire config c m work.action
      Proc.modify (noteLease work)
      let result : DispatchResult :=
        { envelopeDigest := workDigest wire work, evidence := evidence, attested := attested }
      putLedger m work.idempotencyKey result
      return result : Proc NodeState DispatchResult) d := by
  have hbind : dispatch wire config c m signed d = _ :=
    bind_of_returns (returns_lift.mpr ⟨hfresh.verified, rfl⟩)
  rw [hbind, if_neg hfresh.mutation, bind_of_returns (returns_read.mpr ⟨rfl, rfl⟩)]
  dsimp only
  rw [hfresh.new]
  exact bind_of_returns (a := ()) (returns_lift.mpr ⟨hfresh.free, rfl⟩)

lemma putLedger_of_new {key : String} (hnew : d.ledger[key]? = none) :
    putLedger m key r d = match m.saveLedger with
      | .error fault => (.error fault, d)
      | .ok () => (.ok (), { d with ledger := d.ledger.insert key r }) := by
  rw [putLedger, bind_of_returns (returns_read.mpr ⟨rfl, rfl⟩),
    bind_of_returns (a := ()) (returns_guard.mpr ⟨by rw [hnew]; nofun, rfl⟩)]
  cases hsave : m.saveLedger with
  | error fault => exact bind_of_stops (by rw [Proc.lift])
  | ok _ => exact bind_of_returns (a := ()) (returns_lift.mpr ⟨rfl, rfl⟩)

/-- What is left once the action is carried out. -/
lemma dispatch_of_performed {e : Evidence} {attested : Option AttestedEvidence} {d₁ : NodeState}
    (hfresh : Fresh wire config m signed d work)
    (hperform : Proc.Returns (perform wire config c m work.action) d (e, attested) d₁) :
    dispatch wire config c m signed d = match m.saveLedger with
      | .error fault => (.error fault, noteLease work d₁)
      | .ok () => (.ok ⟨workDigest wire work, e, attested⟩,
          { noteLease work d₁ with
            ledger := d.ledger.insert work.idempotencyKey
              ⟨workDigest wire work, e, attested⟩ }) := by
  have hkept : (noteLease work d₁).ledger = d.ledger := by
    rw [noteLease_ledger]
    exact congrArg Prod.fst ((perform_keeps_books wire config c m work.action).returns hperform)
  have hput := putLedger_of_new (m := m) (r := ⟨workDigest wire work, e, attested⟩)
    (hkept ▸ hfresh.new)
  rw [dispatch_of_fresh hfresh, bind_of_returns hperform]
  dsimp only
  rw [bind_of_returns (a := ()) (returns_modify.mpr rfl)]
  cases hsave : m.saveLedger with
  | error fault => exact bind_of_stops (by rw [hput, hsave])
  | ok _ =>
    rw [hsave, hkept] at hput
    exact bind_of_returns (a := ()) hput

/-- **What a dispatch does**, however it ends. -/
theorem dispatch_cases (h : dispatch wire config c m signed d = (answer, d')) :
    Dispatching wire config c m signed d answer d' := by
  suffices hcases : Dispatching wire config c m signed d (dispatch wire config c m signed d).1
      (dispatch wire config c m signed d).2 by
    rw [h] at hcases
    exact hcases
  clear h
  cases hverify : verify wire signed config.keys config.nodeID m.now with
  | error fault =>
    have hstops : dispatch wire config c m signed d = (.error fault, d) :=
      bind_of_stops (by rw [Proc.lift, hverify])
    rw [hstops]
    exact .unverified hverify
  | ok work =>
    by_cases hprobe : work.action.kind = .probeReadiness
    · rw [dispatch_of_probe hverify hprobe]
      exact .probed hverify hprobe
    cases hget : d.ledger[work.idempotencyKey]? with
    | some r =>
      rw [dispatch_of_stored hverify hprobe hget]
      exact .known hverify hprobe hget
    | none =>
      cases hlease : checkLease wire d m.now work with
      | error fault =>
        have hstops : dispatch wire config c m signed d = (.error fault, d) := by
          have hbind : dispatch wire config c m signed d = _ :=
            bind_of_returns (returns_lift.mpr ⟨hverify, rfl⟩)
          rw [hbind, if_neg hprobe, bind_of_returns (returns_read.mpr ⟨rfl, rfl⟩)]
          dsimp only
          rw [hget]
          exact bind_of_stops (by rw [Proc.lift, hlease])
        rw [hstops]
        exact .held hverify hprobe hget hlease
      | ok _ =>
        have hfresh : Fresh wire config m signed d work := ⟨hverify, hprobe, hget, hlease⟩
        rcases hperform : perform wire config c m work.action d with
          ⟨fault | ⟨e, attested⟩, d₁⟩
        · rw [dispatch_of_fresh hfresh, bind_of_stops hperform]
          exact .failed hfresh hperform
        · rw [dispatch_of_performed hfresh hperform]
          cases hsave : m.saveLedger with
          | error fault => exact .unsaved hfresh hperform hsave
          | ok _ => exact .performed hfresh hperform rfl hsave

/-- The ledger gets at most one more answer, under a key that was free. -/
lemma dispatch_ledger_cases (h : dispatch wire config c m signed d = (answer, d')) :
    d'.ledger = d.ledger ∨ ∃ work r d₁, Fresh wire config m signed d work ∧
      Proc.Returns (perform wire config c m work.action) d (r.evidence, r.attested) d₁ ∧
      r.envelopeDigest = workDigest wire work ∧
      d'.ledger = d.ledger.insert work.idempotencyKey r := by
  have hkept (a : Action) : (perform wire config c m a d).2.ledger = d.ledger :=
    congrArg Prod.fst (perform_keeps_books wire config c m a d)
  cases dispatch_cases h with
  | unverified | probed | known | held => exact .inl rfl
  | @failed work _ _ hfresh hperform =>
    have hledger := hkept work.action
    rw [hperform] at hledger
    exact .inl hledger
  | @unsaved work _ _ _ _ hfresh hperform =>
    have hledger := hkept work.action
    rw [hperform] at hledger
    exact .inl ((noteLease_ledger _ _).trans hledger)
  | performed hfresh hperform hdigest => exact .inr ⟨_, _, _, hfresh, hperform, hdigest, rfl⟩

/-- What a node does with an envelope it has not answered before: it carries the action
out, notes the lease and stores the answer. -/
lemma dispatch_first (hverify : verify wire signed config.keys config.nodeID m.now = .ok work)
    (hprobe : work.action.kind ≠ .probeReadiness) (hnew : d.ledger[work.idempotencyKey]? = none)
    (h : Proc.Returns (dispatch wire config c m signed) d r d') :
    r.envelopeDigest = workDigest wire work ∧
      ∃ d₁, Proc.Returns (perform wire config c m work.action) d (r.evidence, r.attested) d₁ ∧
        d' = { noteLease work d₁ with ledger := d.ledger.insert work.idempotencyKey r } := by
  obtain ⟨answer, hanswer⟩ : ∃ answer : Result DispatchResult, answer = .ok r := ⟨_, rfl⟩
  rw [Proc.Returns, ← hanswer] at h
  cases dispatch_cases h with
  | unverified hrefused => cases hverify.symm.trans hrefused
  | probed hprobed => cases hverify.symm.trans hprobed; contradiction
  | known hknown _ hget =>
    cases hverify.symm.trans hknown
    cases hnew.symm.trans hget
  | held => cases hanswer
  | failed => cases hanswer
  | unsaved => cases hanswer
  | performed hfresh hperform hdigest =>
    cases hverify.symm.trans hfresh.verified
    cases hanswer
    exact ⟨hdigest, _, hperform, rfl⟩

end Dispatching

end A4s.Daemon
