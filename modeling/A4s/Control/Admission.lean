/-
Admission of a goal (`control/validate.go`): `Scenario.NormalizeAndValidate`.

A goal is validated together with the world it is submitted into. Most checks read the goal
alone; some compare it with the nodes or with its queue; two loops at the end of the list
read everything that has been recorded so far, whoever it was recorded for.

* `validateVolumes` … `validateCanary`: what a goal may declare.
* `validateSpread`, `validateQueues`: a goal against the world.
* `normalizeAndValidate`: all of it, in the order of the source.
* `Ranging`: the order in which the loops over the maps of a world visit their entries.
* `Admissible`: the checks about the goal itself and the nodes.
* `normalizeAndValidate_ok_iff`: **what is accepted**: the goal is admissible, all queues
  are sound, and all approvals are the goal's own.
-/
import A4s.Control.Approval
import A4s.Control.Kernel
import A4s.Control.Schedule

namespace A4s

open Go

/-! ### What a goal may declare -/

/-- `APIVersion`. -/
def apiVersion : String := "a4s.io/v1alpha1"

/-- `secretNamePattern` and `toolNamePattern`: like a name, with dots and underscores. -/
def handlePattern (text : String) : Bool :=
  let chars := text.toList
  chars.length ≤ 63 && chars.head?.any isNameChar && chars.getLast?.any isNameChar &&
    chars.all fun c => isNameChar c || c = '.' || c = '_' || c = '-'

/-- What is required of every mount of a kind, given the mounts seen before it. -/
def checkMount (kind name mountPath : String) (names paths : List String) : Result Unit := do
  refuseIf (hasPrefix mountPath "/" = false) s!"{kind} {quote name} mount path must be absolute"
  refuseIf (contains mountPath ".." = true)
    (s!"{kind} {quote name} mount path must not contain " ++ quote "..")
  refuseIf (name ∈ names) s!"{kind} {quote name} is referenced twice"
  refuseIf (mountPath ∈ paths) s!"two {kind}s share mount path {quote mountPath}"

/-- The loop over the references of a kind: `check` is what the kind adds. -/
def checkMounts {ρ : Type} (kind : String) (name mountPath : ρ → String)
    (check : ρ → Result Unit) : List String → List String → List ρ → Result Unit
  | _, _, [] => .ok ()
  | names, paths, ref :: refs => do
      check ref
      checkMount kind (name ref) (mountPath ref) names paths
      checkMounts kind name mountPath check (name ref :: names) (mountPath ref :: paths) refs

def maxSecretVersionLength : ℕ := 64

/-- A secret is named by a handle, and its version is an identifier. -/
def checkSecret (ref : SecretRef) : Result Unit := do
  refuseIf (handlePattern ref.name = false)
    s!"secret name {quote ref.name} must be a short lowercase handle"
  refuseIf (ref.version = "" ∨ maxSecretVersionLength < ref.version.utf8ByteSize)
    s!"secret {quote ref.name} needs a version of at most {maxSecretVersionLength} characters"
  refuseIf (containsAny ref.version "\n\r\t " = true)
    s!"secret {quote ref.name} version must not contain whitespace"

def validateSecrets (refs : List SecretRef) : Result Unit :=
  checkMounts "secret" SecretRef.name SecretRef.mountPath checkSecret [] [] refs

def checkVolume (ref : VolumeRef) : Result Unit :=
  refuseIf (namePattern ref.name = false)
    s!"volume name {quote ref.name} must be lowercase DNS-style text"

def validateVolumes (w : WorkloadSpec) : Result Unit :=
  if w.volumes = [] then
    refuseIf (w.stateful = true) "a stateful workload must declare its volumes"
  else do
    refuseIf (w.replicas ≠ 1)
      s!"a workload with volumes must have exactly one replica, not {sprintInt w.replicas}"
    checkMounts "volume" VolumeRef.name VolumeRef.mountPath checkVolume [] [] w.volumes

def supportedEngines : List String := ["postgres"]

def validateEngine (w : WorkloadSpec) : Result Unit :=
  if w.engine = "" then .ok ()
  else do
    refuseIf (w.engine ∉ supportedEngines) s!"database engine {quote w.engine} is not supported"
    refuseIf (w.volumes = []) "a database workload must declare a volume for its data"
    refuseIf (w.replicas ≠ 1)
      s!"a database workload must have exactly one replica, not {sprintInt w.replicas}"

def supportedRuntimes : List String := ["a4s.agent/v1"]

def maxToolGrants : ℕ := 32

/-- `validateBudget`: a missing ceiling is not an unlimited one. -/
def validateBudget (b : Budget) : Result Unit := do
  refuseIf (b.tokens < 1) "agent budget must set a positive token ceiling"
  refuseIf (b.costMillis < 1) "agent budget must set a positive cost ceiling"
  refuseIf (b.wallSeconds < 1) "agent budget must set a positive wall-clock ceiling"
  refuseIf (b.toolCalls < 1) "agent budget must set a positive tool-call ceiling"

/-- The loop of `validateToolGrants`, given the names seen before. -/
def checkToolGrants : List String → List ToolGrant → Result Unit
  | _, [] => .ok ()
  | seen, grant :: grants => do
      refuseIf (handlePattern grant.name = false)
        s!"tool name {quote grant.name} must be a short lowercase handle"
      refuseIf (trimSpace grant.scope = "") s!"tool {quote grant.name} must declare a scope"
      refuseIf (grant.name ∈ seen) s!"tool {quote grant.name} is granted twice"
      checkToolGrants (grant.name :: seen) grants

def validateToolGrants (grants : List ToolGrant) : Result Unit := do
  refuseIf (maxToolGrants < grants.length)
    s!"agent declares {grants.length} tools, above the limit of {maxToolGrants}"
  checkToolGrants [] grants

def validateRuntime (w : WorkloadSpec) : Result Unit :=
  match w.runtime with
  | none => .ok ()
  | some r => do
      refuseIf (r.name ∉ supportedRuntimes) s!"agent runtime {quote r.name} is not supported"
      refuseIf (w.engine ≠ "") s!"a workload cannot be both a {w.engine} database and an agent"
      refuseIf (namePattern r.provider = false) "agent provider must be lowercase DNS-style text"
      refuseIf (trimSpace r.model = "") "agent model must be pinned"
      validateBudget r.budget
      validateToolGrants r.tools
      refuseIf (r.queue ≠ "" ∧ namePattern r.queue = false)
        s!"agent queue name {quote r.queue} must be lowercase DNS-style text"

def validateSchedule (w : WorkloadSpec) : Result Unit :=
  match w.schedule with
  | none => .ok ()
  | some schedule => do
      schedule.validate
      refuseIf (w.engine ≠ "") s!"a {w.engine} database cannot be a scheduled workload"
      refuseIf (w.runtime ≠ none) "an agent workload cannot be a scheduled workload"
      refuseIf (w.stateful = true ∨ w.volumes ≠ []) "a scheduled workload cannot be stateful"
      refuseIf (w.replicas < schedule.requiredCompletions)
        (s!"schedule requires {sprintInt schedule.requiredCompletions} completions but the " ++
          s!"workload runs {sprintInt w.replicas} replicas")

/-- The loop of `Canary.Validate`: the last step that was accepted. -/
def checkSteps : Int64 → List Int64 → Result Int64
  | previous, [] => .ok previous
  | previous, step :: steps => do
      refuseIf (step < 1 ∨ 100 < step)
        s!"canary step {sprintInt step} must be between 1 and 100"
      refuseIf (step ≤ previous)
        s!"canary steps must strictly increase, got {sprintInt step} after {sprintInt previous}"
      checkSteps step steps

/-- `Canary.Validate`. -/
def Canary.validate (c : Canary) : Result Unit := do
  refuseIf (c.steps = []) "canary needs at least one step"
  let last ← checkSteps 0 c.steps
  refuseIf (last ≠ 100) s!"the last canary step must be 100, got {sprintInt last}"
  refuseIf (c.holdFor < 0) "canary hold cannot be negative"

def validateCanary (goal : Goal) : Result Unit :=
  match goal.canary with
  | none => .ok ()
  | some canary => do
      canary.validate
      refuseIf (goal.route = none) "a canary requires a route to shift traffic across"
      refuseIf (goal.workload.replicas < 2)
        s!"a canary needs at least two replicas, got {sprintInt goal.workload.replicas}"
      refuseIf (goal.workload.schedule ≠ none) "a scheduled workload cannot use a canary"

/-- The checks on a declared route. -/
def validateRoute (goal : Goal) : Result Unit :=
  match goal.route with
  | none => .ok ()
  | some route => do
      refuseIf (trimSpace route.host = "") "route host is required"
      refuseIf (route.port < 1 ∨ 65535 < route.port) "route port must be between 1 and 65535"
      refuseIf (route.exposure ≠ "tailnet" ∧ route.exposure ≠ "public")
        "route exposure must be tailnet or public"

/-! ### A goal against the world -/

/-- `FailureDomains`: the domains of the nodes that can be scheduled on. -/
def failureDomains (w : World) : List String :=
  let schedulable := w.nodes.toList.filter fun e => e.2.schedulable
  (schedulable.map fun e => e.2.failureDomain).dedup.insertionSort (· ≤ ·)

/-- `Placement.Validate`. -/
def Placement.validate (p : Placement) : Result Unit :=
  refuseIf (p.maxPerDomain < 0) "placement max_per_domain cannot be negative"

/-- `validateSpread`: a ceiling that the domains cannot meet. The product wraps. -/
def validateSpread (goal : Goal) (w : World) : Result Unit := do
  match goal.workload.placement with
  | none => .ok ()
  | some placement => placement.validate
  let ceiling := goal.maxPerDomain
  let domains := (failureDomains w).length
  let capacity := Int64.ofNat domains * ceiling
  refuseIf (0 < ceiling ∧ capacity < goal.workload.replicas)
    (s!"workload {quote goal.workload.name} wants {sprintInt goal.workload.replicas} replicas " ++
      s!"but {domains} failure domains at {sprintInt ceiling} per domain hold only " ++
      sprintInt capacity)

/-- One round of the first loop of `validateQueues`. -/
def checkQueue (e : String × Queue) : Result Unit := do
  refuseIf (e.2.name ≠ e.1 ∨ namePattern e.1 = false)
    s!"queue map key {quote e.1} must match a valid queue name"
  refuseIf (e.2.depth < 0 ∨ e.2.inFlight < 0)
    s!"queue {quote e.1} cannot have negative depth or in-flight count"
  refuseIf (e.2.maxWorkers < 1) s!"queue {quote e.1} must cap workers at one or more"

/-- The queue a goal takes its work from is there, and serves the goal's workload. -/
def checkOwnQueue (goal : Goal) (queues : Table Queue) : Result Unit :=
  match goal.workload.runtime with
  | none => .ok ()
  | some runtime =>
    if runtime.queue = "" then .ok ()
    else do
      let queue ← require queues[runtime.queue]?
        s!"agent workload references queue {quote runtime.queue}, which does not exist"
      refuseIf (queue.workload ≠ goal.workload.name)
        (s!"queue {quote runtime.queue} serves workload {quote queue.workload}, " ++
          s!"not {quote goal.workload.name}")

/-- `validateQueues`: every queue of the world, then the goal's own. -/
def validateQueues (goal : Goal) (queues : Table Queue) (order : List (String × Queue)) :
    Result Unit := do
  order.forM checkQueue
  checkOwnQueue goal queues

/-- One round of the loop over the nodes. -/
def checkNode (e : String × Node) : Result Unit := do
  refuseIf (e.2.id ≠ e.1 ∨ namePattern e.1 = false)
    s!"node map key {quote e.1} must match a valid node id"
  refuseIf (e.2.capacity.cpuMillis < 1 ∨ e.2.capacity.memoryMB < 1)
    s!"node {quote e.1} capacity must be positive"

/-- One round of the loop over the approvals. -/
def checkApproval (goalID : String) (e : String × Approval) : Result Unit :=
  refuseIf (e.2.id ≠ e.1 ∨ e.2.goalID ≠ goalID ∨ e.2.scope = "" ∨ e.2.issuedBy = "")
    s!"approval {quote e.1} is malformed or belongs to another goal"

/-- The order in which the loops over the maps of a world visit them. Go leaves it open; it
decides which of several errors is reported. -/
structure Ranging where
  queues : Table Queue → List (String × Queue)
  nodes : Table Node → List (String × Node)
  approvals : Table Approval → List (String × Approval)
  ranges_queues : ∀ t, Table.Ranges t (queues t)
  ranges_nodes : ∀ t, Table.Ranges t (nodes t)
  ranges_approvals : ∀ t, Table.Ranges t (approvals t)

/-- `Scenario.NormalizeAndValidate`. The maps of a world are never nil here, so that there
is nothing to normalize. -/
def normalizeAndValidate (order : Ranging) (goal : Goal) (w : World) : Result Unit := do
  refuseIf (goal.apiVersion ≠ apiVersion) s!"api_version must be {quote apiVersion}"
  refuseIf (namePattern goal.id = false) "goal id must be lowercase DNS-style text"
  refuseIf (trimSpace goal.objective = "") "goal objective is required"
  let spec := goal.workload
  refuseIf (namePattern spec.name = false) "workload name must be lowercase DNS-style text"
  refuseIf (digestPinned spec.image = false) "workload image must be pinned by sha256 digest"
  refuseIf (spec.replicas < 1) "workload replicas must be positive"
  -- neither an agent nor a scheduled job has to listen anywhere
  refuseIf (((spec.runtime = none ∧ spec.schedule = none) ∨ spec.port ≠ 0) ∧
    (spec.port < 1 ∨ 65535 < spec.port)) "workload port must be between 1 and 65535"
  refuseIf (spec.resources.cpuMillis < 1 ∨ spec.resources.memoryMB < 1)
    "workload resources must be positive"
  refuseIf (spec.privileged = true)
    "privileged workloads are outside the v1alpha1 safety policy"
  validateVolumes spec
  validateEngine spec
  validateRuntime spec
  validateSchedule spec
  validateCanary goal
  validateSpread goal w
  validateQueues goal w.queues (order.queues w.queues)
  validateSecrets spec.secrets
  validateRoute goal
  refuseIf (w.nodes.isEmpty = true) "world must contain at least one node"
  (order.nodes w.nodes).forM checkNode
  (order.approvals w.approvals).forM (checkApproval goal.id)

/-! ### What is accepted -/

/-- The goal passes every check about itself and the nodes. -/
structure Admissible (goal : Goal) (w : World) : Prop where
  version : goal.apiVersion = apiVersion
  named : namePattern goal.id = true
  objective : trimSpace goal.objective ≠ ""
  workload : namePattern goal.workload.name = true
  pinned : digestPinned goal.workload.image = true
  replicas : ¬goal.workload.replicas < 1
  port : ¬(((goal.workload.runtime = none ∧ goal.workload.schedule = none) ∨
    goal.workload.port ≠ 0) ∧ (goal.workload.port < 1 ∨ 65535 < goal.workload.port))
  resources : ¬(goal.workload.resources.cpuMillis < 1 ∨ goal.workload.resources.memoryMB < 1)
  unprivileged : goal.workload.privileged = false
  volumes : validateVolumes goal.workload = .ok ()
  engine : validateEngine goal.workload = .ok ()
  runtime : validateRuntime goal.workload = .ok ()
  schedule : validateSchedule goal.workload = .ok ()
  canary : validateCanary goal = .ok ()
  spread : validateSpread goal w = .ok ()
  queue : checkOwnQueue goal w.queues = .ok ()
  secrets : validateSecrets goal.workload.secrets = .ok ()
  route : validateRoute goal = .ok ()
  inhabited : w.nodes.isEmpty = false
  nodes : ∀ id node, w.nodes[id]? = some node → checkNode (id, node) = .ok ()

/-- A queue as its table may hold it. -/
structure Queue.WellFormed (queue : Queue) (name : String) : Prop where
  keyed : queue.name = name
  named : namePattern name = true
  depth : 0 ≤ queue.depth
  inFlight : 0 ≤ queue.inFlight
  capped : 1 ≤ queue.maxWorkers

/-- An approval as its table may hold it. -/
structure Approval.WellFormed (approval : Approval) (id : String) : Prop where
  keyed : approval.id = id
  gated : approval.scope ≠ ""
  signed : approval.issuedBy ≠ ""

lemma checkQueue_ok {name : String} {queue : Queue} :
    checkQueue (name, queue) = .ok () ↔ queue.WellFormed name := by
  simp only [checkQueue, refuseIf_bind_ok, refuseIf_ok, not_or, not_not,
    Bool.not_eq_false, Int64.not_lt]
  constructor
  · rintro ⟨⟨hkey, hname⟩, ⟨hdepth, hflight⟩, hcap⟩
    exact ⟨hkey, hname, hdepth, hflight, hcap⟩
  · intro h
    exact ⟨⟨h.keyed, h.named⟩, ⟨h.depth, h.inFlight⟩, h.capped⟩

lemma checkApproval_ok {goalID id : String} {approval : Approval} :
    checkApproval goalID (id, approval) = .ok () ↔
      approval.WellFormed id ∧ approval.goalID = goalID := by
  simp only [checkApproval, refuseIf_ok, not_or, not_not]
  constructor
  · rintro ⟨hkey, hgoal, hscope, hissuer⟩
    exact ⟨⟨hkey, hscope, hissuer⟩, hgoal⟩
  · rintro ⟨h, hgoal⟩
    exact ⟨h.keyed, hgoal, h.gated, h.signed⟩

/-- **What is accepted**, in whatever order the maps are visited. -/
lemma normalizeAndValidate_ok_iff {order : Ranging} {goal : Goal} {w : World} :
    normalizeAndValidate order goal w = .ok () ↔ Admissible goal w ∧
      (∀ name (queue : Queue), w.queues[name]? = some queue → queue.WellFormed name) ∧
      ∀ id (approval : Approval), w.approvals[id]? = some approval →
        approval.WellFormed id ∧ approval.goalID = goal.id := by
  simp only [normalizeAndValidate, validateQueues, check_bind_ok, refuseIf_ok, ne_eq, not_not,
    Bool.not_eq_false, Bool.not_eq_true, (order.ranges_queues w.queues).forM_ok,
    (order.ranges_nodes w.nodes).forM_ok, (order.ranges_approvals w.approvals).forM_ok,
    checkQueue_ok, checkApproval_ok]
  constructor
  · rintro ⟨hversion, hid, hobjective, hname, himage, hreplicas, hport, hresources, hprivileged,
      hvolumes, hengine, hruntime, hschedule, hcanary, hspread, ⟨hqueues, hqueue⟩, hsecrets,
      hroute, hempty, hnodes, happrovals⟩
    exact ⟨⟨hversion, hid, hobjective, hname, himage, hreplicas, hport, hresources, hprivileged,
      hvolumes, hengine, hruntime, hschedule, hcanary, hspread, hqueue, hsecrets, hroute, hempty,
      hnodes⟩, hqueues, happrovals⟩
  · rintro ⟨h, hqueues, happrovals⟩
    exact ⟨h.version, h.named, h.objective, h.workload, h.pinned, h.replicas, h.port, h.resources,
      h.unprivileged, h.volumes, h.engine, h.runtime, h.schedule, h.canary, h.spread,
      ⟨hqueues, h.queue⟩, h.secrets, h.route, h.inhabited, h.nodes, happrovals⟩

end A4s
