/-
What a node keeps for its allocations (`node/volume.go`, `node/secret.go` and
`node/desired.go`): the volumes and who may write them, the secrets that were placed
for an allocation, and the intent the server authorised.

File contents are not modelled. What the file system, the secret broker and the
container runtime answer is read from a `Machine`, one for each call; a refusal of
theirs is an `error` of the call.
-/
import A4s.Control.Types
import A4s.Go.Proc

namespace A4s.Daemon

open Go

/-! ### The machine -/

/-- A started task, as the runtime reports it. -/
structure BackendTask where
  pid : ℕ
  alreadyRunning : Bool
  deriving DecidableEq

/-- The observed result of stopping a task. -/
structure BackendStop where
  exitCode : ℕ
  alreadyGone : Bool
  killed : Bool
  deriving DecidableEq

/-- An allocation's own network namespace and address, as the network backend reports
it. -/
structure NetworkAttachment where
  address : String
  namespace_ : String
  interface : String
  alreadyAttached : Bool
  deriving DecidableEq

/-- What one call reads from outside the repository: the clock, the outcome of file
operations, the secret broker, the container runtime, the network backend, what a
probe measured and the entropy source. -/
structure Machine where
  now : Time
  mkdir : String → Result Unit
  saveVolumes : Result Unit
  saveDesired : Result Unit
  saveQueue : Result Unit
  saveLedger : Result Unit
  writeSecret : String → Result Unit
  removeSecrets : String → Result Unit
  fetch : SecretRef → Result Bytes
  pull : String → Result String
  load : String → Result Unit
  getImage : String → Result Unit
  newContainer : String → Result Unit
  start : String → Result BackendTask
  stop : String → Result BackendStop
  delete : String → Result Bool
  attach : String → Result NetworkAttachment
  detach : String → Result Bool
  namespace_ : String → String
  validIP : String → Bool
  observe : ProbeTarget → Result (Bool × Table String)
  token : Result String
  provision : String → Result Unit
  revoke : String → Result Unit

/-- A host on which every call succeeds at once. -/
def quietMachine : Machine :=
  { now := 100 * second, mkdir := fun _ => .ok (), saveVolumes := .ok (), saveDesired := .ok ()
    saveQueue := .ok (), saveLedger := .ok (), writeSecret := fun _ => .ok ()
    removeSecrets := fun _ => .ok (), fetch := fun _ => .ok [], pull := fun _ => .ok ""
    load := fun _ => .ok (), getImage := fun _ => .ok (), newContainer := fun _ => .ok ()
    start := fun _ => .ok ⟨1, false⟩, stop := fun _ => .ok ⟨0, false, false⟩
    delete := fun _ => .ok true, attach := fun id => .ok ⟨"10.42.1.2", id, "eth0", false⟩
    detach := fun _ => .ok true
    namespace_ := fun id => id, validIP := fun _ => true, observe := fun _ => .ok (true, ∅)
    token := .ok "token", provision := fun _ => .ok (), revoke := fun _ => .ok () }

/-! ### Volumes -/

/-- The node's durable record of one volume and who holds it. -/
structure VolumeRecord where
  name : String
  path : String
  owner : String := ""
  generation : UInt64 := 0
  deriving DecidableEq

/-- Durable storage on one node. -/
structure Volumes where
  root : String
  volumes : Table VolumeRecord := ∅
  deriving DecidableEq

/-- A durable volume bound into a container. -/
structure VolumeMountSpec where
  source : String
  destination : String
  readOnly : Bool
  deriving DecidableEq

def volumeEvidence (kind : EvidenceKind) (target : String) (observed : List (String × String)) :
    Evidence :=
  { kind := kind, target := target, observed := Table.ofEntries observed }

/-- `fmt.Sprintf("%d", u)` of a `uint64`. -/
def sprintUint (u : UInt64) : String := toString u.toNat

namespace Volumes

/-- Writing a record and persisting the records; a failed write leaves the record. -/
def store (m : Machine) (name : String) (record : VolumeRecord) : Proc Volumes Unit := do
  Proc.modify fun v => { v with volumes := v.volumes.insert name record }
  Proc.lift m.saveVolumes

/-- Re-creating a volume touches neither its data nor its ownership. -/
def create (m : Machine) (a : Action) (ref : VolumeRef) : Proc Volumes Evidence := do
  let v ← Proc.read id
  match v.volumes[ref.name]? with
  | some existing =>
    return volumeEvidence .volumeCreated ref.name
      [("node", a.node), ("path", existing.path), ("created", "false")]
  | none =>
    let path := joinPath [v.root, ref.name]
    Proc.lift (wrapError s!"create volume {quote ref.name}: " (m.mkdir path))
    store m ref.name { name := ref.name, path := path }
    return volumeEvidence .volumeCreated ref.name
      [("node", a.node), ("path", path), ("created", "true")]

/-- The node's own single-writer check. -/
def attach (m : Machine) (a : Action) (ref : VolumeRef) : Proc Volumes Evidence := do
  let v ← Proc.read id
  let record ← Proc.lift (require v.volumes[ref.name]?
    s!"volume {quote ref.name} does not exist on this node")
  Proc.guard (record.owner ≠ "" ∧ record.owner ≠ a.target)
    s!"volume {quote ref.name} is held by allocation {quote record.owner}"
  let held := if record.owner ≠ a.target then
      { record with owner := a.target, generation := record.generation + 1 } else record
  Proc.when (record.owner ≠ a.target) (store m ref.name held)
  return volumeEvidence .volumeAttached ref.name
    [("allocation", a.target), ("path", held.path), ("mount_path", ref.mountPath),
      ("generation", sprintUint held.generation)]

/-- A replayed detach succeeds, and a stale one does not release the volume. -/
def detach (m : Machine) (a : Action) (ref : VolumeRef) : Proc Volumes Evidence := do
  let v ← Proc.read id
  match v.volumes[ref.name]? with
  | none =>
    return volumeEvidence .volumeDetached ref.name
      [("allocation", a.target), ("released", "false")]
  | some record =>
    Proc.guard (record.owner ≠ "" ∧ record.owner ≠ a.target)
      s!"allocation {quote a.target} does not hold volume {quote ref.name}"
    let freed := { record with owner := "", generation := record.generation + 1 }
    store m ref.name freed
    return volumeEvidence .volumeDetached ref.name
      [("allocation", a.target), ("released", "true"),
        ("generation", sprintUint freed.generation)]

/-- `Volumes.Mounts`: the mounts of an allocation, of the volumes it holds. -/
def mounts (v : Volumes) (allocation : String) (refs : List VolumeRef) : List VolumeMountSpec :=
  refs.filterMap fun ref =>
    match v.volumes[ref.name]? with
    | none => none
    | some record =>
      if record.owner ≠ allocation then none
      else some { source := record.path, destination := ref.mountPath, readOnly := ref.readOnly }

section Specs

variable {m : Machine} {a : Action} {ref : VolumeRef} {v v' : Volumes} {e : Evidence}

/-- A record that changes hands between others is not seen in the mounts. -/
lemma mounts_store {name id : String} {record : VolumeRecord} (hnew : record.owner ≠ id)
    (hold : ∀ r, v.volumes[name]? = some r → r.owner ≠ id) (refs : List VolumeRef) :
    mounts { v with volumes := v.volumes.insert name record } id refs = v.mounts id refs := by
  refine List.filterMap_congr fun ref _ => ?_
  by_cases hname : ref.name = name
  · rw [hname, get_insert_self]
    cases hget : v.volumes[name]? with
    | none => simp [hnew]
    | some r => simp [hnew, hold r hget]
  · rw [get_insert_of_ne hname]

/-- A new volume belongs to nobody. -/
lemma create_spec (h : Proc.Returns (create m a ref) v e v') :
    (e.kind = .volumeCreated ∧ e.target = ref.name) ∧
      ∀ {id : String}, id ≠ "" → ∀ refs, v'.mounts id refs = v.mounts id refs := by
  simp only [create, returns_bind, returns_read] at h
  obtain ⟨_, _, ⟨rfl, rfl⟩, h⟩ := h
  cases hget : v.volumes[ref.name]? with
  | some existing =>
    simp only [id_eq, hget, returns_pure] at h
    obtain ⟨rfl, rfl⟩ := h
    exact ⟨⟨rfl, rfl⟩, fun _ _ => rfl⟩
  | none =>
    simp only [id_eq, hget, store, returns_bind, returns_lift, returns_modify, returns_pure] at h
    obtain ⟨_, _, ⟨-, rfl⟩, _, _, ⟨_, _, rfl, -, rfl⟩, rfl, rfl⟩ := h
    refine ⟨⟨rfl, rfl⟩, fun hid refs => mounts_store hid.symm (fun r hr => ?_) refs⟩
    rw [hget] at hr
    cases hr

/-- A volume is attached from nobody, and seen by its new owner alone. -/
lemma attach_spec (h : Proc.Returns (attach m a ref) v e v') :
    (e.kind = .volumeAttached ∧ e.target = ref.name ∧ e.observed["allocation"]? = some a.target) ∧
      ∀ {id : String}, id ≠ "" → id ≠ a.target → ∀ refs,
        v'.mounts id refs = v.mounts id refs := by
  simp only [attach, returns_bind, returns_read, returns_lift, returns_guard, returns_when,
    returns_modify, returns_pure, store, require_ok, decide_eq_true_eq] at h
  obtain ⟨_, _, ⟨rfl, rfl⟩, record, _, ⟨hget, rfl⟩, _, _, ⟨hfree, rfl⟩, _, _, hstore, rfl, rfl⟩ := h
  refine ⟨⟨rfl, rfl, by simp [volumeEvidence]⟩, fun hid hother refs => ?_⟩
  rcases hstore with ⟨hmoved, _, _, rfl, -, rfl⟩ | ⟨-, rfl⟩
  · rw [if_pos hmoved]
    have hnobody : record.owner = "" := not_not.mp fun hheld => hfree ⟨hheld, hmoved⟩
    refine mounts_store hother.symm (fun r hr => ?_) refs
    cases hget.symm.trans hr
    rw [hnobody]
    exact hid.symm
  · rfl

lemma detach_spec (h : Proc.Returns (detach m a ref) v e v') :
    e.kind = .volumeDetached ∧ e.target = ref.name ∧
      e.observed["allocation"]? = some a.target := by
  simp only [detach, returns_bind, returns_read] at h
  obtain ⟨_, _, ⟨rfl, rfl⟩, h⟩ := h
  split at h
  · obtain ⟨rfl, -⟩ := returns_pure.mp h
    exact ⟨rfl, rfl, by simp [volumeEvidence]⟩
  · simp only [returns_bind, returns_pure] at h
    obtain ⟨_, _, -, _, _, -, rfl, -⟩ := h
    exact ⟨rfl, rfl, by simp [volumeEvidence]⟩

end Specs

end Volumes

/-! ### Secrets -/

/-- Where material was placed and which version it was. -/
structure SecretMount where
  name : String
  version : String
  path : String
  deriving DecidableEq

/-- A secret file bound into a container. -/
structure SecretMountSpec where
  source : String
  destination : String
  deriving DecidableEq

structure Secrets where
  root : String
  mounts : Table (Table SecretMount) := ∅
  deriving DecidableEq

namespace Secrets

/-- The mounts of an allocation by secret name. -/
def mountsOf (s : Secrets) (allocation : String) : Table SecretMount :=
  s.mounts[allocation]?.getD ∅

/-- Version and location, never material. -/
def mountEvidence (allocation : String) (mount : SecretMount) (repeated : Bool) : Evidence :=
  { kind := .secretMounted, target := allocation
    observed := Table.ofEntries [("secret", mount.name), ("version", mount.version),
      ("mount_path", mount.path), ("repeated", if repeated then "true" else "false")] }

/-- Where `write` places material: under the allocation's directory. -/
def pathFor (s : Secrets) (allocation : String) (ref : SecretRef) : String :=
  joinPath [joinPath [s.root, allocation], basePath ref.mountPath]

/-- `Secrets.Execute`: a repeated mount returns the existing one. -/
def execute (m : Machine) (a : Action) : Proc Secrets Evidence := do
  let s ← Proc.read id
  Proc.guard (a.target = "") "mount secret requires target and reference"
  let ref ← Proc.lift (require a.secret "mount secret requires target and reference")
  match (s.mountsOf a.target)[ref.name]?.filter fun mount =>
      decide (mount.version = ref.version) with
  | some existing => return mountEvidence a.target existing true
  | none =>
    let material ← Proc.lift (wrapError
      s!"fetch secret {quote ref.name} version {quote ref.version}: " (m.fetch ref))
    Proc.guard (material = [])
      s!"secret {quote ref.name} version {quote ref.version} is empty"
    Proc.lift (wrapError "create secret directory: " (m.mkdir (joinPath [s.root, a.target])))
    Proc.lift (wrapError s!"write secret {quote ref.name}: "
      (m.writeSecret (s.pathFor a.target ref)))
    let mount : SecretMount :=
      { name := ref.name, version := ref.version, path := s.pathFor a.target ref }
    Proc.modify fun s => { s with
      mounts := s.mounts.insert a.target ((s.mountsOf a.target).insert ref.name mount) }
    return mountEvidence a.target mount false

/-- `Secrets.Release`: a deleted workload leaves no credentials on the node. -/
def release (m : Machine) (allocation : String) : Proc Secrets Unit := do
  Proc.modify fun s => { s with mounts := s.mounts.erase allocation }
  Proc.lift (wrapError s!"remove secret directory for {quote allocation}: "
    (m.removeSecrets allocation))

/-- The mounts the production wiring hands to the container runtime: a secret is bound
where it was placed. -/
def specs (s : Secrets) (allocation : String) : List SecretMountSpec :=
  (s.mountsOf allocation).toList.map fun (_, mount) =>
    { source := mount.path, destination := mount.path }

/-- A secret is mounted for the allocation the action targets. -/
lemma execute_spec {m : Machine} {a : Action} {s s' : Secrets} {e : Evidence}
    (h : Proc.Returns (execute m a) s e s') :
    (e.kind = .secretMounted ∧ e.target = a.target) ∧
      ∀ {id : String}, id ≠ a.target → s'.mountsOf id = s.mountsOf id := by
  simp only [execute, returns_bind, returns_read, returns_guard, returns_lift, require_ok] at h
  obtain ⟨_, _, ⟨rfl, rfl⟩, _, _, ⟨-, rfl⟩, ref, _, ⟨-, rfl⟩, h⟩ := h
  split at h
  · obtain ⟨rfl, rfl⟩ := returns_pure.mp h
    exact ⟨⟨rfl, rfl⟩, fun _ => rfl⟩
  · simp only [returns_bind, returns_lift, returns_guard, returns_modify, returns_pure] at h
    obtain ⟨_, _, ⟨-, rfl⟩, _, _, ⟨-, rfl⟩, _, _, ⟨-, rfl⟩, _, _, ⟨-, rfl⟩, _, _, rfl, rfl,
      rfl⟩ := h
    refine ⟨⟨rfl, rfl⟩, fun hother => ?_⟩
    rw [mountsOf, get_insert_of_ne hother]
    rfl

end Secrets

/-! ### Desired state -/

/-- What the node believes should be running locally. -/
structure DesiredAllocation where
  id : String
  workload : String
  image : String
  resources : Resources
  running : Bool
  probe : ProbeTarget
  volumes : List VolumeRef := []
  restarts : Int64 := 0
  updatedAt : Time := 0
  deriving DecidableEq

abbrev DesiredState := Table DesiredAllocation

namespace DesiredState

def put (m : Machine) (id : String) (entry : DesiredAllocation) : Proc DesiredState Unit := do
  Proc.modify fun d => d.insert id entry
  Proc.lift m.saveDesired

/-- `Record`: intent for an allocation; restarts are kept, volumes are not. -/
def record (m : Machine) (entry : DesiredAllocation) : Proc DesiredState Unit := do
  Proc.guard (entry.id = "") "desired allocation requires an id"
  let d ← Proc.read id
  put m entry.id (match d[entry.id]? with
    | some existing => { entry with restarts := existing.restarts }
    | none => entry)

def forget (m : Machine) (id : String) : Proc DesiredState Unit := do
  let d ← Proc.read (fun d => d)
  Proc.when d[id]?.isSome do
    Proc.modify fun d => d.erase id
    Proc.lift m.saveDesired

def setRunning (m : Machine) (id : String) (running : Bool) : Proc DesiredState Unit := do
  let d ← Proc.read (fun d => d)
  match d[id]? with
  | none => return ()
  | some entry => put m id { entry with running := running, updatedAt := m.now }

/-- A volume is recorded once for each name. -/
def addVolume (m : Machine) (id : String) (ref : VolumeRef) : Proc DesiredState Unit := do
  let d ← Proc.read (fun d => d)
  match d[id]? with
  | none => return ()
  | some entry =>
    if entry.volumes.any (fun existing => decide (existing.name = ref.name)) then return ()
    else put m id { entry with volumes := entry.volumes ++ [ref], updatedAt := m.now }

end DesiredState

end A4s.Daemon
