/-
The executor of a server (`Registry` and `RegistryExecutor` of `node/listen.go`).

A server drives several nodes. The registry holds the session of each node that is connected,
and the executor hands an action to the node that the action names, over a remote executor that
it makes at the first action for the node and keeps.

* `Registry`, `RegistryExecutor`: the sessions and the remote executors, with what enrolment
  guarantees of them.
* `route`, `execute`: an action without a node is refused before anything else is looked at, also
  one that the control plane settles itself.
* `HoldsTarget`: the node on which what an action is about is found or will be.
* `Dispatched`: the action is handed to that node, over its current session.
* `dispatched_iff`: which actions of the built-in agents are.
-/
import A4s.Control.Proposers
import A4s.Node.Remote

namespace A4s.Daemon

open Go

/-! ### Sessions -/

/-- `NodeConnection`: a session of an enrolled node; the sessions of a node are counted. -/
structure NodeConnection where
  nodeID : String
  serial : ℕ := 0
  deriving DecidableEq

/-- `Registry`: the current session of each connected node. `acceptNode` refuses a hello
without a node id. -/
structure Registry where
  nodes : Table NodeConnection := ∅
  named : ∀ (n : String) (c : NodeConnection), nodes[n]? = some c → c.nodeID = n ∧ n ≠ ""

namespace Registry

/-- `NewRegistry`. -/
def empty : Registry :=
  { named := by
      intro n c h
      rw [Std.ExtTreeMap.getElem?_empty] at h
      cases h }

/-- `add`: a node that connects again replaces its session, and the old one is closed. -/
def add (r : Registry) (c : NodeConnection) (hnamed : c.nodeID ≠ "") : Registry :=
  { nodes := r.nodes.insert c.nodeID c
    named := by
      intro n d h
      rw [get_insert] at h
      split_ifs at h with hn
      · cases h
        exact ⟨hn.symm, hn ▸ hnamed⟩
      · exact r.named n d h }

/-- `Remove`. -/
def remove (r : Registry) (nodeID : String) : Registry :=
  { nodes := r.nodes.erase nodeID
    named := by
      intro n c h
      rw [get_erase] at h
      split_ifs at h with hn
      exact r.named n c h }

/-- `Get`. -/
def get (r : Registry) (nodeID : String) : Option NodeConnection := r.nodes[nodeID]?

lemma ne_empty_of_get {r : Registry} {n : String} {c : NodeConnection} (h : r.get n = some c) :
    n ≠ "" :=
  (r.named n c h).2

end Registry

/-! ### The executor -/

/-- A remote executor and the session it was made for. -/
structure Remote where
  executor : RemoteExecutor
  connection : NodeConnection

structure RegistryExecutor where
  registry : Registry
  keyID : String
  key : Bytes
  ttl : Duration := defaultEnvelopeTTL
  nodeKeys : Table Bytes := ∅
  requireAttestation : Bool := false
  attestationMaxAge : Duration := 0
  goalID : String := ""
  proposalID : String := ""
  revision : UInt64 := 0
  leaseID : String := ""
  executors : Table Remote := ∅
  own : ∀ (n : String) (x : Remote), executors[n]? = some x → x.executor.nodeID = n

namespace RegistryExecutor

/-- `NewRegistryExecutor`. -/
def new (registry : Registry) (keyID : String) (key : Bytes) : RegistryExecutor :=
  { registry := registry, keyID := keyID, key := key
    own := by
      intro n x h
      rw [Std.ExtTreeMap.getElem?_empty] at h
      cases h }

/-- The remote executor for a node, bound to the current proposal. -/
def opened (e : RegistryExecutor) (nodeID : String) (connection : NodeConnection) : Remote :=
  { connection := connection
    executor :=
      { nodeID := nodeID, keyID := e.keyID, privateKey := e.key, ttl := e.ttl
        nodeKeys := e.nodeKeys, requireAttestation := e.requireAttestation
        maxAge := e.attestationMaxAge, goalID := e.goalID, proposalID := e.proposalID
        revision := e.revision, leaseID := e.leaseID } }

/-- The executor of a node, as it is now. -/
def keep (e : RegistryExecutor) (x : Remote) : RegistryExecutor :=
  { e with
    executors := e.executors.insert x.executor.nodeID x
    own := by
      intro n y h
      rw [get_insert] at h
      split_ifs at h with hn
      · cases h
        exact hn.symm
      · exact e.own n y h }

/-- `Bind`: the authorisation the following actions belong to, for every executor. -/
def bind_ (goalID proposalID : String) (revision : UInt64) (leaseID : String) :
    Proc RegistryExecutor Unit :=
  Proc.modify fun e =>
    { e with
      goalID := goalID, proposalID := proposalID, revision := revision, leaseID := leaseID
      executors := e.executors.map fun _ x => { x with
        executor := (RemoteExecutor.bind_ goalID proposalID revision leaseID x.executor).2 }
      own := by
        intro n y h
        rw [Std.ExtTreeMap.getElem?_map] at h
        obtain ⟨x, hx, rfl⟩ := Option.map_eq_some_iff.mp h
        exact e.own n x hx }

/-- `executorFor`: an executor that is kept is used as it is, over the session it was made for. -/
def executorFor (nodeID : String) : Proc RegistryExecutor Remote := do
  let e ← Proc.read id
  match e.executors[nodeID]? with
  | some x => return x
  | none =>
    let connection ←
      Proc.lift (require (e.registry.get nodeID) s!"node {quote nodeID} is not connected")
    Proc.modify fun e => e.keep (e.opened nodeID connection)
    return e.opened nodeID connection

/-- Where `Execute` hands an action to. -/
def route (a : Action) : Proc RegistryExecutor Remote := do
  Proc.guard (a.node = "") s!"action {quote a.id} does not name a node"
  executorFor a.node

/-- `Execute`, over what each session answers. -/
def execute (wire : Wire) (send : NodeConnection → SignedAction → Result DispatchResponse)
    (issued answered : Time) (a : Action) : Proc RegistryExecutor Evidence := do
  let x ← route a
  Proc.onField (fun _ => x.executor) (fun e y => e.keep { x with executor := y })
    (RemoteExecutor.execute wire (some (send x.connection)) issued answered a)

/-- The executor that is kept for a node, if one is, was made for the node's current session. -/
def Current (e : RegistryExecutor) (n : String) : Prop :=
  ∀ x, e.executors[n]? = some x → e.registry.get n = some x.connection

variable {e e' : RegistryExecutor} {x : Remote} {n : String}

lemma executorFor_returns (h : (executorFor n).Returns e x e') :
    e.executors[n]? = some x ∨
      e.executors[n]? = none ∧ ∃ c, e.registry.get n = some c ∧ x = e.opened n c := by
  unfold executorFor at h
  obtain ⟨_, _, hread, h⟩ := returns_bind.mp h
  obtain ⟨rfl, rfl⟩ := returns_read.mp hread
  cases hkept : e.executors[n]? with
  | some y =>
    simp only [id, hkept, returns_pure] at h
    exact .inl (congrArg some h.1)
  | none =>
    simp only [id, hkept, returns_bind, returns_lift, require_ok, returns_modify, returns_pure] at h
    obtain ⟨c, _, ⟨hsession, -⟩, -, _, -, rfl, -⟩ := h
    exact .inr ⟨rfl, c, hsession, rfl⟩

/-- A node that is connected has an executor. -/
lemma executorFor_of_connected {c : NodeConnection} (h : e.registry.get n = some c) :
    ∃ x e', (executorFor n).Returns e x e' := by
  unfold executorFor
  cases hkept : e.executors[n]? with
  | some y =>
    refine ⟨y, e, returns_bind.mpr ⟨e, e, rfl, ?_⟩⟩
    simp only [hkept, returns_pure, and_self]
  | none =>
    refine ⟨e.opened n c, e.keep (e.opened n c), returns_bind.mpr ⟨e, e, rfl, ?_⟩⟩
    simp only [hkept, h, returns_bind, returns_lift, require_ok, returns_modify, returns_pure]
    exact ⟨c, e, ⟨rfl, rfl⟩, (), _, rfl, rfl, rfl⟩

lemma executorFor_nodeID (h : (executorFor n).Returns e x e') : x.executor.nodeID = n := by
  rcases executorFor_returns h with hkept | ⟨-, c, -, rfl⟩
  · exact e.own n x hkept
  · rfl

/-- The session of the executor is the node's current one, unless the node has connected again
since the executor was made. -/
lemma executorFor_session_iff (h : (executorFor n).Returns e x e') :
    e.registry.get n = some x.connection ↔ e.Current n := by
  rcases executorFor_returns h with hkept | ⟨hnone, c, hsession, rfl⟩
  · constructor
    · intro hcurrent y hy
      rw [hkept] at hy
      cases hy
      exact hcurrent
    · intro hcurrent
      exact hcurrent x hkept
  · constructor
    · intro _ y hy
      rw [hnone] at hy
      cases hy
    · intro _
      exact hsession

lemma route_returns {a : Action} :
    (route a).Returns e x e' ↔ a.node ≠ "" ∧ (executorFor a.node).Returns e x e' := by
  unfold route
  rw [returns_bind]
  simp only [returns_guard]
  constructor
  · rintro ⟨-, _, ⟨hnode, rfl⟩, h⟩
    exact ⟨hnode, h⟩
  · rintro ⟨hnode, h⟩
    exact ⟨(), e, ⟨hnode, rfl⟩, h⟩

/-! ### Sessions over a run -/

/-- No node has connected again since the executor for it was made. -/
def AllCurrent (e : RegistryExecutor) : Prop := ∀ n, e.Current n

lemma AllCurrent.keep (h : e.AllCurrent)
    (hx : e.registry.get x.executor.nodeID = some x.connection) : (e.keep x).AllCurrent := by
  intro n y hy
  have hkept : (e.executors.insert x.executor.nodeID x)[n]? = some y := hy
  rw [get_insert] at hkept
  split_ifs at hkept with hn
  · cases hkept
    exact hn ▸ hx
  · exact h n y hkept

lemma new_allCurrent (registry : Registry) (keyID : String) (key : Bytes) :
    (new registry keyID key).AllCurrent := by
  intro n x hx
  have hnone : (∅ : Table Remote)[n]? = some x := hx
  rw [Std.ExtTreeMap.getElem?_empty] at hnone
  cases hnone

lemma bind_allCurrent (goalID proposalID : String) (revision : UInt64) (leaseID : String) :
    Proc.Preserves AllCurrent (bind_ goalID proposalID revision leaseID) := by
  intro e h n y hy
  have hmap : (e.executors.map fun _ x => { x with
      executor := (RemoteExecutor.bind_ goalID proposalID revision leaseID x.executor).2 })[n]? =
        some y := hy
  rw [Std.ExtTreeMap.getElem?_map] at hmap
  obtain ⟨x, hx, rfl⟩ := Option.map_eq_some_iff.mp hmap
  exact h n x hx

lemma executorFor_keeps_registry (n : String) :
    Proc.Keeps RegistryExecutor.registry (executorFor n) := by
  unfold executorFor
  refine keeps_bind (keeps_read _) fun e => ?_
  cases e.executors[n]? with
  | some x => exact keeps_pure _
  | none =>
    refine keeps_bind (keeps_lift _) fun c => ?_
    exact keeps_bind (keeps_modify fun _ => rfl) fun _ => keeps_pure _

lemma executorFor_allCurrent (n : String) : Proc.Preserves AllCurrent (executorFor n) := by
  intro e h
  unfold executorFor
  refine ends_bind (P := AllCurrent) h fun e₁ e₂ hread => ?_
  obtain ⟨rfl, rfl⟩ := returns_read.mp hread
  cases hkept : e.executors[n]? with
  | some x =>
    simp only [id, hkept]
    exact h
  | none =>
    simp only [id, hkept]
    refine ends_bind (P := AllCurrent) h fun c e₃ hlift => ?_
    obtain ⟨hrequire, rfl⟩ := returns_lift.mp hlift
    exact h.keep (x := e.opened n c) (require_ok.mp hrequire)

lemma route_allCurrent (a : Action) : Proc.Preserves AllCurrent (route a) :=
  preserves_bind (fun _ h => h) fun _ => executorFor_allCurrent a.node

lemma remote_keeps_nodeID (wire : Wire)
    (transport : Option (SignedAction → Result DispatchResponse)) (issued answered : Time)
    (a : Action) :
    Proc.Keeps RemoteExecutor.nodeID (RemoteExecutor.execute wire transport issued answered a) := by
  unfold RemoteExecutor.execute
  refine keeps_bind (keeps_read _) fun x => ?_
  refine keeps_bind (keeps_lift _) fun send => ?_
  refine keeps_bind (keeps_guard _ _) fun _ => ?_
  split_ifs
  · exact keeps_lift _
  · refine keeps_bind (keeps_modify fun _ => rfl) fun _ => ?_
    refine keeps_bind (keeps_lift _) fun signed => ?_
    refine keeps_bind (keeps_lift _) fun response => ?_
    refine keeps_bind (keeps_guard _ _) fun _ => ?_
    exact keeps_bind (keeps_lift _) fun result => keeps_lift _

/-- What an executor sends leaves it over the session it was made for. -/
lemma AllCurrent.handed {α : Type} {q : Proc RemoteExecutor α} (h : e.AllCurrent)
    (hx : (executorFor n).Returns e x e') (hq : Proc.Keeps RemoteExecutor.nodeID q) :
    ((Proc.onField (fun _ => x.executor) (fun e y => e.keep { x with executor := y })
      q : Proc RegistryExecutor α) e').2.AllCurrent := by
  have h' : e'.AllCurrent := (executorFor_allCurrent n).returns hx h
  refine h'.keep (x := { x with executor := _ }) ?_
  have hnode := hq x.executor
  dsimp only
  rw [hnode, executorFor_nodeID hx, (executorFor_keeps_registry n).returns hx]
  exact (executorFor_session_iff hx).mpr (h n)

/-- **As long as no node connects again, every executor is over its node's session**, however
the actions end. -/
theorem execute_allCurrent (wire : Wire)
    (send : NodeConnection → SignedAction → Result DispatchResponse) (issued answered : Time)
    (a : Action) : Proc.Preserves AllCurrent (execute wire send issued answered a) := by
  intro e h
  refine ends_bind (route_allCurrent a e h) fun x e' hroute => ?_
  exact h.handed (route_returns.mp hroute).2 (remote_keeps_nodeID _ _ _ _ _)

lemma execute_keeps_registry (wire : Wire)
    (send : NodeConnection → SignedAction → Result DispatchResponse) (issued answered : Time)
    (a : Action) :
    Proc.Keeps RegistryExecutor.registry (execute wire send issued answered a) := by
  refine keeps_bind (keeps_bind (keeps_guard _ _) fun _ => ?_) fun x => ?_
  · exact executorFor_keeps_registry a.node
  · exact keeps_onField _ fun _ _ => rfl

/-- **A node that connects again is left behind**: the executor that is kept for it stays on
the session that was closed. -/
theorem not_current_of_add {c : NodeConnection} (hnamed : c.nodeID ≠ "")
    (hkept : e.executors[c.nodeID]? = some x) (hnew : x.connection ≠ c) :
    ¬({ e with registry := e.registry.add c hnamed } : RegistryExecutor).Current c.nodeID := by
  intro hcurrent
  have hsession := hcurrent x hkept
  rw [show Registry.get _ _ = some c from get_insert_self] at hsession
  cases hsession
  exact hnew rfl

end RegistryExecutor

/-! ### Where the target of an action is -/

/-- The kinds whose target is an allocation. -/
def ofAllocation (kind : ActionKind) : Bool :=
  kind.prepares || decide (kind ∈ [ActionKind.createAllocation, .stopAllocation,
    .deleteAllocation, .drainAllocation])

/-- The kinds whose target is a node. -/
def ofNode (kind : ActionKind) : Bool :=
  decide (kind ∈ [ActionKind.applyPolicy, .publishZone, .cordonNode, .uncordonNode])

/-- The node that holds the target of an action: in the world, or after the actions that the
proposal has for it. An image is for an allocation that is created from it, a route for the
ready allocations it leads to. -/
inductive HoldsTarget (w : World) (p : Proposal) (a : Action) : String → Prop
  | allocation {key : String} {x : Allocation} (hkind : ofAllocation a.kind = true)
      (hget : w.allocations[key]? = some x) (hid : x.id = a.target) : HoldsTarget w p a x.node
  | created {c : Action} (hkind : ofAllocation a.kind = true) (hc : c ∈ p.actions)
      (hcreate : c.kind = .createAllocation) (htarget : c.target = a.target) :
      HoldsTarget w p a c.node
  | image {c : Action} (hkind : a.kind = .pullImage) (hc : c ∈ p.actions)
      (hcreate : c.kind = .createAllocation) (himage : c.image = a.target) :
      HoldsTarget w p a c.node
  | volume {key : String} {v : Volume} (hkind : a.kind = .verifyBackup ∨ a.kind = .databaseBackup)
      (hget : w.volumes[key]? = some v) (hname : key = a.target ∨ v.name = a.target) :
      HoldsTarget w p a v.node
  | attached {ref : VolumeRef} {c : Action} (hkind : a.kind = .createVolume)
      (hname : a.target = ref.name) (hc : c ∈ p.actions) (hattach : c.kind = .attachVolume)
      (href : c.volume = some ref) : HoldsTarget w p a c.node
  | node (hkind : ofNode a.kind = true) : HoldsTarget w p a a.target
  | route {key : String} {x : Allocation} (hkind : a.kind = .publishRoute)
      (hget : w.allocations[key]? = some x) (hworkload : x.workload = a.workload)
      (hready : x.ready = true) : HoldsTarget w p a x.node

/-- The nodes a world speaks of. -/
inductive Mentions (w : World) : String → Prop
  | key {n : String} {node : Node} (hget : w.nodes[n]? = some node) : Mentions w n
  | id {key : String} {node : Node} (hget : w.nodes[key]? = some node) : Mentions w node.id
  | allocation {key : String} {x : Allocation} (hget : w.allocations[key]? = some x) :
      Mentions w x.node
  | volume {key : String} {v : Volume} (hget : w.volumes[key]? = some v) : Mentions w v.node

/-- All nodes are connected. -/
def Registry.Connects (r : Registry) (w : World) : Prop :=
  ∀ n, Mentions w n → ∃ c, r.get n = some c

/-- `Execute` hands the action to the node that holds its target, over the node's current
session, or to an executor that settles it locally. -/
def Dispatched (e : RegistryExecutor) (w : World) (p : Proposal) (a : Action) : Prop :=
  ∃ x e', (RegistryExecutor.route a).Returns e x e' ∧
    (a.kind.controlPlaneLocal = true ∨
      HoldsTarget w p a x.executor.nodeID ∧
        e.registry.get x.executor.nodeID = some x.connection)

/-- Some allocation of the goal's workload is ready. -/
def SomeReady (goal : Goal) (w : World) : Prop :=
  ∃ (key : String) (x : Allocation), w.allocations[key]? = some x ∧
    x.workload = goal.workload.name ∧ x.ready = true

/-! ### What the agents propose -/

section Proposed

variable {host : Host} {goal : Goal} {w : World} {p : Proposal} {a : Action}

lemma placement_holds (hp : PlacementAgent.propose host goal w = .ok p) (ha : a ∈ p.actions) :
    Mentions w a.node ∧ HoldsTarget w p a a.node := by
  obtain ⟨⟨key, node, hget, hnode⟩, hrole⟩ := PlacementAgent.propose_roles hp ha
  refine ⟨hnode ▸ Mentions.id hget, ?_⟩
  rcases hrole with ⟨hkind, c, hc, hcreate, htarget, hsame⟩ | ⟨hkind, c, hc, hcreate, himage, hsame⟩
    | ⟨hkind, ref, -, hname, c, hc, hattach, href, hsame⟩
  · have hof : ofAllocation a.kind = true := by
      rcases hkind with hprepares | hkind
      · rw [ofAllocation, hprepares, Bool.true_or]
      · rw [hkind]
        rfl
    exact hsame ▸ HoldsTarget.created hof hc hcreate htarget
  · exact hsame ▸ HoldsTarget.image hkind hc hcreate himage
  · exact hsame ▸ HoldsTarget.attached hkind hname hc hattach href

lemma rollout_holds {r : RolloutAgent} (hp : r.propose host goal w = .ok p) (ha : a ∈ p.actions) :
    Mentions w a.node ∧ HoldsTarget w p a a.node := by
  obtain ⟨x, verb, kind, dependsOn, ⟨key, hget⟩, rfl, hkind⟩ := RolloutAgent.mem_propose hp ha
  have hof : ofAllocation kind = true := by
    rcases hkind with rfl | rfl | rfl <;> rfl
  exact ⟨Mentions.allocation hget, HoldsTarget.allocation hof hget rfl⟩

lemma storage_holds {s : StorageAgent} (ha : a ∈ (s.propose host goal w).actions) :
    Mentions w a.node ∧ HoldsTarget w (s.propose host goal w) a a.node := by
  obtain ⟨hkind, key, v, hget, hname, hnode⟩ := StorageAgent.mem_propose ha
  rw [← hnode]
  exact ⟨Mentions.volume hget, HoldsTarget.volume (.inl hkind) hget (.inr hname)⟩

lemma backup_holds {label : String} (ha : a ∈ (StorageAgent.proposeBackup goal w label).actions) :
    Mentions w a.node ∧ HoldsTarget w (StorageAgent.proposeBackup goal w label) a a.node := by
  obtain ⟨hkind, v, hget, hnode⟩ := StorageAgent.mem_proposeBackup ha
  rw [← hnode]
  exact ⟨Mentions.volume hget, HoldsTarget.volume (.inr hkind) hget (.inl rfl)⟩

lemma readyNodes_eq_nil_iff : NetworkAgent.readyNodes goal w = [] ↔ ¬SomeReady goal w := by
  rw [List.eq_nil_iff_forall_not_mem]
  constructor
  · rintro hnone ⟨key, x, hget, hworkload, hready⟩
    exact hnone x.node (NetworkAgent.mem_readyNodes.mpr ⟨key, x, hget, hworkload, hready, rfl⟩)
  · rintro hnone n hn
    obtain ⟨key, x, hget, hworkload, hready, -⟩ := NetworkAgent.mem_readyNodes.mp hn
    exact hnone ⟨key, x, hget, hworkload, hready⟩

/-- Only the publication of a route asks for a ready allocation. -/
lemma network_holds (ha : a ∈ (NetworkAgent.propose host goal w).actions)
    (hready : a.kind = .publishRoute → SomeReady goal w) :
    Mentions w a.node ∧ HoldsTarget w (NetworkAgent.propose host goal w) a a.node := by
  rcases NetworkAgent.mem_propose ha with hrules | hzones | ⟨route, -, rfl⟩
  · obtain ⟨hkind, htarget, node, _, hget, -⟩ := NetworkAgent.mem_stalePolicies hrules
    exact ⟨Mentions.key hget, htarget ▸ HoldsTarget.node (by rw [hkind]; rfl)⟩
  · obtain ⟨hkind, htarget, node, _, hget, -⟩ := NetworkAgent.mem_staleZones hzones
    exact ⟨Mentions.key hget, htarget ▸ HoldsTarget.node (by rw [hkind]; rfl)⟩
  · have hsome : NetworkAgent.readyNodes goal w ≠ [] :=
      fun hnil => readyNodes_eq_nil_iff.mp hnil (hready rfl)
    obtain ⟨key, x, hget, hworkload, hx, hnode⟩ :=
      NetworkAgent.mem_readyNodes.mp (NetworkAgent.routeNode_mem hsome)
    have hserves : (NetworkAgent.publishAction goal w route).node = x.node := hnode.symm
    rw [hserves]
    exact ⟨Mentions.allocation hget, HoldsTarget.route rfl hget hworkload hx⟩

lemma placement_of_propose (hp : BuiltIn.propose host goal w .placement = .ok p) :
    PlacementAgent.propose host goal w = .ok p := by
  cases hproposed : PlacementAgent.propose host goal w with
  | ok p' =>
    simp only [BuiltIn.propose, hproposed] at hp
    cases hp
    rfl
  | error fault =>
    simp only [BuiltIn.propose, hproposed] at hp
    cases fault <;> cases hp

lemma plain_of_prepares {kind : ActionKind} (h : kind.prepares = true) :
    kind.controlPlaneLocal = false ∧ kind ≠ .publishRoute := by
  cases kind <;> simp_all [ActionKind.prepares, ActionKind.controlPlaneLocal]

/-- Every agent but one names the node that holds the target. -/
lemma propose_holds {agent : BuiltIn} (hp : agent.propose host goal w = .ok p) (ha : a ∈ p.actions)
    (hagent : agent ≠ .remediation) (hready : a.kind = .publishRoute → SomeReady goal w) :
    Mentions w a.node ∧ HoldsTarget w p a a.node := by
  cases agent with
  | placement => exact placement_holds (placement_of_propose hp) ha
  | network =>
    cases hp
    exact network_holds ha hready
  | rollout r => exact rollout_holds hp ha
  | remediation => exact absurd rfl hagent
  | storage s =>
    cases hp
    exact storage_holds ha
  | backup label =>
    cases hp
    exact backup_holds ha

/-- A route is published by the network agent, and cordons come from one agent only. -/
lemma propose_kind {agent : BuiltIn} (hp : agent.propose host goal w = .ok p)
    (ha : a ∈ p.actions) (hagent : agent ≠ .remediation) :
    a.kind.controlPlaneLocal = false ∧ (a.kind = .publishRoute → agent = .network) := by
  have hplain : ∀ {kind : ActionKind}, a.kind = kind → kind.controlPlaneLocal = false →
      kind ≠ .publishRoute →
        a.kind.controlPlaneLocal = false ∧ (a.kind = .publishRoute → agent = .network) :=
    fun hkind hlocal hroute => ⟨hkind ▸ hlocal, fun h => absurd (hkind.symm.trans h) hroute⟩
  cases agent with
  | placement =>
    obtain ⟨-, ⟨hprepares | hkind, -⟩ | ⟨hkind, -⟩ | ⟨hkind, -⟩⟩ :=
      PlacementAgent.propose_roles (placement_of_propose hp) ha
    · obtain ⟨hlocal, hroute⟩ := plain_of_prepares hprepares
      exact hplain rfl hlocal hroute
    · exact hplain hkind rfl nofun
    · exact hplain hkind rfl nofun
    · exact hplain hkind rfl nofun
  | network =>
    cases hp
    refine ⟨?_, fun _ => rfl⟩
    rcases NetworkAgent.mem_propose ha with hrules | hzones | ⟨route, -, rfl⟩
    · rw [(NetworkAgent.mem_stalePolicies hrules).1]
      rfl
    · rw [(NetworkAgent.mem_staleZones hzones).1]
      rfl
    · rfl
  | rollout r =>
    obtain ⟨x, verb, kind, dependsOn, -, rfl, rfl | rfl | rfl⟩ := RolloutAgent.mem_propose hp ha
    · exact hplain rfl rfl nofun
    · exact hplain rfl rfl nofun
    · exact hplain rfl rfl nofun
  | remediation => exact absurd rfl hagent
  | storage s =>
    cases hp
    exact hplain (StorageAgent.mem_propose ha).1 rfl nofun
  | backup label =>
    cases hp
    exact hplain (StorageAgent.mem_proposeBackup ha).1 rfl nofun

/-- An action that names a node is not the remediation agent's, and a route that names one leads
to a ready allocation. -/
lemma propose_named {agent : BuiltIn} (hp : agent.propose host goal w = .ok p)
    (ha : a ∈ p.actions) (hnode : a.node ≠ "") :
    agent ≠ .remediation ∧ (a.kind = .publishRoute → SomeReady goal w) := by
  have hagent : agent ≠ .remediation := by
    rintro rfl
    cases hp
    exact hnode (RemediationAgent.mem_propose ha)
  refine ⟨hagent, fun hroute => ?_⟩
  obtain rfl := (propose_kind hp ha hagent).2 hroute
  cases hp
  by_contra hnone
  rcases NetworkAgent.mem_propose ha with hrules | hzones | ⟨route, -, rfl⟩
  · rw [(NetworkAgent.mem_stalePolicies hrules).1] at hroute
    cases hroute
  · rw [(NetworkAgent.mem_staleZones hzones).1] at hroute
    cases hroute
  · exact hnode (NetworkAgent.routeNode_of_nil (readyNodes_eq_nil_iff.mpr hnone))

/-- **Which actions reach the node that holds their target.** With all nodes connected it is
every action of every agent but the remediation agent, which names no node; a route needs a ready
allocation to lead to, and a node that has connected again is still addressed over the session
it had. -/
theorem dispatched_iff {agent : BuiltIn} {e : RegistryExecutor}
    (hp : agent.propose host goal w = .ok p) (ha : a ∈ p.actions) (hall : e.registry.Connects w) :
    Dispatched e w p a ↔
      agent ≠ .remediation ∧ (a.kind = .publishRoute → SomeReady goal w) ∧ e.Current a.node := by
  constructor
  · rintro ⟨x, e', hroute, hwhere⟩
    obtain ⟨hnode, hexecutor⟩ := RegistryExecutor.route_returns.mp hroute
    obtain ⟨hagent, hready⟩ := propose_named hp ha hnode
    refine ⟨hagent, hready, ?_⟩
    rcases hwhere with hlocal | ⟨-, hsession⟩
    · rw [(propose_kind hp ha hagent).1] at hlocal
      cases hlocal
    · rw [RegistryExecutor.executorFor_nodeID hexecutor] at hsession
      exact (RegistryExecutor.executorFor_session_iff hexecutor).mp hsession
  · rintro ⟨hagent, hready, hcurrent⟩
    obtain ⟨hmentioned, hholds⟩ := propose_holds hp ha hagent hready
    obtain ⟨c, hc⟩ := hall a.node hmentioned
    obtain ⟨x, e', hexecutor⟩ := RegistryExecutor.executorFor_of_connected hc
    have hnode : a.node ≠ "" := Registry.ne_empty_of_get hc
    refine ⟨x, e', RegistryExecutor.route_returns.mpr ⟨hnode, hexecutor⟩, .inr ?_⟩
    rw [RegistryExecutor.executorFor_nodeID hexecutor]
    exact ⟨hholds, (RegistryExecutor.executorFor_session_iff hexecutor).mpr hcurrent⟩

end Proposed

namespace Repair

def goal : Goal :=
  { id := "web", workload := { name := "web", image := "web@sha256:2", replicas := 1 } }

/-- One node that is as healthy as said, with one replica of an old version. -/
def world (healthy : Bool) (phase : AllocationPhase) : World :=
  { nodes := Table.ofEntries [("n1", { id := "n1", healthy := healthy })]
    allocations := Table.ofEntries
      [("web-0", { id := "web-0", workload := "web", node := "n1", image := "web@sha256:1"
                   phase := phase })] }

/-- A server with the node connected, before the first action of a proposal. -/
def executor : RegistryExecutor :=
  (RegistryExecutor.bind_ "web" "proposal" 0 ""
    (RegistryExecutor.new (Registry.empty.add { nodeID := "n1" } (by decide)) "key" [])).2

lemma executor_connects (healthy : Bool) (phase : AllocationPhase) :
    executor.registry.Connects (world healthy phase) := by
  have hsession : ∀ n, n = "n1" → ∃ c, executor.registry.get n = some c := by
    rintro n rfl
    exact ⟨{ nodeID := "n1" }, get_insert_self⟩
  intro n hn
  refine hsession n ?_
  cases hn with
  | key hget =>
    simp only [world, Table.ofEntries, get_insert] at hget
    split_ifs at hget with hkey
    · exact hkey
    · cases hget
  | id hget =>
    simp only [world, Table.ofEntries, get_insert] at hget
    split_ifs at hget with hkey
    · cases hget
      rfl
    · cases hget
  | allocation hget =>
    simp only [world, Table.ofEntries, get_insert] at hget
    split_ifs at hget with hkey
    · cases hget
      rfl
    · cases hget
  | volume hget => cases hget

/-- All nodes are connected, the remediation agent proposes the action, the kernel accepts the
proposal, and the server does not carry the action out. -/
structure Refused (w : World) (a : Action) (text : String) : Prop where
  connected : executor.registry.Connects w
  proposed : (RemediationAgent.propose goal w).actions = [a]
  accepted : authorize quietHost ⟨defaultPolicy⟩ RemediationAgent.descriptor goal w
    (RemediationAgent.propose goal w) = .ok ()
  refused : ∀ wire send issued answered,
    (RegistryExecutor.execute wire send issued answered a executor).1 = fail text

/-- What a rollout does about the stopped replica. -/
def deletion : Action :=
  { id := "delete-web-0", kind := .deleteAllocation, target := "web-0", workload := "web"
    node := "n1" }

def retirement : Proposal :=
  { id := "rollout-agent-r0", agentID := "rollout-agent", goalID := "web", basedOnRevision := 0
    reasoning :=
      "retire one allocation that no longer matches the goal, within the availability budget"
    actions := [deletion] }

end Repair

open Repair

/-- A rollout deletes the stopped replica on the node where it is. -/
theorem dispatched_rollout :
    (BuiltIn.rollout {}).propose quietHost goal (world true .stopped) = .ok retirement ∧
      Dispatched executor (world true .stopped) retirement deletion := by
  have hproposed : (BuiltIn.rollout {}).propose quietHost goal (world true .stopped) =
      .ok retirement := rfl
  have hcurrent : executor.AllCurrent :=
    RegistryExecutor.bind_allCurrent _ _ _ _ _ (RegistryExecutor.new_allCurrent _ _ _)
  refine ⟨hproposed, ?_⟩
  refine (dispatched_iff hproposed List.mem_cons_self (executor_connects _ _)).mpr ?_
  exact ⟨nofun, nofun, hcurrent _⟩

/-- The cordon of a failed node, which the control plane settles itself, and the deletion of a
replica that has stopped. -/
theorem remediation_refused :
    Refused (world false .running) (RemediationAgent.cordonAction goal "n1")
        "action \"cordon-n1\" does not name a node" ∧
      Refused (world true .stopped)
        (RemediationAgent.actionOn goal "web-0" "delete-" .deleteAllocation [])
        "action \"delete-web-0\" does not name a node" := by
  refine ⟨⟨executor_connects _ _, by decide +kernel, by decide +kernel, ?_⟩,
    ⟨executor_connects _ _, by decide +kernel, by decide +kernel, ?_⟩⟩
  · intro wire send issued answered
    rfl
  · intro wire send issued answered
    rfl

end A4s.Daemon
