/-
Where a server's actions and probes end up (`node/listen.go`, `node/observe.go`,
`node/handoff.go`).

* `Hub`: the registry with the executors and the observers over it, as nodes enrol and leave.
* `hub_current`: **while no session ends but by its node's next enrolment, and no node enrols
  again once an executor is kept for it, everything travels over the newest session**.
* `Volumes.quiesce`: the node's part in the first step of a move.
* `quiesce_misdelivered`: **an authorized quiesce is delivered to a node that does not hold the
  volume**.
-/
import A4s.Go.Run
import A4s.Control.Handoff
import A4s.Node.Registry

namespace A4s.Daemon

open Go

/-! ### Sessions -/

/-- `Registry.Nodes`. -/
def Registry.ids (r : Registry) : List String := r.nodes.toList.map Prod.fst

/-- The action that asks a node for a measurement. -/
def probeAction (probeID : String) (target : ProbeTarget) : Action :=
  { id := probeID, kind := .probeReadiness, target := target.allocation, node := target.node
    probe := some target }

/-- `RegistryObserver.ObserveReadiness`: the observer keeps executors as `RegistryExecutor` does.
The probe names itself as the proposal it belongs to. -/
def observeReadiness (wire : Wire) (send : NodeConnection → SignedAction → Result DispatchResponse)
    (issued answered : Time) (probeID : String) (target : ProbeTarget) :
    Proc RegistryExecutor (Bool × Table String) := do
  Proc.guard (target.node = "")
    s!"probe target {quote target.allocation} does not name a node to measure on"
  let x ← RegistryExecutor.executorFor target.node
  let evidence ← Proc.onField (fun _ => x.executor) (fun e y => e.keep { x with executor := y }) do
    RemoteExecutor.bind_ "readiness" probeID 0 probeID
    RemoteExecutor.execute wire (some (send x.connection)) issued answered
      (probeAction probeID target)
  return (evidence.observed["ready"]? = some "true", evidence.observed)

/-- The executors and the observers of a server over one registry, the session each node
enrolled last, and the sessions that are alive. -/
structure Hub where
  executor : RegistryExecutor
  observer : RegistryExecutor
  latest : Table NodeConnection := ∅
  live : Table NodeConnection := ∅

/-- A node enrols, the session of a node ends, an action or a probe is sent. Nothing in the
server calls `Remove` or `Forget`. -/
inductive HubEvent where
  | enrolled (c : NodeConnection)
  | ended (nodeID : String)
  | bound (goalID proposalID : String) (revision : UInt64) (leaseID : String)
  | acted (issued answered : Time) (a : Action)
  | probed (issued answered : Time) (probeID : String) (target : ProbeTarget)

namespace Hub

def fresh (keyID : String) (key : Bytes) : Hub :=
  { executor := .new .empty keyID key, observer := .new .empty keyID key }

/-- One event. An action or a probe may fail, and what its executors have become stays. -/
def step (wire : Wire) (send : NodeConnection → SignedAction → Result DispatchResponse)
    (s : Hub) : HubEvent → Result Hub
  | .enrolled c =>
    if hnamed : c.nodeID = "" then fail "hello carries no node id"
    else .ok {
      executor := { s.executor with registry := s.executor.registry.add c hnamed }
      observer := { s.observer with registry := s.observer.registry.add c hnamed }
      latest := s.latest.insert c.nodeID c
      live := s.live.insert c.nodeID c }
  | .ended nodeID => .ok { s with live := s.live.erase nodeID }
  | .bound goalID proposalID revision leaseID =>
    .ok { s with executor := (s.executor.bind_ goalID proposalID revision leaseID).2 }
  | .acted issued answered a =>
    .ok { s with executor := (RegistryExecutor.execute wire send issued answered a s.executor).2 }
  | .probed issued answered probeID target =>
    .ok { s with
      observer := (observeReadiness wire send issued answered probeID target s.observer).2 }

/-- No session that is alive ends, and a node enrols only while no executor is kept for it. -/
def Steady (s : Hub) : HubEvent → Prop
  | .enrolled c =>
    s.executor.executors[c.nodeID]? = none ∧ s.observer.executors[c.nodeID]? = none
  | .ended nodeID => s.live[nodeID]? = none
  | _ => True

/-- The registry has the newest sessions, which are alive, and the executors are over them. -/
structure Sound (s : Hub) : Prop where
  executor : ∀ n, s.executor.registry.get n = s.latest[n]?
  observer : ∀ n, s.observer.registry.get n = s.latest[n]?
  acts : s.executor.AllCurrent
  probes : s.observer.AllCurrent
  live : ∀ n : String, s.live[n]? = s.latest[n]?

end Hub

/-! ### What one event keeps -/

section Steps

variable (wire : Wire) (send : NodeConnection → SignedAction → Result DispatchResponse)
  (issued answered : Time)

lemma observeReadiness_allCurrent (probeID : String) (target : ProbeTarget) :
    Proc.Preserves RegistryExecutor.AllCurrent
      (observeReadiness wire send issued answered probeID target) := by
  intro e h
  refine ends_bind (P := RegistryExecutor.AllCurrent) h fun _ e₁ hguard => ?_
  obtain ⟨-, rfl⟩ := returns_guard.mp hguard
  refine ends_bind (RegistryExecutor.executorFor_allCurrent _ e h) fun x e₂ hx => ?_
  have hhanded := h.handed hx (q := do
    RemoteExecutor.bind_ "readiness" probeID 0 probeID
    RemoteExecutor.execute wire (some (send x.connection)) issued answered
      (probeAction probeID target))
    (keeps_bind (keeps_modify fun _ => rfl) fun _ =>
      RegistryExecutor.remote_keeps_nodeID _ _ _ _ _)
  refine ends_bind hhanded fun _ _ hreturns => ?_
  rw [hreturns] at hhanded
  exact hhanded

lemma observeReadiness_keeps_registry (probeID : String) (target : ProbeTarget) :
    Proc.Keeps RegistryExecutor.registry
      (observeReadiness wire send issued answered probeID target) := by
  refine keeps_bind (keeps_guard _ _) fun _ => ?_
  refine keeps_bind (RegistryExecutor.executorFor_keeps_registry _) fun x => ?_
  refine keeps_bind (keeps_onField _ fun _ _ => rfl) fun _ => keeps_pure _

end Steps

namespace Hub

/-- A node for which no executor is kept may enrol. -/
lemma allCurrent_add {e : RegistryExecutor} {c : NodeConnection} (hnamed : c.nodeID ≠ "")
    (h : e.AllCurrent) (hnone : e.executors[c.nodeID]? = none) :
    ({ e with registry := e.registry.add c hnamed } : RegistryExecutor).AllCurrent := by
  intro n x hx
  have hne : n ≠ c.nodeID := by
    rintro rfl
    rw [hnone] at hx
    cases hx
  exact (get_insert_of_ne hne).trans (h n x hx)

variable {wire : Wire} {send : NodeConnection → SignedAction → Result DispatchResponse}
  {s t : Hub} {i : HubEvent}

/-- A step of the executors that keeps their registry. -/
lemma Sound.executing (hs : Sound s) {e : RegistryExecutor}
    (hregistry : e.registry = s.executor.registry) (hcurrent : e.AllCurrent) :
    Sound { s with executor := e } := by
  refine ⟨fun n => ?_, hs.observer, hcurrent, hs.probes, hs.live⟩
  rw [hregistry]
  exact hs.executor n

lemma Sound.observing (hs : Sound s) {e : RegistryExecutor}
    (hregistry : e.registry = s.observer.registry) (hcurrent : e.AllCurrent) :
    Sound { s with observer := e } := by
  refine ⟨hs.executor, fun n => ?_, hs.acts, hcurrent, hs.live⟩
  rw [hregistry]
  exact hs.observer n

lemma Sound.after (hs : Sound s) (hsteady : Steady s i) (h : step wire send s i = .ok t) :
    Sound t := by
  cases i with
  | enrolled c =>
    simp only [step] at h
    split_ifs at h with hnamed
    · cases h
    cases h
    have hget : ∀ r : Registry, (∀ n, r.get n = s.latest[n]?) → ∀ n,
        (r.add c hnamed).get n = (s.latest.insert c.nodeID c)[n]? := by
      intro r hr n
      rw [get_insert, ← hr]
      exact get_insert ..
    refine ⟨hget _ hs.executor, hget _ hs.observer, allCurrent_add hnamed hs.acts hsteady.1,
      allCurrent_add hnamed hs.probes hsteady.2, fun n => ?_⟩
    simp only [get_insert, hs.live]
  | ended nodeID =>
    cases h
    refine ⟨hs.executor, hs.observer, hs.acts, hs.probes, fun n => ?_⟩
    rw [← hs.live, get_erase]
    split_ifs with hn
    · rw [hn]
      exact hsteady.symm
    · rfl
  | bound goalID proposalID revision leaseID =>
    cases h
    exact hs.executing rfl (RegistryExecutor.bind_allCurrent _ _ _ _ _ hs.acts)
  | acted issued answered a =>
    cases h
    exact hs.executing (RegistryExecutor.execute_keeps_registry _ _ _ _ _ _)
      (RegistryExecutor.execute_allCurrent _ _ _ _ _ _ hs.acts)
  | probed issued answered probeID target =>
    cases h
    exact hs.observing (observeReadiness_keeps_registry _ _ _ _ _ _ _)
      (observeReadiness_allCurrent _ _ _ _ _ _ _ hs.probes)

lemma fresh_sound (keyID : String) (key : Bytes) : Sound (fresh keyID key) :=
  ⟨fun _ => rfl, fun _ => rfl, RegistryExecutor.new_allCurrent _ _ _,
    RegistryExecutor.new_allCurrent _ _ _, fun _ => rfl⟩

lemma mem_ids {r : Registry} {n : String} : n ∈ r.ids ↔ (r.get n).isSome = true := by
  simp only [Registry.ids, List.mem_map, Prod.exists, exists_and_right, exists_eq_right,
    Table.mem_toList, Option.isSome_iff_exists]
  rfl

/-- What the executors or the observers send to a node goes over its newest session. -/
lemma Sound.newest (hs : Sound s) {n : String} {x : Remote} {e : RegistryExecutor}
    (h : (RegistryExecutor.executorFor n).Returns s.executor x e ∨
      (RegistryExecutor.executorFor n).Returns s.observer x e) :
    s.latest[n]? = some x.connection := by
  rcases h with h | h
  · rw [← hs.executor]
    exact (RegistryExecutor.executorFor_session_iff h).mpr (hs.acts n)
  · rw [← hs.observer]
    exact (RegistryExecutor.executorFor_session_iff h).mpr (hs.probes n)

end Hub

/-- **While no session that is alive ends and a node enrols only as long as no executor is kept
for it, `Nodes` lists the nodes with a live session, and every action and every probe is sent
over the newest session of its node.** -/
theorem hub_current (wire : Wire) (send : NodeConnection → SignedAction → Result DispatchResponse)
    (keyID : String) (key : Bytes) {events : List HubEvent} {s : Hub}
    (hrun : Run (Hub.step wire send) (Hub.fresh keyID key) events s)
    (hsteady : Run.Throughout (Hub.step wire send) Hub.Steady (Hub.fresh keyID key) events) :
    (∀ n : String, n ∈ s.executor.registry.ids ↔ s.live[n]?.isSome = true) ∧
      ∀ (n : String) (x : Remote) (e : RegistryExecutor),
        ((RegistryExecutor.executorFor n).Returns s.executor x e ∨
          (RegistryExecutor.executorFor n).Returns s.observer x e) →
        s.latest[n]? = some x.connection := by
  have hs : Hub.Sound s := Run.invariant_throughout
    (fun hs hsteady hstep => hs.after hsteady hstep) hrun hsteady (Hub.fresh_sound keyID key)
  refine ⟨fun n => ?_, fun n x e => hs.newest⟩
  rw [Hub.mem_ids, hs.executor, hs.live]

/-- A node enrols, and an action is sent to it. -/
def hubEvents : List HubEvent :=
  [.enrolled { nodeID := "n1" }, .acted 0 0 { id := "a", kind := .pullImage, node := "n1" }]

theorem hub_current_enrolled : ∃ s,
    Run (Hub.step (scriptWire []) fun _ _ => fail "no answer") (Hub.fresh "k" []) hubEvents s ∧
      ∀ (x : Remote) (e : RegistryExecutor),
        (RegistryExecutor.executorFor "n1").Returns s.executor x e →
        s.latest["n1"]? = some x.connection := by
  have hrun : Run (Hub.step (scriptWire []) fun _ _ => fail "no answer") (Hub.fresh "k" [])
      hubEvents _ := .cons rfl (.cons rfl (.nil _))
  refine ⟨_, hrun, fun x e h => (hub_current _ _ "k" [] hrun ?_).2 "n1" x e (.inl h)⟩
  exact Run.throughout_cons rfl ⟨rfl, rfl⟩
    (Run.throughout_cons rfl trivial (Run.throughout_nil _ _))

/-- The node enrols again, and then its session ends: `Nodes` still lists it, and its executor
is over the session before. -/
theorem hub_stale : ∃ s,
    Run (Hub.step (scriptWire []) fun _ _ => fail "no answer") (Hub.fresh "k" [])
        (hubEvents ++ [.enrolled { nodeID := "n1", serial := 1 }, .ended "n1"]) s ∧
      "n1" ∈ s.executor.registry.ids ∧ s.live["n1"]? = none ∧
      s.latest["n1"]? = some { nodeID := "n1", serial := 1 } ∧
      ((RegistryExecutor.executorFor "n1" s.executor).1.toOption.map Remote.connection) =
        some { nodeID := "n1", serial := 0 } := by
  refine ⟨_, .cons rfl (.cons rfl (.cons rfl (.cons rfl (.nil _)))), ?_⟩
  decide +kernel

/-! ### The first step of a move -/

/-- `Volumes.quiesce`: the volume is at rest here. -/
def Volumes.quiesce (a : Action) (ref : VolumeRef) : Proc Volumes Evidence := do
  let v ← Proc.read id
  let record ← Proc.lift (require v.volumes[ref.name]?
    s!"volume {quote ref.name} does not exist on this node")
  Proc.guard (record.owner ≠ "")
    s!"volume {quote record.name} is held by {quote record.owner} and cannot be quiesced"
  Proc.guard (a.node = "") "quiesce requires a target node"
  return volumeEvidence .volumeQuiesced record.name [("to", a.node)]

/-- A volume is quiesced where it is. -/
lemma Volumes.quiesce_returns {a : Action} {ref : VolumeRef} {v v' : Volumes} {e : Evidence}
    (h : (Volumes.quiesce a ref).Returns v e v') : v.volumes[ref.name]?.isSome = true := by
  unfold Volumes.quiesce at h
  obtain ⟨_, _, hread, h⟩ := returns_bind.mp h
  obtain ⟨rfl, rfl⟩ := returns_read.mp hread
  obtain ⟨record, _, hrecord, -⟩ := returns_bind.mp h
  obtain ⟨hrequire, -⟩ := returns_lift.mp hrecord
  exact Option.isSome_iff_exists.mpr ⟨record, require_ok.mp hrequire⟩

/-- The world has the volumes that the nodes have, each on its node. -/
def Matches (w : World) (nodes : String → Volumes) : Prop :=
  ∀ n name : String, (nodes n).volumes[name]?.isSome = true ↔
    ∃ v, w.volumes[name]? = some v ∧ v.node = n

/-- The action is handed to the executor of a node, and the node accepts an envelope with it. -/
def Delivered (wire : Wire) (e : RegistryExecutor) (a : Action) (nodeID : String) : Prop :=
  ∃ (x : Remote) (e' : RegistryExecutor) (signed : SignedAction) (keys : Table Bytes) (now : Time)
      (work : ActionEnvelope),
    (RegistryExecutor.route a).Returns e x e' ∧ x.executor.nodeID = nodeID ∧
      verify wire signed keys nodeID now = .ok work ∧ work.action = a

lemma Delivered.node_eq {wire : Wire} {e : RegistryExecutor} {a : Action} {nodeID : String}
    (h : Delivered wire e a nodeID) : nodeID = a.node := by
  obtain ⟨x, e', -, -, -, -, hroute, rfl, -⟩ := h
  exact RegistryExecutor.executorFor_nodeID (RegistryExecutor.route_returns.mp hroute).2

/-- The kernel accepts a move only to a node where the volume is not. -/
lemma validateQuiesceVolume_elsewhere {host : Host} {goal : Goal} {w : World} {a : Action}
    (h : validateQuiesceVolume host goal w a = .ok ()) :
    ∃ ref v, a.volume = some ref ∧ w.volumes[ref.name]? = some v ∧ v.node ≠ a.node := by
  simp only [validateQuiesceVolume, volumeRef, existingVolume, healthyNode, require_bind_ok,
    refuseIf_bind_ok] at h
  obtain ⟨ref, href, v, hv, -, -, -, -, hnode, -⟩ := h
  exact ⟨ref, v, href, hv, Ne.symm hnode⟩

/-- **An authorized quiesce is never carried out**: the node it is delivered to does not have
the volume, since the action names the target of the move and the volume is still at its
origin. -/
theorem quiesce_misdelivered {host : Host} {k : Kernel} {actor : AgentDescriptor} {goal : Goal}
    {w : World} {p : Proposal} {before after : List Action} {a : Action}
    (hauth : authorize host k actor goal w p = .ok ())
    (hactions : p.actions = before ++ a :: after) (hkind : a.kind = .quiesceVolume) :
    ∃ (ref : VolumeRef) (sim : World), a.volume = some ref ∧
      Admitted host (k.grantsFor actor.id) goal w before sim ∧
      ∀ (nodes : String → Volumes) (wire : Wire) (e : RegistryExecutor) (nodeID : String),
        Matches sim nodes → Delivered wire e a nodeID →
          (nodes nodeID).volumes[ref.name]? = none ∧
          ∀ (evidence : Evidence) (v : Volumes),
            ¬(Volumes.quiesce a ref).Returns (nodes nodeID) evidence v := by
  obtain ⟨-, simEnd, hwalk⟩ := authorize_admitted hauth
  rw [hactions] at hwalk
  obtain ⟨sim, hbefore, hvalid⟩ := hwalk.validated_after
  simp only [validateAction, hkind] at hvalid
  obtain ⟨ref, v, href, hv, hnode⟩ := validateQuiesceVolume_elsewhere hvalid
  refine ⟨ref, sim, href, hbefore, fun nodes wire e nodeID hmatches hdelivered => ?_⟩
  have habsent : (nodes nodeID).volumes[ref.name]?.isSome ≠ true := by
    intro hsome
    obtain ⟨v', hv', hat⟩ := (hmatches nodeID ref.name).mp hsome
    cases hv.symm.trans hv'
    exact hnode (hat.trans hdelivered.node_eq)
  refine ⟨Option.not_isSome_iff_eq_none.mp habsent, fun evidence v' hreturns => ?_⟩
  exact habsent (Volumes.quiesce_returns hreturns)

namespace Delivery

/-- The origin of the move has the volume, and no other node has one. -/
def nodes (n : String) : Volumes :=
  { root := "/volumes"
    volumes := if n = "n1" then
      Table.ofEntries [("data", { name := "data", path := "/volumes/data" })] else ∅ }

lemma nodes_match : Matches Handoff.world nodes := by
  intro n name
  simp only [nodes, Handoff.world, get_ofEntries_cons, get_ofEntries_nil]
  by_cases hn : n = "n1"
  · by_cases hname : name = "data"
    · simp [hn, hname]
    · simp [hn, hname]
  · by_cases hname : name = "data"
    · simp [hn, hname, eq_comm]
    · simp [hn, hname]

def quiesce : Action := Handoff.order .quiesceVolume

def envelope : ActionEnvelope :=
  { version := 1, id := "e", nodeID := "n2", goalID := "files", proposalID := "move"
    worldRevision := 0, leaseID := "l", idempotencyKey := "e", issuedAt := 90 * second
    expiresAt := 120 * second, action := quiesce }

/-- Both nodes are connected. -/
lemma n1_named : "n1" ≠ "" := by decide

lemma n2_named : "n2" ≠ "" := by decide

def executor : RegistryExecutor :=
  .new ((Registry.empty.add { nodeID := "n1" } n1_named).add { nodeID := "n2" } n2_named)
    "k" []

lemma delivered : Delivered (scriptWire [envelope]) executor quiesce "n2" := by
  obtain ⟨x, e', hx⟩ := RegistryExecutor.executorFor_of_connected
    (show executor.registry.get "n2" = some { nodeID := "n2" } by decide)
  refine ⟨x, e', ⟨[0], "key", ""⟩, Table.ofEntries [("key", List.replicate 32 0)], 100 * second,
    envelope, ?_, RegistryExecutor.executorFor_nodeID hx, ?_, rfl⟩
  · exact RegistryExecutor.route_returns.mpr ⟨by decide, hx⟩
  · decide +kernel

lemma authorized : authorize quietHost ⟨defaultPolicy⟩ { id := "storage-agent" } Handoff.goal
    Handoff.world (Handoff.proposal Handoff.world .quiesceVolume) = .ok () := by
  decide

end Delivery

open Delivery

theorem quiesce_misdelivered_data :
    authorize quietHost ⟨defaultPolicy⟩ { id := "storage-agent" } Handoff.goal Handoff.world
        (Handoff.proposal Handoff.world .quiesceVolume) = .ok () ∧
      ∃ (ref : VolumeRef) (sim : World), quiesce.volume = some ref ∧
        Admitted quietHost ((⟨defaultPolicy⟩ : Kernel).grantsFor "storage-agent") Handoff.goal
          Handoff.world [] sim ∧
        (nodes "n2").volumes[ref.name]? = none := by
  have hactions : (Handoff.proposal Handoff.world .quiesceVolume).actions =
      [] ++ quiesce :: [] := rfl
  obtain ⟨ref, sim, href, hbefore, h⟩ := quiesce_misdelivered authorized hactions rfl
  refine ⟨authorized, ref, sim, href, hbefore, ?_⟩
  cases hbefore
  exact (h _ _ _ _ nodes_match delivered).1

/-- The quiesce of a volume of the first node is accepted and delivered to the second, which
refuses it; the first would carry it out. -/
theorem quiesce_refused :
    authorize quietHost ⟨defaultPolicy⟩ { id := "storage-agent" } Handoff.goal Handoff.world
        (Handoff.proposal Handoff.world .quiesceVolume) = .ok () ∧
      Matches Handoff.world nodes ∧
      Delivered (scriptWire [envelope]) executor quiesce "n2" ∧
      (Volumes.quiesce quiesce { name := "data" } (nodes "n2")).1.toOption = none ∧
      (Volumes.quiesce quiesce { name := "data" } (nodes "n1")).1.toOption ≠ none :=
  ⟨authorized, nodes_match, delivered, by decide +kernel, by decide +kernel⟩

end A4s.Daemon
