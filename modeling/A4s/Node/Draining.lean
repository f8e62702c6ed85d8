/-
Stopping an agent that holds a task.

An agent instance holds at most one task, in a slot only its node sees. The control
plane learns of the slot by draining the instance, and the node gives work out on its
own: `QueueBroker` asks whether an instance may claim, takes a task from the queue and
fills the slot, one lock after the other. `Step` interleaves the engine, the nodes'
dispatchers and the brokers' calls.

* `Agents.Retired`: an instance that holds nothing and may not claim;
  `dispatch_retired` and its like say what keeps it so.
* `Effect.comes_from`, `meaning_has`: what evidence makes of an allocation's record.
* `Sound`: every allocation the world takes for drained is retired on its node.
* `stopped_holds_nothing`: **an authorised stop finds the slot empty** in every run
  where agents are stopped drained, and drained where they are while no claim is under
  way.
-/
import Mathlib.Logic.Relation
import A4s.Node.Contract

namespace A4s.Daemon

open Go

/-! ### An instance that takes no more work -/

section Retired

variable {s : Agents} {id allocation : String}

/-- The instance holds nothing and may not claim. -/
def Agents.Retired (s : Agents) (id : String) : Prop :=
  s.task id = "" ∧ (s.isDraining id = true ∨ s.meters[id]? = none)

/-- What fills a slot passed the gate first. -/
lemma mayClaim_not_retired (h : s.mayClaim id = .ok ()) : ¬s.Retired id := by
  simp only [Agents.mayClaim, require_bind_ok, refuseIf_bind_ok] at h
  obtain ⟨meter, hmeter, -, hdraining, -⟩ := h
  rintro ⟨-, hretired | hretired⟩
  · exact hdraining hretired
  · rw [hretired] at hmeter
    cases hmeter

lemma Agents.Retired.holdTask (h : s.Retired id) (task : String) (hne : id ≠ allocation) :
    (s.holdTask allocation task).Retired id := by
  refine ⟨?_, h.2⟩
  rw [Agents.task, Agents.holdTask, get_insert_of_ne hne]
  exact h.1

lemma Agents.Retired.releaseTask (h : s.Retired id) (allocation : String) :
    (s.releaseTask allocation).Retired id := by
  refine ⟨?_, h.2⟩
  rw [Agents.task, Agents.releaseTask, get_erase]
  split_ifs
  · rfl
  · exact h.1

lemma Agents.Retired.reserve (h : s.Retired id) (budget : Budget) (hne : id ≠ allocation) :
    (s.reserve allocation budget).Retired id := by
  refine ⟨h.1, h.2.imp_right fun hmeter => ?_⟩
  rw [Agents.reserve, get_insert_of_ne hne]
  exact hmeter

lemma Agents.Retired.release (h : s.Retired id) (allocation : String) :
    (s.release allocation).Retired id := by
  by_cases hid : id = allocation
  · subst hid
    refine ⟨?_, .inr ?_⟩
    · rw [Agents.task, Agents.release, get_erase, if_pos rfl]
      rfl
    · rw [Agents.release, get_erase, if_pos rfl]
  · simpa only [Agents.Retired, Agents.release, Agents.task, Agents.isDraining,
      get_erase_of_ne hid] using h

lemma Agents.Retired.spend (h : s.Retired id) (allocation : String) (delta : Budget) :
    (Agents.spend allocation delta s).2.Retired id := by
  unfold Agents.spend
  cases hmeter : s.meters[allocation]? with
  | none => exact h
  | some meter =>
    refine ⟨h.1, h.2.imp_right fun hnone => ?_⟩
    have hne : id ≠ allocation := by
      rintro rfl
      rw [hnone] at hmeter
      cases hmeter
    rw [get_insert_of_ne hne]
    exact hnone

/-- A process that starts over remembers no instance. -/
lemma fresh_retired (id : String) : Agents.Retired {} id :=
  ⟨by rw [Agents.task, get_empty]; rfl, .inr (get_empty _)⟩

lemma grant_retired (a : Action) : Proc.Preserves (Agents.Retired · id) (Agents.grant a) := by
  refine preserves_bind (fun _ h => h) fun _ => ?_
  refine preserves_bind (fun _ h => h) fun _ => ?_
  refine preserves_bind (fun _ h => h) fun _ => ?_
  exact preserves_bind (fun _ h => h) fun _ => fun _ h => h

lemma issueToken_retired (m : Machine) :
    Proc.Preserves (Agents.Retired · id) (Agents.issueToken m allocation) := by
  refine preserves_bind (fun _ h => h) fun _ => ?_
  refine preserves_bind (fun _ h => h) fun _ => ?_
  exact preserves_bind (fun _ h => h) fun _ => fun _ h => h

lemma Agents.Retired.drain (h : s.Retired id) (allocation : String) :
    Agents.Retired { s with draining := s.draining.insert allocation true } id := by
  refine ⟨h.1, h.2.imp_left fun hdraining => ?_⟩
  rw [Agents.isDraining, get_insert]
  split_ifs
  · rfl
  · exact hdraining

lemma drain_retired (a : Action) : Proc.Preserves (Agents.Retired · id) (Agents.drain a) := by
  refine preserves_bind (fun _ h => h) fun _ => ?_
  refine preserves_bind (fun _ h => h.drain a.target) fun _ => ?_
  refine preserves_bind (fun _ h => h) fun task => ?_
  intro s h
  split_ifs
  · exact h
  · exact h

end Retired

/-! ### What a dispatch does to the instances -/

section Dispatch

variable {wire : Wire} {config : Config} {c : Capabilities} {m : Machine} {a : Action}
  {id : String} {d d' : NodeState} {signed : SignedAction} {work : ActionEnvelope}

/-- A node where the instance is retired, or that knows no instances. -/
def NodeState.Retired (d : NodeState) (id : String) : Prop :=
  ∀ s, d.agents = some s → s.Retired id

lemma onAgents_retired {α : Type} {x : Proc Agents α} (h : Proc.Preserves (Agents.Retired · id) x) :
    Proc.Preserves (NodeState.Retired · id) (onAgents x) := by
  intro d hd
  unfold onAgents
  cases hs : d.agents with
  | none => exact hd
  | some s =>
    rintro s' ⟨⟩
    exact h s (hd s hs)

/-- What leaves the instances alone leaves the retired ones retired. -/
lemma retired_of_keeps {α : Type} {x : Proc NodeState α} (h : Proc.Keeps (·.agents) x) :
    Proc.Preserves (NodeState.Retired · id) x :=
  fun d hd s hs => hd s ((h d).symm.trans hs)

lemma reserveAgent_retired (hne : id ≠ a.target) :
    Proc.Preserves (NodeState.Retired · id) (reserveAgent c m a) := by
  refine preserves_bind (fun _ h => h) fun _ => preserves_when _ ?_
  refine preserves_bind (onAgents_retired fun _ h => h.reserve a.budget hne) fun _ => ?_
  refine preserves_when _ ?_
  exact preserves_bind (onAgents_retired (issueToken_retired m)) fun _ => fun _ h => h

lemma tearDown_retired (allocation : String) :
    Proc.Preserves (NodeState.Retired · id) (tearDown c m allocation) := by
  refine preserves_bind (fun _ h => h) fun _ => ?_
  refine preserves_bind (fun _ h => h) fun d => ?_
  refine preserves_bind
    (retired_of_keeps (keeps_when _ (onSecrets_keeps _ fun _ _ => rfl))) fun _ => ?_
  refine preserves_bind (retired_of_keeps (keeps_onField _ fun _ _ => rfl)) fun _ => ?_
  refine preserves_bind (preserves_when _ fun _ h => h) fun _ => ?_
  exact preserves_when _ (onAgents_retired fun _ h => h.release allocation)

/-- Only the creation of an instance puts it back to work. -/
lemma execute_retired (hne : a.kind = .createAllocation → id ≠ a.target) :
    Proc.Preserves (NodeState.Retired · id) (CompositeRuntime.execute c m a) := by
  unfold CompositeRuntime.execute
  cases hk : a.kind
  case createAllocation =>
    refine preserves_bind (retired_of_keeps (createAllocation_keeps a fun _ _ => rfl))
      fun _ => ?_
    exact preserves_bind (reserveAgent_retired (hne hk)) fun _ => fun _ h => h
  case deleteAllocation =>
    refine preserves_bind (retired_of_keeps (deleteAllocation_keeps a fun _ _ => rfl))
      fun _ => ?_
    exact preserves_bind (tearDown_retired a.target) fun _ => fun _ h => h
  case mountSecret => exact retired_of_keeps (onSecrets_keeps _ fun _ _ => rfl)
  case grantTools => exact onAgents_retired (grant_retired a)
  case drainAllocation => exact onAgents_retired (drain_retired a)
  case createVolume | attachVolume | detachVolume | snapshotVolume | restoreSnapshot
      | backupSnapshot | quiesceVolume | transferVolume | adoptVolume | pruneSnapshots
      | verifyBackup =>
    exact preserves_bind (fun _ h => h) fun _ =>
      retired_of_keeps (onVolumes_keeps _ fun _ _ => rfl)
  all_goals exact fun _ h => h

lemma perform_retired (hne : a.kind = .createAllocation → id ≠ a.target) :
    Proc.Preserves (NodeState.Retired · id) (perform wire config c m a) := by
  refine preserves_bind (execute_retired hne) fun _ => ?_
  refine preserves_bind (fun _ h => h) fun _ => ?_
  refine preserves_bind (retired_of_keeps (keeps_onField _ fun _ _ => rfl)) fun _ => ?_
  exact fun _ h => h

lemma noteLease_agents (work : ActionEnvelope) (d : NodeState) :
    (noteLease work d).agents = d.agents := by
  unfold noteLease
  split_ifs <;> rfl

/-- However a dispatch ends, a retired instance stays retired unless the envelope
creates it. -/
lemma dispatch_retired (hverify : verify wire signed config.keys config.nodeID m.now = .ok work)
    (hne : work.action.kind = .createAllocation → id ≠ work.action.target) :
    Proc.Preserves (NodeState.Retired · id) (dispatch wire config c m signed) := by
  intro d hd
  refine ends_bind (P := (NodeState.Retired · id)) hd fun work' d₁ hlift => ?_
  obtain ⟨hok, rfl⟩ := returns_lift.mp hlift
  cases hverify.symm.trans hok
  split_ifs
  · exact hd
  · refine preserves_bind (I := (NodeState.Retired · id)) (fun _ h => h) (fun d₂ => ?_) d hd
    cases d₂.ledger[work.idempotencyKey]? with
    | some previous => exact preserves_bind (fun _ h => h) fun _ => fun _ h => h
    | none =>
      refine preserves_bind (fun _ h => h) fun _ => ?_
      refine preserves_bind (perform_retired hne) fun report => ?_
      refine preserves_bind (fun d₃ h => ?_) fun _ => ?_
      · change ∀ s, (noteLease work d₃).agents = some s → s.Retired id
        rw [noteLease_agents]
        exact h
      · refine preserves_bind (retired_of_keeps ?_) fun _ => fun _ h => h
        refine keeps_bind (keeps_read _) fun _ => ?_
        refine keeps_bind (keeps_guard _ _) fun _ => ?_
        exact keeps_bind (keeps_lift _) fun _ => keeps_modify fun _ => rfl

/-- What a drain reports: the instance is retired, or it names the task it holds. -/
lemma perform_drained {e : Evidence} {attested : Option AttestedEvidence}
    (hk : a.kind = .drainAllocation)
    (h : Proc.Returns (perform wire config c m a) d (e, attested) d') :
    e.kind = .allocationDrained ∧ d'.Retired a.target ∨
      e.kind = .agentDraining ∧ ∃ task, e.observed["task"]? = some task ∧ task ≠ "" := by
  simp only [perform, CompositeRuntime.execute, hk, returns_bind, returns_pure,
    returns_lift, onDesired, returns_onField, Prod.mk.injEq] at h
  obtain ⟨raw, d₁, hdrain, _, _, ⟨-, rfl⟩, _, _, ⟨t, -, rfl⟩, ⟨rfl, -⟩, rfl⟩ := h
  obtain ⟨s, s', -, hrun, rfl⟩ := returns_onAgents hdrain
  obtain ⟨rfl, -, ⟨hkind, hempty⟩ | ⟨hkind, htask, hheld⟩⟩ := Agents.drain_spec hrun
  · refine .inl ⟨hkind, ?_⟩
    rintro s' ⟨⟩
    refine ⟨hempty, .inl ?_⟩
    rw [Agents.isDraining, get_insert, if_pos rfl]
    rfl
  · refine .inr ⟨hkind, s.task a.target, ?_, hheld⟩
    simp only [attribute_, hk]
    rw [get_insert_of_ne (by decide)]
    exact htask

end Dispatch

/-! ### The cluster -/

/-- A call of `QueueBroker` between two locks: `Claim` after `MayClaim` and after the
queue gave a task out, `Ack` and `Requeue` after the queue took theirs back. -/
inductive BrokerCall where
  | claiming (allocation : String) (queue : ℕ)
  | holding (allocation task : String)
  | releasing (allocation : String)
  deriving DecidableEq

/-- The instance a call is about to give a task to. -/
def BrokerCall.taker : BrokerCall → Option String
  | .claiming allocation _ => some allocation
  | .holding allocation _ => some allocation
  | .releasing _ => none

/-- `Ack` and `Requeue` on the queue. -/
inductive TaskOp where
  | ack (task : String)
  | requeue (task : String)

def TaskOp.run (m : Machine) (allocation : String) : TaskOp → Proc TaskQueue Unit
  | .ack task => TaskQueue.ack m allocation task
  | .requeue task => TaskQueue.requeue m allocation task

/-- A node and the broker's calls under way on it. -/
structure Site where
  node : NodeState
  calls : List BrokerCall := []

/-- `Agents.tasks[allocation]` of the node. -/
def Site.task (s : Site) (allocation : String) : String :=
  (s.node.agents.map (·.task allocation)).getD ""

/-- What the engine is at: it has read the world to decide on a proposal, it carries
out a plan, or it holds the evidence of an action that it has not projected. -/
inductive Phase where
  | idle
  | deciding (view : World)
  | executing (plan : List Action)
  | reporting (a : Action) (e : Evidence) (rest : List Action)

structure Cluster where
  world : World
  phase : Phase := .idle
  sites : String → Site

/-- How the nodes are set up. -/
structure Installation where
  wire : Wire
  config : String → Config
  capabilities : String → Capabilities

namespace Cluster

/-- What a node does to its own record. -/
def atSite (c : Cluster) (i : String) (s : Site) : Cluster :=
  { c with sites := Function.update c.sites i s }

def onNode (c : Cluster) (i : String) (d : NodeState) : Cluster :=
  c.atSite i { c.sites i with node := d }

/-- A step of a broker's call: the calls under way and the node afterwards. -/
def onCall (c : Cluster) (i : String) (d : NodeState) (calls : List BrokerCall) : Cluster :=
  c.atSite i { node := d, calls := calls }

end Cluster

/-- The kinds of evidence that only carrying out an action produces. -/
def EvidenceKind.ofAction : EvidenceKind → Bool
  | .allocationCreated | .allocationDeleted | .agentDraining | .allocationDrained => true
  | _ => false

/-- The engine stamps evidence that carries no time. -/
def stamp (now : Time) (e : Evidence) : Evidence :=
  if e.observedAt = 0 then { e with observedAt := now } else e

/-- What a step was, where it matters. -/
inductive Label where
  | authorized (view : World) (p : Proposal)
  | answered (i : String) (work : ActionEnvelope)
  | other

/-- One step of the cluster. The engine runs one proposal at a time. Evidence from
elsewhere, the nodes' daemons and the brokers' calls come in between. -/
inductive Step (net : Installation) : Cluster → Label → Cluster → Prop
  | look {c : Cluster} (now : Time) (hphase : c.phase = .idle) :
      Step net c .other { c with phase := .deciding { c.world with observedAt := now } }
  | authorize {c : Cluster} {view : World} {host : Host} {k : Kernel} {actor : AgentDescriptor}
      {goal : Goal} {p : Proposal} (hphase : c.phase = .deciding view)
      (hok : A4s.authorize host k actor goal view p = .ok ()) :
      Step net c (.authorized view p) { c with phase := .executing p.actions }
  -- a proposal is declined, fails halfway or ends
  | leave (c : Cluster) : Step net c .other { c with phase := .idle }
  | answered {c : Cluster} {i : String} {m : Machine} {signed : SignedAction}
      {work : ActionEnvelope} {rest : List Action} {r : DispatchResult} {d' : NodeState}
      (hphase : c.phase = .executing (work.action :: rest))
      (hverify : verify net.wire signed (net.config i).keys (net.config i).nodeID m.now = .ok work)
      (hprobe : work.action.kind ≠ .probeReadiness)
      (hcollision : ∀ work', workDigest net.wire work' = workDigest net.wire work →
        work'.action = work.action)
      (hreturns : Proc.Returns (dispatch net.wire (net.config i) (net.capabilities i) m signed)
        (c.sites i).node r d') :
      Step net c (.answered i work)
        { c.onNode i d' with phase := .reporting work.action r.evidence rest }
  -- the node failed, or its answer was lost
  | unanswered {c : Cluster} {i : String} {m : Machine} {signed : SignedAction}
      {work : ActionEnvelope} {rest : List Action}
      (hphase : c.phase = .executing (work.action :: rest))
      (hverify :
        verify net.wire signed (net.config i).keys (net.config i).nodeID m.now = .ok work) :
      Step net c .other
        { c.onNode i (dispatch net.wire (net.config i) (net.capabilities i) m signed
            (c.sites i).node).2 with phase := .idle }
  -- a cordon never reaches a node
  | locally {c : Cluster} {a : Action} {e : Evidence} {rest : List Action}
      (hphase : c.phase = .executing (a :: rest)) (hlocal : a.kind.controlPlaneLocal = true)
      (hok : cordonEvidence a = .ok e) :
      Step net c .other { c with phase := .reporting a e rest }
  | projected {c : Cluster} {a : Action} {e : Evidence} {rest : List Action} {w : World}
      (now : Time) (hphase : c.phase = .reporting a e rest)
      (hproject : project c.world (stamp now e) = .ok w) :
      Step net c .other { c with world := w, phase := .executing rest }
  | observed {c : Cluster} {e : Evidence} {w : World} (hkind : EvidenceKind.ofAction e.kind = false)
      (hproject : project c.world e = .ok w) : Step net c .other { c with world := w }
  | mayClaim {c : Cluster} {i allocation : String} {s : Agents} (queue : ℕ)
      (hagents : (c.sites i).node.agents = some s) (hok : s.mayClaim allocation = .ok ()) :
      Step net c .other
        (c.onCall i (c.sites i).node (.claiming allocation queue :: (c.sites i).calls))
  | claimed {c : Cluster} {i allocation : String} {queue : ℕ} {m : Machine} {q q' : TaskQueue}
      {task : QueueTask} (hcall : .claiming allocation queue ∈ (c.sites i).calls)
      (hqueue : (c.sites i).node.queues[queue]? = some q)
      (hreturns : Proc.Returns (TaskQueue.claim m allocation) q (some task) q') :
      Step net c .other (c.onCall i
        { (c.sites i).node with queues := (c.sites i).node.queues.set queue q' }
        (.holding allocation task.id :: (c.sites i).calls.erase (.claiming allocation queue)))
  -- the queue had nothing, or failed
  | unclaimed {c : Cluster} {i allocation : String} {queue : ℕ} {m : Machine} {q : TaskQueue}
      (hcall : .claiming allocation queue ∈ (c.sites i).calls)
      (hqueue : (c.sites i).node.queues[queue]? = some q) :
      Step net c .other (c.onCall i
        { (c.sites i).node with queues :=
            (c.sites i).node.queues.set queue (TaskQueue.claim m allocation q).2 }
        ((c.sites i).calls.erase (.claiming allocation queue)))
  | held {c : Cluster} {i allocation task : String} {s : Agents}
      (hcall : .holding allocation task ∈ (c.sites i).calls)
      (hagents : (c.sites i).node.agents = some s) :
      Step net c .other (c.onCall i
        { (c.sites i).node with agents := some (s.holdTask allocation task) }
        ((c.sites i).calls.erase (.holding allocation task)))
  | completed {c : Cluster} {i allocation : String} {queue : ℕ} {m : Machine} {q q' : TaskQueue}
      (op : TaskOp) (hqueue : (c.sites i).node.queues[queue]? = some q)
      (hreturns : Proc.Returns (op.run m allocation) q () q') :
      Step net c .other (c.onCall i
        { (c.sites i).node with queues := (c.sites i).node.queues.set queue q' }
        (.releasing allocation :: (c.sites i).calls))
  | released {c : Cluster} {i allocation : String} {s : Agents}
      (hcall : .releasing allocation ∈ (c.sites i).calls)
      (hagents : (c.sites i).node.agents = some s) :
      Step net c .other (c.onCall i
        { (c.sites i).node with agents := some (s.releaseTask allocation) }
        ((c.sites i).calls.erase (.releasing allocation)))
  | spent {c : Cluster} {i : String} {s : Agents} (allocation : String) (delta : Budget)
      (hagents : (c.sites i).node.agents = some s) :
      Step net c .other (c.onNode i
        { (c.sites i).node with agents := some (Agents.spend allocation delta s).2 })
  -- the daemon starts over; what it knows of its instances was in memory
  | restarted (c : Cluster) (i : String) :
      Step net c .other (c.onCall i
        { (c.sites i).node with agents := (c.sites i).node.agents.map fun _ => {} } [])
  -- supervision, queue management and whatever else leaves instances and answers alone
  | tended {c : Cluster} {i : String} {d' : NodeState}
      (hagents : d'.agents = (c.sites i).node.agents)
      (hledger : d'.ledger = (c.sites i).node.ledger) : Step net c .other (c.onNode i d')

/-! ### The invariant -/

/-- The instance is retired on the node and no call is about to give it a task. -/
structure Site.Retired (s : Site) (id : String) : Prop where
  node : s.node.Retired id
  calls : ∀ call ∈ s.calls, call.taker ≠ some id

lemma Site.Retired.task {s : Site} {id : String} (h : s.Retired id) : s.task id = "" := by
  unfold Site.task
  cases hs : s.node.agents with
  | none => rfl
  | some agents => exact (h.node agents hs).1

/-- Every allocation the world takes for drained is retired on its node. -/
def Sound (sites : String → Site) (w : World) : Prop :=
  ∀ (id : String) x, w.allocations[id]? = some x → x.drained = true → (sites x.node).Retired id

/-- Two worlds with the same allocations, whatever they say of them. -/
def SamePopulation (w w' : World) : Prop := ∀ id, w.ledger.has id = w'.ledger.has id

/-- A plan is what is left of an accepted proposal: it was accepted for a world with
the allocations there are now. -/
def Underway (w : World) (plan : List Action) : Prop :=
  ∃ (host : Host) (grants : Grants) (goal : Goal) (sim simEnd : World),
    Admitted host grants goal sim plan simEnd ∧ SamePopulation sim w

/-- What evidence of a drain tells is so. -/
def DrainTold (sites : String → Site) (w : World) (e : Evidence) : Prop :=
  (e.kind = .allocationDrained → ∀ x, w.allocations[e.target]? = some x →
    (sites x.node).Retired e.target) ∧
  (e.kind = .agentDraining → ∃ task, e.observed["task"]? = some task ∧ task ≠ "")

def Phase.Sound (sites : String → Site) (w : World) : Phase → Prop
  | .idle => True
  | .deciding view => SamePopulation view w ∧ Daemon.Sound sites view
  | .executing plan => Underway w plan
  | .reporting a e rest => Underway w (a :: rest) ∧ Reports a e ∧ DrainTold sites w e

/-- What holds in every cluster that careful steps reach. -/
structure Cluster.Sound (net : Installation) (c : Cluster) : Prop where
  world : Daemon.Sound c.sites c.world
  phase : c.phase.Sound c.sites c.world
  ledgers : ∀ i, LedgerSound net.wire (fun work r => Reports work.action r.evidence)
    (c.sites i).node.ledger

/-! ### Steps of the nodes -/

section Nodes

variable {net : Installation} {c : Cluster} {sites sites' : String → Site} {w : World}

/-- Sites where the allocations of the world are retired if they were. -/
def StayRetired (w : World) (sites sites' : String → Site) : Prop :=
  ∀ i id, w.ledger.has id = true → (sites i).Retired id → (sites' i).Retired id

lemma has_of_get {id : String} {x : Allocation} (h : w.allocations[id]? = some x) :
    w.ledger.has id = true := by
  rw [ledger_has, h]
  rfl

lemma Sound.moved (h : Sound sites w) (hstay : StayRetired w sites sites') : Sound sites' w :=
  fun id x hx hdrained => hstay _ id (has_of_get hx) (h id x hx hdrained)

lemma Phase.Sound.moved {phase : Phase} (h : phase.Sound sites w)
    (hstay : StayRetired w sites sites') : phase.Sound sites' w := by
  cases phase with
  | idle => trivial
  | deciding view =>
    obtain ⟨hsame, hview⟩ := h
    refine ⟨hsame, hview.moved fun i id hhas => hstay i id ?_⟩
    rw [← hsame id]
    exact hhas
  | executing plan => exact h
  | reporting a e rest =>
    obtain ⟨hplan, hreports, hdrained, hdraining⟩ := h
    refine ⟨hplan, hreports, fun hk x hx => ?_, hdraining⟩
    exact hstay _ _ (has_of_get hx) (hdrained hk x hx)

lemma stayRetired_update {i : String} {s : Site}
    (h : ∀ id, w.ledger.has id = true → (sites i).Retired id → s.Retired id) :
    StayRetired w sites (Function.update sites i s) := by
  intro j id hhas hretired
  by_cases hj : j = i
  · subst hj
    rw [Function.update_self]
    exact h id hhas hretired
  · rw [Function.update_of_ne hj]
    exact hretired

/-- **A node's own step** keeps the invariant if no retired instance takes work up and
the ledger stays sound. -/
lemma Cluster.Sound.atSite (h : c.Sound net) {i : String} {s : Site}
    (hretired : ∀ id, c.world.ledger.has id = true → (c.sites i).Retired id → s.Retired id)
    (hledger : LedgerSound net.wire (fun work r => Reports work.action r.evidence) s.node.ledger) :
    (c.atSite i s).Sound net := by
  have hstay : StayRetired c.world c.sites (c.atSite i s).sites := stayRetired_update hretired
  refine ⟨h.world.moved hstay, h.phase.moved hstay, fun j => ?_⟩
  by_cases hj : j = i
  · subst hj
    simp only [Cluster.atSite, Function.update_self]
    exact hledger
  · simp only [Cluster.atSite, Function.update_of_ne hj]
    exact h.ledgers j

/-- A step of a broker's call. It fills the slot of an instance only if it was about to,
and takes on only calls that passed the gate. -/
lemma Cluster.Sound.onCall (h : c.Sound net) {i : String} {d : NodeState}
    {calls : List BrokerCall}
    (hnode : ∀ id, (c.sites i).Retired id → d.Retired id)
    (hcalls : ∀ call ∈ calls, ∀ id, call.taker = some id → (c.sites i).Retired id →
      call ∈ (c.sites i).calls)
    (hledger : d.ledger = (c.sites i).node.ledger) : (c.onCall i d calls).Sound net := by
  refine h.atSite (fun id _ hretired => ⟨hnode id hretired, fun call hcall htaker => ?_⟩) ?_
  · exact hretired.calls call (hcalls call hcall id htaker hretired) htaker
  · rw [hledger]
    exact h.ledgers i

/-- The calls that are left when one has moved on. -/
lemma erase_calls {calls : List BrokerCall} {done : BrokerCall} :
    ∀ call ∈ calls.erase done, call ∈ calls :=
  fun _ h => List.mem_of_mem_erase h

end Nodes

/-! ### Steps of the world -/

section Worlds

variable {w w' : World} {e : Evidence} {a : Action} {sites : String → Site}

/-- An accepted action and its report add and take away the same allocations. -/
lemma reports_population {l l' : Ledger} (h : Reports a e) (hsame : ∀ id, l.has id = l'.has id)
    (id : String) : (a.intent l).has id = (e.meaning l').has id := by
  obtain ⟨hkind, hsubject, -, -⟩ := h
  rw [intent_has, meaning_has, hsame id]
  cases hk : a.kind <;> simp only [hk, ActionKind.reports, List.mem_cons, List.not_mem_nil,
    or_false] at hkind
  case createAllocation | deleteAllocation =>
    simp only [Action.subject, hk, ActionKind.onVolume, Bool.false_eq_true, if_false,
      Option.some.injEq] at hsubject
    simp only [hkind, hsubject]
  case drainAllocation =>
    rcases hkind with hkind | hkind <;> simp only [hkind]
  all_goals simp only [hkind]

lemma Underway.advance {rest : List Action} (h : Underway w (a :: rest)) (hreports : Reports a e)
    (hproject : project w e = .ok w') : Underway w' rest := by
  obtain ⟨host, grants, goal, sim, simEnd, hadmitted, hsame⟩ := h
  cases hadmitted with
  | cons hgrant hvalid hsim hrest =>
    refine ⟨host, grants, goal, _, simEnd, hrest, fun id => ?_⟩
    rw [simulate_ledger hsim, project_ledger hproject]
    exact reports_population hreports hsame id

/-- Evidence that no action produced leaves the allocations as many as they were. -/
lemma project_population (hkind : EvidenceKind.ofAction e.kind = false)
    (h : project w e = .ok w') : SamePopulation w w' := by
  intro id
  rw [project_ledger h, meaning_has]
  cases hk : e.kind <;> simp_all [EvidenceKind.ofAction]

/-- A drain that names a task leaves the allocation with it. -/
lemma project_draining {x' : Allocation} {task : String} (hk : e.kind = .agentDraining)
    (htask : e.observed["task"]? = some task) (h : project w e = .ok w')
    (hx' : w'.allocations[e.target]? = some x') : x'.task = task := by
  obtain ⟨next, hinto, h⟩ := bind_ok.mp h
  have hnext : next.allocations[e.target]? = some x' := by
    cases h
    split_ifs at hx' <;> exact hx'
  simp only [projectInto, hk, projectAgentDraining, knownAllocation, require_bind_ok,
    htask, pure_ok] at hinto
  obtain ⟨x, -, rfl⟩ := hinto
  rw [World.setAllocation, get_insert_self] at hnext
  cases hnext
  rfl

/-- What the projection takes for drained is retired, if the evidence told it so. -/
lemma Sound.project (h : Sound sites w) (htold : DrainTold sites w e)
    (hproject : A4s.project w e = .ok w') : Sound sites w' := by
  intro id x' hx' hdrained
  have hwork := hdrained
  rw [Allocation.drained, Bool.and_eq_true, decide_eq_true_eq] at hwork
  obtain ⟨hdraining, htask⟩ := hwork
  rcases (project_effect hproject).comes_from hx' with
    ⟨-, hidle, -⟩ | ⟨x, hx, hnode, hkept | hdrain⟩
  · rw [hidle] at hdraining
    cases hdraining
  · have hbefore : x.drained = true := by
      rw [Allocation.drained, ← hkept.1, ← hkept.2]
      exact hdrained
    rw [hnode]
    exact h id x hx hbefore
  · obtain ⟨rfl, hk | hk⟩ := hdrain
    · obtain ⟨task, hobserved, hne⟩ := htold.2 hk
      exact absurd ((project_draining hk hobserved hproject hx').symm.trans htask) hne
    · rw [hnode]
      exact htold.1 hk x hx

end Worlds

/-! ### Careful runs -/

section Runs

variable {net : Installation} {isAgent : String → Bool} {c c' : Cluster} {e : Evidence}
  {w w' : World} {i : String} {m : Machine} {signed : SignedAction} {work : ActionEnvelope}
  {r : DispatchResult} {d' : NodeState} {a : Action} {rest : List Action} {sites : String → Site}

/-- The condition on a step. A proposal stops an agent that has not exhausted its budget
only once the world read for it has the agent drained. A drain is carried out, and not
answered from the ledger, on the node of its allocation, while no call is about to give
the instance a task. -/
def Careful (isAgent : String → Bool) (c : Cluster) : Label → Prop
  | .authorized view p => ∀ a ∈ p.actions, a.kind = .stopAllocation →
      ∀ x, view.allocations[a.target]? = some x → isAgent x.workload = true →
      x.exhausted = false → x.drained = true
  | .answered i work => work.action.kind = .drainAllocation →
      (c.sites i).node.ledger[work.idempotencyKey]? = none ∧
      (∀ x, c.world.allocations[work.action.target]? = some x → x.node = i) ∧
      ∀ call ∈ (c.sites i).calls, call.taker ≠ some work.action.target
  | .other => True

/-- An accepted creation is of an allocation the world does not have. -/
lemma Underway.creates {id : String} (h : Underway w (a :: rest))
    (hhas : w.ledger.has id = true) : a.kind = .createAllocation → id ≠ a.target := by
  rintro hk rfl
  obtain ⟨host, grants, goal, sim, simEnd, hadmitted, hsame⟩ := h
  cases hadmitted with
  | cons hgrant hvalid hsim hrest =>
    simp only [validateAction, hk] at hvalid
    rw [← hsame, ledger_has, (validateCreateAllocation_ok hvalid).1] at hhas
    cases hhas

/-- The node of a dispatch afterwards. -/
lemma Cluster.Sound.dispatched (h : c.Sound net)
    (hphase : c.phase = .executing (work.action :: rest))
    (hverify : verify net.wire signed (net.config i).keys (net.config i).nodeID m.now = .ok work) :
    (c.onNode i (dispatch net.wire (net.config i) (net.capabilities i) m signed
      (c.sites i).node).2).Sound net := by
  have hplan : Underway c.world (work.action :: rest) := by
    have hsound := h.phase
    rw [hphase] at hsound
    exact hsound
  refine h.atSite (fun id hhas hretired => ⟨?_, hretired.calls⟩) ?_
  · exact dispatch_retired hverify (hplan.creates hhas) _ hretired.node
  · exact dispatch_ledger (fun h => perform_reports h) signed (h.ledgers i)

section Answered

variable
  (hverify : verify net.wire signed (net.config i).keys (net.config i).nodeID m.now = .ok work)
  (hprobe : work.action.kind ≠ .probeReadiness)
  (hreturns : Proc.Returns (dispatch net.wire (net.config i) (net.capabilities i) m signed)
    (c.sites i).node r d')

include hverify hprobe hreturns

/-- What the dispatcher reports for an action, be it carried out or answered again. -/
lemma answered_reports (h : c.Sound net)
    (hcollision : ∀ work', workDigest net.wire work' = workDigest net.wire work →
      work'.action = work.action) : Reports work.action r.evidence := by
  obtain ⟨work', hreports, hdigest⟩ := dispatch_answers (fun h => perform_reports h)
    (h.ledgers i) hverify hprobe hreturns
  rw [hcollision work' hdigest] at hreports
  exact hreports

/-- What the answer to an envelope tells of a drain is so. -/
lemma answered_told (hcareful : Careful isAgent c (.answered i work))
    (hreports : Reports work.action r.evidence) :
    DrainTold (c.onNode i d').sites c.world r.evidence := by
  by_cases hk : work.action.kind = .drainAllocation
  · obtain ⟨hnew, hhere, hcalls⟩ := hcareful hk
    have htarget : r.evidence.target = work.action.target := by
      have hsubject := hreports.subject
      simp only [Action.subject, hk, ActionKind.onVolume, Bool.false_eq_true, if_false,
        Option.some.injEq] at hsubject
      exact hsubject.symm
    obtain ⟨-, d₁, hperform, rfl⟩ := dispatch_first hverify hprobe hnew hreturns
    rcases perform_drained hk hperform with ⟨hkind, hretired⟩ | ⟨hkind, htask⟩
    · refine ⟨fun _ x hx => ?_, by simp [hkind]⟩
      rw [htarget] at hx ⊢
      rw [hhere x hx]
      simp only [Cluster.onNode, Cluster.atSite, Function.update_self]
      refine ⟨fun s hs => hretired s ?_, hcalls⟩
      rw [← hs]
      exact (noteLease_agents work d₁).symm
    · exact ⟨by simp [hkind], fun _ => htask⟩
  · -- no other action is reported as a drain
    have hother : r.evidence.kind ≠ .allocationDrained ∧ r.evidence.kind ≠ .agentDraining := by
      have hkind := hreports.kind
      cases hkind' : work.action.kind <;> simp_all [ActionKind.reports]
    exact ⟨fun h => absurd h hother.1, fun h => absurd h hother.2⟩

end Answered

/-- Evidence that no action produced tells of no drain. -/
lemma told_of_observed (hkind : EvidenceKind.ofAction e.kind = false) : DrainTold sites w e := by
  refine ⟨fun hk => ?_, fun hk => ?_⟩ <;>
  · rw [hk] at hkind
    cases hkind

/-- Evidence from elsewhere keeps the engine's phase sound. -/
lemma Phase.Sound.observed {phase : Phase} (h : phase.Sound sites w)
    (hkind : EvidenceKind.ofAction e.kind = false)
    (hproject : project w e = .ok w') : phase.Sound sites w' := by
  have hsame := project_population hkind hproject
  have hplan : ∀ {plan}, Underway w plan → Underway w' plan := by
    rintro plan ⟨host, grants, goal, sim, simEnd, hadmitted, hsim⟩
    exact ⟨host, grants, goal, sim, simEnd, hadmitted, fun id => (hsim id).trans (hsame id)⟩
  cases phase with
  | idle => trivial
  | deciding view => exact ⟨fun id => (h.1 id).trans (hsame id), h.2⟩
  | executing plan => exact hplan h
  | reporting a told rest =>
    obtain ⟨hrest, hreports, hdrained, hdraining⟩ := h
    refine ⟨hplan hrest, hreports, fun hk x' hx' => ?_, hdraining⟩
    rcases (project_effect hproject).comes_from hx' with ⟨hcreated, -⟩ | ⟨x, hx, hnode, -⟩
    · rw [hcreated] at hkind
      cases hkind
    · rw [hnode]
      exact hdrained hk x hx

lemma cordonEvidence_reports (hlocal : a.kind.controlPlaneLocal = true)
    (h : cordonEvidence a = .ok e) :
    Reports a e ∧ e.kind ≠ .allocationDrained ∧ e.kind ≠ .agentDraining := by
  simp only [cordonEvidence, refuseIf_bind_ok, pure_ok] at h
  obtain ⟨-, rfl⟩ := h
  cases hk : a.kind <;> simp only [hk, ActionKind.controlPlaneLocal, Bool.false_eq_true] at hlocal
  case cordonNode | uncordonNode =>
    refine ⟨Reports.plain (by simp [hk, ActionKind.reports])
      (by simp [Action.subject, hk, ActionKind.onVolume]) (by simp [hk]) (by simp [hk])
      (by simp [hk]), ?_, ?_⟩ <;> simp

/-- A stamp leaves what evidence tells as it is. -/
lemma stamp_told (now : Time) (h : DrainTold sites w e) : DrainTold sites w (stamp now e) := by
  unfold stamp
  split_ifs
  · exact h
  · exact h

lemma stamp_reports (now : Time) (h : Reports a e) : Reports a (stamp now e) := by
  unfold stamp
  split_ifs
  · exact h.stamp now
  · exact h

/-- **A careful step keeps the invariant.** -/
theorem Step.sound {label : Label} (hstep : Step net c label c')
    (hcareful : Careful isAgent c label) (h : c.Sound net) : c'.Sound net := by
  cases hstep with
  | look now hphase => exact ⟨h.world, ⟨fun _ => rfl, h.world⟩, h.ledgers⟩
  | authorize hphase hok =>
    have hview := h.phase
    rw [hphase] at hview
    obtain ⟨-, sim, hadmitted⟩ := authorize_admitted hok
    exact ⟨h.world, ⟨_, _, _, _, sim, hadmitted, hview.1⟩, h.ledgers⟩
  | leave => exact ⟨h.world, trivial, h.ledgers⟩
  | answered hphase hverify hprobe hcollision hreturns =>
    have hreports := answered_reports hverify hprobe hreturns h hcollision
    have hplan := h.phase
    rw [hphase] at hplan
    have hmoved := h.dispatched hphase hverify
    rw [hreturns] at hmoved
    have htold := answered_told hverify hprobe hreturns hcareful hreports
    exact ⟨hmoved.world, ⟨hplan, hreports, htold⟩, hmoved.ledgers⟩
  | unanswered hphase hverify =>
    have hmoved := h.dispatched hphase hverify
    exact ⟨hmoved.world, trivial, hmoved.ledgers⟩
  | locally hphase hlocal hok =>
    have hplan := h.phase
    rw [hphase] at hplan
    obtain ⟨hreports, hdrained, hdraining⟩ := cordonEvidence_reports hlocal hok
    exact ⟨h.world, ⟨hplan, hreports, fun hk => absurd hk hdrained,
      fun hk => absurd hk hdraining⟩, h.ledgers⟩
  | projected now hphase hproject =>
    have hphase' := h.phase
    rw [hphase] at hphase'
    obtain ⟨hplan, hreports, htold⟩ := hphase'
    exact ⟨h.world.project (stamp_told now htold) hproject,
      hplan.advance (stamp_reports now hreports) hproject, h.ledgers⟩
  | observed hkind hproject =>
    exact ⟨h.world.project (told_of_observed hkind) hproject, h.phase.observed hkind hproject,
      h.ledgers⟩
  | mayClaim queue hagents hok =>
    refine h.onCall (fun id hretired => hretired.node) ?_ rfl
    rintro call (_ | ⟨_, hcall⟩) id htaker hretired
    · cases htaker
      exact absurd (hretired.node _ hagents) (mayClaim_not_retired hok)
    · exact hcall
  | claimed hcall hqueue hreturns =>
    refine h.onCall (fun id hretired => hretired.node) ?_ rfl
    rintro call (_ | ⟨_, hother⟩) id htaker hretired
    · exact (hretired.calls _ hcall htaker).elim
    · exact erase_calls call hother
  | unclaimed hcall hqueue =>
    exact h.onCall (fun id hretired => hretired.node) (fun call hother _ _ _ =>
      erase_calls call hother) rfl
  | held hcall hagents =>
    refine h.onCall (fun id hretired => ?_) (fun call hother _ _ _ => erase_calls call hother) rfl
    rintro s' ⟨⟩
    refine (hretired.node _ hagents).holdTask _ fun heq => hretired.calls _ hcall ?_
    rw [heq]
    rfl
  | completed op hqueue hreturns =>
    refine h.onCall (fun id hretired => hretired.node) ?_ rfl
    rintro call (_ | ⟨_, hother⟩) id htaker hretired
    · cases htaker
    · exact hother
  | released hcall hagents =>
    refine h.onCall (fun id hretired => ?_) (fun call hother _ _ _ => erase_calls call hother) rfl
    rintro s' ⟨⟩
    exact (hretired.node _ hagents).releaseTask _
  | spent allocation delta hagents =>
    refine h.onCall (fun id hretired => ?_) (fun call hother _ _ _ => hother) rfl
    rintro s' ⟨⟩
    exact (hretired.node _ hagents).spend allocation delta
  | restarted i =>
    refine h.onCall (fun id _ s' hs' => ?_) (fun call hother => nomatch hother) rfl
    obtain ⟨_, -, rfl⟩ := Option.map_eq_some_iff.mp hs'
    exact fresh_retired id
  | tended hagents hledger =>
    refine h.onCall (fun id hretired s' hs' => ?_) (fun call hother _ _ _ => hother) hledger
    exact hretired.node s' (hagents.symm.trans hs')

/-- A run of careful steps. -/
def CarefulRun (net : Installation) (isAgent : String → Bool) : Cluster → Cluster → Prop :=
  Relation.ReflTransGen fun c c' => ∃ label, Step net c label c' ∧ Careful isAgent c label

/-- A cluster to start from: the engine is idle, no broker's call is under way, nothing
was answered, and the world has no allocation for drained. -/
structure Start (c : Cluster) : Prop where
  idle : c.phase = .idle
  calls : ∀ i, (c.sites i).calls = []
  ledgers : ∀ i, (c.sites i).node.ledger = ∅
  undrained : ∀ (id : String) x, c.world.allocations[id]? = some x → x.drained = false

lemma Start.sound (h : Start c) : c.Sound net := by
  refine ⟨fun id x hx hdrained => ?_, ?_, fun i key r hget => ?_⟩
  · rw [h.undrained id x hx] at hdrained
    cases hdrained
  · rw [h.idle]
    trivial
  · rw [h.ledgers i, get_empty] at hget
    cases hget

lemma CarefulRun.sound (hrun : CarefulRun net isAgent c c') (h : c.Sound net) : c'.Sound net := by
  induction hrun with
  | refl => exact h
  | tail _ hstep ih =>
    obtain ⟨label, hstep, hcareful⟩ := hstep
    exact hstep.sound hcareful ih

/-- **An authorised stop finds the slot empty.** In every run of careful steps, whenever
a proposal is authorised that stops an agent which has not exhausted its budget, the
node of the agent has no task in its slot. -/
theorem stopped_holds_nothing {start : Cluster} {view : World} {p : Proposal} {a : Action}
    {x : Allocation} (hstart : Start start) (hrun : CarefulRun net isAgent start c)
    (hstep : Step net c (.authorized view p) c') (hcareful : Careful isAgent c (.authorized view p))
    (ha : a ∈ p.actions) (hk : a.kind = .stopAllocation)
    (hx : view.allocations[a.target]? = some x) (hagent : isAgent x.workload = true)
    (hexhausted : x.exhausted = false) : (c.sites x.node).task a.target = "" := by
  have hsound := (hrun.sound hstart.sound).phase
  cases hstep with
  | authorize hphase hok =>
    rw [hphase] at hsound
    have hdrained := hcareful a ha hk x hx hagent hexhausted
    exact (hsound.2 a.target x hx hdrained).task

end Runs

/-! ### An agent stopped in the middle of a task -/

namespace Draining

/-- An agent workload of one instance. -/
def goal : Goal :=
  { id := "desk", workload := { name := "desk", replicas := 1, runtime := some {} } }

def instance_ : Allocation :=
  { id := "desk-0", workload := "desk", node := "n1", phase := .running }

def world : World :=
  { nodes := Table.ofEntries [("n1", { id := "n1", healthy := true })]
    allocations := Table.ofEntries [("desk-0", instance_)] }

def isAgent (workload : String) : Bool := decide (workload = "desk")

/-- A queue with one task that waits. -/
def queue : TaskQueue :=
  { name := "desk", workload := "desk"
    tasks := Table.ofEntries [("t1", { id := "t1" })], order := ["t1"] }

/-- The instance runs with a budget reserved for it. -/
def agents : Agents :=
  { meters := Table.ofEntries [("desk-0", { budget := ⟨100, 5, 60, 8⟩ })] }

def site : Site :=
  { node := { volumes := { root := "/volumes" }, queues := [queue], agents := some agents } }

def start : Cluster := { world := world, sites := fun _ => site }

lemma start_ok : Start start := by
  refine ⟨rfl, fun _ => rfl, fun _ => rfl, fun id x hx => ?_⟩
  simp only [start, world, get_ofEntries_cons, get_ofEntries_nil] at hx
  split_ifs at hx
  cases hx
  rfl

def stop : Action :=
  { id := "stop-desk-0", kind := .stopAllocation, target := "desk-0", workload := "desk"
    node := "n1" }

def drain : Action :=
  { id := "drain-desk-0", kind := .drainAllocation, target := "desk-0", workload := "desk"
    node := "n1" }

def stopping (revision : UInt64) : Proposal :=
  { id := "rollout-agent-r0", agentID := "rollout-agent", goalID := "desk"
    basedOnRevision := revision, actions := [stop] }

def draining : Proposal :=
  { id := "rollout-agent-r0", agentID := "rollout-agent", goalID := "desk"
    basedOnRevision := 0, actions := [drain]
    expectedEvidence := [⟨.allocationDrained, "desk-0", "true"⟩] }

/-- The envelope that carries the drain. -/
def work : ActionEnvelope :=
  { version := 1, id := "e", nodeID := "n1", goalID := "desk", proposalID := "rollout-agent-r0"
    worldRevision := 0, leaseID := "l", idempotencyKey := "k", issuedAt := 90 * second
    expiresAt := 120 * second, action := drain }

def net : Installation :=
  { wire := { scriptWire [work] with
      sha256Hex := fun bytes => if bytes = [1] then "this" else "other"
      encodeWork := fun w => if w.action = drain then [1] else [0] }
    config := fun i =>
      { nodeID := i, keys := Table.ofEntries [("key", List.replicate 32 0)], identityKey := [] }
    capabilities := fun _ => bareCapabilities true }

/-- The broker asked whether the instance may claim. -/
def asked : Cluster := start.onCall "n1" site.node [.claiming "desk-0" 0]

/-- The queue gave the task out. -/
def taken : Cluster :=
  asked.onCall "n1" { site.node with queues := [(TaskQueue.claim quietMachine "desk-0" queue).2] }
    [.holding "desk-0" "t1"]

/-- The instance holds the task. -/
def busy : Cluster :=
  taken.onCall "n1"
    { (taken.sites "n1").node with agents := some (agents.holdTask "desk-0" "t1") } []

def busyView : World := { busy.world with observedAt := 0 }

lemma asked_step : Step net start .other asked :=
  .mayClaim 0 rfl (by decide)

lemma taken_step : Step net asked .other taken := by
  have hcall : .claiming "desk-0" 0 ∈ (asked.sites "n1").calls := by decide
  have hclaim : Proc.Returns (TaskQueue.claim quietMachine "desk-0") queue
      (some { id := "t1", attempts := 1, claim := some ⟨"desk-0", quietMachine.now + 15 * minute⟩ })
      (TaskQueue.claim quietMachine "desk-0" queue).2 :=
    Prod.ext (by decide) rfl
  exact .claimed hcall rfl hclaim

lemma busy_step : Step net taken .other busy := by
  have hcall : .holding "desk-0" "t1" ∈ (taken.sites "n1").calls := by decide
  exact .held hcall rfl

end Draining

open Draining

/-- The kernel authorises the stop of an instance that holds a task: it was never
drained, so the world knows of no task. -/
theorem stopped_mid_task :
    Start start ∧
      ∃ c c' : Cluster, Relation.ReflTransGen (fun c c' => ∃ label, Step net c label c') start c ∧
        Step net c (.authorized busyView (stopping 0)) c' ∧
        stop ∈ (stopping 0).actions ∧
        busyView.allocations["desk-0"]? = some instance_ ∧
        goal.workload.runtime ≠ none ∧ instance_.exhausted = false ∧
        (c.sites "n1").task "desk-0" = "t1" := by
  have hrun : Relation.ReflTransGen (fun c c' => ∃ label, Step net c label c') start busy :=
    .tail (.tail (.tail .refl ⟨_, asked_step⟩) ⟨_, taken_step⟩) ⟨_, busy_step⟩
  have haccepted : authorize quietHost ⟨defaultPolicy⟩ { id := "rollout-agent" } goal
      busyView (stopping 0) = .ok () := by
    decide
  exact ⟨start_ok, _, _, .tail hrun ⟨_, .look 0 rfl⟩, .authorize rfl haccepted,
    List.mem_singleton.mpr rfl, by decide, by decide, by decide, by decide⟩

namespace Draining

def signed : SignedAction := { envelopeBytes := [0], keyID := "key", signature := "" }

/-- The idle instance reports that it is drained. -/
def answer : DispatchResult :=
  { envelopeDigest := "this"
    evidence := attribute_ (net.config "n1") quietMachine.now
      { kind := .allocationDrained, target := "desk-0"
        observed := Table.ofEntries [("drained", "true")] } drain }

/-- The node that was told to drain the instance. -/
def told : NodeState :=
  (dispatch net.wire (net.config "n1") (net.capabilities "n1") quietMachine signed site.node).2

/-- The world once the report is projected. -/
def drainedWorld : World := (project world (stamp 0 answer.evidence)).toOption.getD {}

def deciding : Cluster := { start with phase := .deciding { world with observedAt := 0 } }

def executing : Cluster := { start with phase := .executing [drain] }

def reporting : Cluster :=
  { executing.onNode "n1" told with phase := .reporting drain answer.evidence [] }

def projected : Cluster := { reporting with world := drainedWorld, phase := .executing [] }

/-- The engine decides on a proposal again. -/
def retired : Cluster :=
  { projected with phase := .deciding { drainedWorld with observedAt := 0 } }

lemma deciding_step : Step net start .other deciding := .look 0 rfl

lemma executing_step :
    Step net deciding (.authorized { world with observedAt := 0 } draining) executing := by
  have haccepted : authorize quietHost ⟨defaultPolicy⟩ { id := "rollout-agent" } goal
      { world with observedAt := 0 } draining = .ok () := by
    decide
  exact .authorize rfl haccepted

lemma reporting_step : Step net executing (.answered "n1" work) reporting := by
  have hverify : verify net.wire signed (net.config "n1").keys (net.config "n1").nodeID
      quietMachine.now = .ok work := by
    decide
  have hcollision : ∀ work', workDigest net.wire work' = workDigest net.wire work →
      work'.action = work.action := by
    intro work' hdigest
    by_contra hne
    have hother : work'.action ≠ drain := hne
    simp [workDigest, net, hother, work] at hdigest
  have hreturns : Proc.Returns
      (dispatch net.wire (net.config "n1") (net.capabilities "n1") quietMachine signed)
      (executing.sites "n1").node answer told :=
    Prod.ext (by decide) rfl
  exact .answered rfl hverify (by decide) hcollision hreturns

lemma projected_step : Step net reporting .other projected := by
  have hproject : project world (stamp 0 answer.evidence) = .ok drainedWorld := by decide
  exact .projected 0 rfl hproject

lemma retired_run : CarefulRun net isAgent start retired := by
  have hdrains :
      Careful isAgent deciding (.authorized { world with observedAt := 0 } draining) := by
    intro a ha hk
    rw [List.mem_singleton.mp ha] at hk
    cases hk
  have hhere : Careful isAgent executing (.answered "n1" work) := by
    refine fun _ => ⟨by decide, fun x hx => ?_, fun call hcall => nomatch hcall⟩
    have hget : executing.world.allocations["desk-0"]? = some instance_ := by decide
    cases hget.symm.trans hx
    rfl
  have h₁ : CarefulRun net isAgent start executing :=
    .tail (.tail .refl ⟨_, deciding_step, trivial⟩) ⟨_, executing_step, hdrains⟩
  have h₂ : CarefulRun net isAgent start projected :=
    .tail (.tail h₁ ⟨_, reporting_step, hhere⟩) ⟨_, projected_step, trivial⟩
  exact .tail (.tail h₂ ⟨_, .leave _, trivial⟩) ⟨_, .look 0 rfl, trivial⟩

end Draining

/-- The stop of the instance once it is drained. -/
theorem stopped_holds_nothing_drained :
    (retired.sites "n1").task "desk-0" = "" := by
  let x : Allocation := { instance_ with draining := true }
  have hget : drainedWorld.allocations["desk-0"]? = some x := by decide
  have haccepted : authorize quietHost ⟨defaultPolicy⟩ { id := "rollout-agent" } goal
      { drainedWorld with observedAt := 0 } (stopping 1) = .ok () := by
    decide
  have hcareful : Careful isAgent retired
      (.authorized { drainedWorld with observedAt := 0 } (stopping 1)) := by
    intro a ha _ x' hx' _ _
    rw [List.mem_singleton.mp ha] at hx'
    cases hget.symm.trans hx'
    rfl
  exact stopped_holds_nothing (a := stop) (x := x) start_ok retired_run
    (.authorize rfl haccepted) hcareful (List.mem_singleton.mpr rfl) rfl hget rfl (by decide)

end A4s.Daemon
