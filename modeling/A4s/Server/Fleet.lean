/-
The engine, its leases and the nodes (`control/engine.go`, `control/lease.go`, `node/remote.go`,
`node/dispatcher.go`).

The engine claims the targets of a proposal, sends its actions one after the other and lets the
claim go. A node knows nothing of these claims. It remembers the lease of the last envelope that
it has carried out for a target until that envelope expires.

* `Fleet`, `State`: a controller with its nodes, and what they remember; `Fate`: what is decided
  outside of them at a step, such as the loss of a reply.
* `act`: what an operation of the engine does and answers; `system` runs the calls of a server
  side by side.
* `Sent`: the history of what was sent, for the statements.
* `Noted`: what a node knows of leases is what it has carried out last.
* `leases_respected`: **when no envelope is refused because of a lease.**
-/
import A4s.Control.Lease
import A4s.Control.Proposers
import A4s.Node.Retries
import A4s.Server.Interleaving

namespace A4s.Daemon

open Go

/-! ### What a node carries out -/

/-- The envelope is accepted, and the action is carried out. -/
def Arrival.carriedOut (wire : Wire) (config : Config) (x : Arrival) (d : NodeState) : Bool :=
  match x.envelope wire config with
  | .error _ => false
  | .ok work => decide (work.action.kind ≠ .probeReadiness) &&
      decide (d.ledger[work.idempotencyKey]? = none) &&
      decide (checkLease wire d x.machine.now work = .ok ()) &&
      (perform wire config x.capabilities x.machine work.action d).1.toOption.isSome

section Leases

variable {wire : Wire} {config : Config} {x : Arrival} {d d₁ : NodeState} {work : ActionEnvelope}

lemma carriedOut_iff (hverify : x.envelope wire config = .ok work) :
    x.carriedOut wire config d = true ↔ Fresh wire config x.machine x.signed d work ∧
      ∃ report d₁,
        Proc.Returns (perform wire config x.capabilities x.machine work.action) d report d₁ := by
  have hreport : (perform wire config x.capabilities x.machine work.action d).1.toOption.isSome =
      true ↔ ∃ report d₁,
        Proc.Returns (perform wire config x.capabilities x.machine work.action) d report d₁ := by
    unfold Proc.Returns
    rcases perform wire config x.capabilities x.machine work.action d with ⟨fault | report, d₁⟩
    · exact iff_of_false nofun (by rintro ⟨_, _, h⟩; cases h)
    · exact iff_of_true rfl ⟨report, d₁, rfl⟩
  simp only [Arrival.carriedOut, hverify, Bool.and_eq_true, decide_eq_true_eq, hreport]
  constructor
  · rintro ⟨⟨⟨hmutation, hnew⟩, hfree⟩, hreturns⟩
    exact ⟨⟨hverify, hmutation, hnew, hfree⟩, hreturns⟩
  · rintro ⟨hfresh, hreturns⟩
    exact ⟨⟨⟨hfresh.mutation, hfresh.new⟩, hfresh.free⟩, hreturns⟩

lemma noteLease_leases (h : d₁.leases = d.leases) :
    (noteLease work d₁).leases = (noteLease work d).leases := by
  unfold noteLease
  split_ifs
  · exact h
  · rw [h]

lemma noteLease_get_self (htarget : work.action.target ≠ "") (hlease : work.leaseID ≠ "") :
    (noteLease work d).leases[work.action.target]? = some ⟨work.leaseID, work.expiresAt⟩ := by
  rw [noteLease, if_neg (not_or.mpr ⟨htarget, hlease⟩)]
  exact get_insert_self

lemma noteLease_get_of_ne {target : String} (h : target ≠ work.action.target) :
    (noteLease work d).leases[target]? = d.leases[target]? := by
  unfold noteLease
  split_ifs
  · rfl
  · exact get_insert_of_ne h

/-- What the node refuses an envelope for. -/
lemma checkLease_refuses {now : Time} {fault : Fault}
    (h : checkLease wire d now work = .error fault) :
    work.action.target ≠ "" ∧ ∃ held, d.leases[work.action.target]? = some held ∧
      now < held.expiresAt ∧ held.leaseID ≠ work.leaseID := by
  rw [checkLease] at h
  split_ifs at h with hnothing
  refine ⟨fun hempty => hnothing (.inl hempty), ?_⟩
  cases hheld : d.leases[work.action.target]? with
  | none =>
    rw [hheld] at h
    cases h
  | some held =>
    rw [hheld] at h
    refine ⟨held, rfl, not_not.mp fun hnot => ?_⟩
    dsimp only at h
    rw [refuseIf, if_neg hnot] at h
    cases h

/-- The node notes the lease of what it carries out. -/
lemma dispatch_leases (hverify : x.envelope wire config = .ok work) :
    (x.dispatch wire config d).2.leases =
      if x.carriedOut wire config d then (noteLease work d).leases else d.leases := by
  have hkept : (perform wire config x.capabilities x.machine work.action d).2.leases = d.leases :=
    congrArg Prod.snd (perform_keeps_books wire config x.capabilities x.machine work.action d)
  rcases hdispatch : x.dispatch wire config d with ⟨answer, d'⟩
  have hcarried := carriedOut_iff (d := d) hverify
  cases dispatch_cases hdispatch with
  | unverified hrefused => cases hverify.symm.trans hrefused
  | probed hverified hprobe =>
    cases hverify.symm.trans hverified
    rw [if_neg fun h => (hcarried.mp h).1.mutation hprobe]
  | known hverified _ hget =>
    cases hverify.symm.trans hverified
    rw [if_neg fun h => nomatch (hcarried.mp h).1.new.symm.trans hget]
  | held hverified _ _ hlease =>
    cases hverify.symm.trans hverified
    rw [if_neg fun h => nomatch (hcarried.mp h).1.free.symm.trans hlease]
  | failed hfresh hperform =>
    cases hverify.symm.trans hfresh.verified
    rw [hperform] at hkept
    rw [if_neg fun h => ?_]
    · exact hkept
    · obtain ⟨-, report, d₂, hreturns⟩ := hcarried.mp h
      cases hperform.symm.trans hreturns
  | unsaved hfresh hperform =>
    cases hverify.symm.trans hfresh.verified
    rw [hperform] at hkept
    rw [if_pos (hcarried.mpr ⟨hfresh, _, _, hperform⟩)]
    exact noteLease_leases hkept
  | performed hfresh hperform =>
    cases hverify.symm.trans hfresh.verified
    rw [hperform] at hkept
    rw [if_pos (hcarried.mpr ⟨hfresh, _, _, hperform⟩)]
    exact noteLease_leases hkept

/-- An envelope that does not verify leaves the node alone. -/
lemma dispatch_of_unverified {fault : Fault} (hverify : x.envelope wire config = .error fault) :
    x.dispatch wire config d = (.error fault, d) :=
  bind_of_stops (by rw [Proc.lift]; exact congrArg (·, d) hverify)

end Leases

end A4s.Daemon

namespace A4s.Calls

open Go Journal

/-! ### A controller and its nodes -/

/-- What does not change: the keys of the controller, what it asks of evidence, and the
configurations of the nodes. Every node is connected. -/
structure Fleet where
  host : Host
  wire : Daemon.Wire
  keyID : String
  privateKey : Bytes
  ttl : Duration
  nodeKeys : Table Bytes
  requireAttestation : Bool
  maxAge : Duration
  configs : String → Daemon.Config

/-- An envelope that was sent to a node, with what the two sides knew at that moment. -/
structure Sent where
  node : String
  envelope : Daemon.ActionEnvelope
  arrival : Daemon.Arrival
  before : Daemon.NodeState
  manager : LeaseManager
  carriedOut : Bool
  round : ℕ

/-- What the controller and the nodes remember, and what was sent. -/
structure State where
  world : World
  manager : LeaseManager := {}
  nodes : String → Daemon.NodeState
  /-- the proposal made last -/
  proposed : UInt64 := 0
  /-- what the executors are bound to -/
  goalID : String := ""
  proposalID : String := ""
  revision : UInt64 := 0
  leaseID : String := ""
  /-- the envelopes issued for each node -/
  counts : String → UInt64 := fun _ => 0
  /-- the proposals that were bound so far -/
  rounds : ℕ := 0
  history : List Sent := []
  /-- what was sent and whose evidence has not changed the world -/
  unapplied : List Sent := []
  /-- the evidence of what was sent last has come back -/
  awaiting : Bool := false

/-- The projection. What came back last is applied now. -/
def State.applied (s : State) (e : Evidence) : Result Unit × State :=
  match A4s.project s.world e with
  | .error fault => (.error fault, { s with awaiting := false })
  | .ok w =>
    (.ok (), { s with
      world := w, awaiting := false
      unapplied := if s.awaiting && !observesNothing e.kind then s.unapplied.tail
        else s.unapplied })

/-- What is decided outside at an operation: the clocks, how the agent of a name is set up, the
node's machine, whether its reply is lost, what a prober measures, and what the log
answers. -/
structure Fate where
  now : Time
  answered : Time
  agents : String → BuiltIn
  machine : Daemon.Machine
  capabilities : Daemon.Capabilities
  lost : Bool
  probe : Option Evidence
  order : List (String × Approval)
  paced : Option String
  sequence : ℕ
  database : Result Unit
  head : Head
  witness : Result Unit

namespace Fleet

variable (fleet : Fleet) (fate : Fate)

/-- The executor of a node, bound to the current proposal. -/
def remote (s : State) (node : String) : Daemon.RemoteExecutor :=
  { nodeID := node, keyID := fleet.keyID, privateKey := fleet.privateKey, ttl := fleet.ttl
    goalID := s.goalID, proposalID := s.proposalID, revision := s.revision, leaseID := s.leaseID
    nodeKeys := fleet.nodeKeys, requireAttestation := fleet.requireAttestation
    maxAge := fleet.maxAge, sequence := s.counts node }

/-- The envelope of an action. -/
def envelope (a : Action) (s : State) : Daemon.ActionEnvelope :=
  (fleet.remote s a.node).envelope fate.now (s.counts a.node + 1) a

/-- The message that leaves the controller, if one does. -/
def message (a : Action) (s : State) : Option Daemon.SignedAction :=
  if a.node = "" ∨ s.goalID = "" ∨ s.proposalID = "" ∨ a.kind.controlPlaneLocal = true then none
  else (Daemon.sign fleet.wire (fleet.envelope fate a s) fleet.keyID fleet.privateKey).toOption

/-- The message as it arrives. -/
def arrival (signed : Daemon.SignedAction) : Daemon.Arrival :=
  { capabilities := fate.capabilities, machine := fate.machine, signed := signed }

/-- What comes back from the node. -/
def reply (a : Action) (s : State) (signed : Daemon.SignedAction) :
    Result Daemon.DispatchResponse :=
  if fate.lost then fail "read dispatch response: EOF"
  else .ok (Daemon.respond fleet.wire (fleet.configs a.node) (arrival fate signed)
    (s.nodes a.node))

/-- What the executors return for an action. -/
def executed (a : Action) (s : State) : Result Evidence :=
  if a.node = "" then fail s!"action {quote a.id} does not name a node"
  else (Daemon.RemoteExecutor.execute fleet.wire (some (fleet.reply fate a s)) fate.now
    fate.answered a (fleet.remote s a.node)).1

/-- The record of a message. -/
def sent (a : Action) (s : State) (signed : Daemon.SignedAction) : Sent :=
  { node := a.node, envelope := fleet.envelope fate a s, arrival := arrival fate signed
    before := s.nodes a.node, manager := s.manager, round := s.rounds
    carriedOut := (arrival fate signed).carriedOut fleet.wire (fleet.configs a.node)
      (s.nodes a.node) }

/-- A message reaches its node. -/
def deliver (a : Action) (s : State) : State :=
  match fleet.message fate a s with
  | none => { s with awaiting := false }
  | some signed =>
    { s with
      nodes := Function.update s.nodes a.node
        ((arrival fate signed).dispatch fleet.wire (fleet.configs a.node) (s.nodes a.node)).2
      counts := Function.update s.counts a.node (s.counts a.node + 1)
      history := fleet.sent fate a s signed :: s.history
      unapplied := fleet.sent fate a s signed :: s.unapplied
      awaiting := (fleet.executed fate a s).toOption.isSome }

/-- `Acquire`, and the `Bind` that follows on it. -/
def acquire (goalID proposalID : String) (targets : List String) (s : State) :
    Result String × State :=
  match s.manager.acquire fleet.host fate.now goalID proposalID targets with
  | (.error fault, manager) => (.error fault, { s with manager := manager })
  | (.ok id, manager) =>
    (.ok id, { s with
      manager := manager, goalID := goalID, proposalID := proposalID, revision := s.proposed
      leaseID := id, rounds := s.rounds + 1, awaiting := false })

/-- What an agent proposes. -/
def propose (agent : AgentDescriptor) (goal : Goal) (w : World) : Except Refusal Proposal :=
  if (fate.agents agent.id).descriptor = agent then
    (fate.agents agent.id).propose fleet.host goal w
  else .error (.other "no such agent")

/-- What an operation does, and what it answers. -/
def act : (op : Op) → State → Op.Answer op × State
  | .lock, s => ((), s)
  | .unlock, s => ((), s)
  | .world, s => (s.world, s)
  | .project e, s => s.applied e
  | .nextSequence, s => (fate.sequence, s)
  | .append _, s => (fate.database, s)
  | .head, s => (fate.head, s)
  | .witness _, s => (fate.witness, s)
  | .ask .clock, s => (fate.now, s)
  | .ask (.propose agent goal w), s =>
    (fleet.propose fate agent goal w,
      { s with proposed := match fleet.propose fate agent goal w with
        | .ok p => p.basedOnRevision
        | .error _ => s.proposed })
  | .ask (.execute a), s => (fleet.executed fate a s, fleet.deliver fate a s)
  | .ask (.probe _ _ _), s => (fate.probe, s)
  | .ask (.acquire goalID proposalID targets), s => fleet.acquire fate goalID proposalID targets s
  | .ask (.release id), s => ((), { s with manager := s.manager.release id })
  | .ask (.order _), s => (fate.order, s)
  | .ask (.paced _ _), s => (fate.paced, s)

end Fleet

/-- The calls of a server, side by side. -/
def fleetSystem (fleet : Fleet) (site : Site) : System interface State Fate Unit :=
  { discipline := { note := fun g _ _ => g, may := fun _ _ => True, possible := fun _ _ _ => True }
    does := fun s _ op fate answer s' => fleet.act fate op s = (answer, s')
    starts := OnServer site
    fresh := () }

/-- A program that is free to do anything. -/
lemma meets_free {fleet : Fleet} {site : Site} (p : Prog interface Unit) :
    Meets (fleetSystem fleet site).discipline p () fun _ _ => True := by
  induction p with
  | ret a => exact trivial
  | call op next ih => exact ⟨trivial, fun answer _ => ih answer⟩

/-- A call that is played is a run. -/
lemma reaches_play {fleet : Fleet} (site : Site)
    {careful : State → (ℕ → Unit) → ℕ → Op → Fate → Prop} {ok : State → Op → Fate → Bool}
    (hok : ∀ s notes i op fate, ok s op fate = true → careful s notes i op fate)
    {p : Prog interface Unit} (hp : OnServer site p) (fates : ℕ → Fate) (s : State)
    (halong : p.along fleet.act fates ok 0 s = true) :
    Reaches (fleetSystem fleet site) careful ((fleetSystem fleet site).initial s)
      ((fleetSystem fleet site).initial (p.play fleet.act fates 0 s)) :=
  Alone.reaches (S := fleetSystem fleet site) hp
    (Prog.alone_play (fun _ _ _ _ => rfl) hok 0 p 0 s () halong)

/-! ### Refusals -/

namespace Sent

variable (fleet : Fleet)

/-- The node refuses the envelope because of a lease that it knows of. -/
def Held (h : Sent) : Prop :=
  ∃ work fault, h.arrival.envelope fleet.wire (fleet.configs h.node) = .ok work ∧
    work.action.kind ≠ .probeReadiness ∧ h.before.ledger[work.idempotencyKey]? = none ∧
    Daemon.checkLease fleet.wire h.before h.arrival.machine.now work = .error fault

/-- The node refuses the envelope because its key belongs to other work. -/
def Reused (h : Sent) : Prop :=
  ∃ work r, h.arrival.envelope fleet.wire (fleet.configs h.node) = .ok work ∧
    work.action.kind ≠ .probeReadiness ∧ h.before.ledger[work.idempotencyKey]? = some r ∧
    r.envelopeDigest ≠ Daemon.workDigest fleet.wire work

/-- The envelope was sent under a lease that the manager had granted for its target, and that was
the live one. -/
def Granted (h : Sent) : Prop :=
  ∃ lease, h.manager.holder h.envelope.issuedAt h.envelope.action.target = some lease ∧
    lease.id = h.envelope.leaseID ∧ lease.goalID = h.envelope.goalID ∧
    lease.proposalID = h.envelope.proposalID

instance (h : Sent) : Decidable (h.Held fleet) :=
  match hverify : h.arrival.envelope fleet.wire (fleet.configs h.node) with
  | .error _ => isFalse (by rintro ⟨work, fault, hok, -⟩; cases hverify.symm.trans hok)
  | .ok work =>
    match hlease : Daemon.checkLease fleet.wire h.before h.arrival.machine.now work with
    | .ok _ => isFalse (by
        rintro ⟨work', fault, hok, -, -, hrefused⟩
        cases hverify.symm.trans hok
        cases hlease.symm.trans hrefused)
    | .error fault =>
      decidable_of_iff (work.action.kind ≠ .probeReadiness ∧
          h.before.ledger[work.idempotencyKey]? = none)
        ⟨fun hfree => ⟨work, fault, hverify, hfree.1, hfree.2, hlease⟩, by
          rintro ⟨work', fault', hok, hmutation, hnew, -⟩
          cases hverify.symm.trans hok
          exact ⟨hmutation, hnew⟩⟩

instance (h : Sent) : Decidable h.Granted :=
  decidable_of_iff
    ((h.manager.holder h.envelope.issuedAt h.envelope.action.target).any fun lease =>
      decide (lease.id = h.envelope.leaseID ∧ lease.goalID = h.envelope.goalID ∧
        lease.proposalID = h.envelope.proposalID)) (by
    simp only [Option.any_eq_true, decide_eq_true_eq, Granted])

end Sent

/-- The wire does not garble envelopes: what is decoded is what was encoded. -/
def Faithful (wire : Daemon.Wire) : Prop :=
  ∀ e e' more, wire.decodeEnvelope (wire.encodeEnvelope e) = .ok (e', more) → e' = e

/-- The work of an envelope. -/
def workOf (e : Daemon.ActionEnvelope) : Daemon.Work :=
  { nodeID := e.nodeID, goalID := e.goalID, proposalID := e.proposalID
    idempotencyKey := e.idempotencyKey, action := e.action }

/-- A wire that carries the given envelopes, and tells apart what they ask for. -/
def bookWire (envelopes : List Daemon.ActionEnvelope) : Daemon.Wire :=
  { Daemon.scriptWire envelopes with
    encodeEnvelope := fun e => [UInt8.ofNat (envelopes.idxOf e)]
    encodeWork := fun work => [UInt8.ofNat ((envelopes.map workOf).idxOf work)]
    sha256Hex := fun bytes => toString (bytes.headD 0) }

lemma faithful_bookWire {envelopes : List Daemon.ActionEnvelope} (h : envelopes.length < 256) :
    Faithful (bookWire envelopes) := by
  intro e e' more hdecode
  have hindex : envelopes.idxOf e ≤ envelopes.length := List.idxOf_le_length
  have hposition : (UInt8.ofNat (envelopes.idxOf e)).toNat = envelopes.idxOf e := by
    rw [UInt8.toNat_ofNat']
    exact Nat.mod_eq_of_lt (by omega)
  simp only [bookWire, Daemon.scriptWire, List.headD_cons, hposition] at hdecode
  cases hget : envelopes[envelopes.idxOf e]? with
  | none =>
    rw [hget] at hdecode
    cases hdecode
  | some found =>
    rw [hget] at hdecode
    cases hdecode
    obtain ⟨hlt, hfound⟩ := List.getElem?_eq_some_iff.mp hget
    rw [← hfound, List.getElem_idxOf]

section Leases

variable {fleet : Fleet} {fate : Fate} {a : Action} {s s' : State}

/-- The operations that are not messages leave the nodes and the history alone. -/
lemma act_keeps {op : Op} {answer : Op.Answer op} (hop : ∀ a, op ≠ .ask (.execute a))
    (h : fleet.act fate op s = (answer, s')) : s'.nodes = s.nodes ∧ s'.history = s.history := by
  have hstate : s' = (fleet.act fate op s).2 := by rw [h]
  subst hstate
  clear h
  cases op with
  | project e =>
    change (s.applied e).2.nodes = _ ∧ (s.applied e).2.history = _
    unfold State.applied
    split <;> exact ⟨rfl, rfl⟩
  | ask q =>
    cases q with
    | execute a => exact absurd rfl (hop a)
    | acquire goalID proposalID targets =>
      change (fleet.acquire fate goalID proposalID targets s).2.nodes = _ ∧
        (fleet.acquire fate goalID proposalID targets s).2.history = _
      unfold Fleet.acquire
      split <;> exact ⟨rfl, rfl⟩
    | clock | propose | probe | release | order | paced => exact ⟨rfl, rfl⟩
  | lock | unlock | world | nextSequence | append | head | witness => exact ⟨rfl, rfl⟩

/-- What is known of a message that is sent. -/
lemma message_sent {signed : Daemon.SignedAction} (h : fleet.message fate a s = some signed) :
    s.proposalID ≠ "" ∧ Daemon.sign fleet.wire (fleet.envelope fate a s) fleet.keyID
      fleet.privateKey = .ok signed := by
  unfold Fleet.message at h
  split_ifs at h with hstays
  simp only [not_or] at hstays
  obtain ⟨-, -, hproposal, -⟩ := hstays
  cases hsign : Daemon.sign fleet.wire (fleet.envelope fate a s) fleet.keyID fleet.privateKey with
  | error fault =>
    rw [hsign] at h
    cases h
  | ok _ =>
    rw [hsign] at h
    cases h
    exact ⟨hproposal, rfl⟩

/-- The envelope that the node sees is the one that was sent. -/
lemma envelope_of_message (hfaithful : Faithful fleet.wire) {signed : Daemon.SignedAction}
    {work : Daemon.ActionEnvelope} (h : fleet.message fate a s = some signed)
    (hverify : (Fleet.arrival fate signed).envelope fleet.wire (fleet.configs a.node) = .ok work) :
    work = fleet.envelope fate a s := by
  obtain ⟨-, -, more, hdecode⟩ := Daemon.verify_valid hverify
  have hbytes : (Fleet.arrival fate signed).signed.envelopeBytes = _ :=
    Daemon.sign_bytes (message_sent h).2
  rw [hbytes] at hdecode
  exact hfaithful _ _ _ hdecode

lemma envelope_leaseID (fleet : Fleet) (fate : Fate) (a : Action) (h : s.proposalID ≠ "") :
    (fleet.envelope fate a s).leaseID ≠ "" := by
  change (if s.leaseID = "" then s.proposalID else s.leaseID) ≠ ""
  split_ifs with hlease
  · exact h
  · exact hlease

/-! ### What the nodes know of leases -/

/-- What a node has carried out last for a target. -/
def lastOn (history : List Sent) (node target : String) : Option Sent :=
  history.find? fun h =>
    h.carriedOut && decide (h.node = node ∧ h.envelope.action.target = target)

/-- What the nodes know of leases is what they have carried out last. -/
def Noted (s : State) : Prop :=
  ∀ node target : String, target ≠ "" → (s.nodes node).leases[target]? =
    (lastOn s.history node target).map fun h => ⟨h.envelope.leaseID, h.envelope.expiresAt⟩

/-- The condition on a message: what its node has carried out last for the same target was under
the same lease, or has expired. -/
def Spaced (fleet : Fleet) (s : State) (_ : ℕ → Unit) (_ : ℕ) (op : Op) (fate : Fate) : Prop :=
  ∀ a h, op = .ask (.execute a) → lastOn s.history a.node a.target = some h →
    h.envelope.leaseID = (fleet.envelope fate a s).leaseID ∨
      h.envelope.expiresAt ≤ fate.machine.now

lemma lastOn_cons_of_not {history : List Sent} {h : Sent} {node target : String}
    (hnot : ¬(h.carriedOut = true ∧ h.node = node ∧ h.envelope.action.target = target)) :
    lastOn (h :: history) node target = lastOn history node target := by
  refine List.find?_cons_of_neg ?_
  simpa using hnot

lemma lastOn_cons_of {history : List Sent} {h : Sent} {node target : String}
    (hcarried : h.carriedOut = true) (hnode : h.node = node)
    (htarget : h.envelope.action.target = target) :
    lastOn (h :: history) node target = some h := by
  refine List.find?_cons_of_pos ?_
  simp [hcarried, hnode, htarget]

/-- A message keeps what the nodes know in step with what was sent. -/
lemma Noted.deliver (hfaithful : Faithful fleet.wire) (h : Noted s) :
    Noted (fleet.deliver fate a s) := by
  unfold Fleet.deliver
  cases hmessage : fleet.message fate a s with
  | none => exact h
  | some signed =>
    intro node target htarget
    dsimp only
    by_cases hnode : node = a.node
    · subst hnode
      rw [Function.update_self]
      cases hverify : (Fleet.arrival fate signed).envelope fleet.wire (fleet.configs a.node) with
      | error fault =>
        rw [Daemon.dispatch_of_unverified hverify, lastOn_cons_of_not, h _ _ htarget]
        rintro ⟨hcarried, -⟩
        simp only [Fleet.sent, Daemon.Arrival.carriedOut, hverify] at hcarried
        cases hcarried
      | ok work =>
        rw [Daemon.dispatch_leases hverify]
        obtain rfl := envelope_of_message hfaithful hmessage hverify
        by_cases hcarried : (Fleet.arrival fate signed).carriedOut fleet.wire
            (fleet.configs a.node) (s.nodes a.node) = true
        · rw [if_pos hcarried]
          by_cases hsame : target = a.target
          · subst hsame
            have hlease := envelope_leaseID fleet fate a (message_sent hmessage).1
            have hlast : lastOn (fleet.sent fate a s signed :: s.history) a.node a.target =
                some (fleet.sent fate a s signed) := lastOn_cons_of hcarried rfl rfl
            rw [hlast]
            exact Daemon.noteLease_get_self htarget hlease
          · rw [Daemon.noteLease_get_of_ne hsame, lastOn_cons_of_not, h _ _ htarget]
            rintro ⟨-, -, hother⟩
            exact hsame hother.symm
        · rw [if_neg hcarried, lastOn_cons_of_not, h _ _ htarget]
          rintro ⟨hyes, -⟩
          exact hcarried hyes
    · rw [Function.update_of_ne hnode, lastOn_cons_of_not, h _ _ htarget]
      rintro ⟨-, hsame, -⟩
      exact hnode hsame.symm

/-- A message that is spaced is not refused for a lease. -/
lemma not_held_of_spaced (hfaithful : Faithful fleet.wire) (hnoted : Noted s)
    {signed : Daemon.SignedAction} (hmessage : fleet.message fate a s = some signed)
    (hspaced : ∀ h, lastOn s.history a.node a.target = some h →
      h.envelope.leaseID = (fleet.envelope fate a s).leaseID ∨
        h.envelope.expiresAt ≤ fate.machine.now) :
    ¬(fleet.sent fate a s signed).Held fleet := by
  rintro ⟨work, fault, hverify, -, -, hlease⟩
  obtain rfl := envelope_of_message hfaithful hmessage hverify
  obtain ⟨htarget, held, hheld, hlive, hother⟩ := Daemon.checkLease_refuses hlease
  have hknown := hnoted a.node a.target htarget
  rw [show (s.nodes a.node).leases[a.target]? = some held from hheld, eq_comm,
    Option.map_eq_some_iff] at hknown
  obtain ⟨h, hlast, rfl⟩ := hknown
  rcases hspaced h hlast with hsame | hexpired
  · exact hother hsame
  · exact absurd hlive (not_lt.mpr hexpired)

/-- What holds between the operations. -/
structure Respected (fleet : Fleet) (s : State) : Prop where
  noted : Noted s
  free : ∀ h ∈ s.history, ¬h.Held fleet

/-- An operation that is spaced keeps leases respected. -/
lemma Respected.act {op : Op} {answer : Op.Answer op} (h : Respected fleet s)
    (hfaithful : Faithful fleet.wire)
    (hspaced : ∀ a h, op = .ask (.execute a) → lastOn s.history a.node a.target = some h →
      h.envelope.leaseID = (fleet.envelope fate a s).leaseID ∨
        h.envelope.expiresAt ≤ fate.machine.now)
    (hdoes : fleet.act fate op s = (answer, s')) : Respected fleet s' := by
  by_cases hop : ∃ a, op = .ask (.execute a)
  · obtain ⟨a, rfl⟩ := hop
    obtain ⟨-, rfl⟩ := Prod.mk.inj hdoes
    refine ⟨h.noted.deliver hfaithful, ?_⟩
    unfold Fleet.deliver
    cases hmessage : fleet.message fate a s with
    | none => exact h.free
    | some signed =>
      intro sent hmem
      rcases List.mem_cons.mp hmem with rfl | hold
      · exact not_held_of_spaced hfaithful h.noted hmessage fun last => hspaced a last rfl
      · exact h.free sent hold
  · obtain ⟨hnodes, hhistory⟩ := act_keeps (fun a ha => hop ⟨a, ha⟩) hdoes
    refine ⟨?_, ?_⟩
    · rw [Noted, hnodes, hhistory]
      exact h.noted
    · rw [hhistory]
      exact h.free

/-- **When leases are respected.** In every run in which no action is sent for a target as long as
the envelope that the node has carried out for it last, under another lease, has not expired, no
envelope is refused because of a lease. Reconciliations and operators may run side by side. -/
theorem leases_respected {site : Site} {c : Go.Config interface State Unit}
    (hfaithful : Faithful fleet.wire) (hhistory : s.history = [])
    (hleases : ∀ node, (s.nodes node).leases = ∅)
    (hrun : Reaches (fleetSystem fleet site) (Spaced fleet)
      ((fleetSystem fleet site).initial s) c) :
    ∀ h ∈ c.shared.history, ¬h.Held fleet := by
  have hinit : Respected fleet s := by
    refine ⟨fun node target _ => ?_, fun h hmem => ?_⟩
    · rw [hleases, hhistory, get_empty]
      rfl
    · rw [hhistory] at hmem
      cases hmem
  have hreached := @Reaches.invariant interface Unit State Fate (fleetSystem fleet site)
    (Spaced fleet) (fun _ => True) (fun s _ => Respected fleet s) c s (fun p _ => meets_free p)
    (fun h _ hspaced hdoes => ⟨trivial, h.act hfaithful hspaced hdoes⟩) (fun h _ => h) hrun hinit
  exact hreached.1.free

end Leases

namespace Rolling

/-- A new version of a workload of one replica. -/
def goal : Goal :=
  { id := "web"
    workload := { name := "web", image := "web@sha256:2", replicas := 1
                  resources := { cpuMillis := 100, memoryMB := 64 } } }

/-- One node, with the replica of the old version. -/
def world : World :=
  { nodes := Table.ofEntries
      [("n1", { id := "n1", healthy := true, capacity := { cpuMillis := 1000, memoryMB := 1024 }
                used := { cpuMillis := 100, memoryMB := 64 }
                images := Table.ofEntries [("web@sha256:2", true)] })]
    allocations := Table.ofEntries
      [("web-0", { id := "web-0", workload := "web", node := "n1", image := "web@sha256:1"
                   resources := { cpuMillis := 100, memoryMB := 64 }, phase := .running })] }

def now : Time := unixEpoch + 1000 * second

/-- Everything succeeds, at one moment. -/
def fate : Fate :=
  { now := now, answered := now
    agents := fun id => if id = "placement-agent" then .placement else .rollout {}
    machine := { Daemon.quietMachine with now := now }
    capabilities := Daemon.bareCapabilities true, lost := false, probe := none, order := []
    paced := none, sequence := 0, database := .ok (), head := {}, witness := .ok () }

def stop : Action :=
  { id := "stop-web-0", kind := .stopAllocation, target := "web-0", workload := "web"
    node := "n1" }

def delete : Action :=
  { id := "delete-web-0", kind := .deleteAllocation, target := "web-0", workload := "web"
    node := "n1", dependsOn := ["stop-web-0"] }

def create : Action :=
  { id := "create-web-0", kind := .createAllocation, target := "web-0", workload := "web"
    node := "n1", image := "web@sha256:2", resources := { cpuMillis := 100, memoryMB := 64 } }

/-- The envelope of an action, as the given number of envelopes for the node. -/
def envelope (proposalID : String) (revision number : UInt64) (a : Action) :
    Daemon.ActionEnvelope :=
  { version := Daemon.envelopeVersion, id := s!"{proposalID}-{number}", nodeID := "n1"
    goalID := "web", proposalID := proposalID, worldRevision := revision
    leaseID := leaseID proposalID now, idempotencyKey := s!"{proposalID}/{a.id}"
    issuedAt := now, expiresAt := now + Daemon.defaultEnvelopeTTL, action := a }

def fleet : Fleet :=
  { host := quietHost
    wire := bookWire [envelope "rollout-agent-r0" 0 1 stop, envelope "rollout-agent-r0" 0 2 delete,
      envelope "placement-agent-r2" 2 3 create]
    keyID := "key", privateKey := List.replicate 64 0, ttl := Daemon.defaultEnvelopeTTL
    nodeKeys := ∅, requireAttestation := false, maxAge := 0
    configs := fun node =>
      { nodeID := node, keys := Table.ofEntries [("key", List.replicate 32 0)]
        identityKey := [] } }

def engine : Engine :=
  { host := quietHost, kernel := ⟨defaultPolicy⟩
    agents := [PlacementAgent.descriptor, RolloutAgent.descriptor], probers := 0 }

def site : Site :=
  { host := quietHost, decode := fun _ => fail "no grant", operatorKeys := ∅
    goals := Table.ofEntries [("web", goal)], anchored := false, maxRounds := 3 }

def start : State :=
  { world := world, nodes := fun _ => { volumes := { root := "/volumes" } } }

/-- The state after some rounds. -/
def after (maxRounds : ℕ) : State :=
  (toProg (Calls.run engine goal maxRounds)).play fleet.act (fun _ => fate) 0 start

/-- The condition on a message, as a test. -/
def spaced (s : State) (op : Op) (fate : Fate) : Bool :=
  match op with
  | .ask (.execute a) => (lastOn s.history a.node a.target).all fun h =>
    decide (h.envelope.leaseID = (fleet.envelope fate a s).leaseID ∨
      h.envelope.expiresAt ≤ fate.machine.now)
  | _ => true

lemma spaced_of {s : State} {notes : ℕ → Unit} {i : ℕ} {op : Op} {fate : Fate}
    (h : spaced s op fate = true) : Spaced fleet s notes i op fate := by
  rintro a last rfl hlast
  simp only [spaced, hlast, Option.all_some, decide_eq_true_eq] at h
  exact h

end Rolling

open Rolling

/-- The rollout stops and deletes the old replica under one lease. -/
theorem leases_respected_rollout :
    (after 1).history.length = 2 ∧
      ∀ h ∈ (after 1).history, ¬h.Held fleet := by
  refine ⟨by decide +kernel, ?_⟩
  have halong : (toProg (Calls.run engine goal 1)).along fleet.act
      (fun _ => fate) spaced 0 start = true := by decide +kernel
  exact leases_respected (faithful_bookWire (by decide)) rfl (fun _ => rfl)
    (reaches_play site (fun _ _ _ _ _ => spaced_of) (.run _ _ _) _ _ halong)

/-- In the next round of the same run the placement agent puts the new version in the place of
the old one, under a lease of its own. The node refuses it, because it remembers the lease of the
rollout, which the controller has let go. -/
theorem lease_refused :
    Reaches (fleetSystem fleet site) (fun _ _ _ _ _ => True)
        ((fleetSystem fleet site).initial start)
        ((fleetSystem fleet site).initial (after 3)) ∧
      ∃ h ∈ (after 3).history, h.Granted ∧ h.Held fleet := by
  refine ⟨?_, by decide +kernel⟩
  have halong : (toProg (Calls.run engine goal 3)).along fleet.act
      (fun _ => fate) (fun _ _ _ => true) 0 start = true := by decide +kernel
  exact reaches_play site (fun _ _ _ _ _ _ => trivial) (.run _ _ _) _ _ halong

end A4s.Calls
