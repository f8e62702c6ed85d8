/-
The calls on a server, operation by operation (`control/engine.go`, `server/server.go`).

A reconciliation and the calls of operators work on the same three objects: the projector, the
event log and the anchor. Each object has a lock of its own, so one operation on it is one
step; the calls of operators hold the lock of the server as well. The engine applies evidence
to the world and then records it, an operator's observation is recorded and then applied.

* `Op`: the operations on the shared objects; what is asked of agents, executors, probers,
  leases and the clock is answered from outside.
* `meets_run_bind` and its like: the rules of `Meets` for calls that may return an error.
* `record`, `executeProposal`, `refreshReadiness`, `run`, `reconcile`: the engine.
* `approve`, `revoke`, `setCordon`, `observeNodes`: the calls of operators.
-/
import A4s.Go.Threads
import A4s.Control.Approval
import A4s.Control.Kernel
import A4s.Control.Rollback
import A4s.Server.Journal

namespace A4s.Calls

open Go Journal

/-! ### Operations -/

/-- Why an agent proposes nothing: the operator has to decide about a rollback, or an error. -/
inductive Refusal where
  | rollback (text : String)
  | other (text : String)
  deriving DecidableEq

/-- Questions to what is outside of the server, or cannot be told apart from it here: the
lease manager, `Kernel.Paced` and the order in which a map is ranged over. -/
inductive Query where
  | clock
  | propose (agent : AgentDescriptor) (goal : Goal) (w : World)
  | execute (a : Action)
  | probe (prober : ℕ) (w : World) (c : Check)
  | acquire (goalID proposalID : String) (targets : List String)
  | release (leaseID : String)
  | order (approvals : Table Approval)
  | paced (goal : Goal) (w : World)

@[reducible] def Query.Answer : Query → Type
  | .clock => Time
  | .propose _ _ _ => Except Refusal Proposal
  | .execute _ => Result Evidence
  | .probe _ _ _ => Option Evidence
  | .acquire _ _ _ => Result String
  | .release _ => Unit
  | .order _ => List (String × Approval)
  | .paced _ _ => Option String

/-- One operation on a shared object. -/
inductive Op where
  | lock
  | unlock
  | world
  | project (e : Evidence)
  | nextSequence
  | append (event : Journal.Event)
  | head
  | witness (h : Head)
  | ask (q : Query)

@[reducible] def Op.Answer : Op → Type
  | .lock => Unit
  | .unlock => Unit
  | .world => World
  | .project _ => Result Unit
  | .nextSequence => ℕ
  | .append _ => Result Unit
  | .head => Head
  | .witness _ => Result Unit
  | .ask q => q.Answer

@[reducible] def interface : Interface := { Op := Op, Answer := Op.Answer }

/-- A call that may return an error. -/
abbrev Call (α : Type) := ExceptT Fault (Prog interface) α

section Primitives

variable {α : Type}

/-- An operation that cannot fail. -/
def does (op : Op) : Call (Op.Answer op) := ExceptT.lift (Prog.perform (I := interface) op)

def lock : Call Unit := does .lock

def unlock : Call Unit := does .unlock

/-- `DurableProjector.World`. -/
def world : Call World := does .world

def clock : Call Time := does (.ask .clock)

/-- `DurableProjector.Project`. -/
def projectEvidence (e : Evidence) : Call Unit :=
  ExceptT.mk (Prog.perform (I := interface) (.project e))

def append (event : Journal.Event) : Call Unit :=
  ExceptT.mk (Prog.perform (I := interface) (.append event))

def witness (h : Head) : Call Unit := ExceptT.mk (Prog.perform (I := interface) (.witness h))

/-- A result that is there already. -/
def settle (r : Result α) : Call α := ExceptT.mk (pure r)

/-- A call whose error is looked at. -/
def attempt (c : Call α) : Call (Result α) := ExceptT.lift c.run

/-- `fmt.Errorf(text + "%w", err)` around a call. -/
def wrapped (text : String) (c : Call α) : Call α :=
  attempt c >>= fun r => settle (wrapError text r)

/-- `mu.Lock(); defer mu.Unlock()` around a body. -/
def locked (body : Call α) : Call α := do
  lock
  let r ← attempt body
  unlock
  settle r

/-- `err.Error()`. -/
def faultText : Fault → String
  | .error text => text
  | .panic text => text

/-- `return fmt.Errorf(text)`. -/
def refuse (text : String) : Call α := settle (fail text)

end Primitives

/-! ### Rules for calls -/

section Rules

variable {α β G : Type} {D : Discipline interface G} {c : Call α} {f : α → Call β} {g : G}

lemma run_bind : (c >>= f).run = c.run >>= fun r =>
    match r with
    | .ok a => (f a).run
    | .error fault => pure (.error fault) := by
  change (c.run >>= ExceptT.bindCont f) = _
  congr 1
  funext r
  cases r <;> rfl

/-- One call after another; an error ends both. -/
lemma meets_run_bind {post : Result β → G → Prop} :
    Meets D (c >>= f).run g post ↔ Meets D c.run g fun r g' =>
      match r with
      | .ok a => Meets D (f a).run g' post
      | .error fault => post (.error fault) g' := by
  rw [run_bind, meets_bind]
  constructor
  · intro h
    refine h.mono fun r g' hr => ?_
    cases r <;> exact hr
  · intro h
    refine h.mono fun r g' hr => ?_
    cases r <;> exact hr

/-- An operation and what follows on its answer. -/
lemma meets_does_bind {op : Op} {f : Op.Answer op → Call β} {post : Result β → G → Prop} :
    Meets D (does op >>= f).run g post ↔ D.may g op ∧
      ∀ answer, D.possible g op answer → Meets D (f answer).run (D.note g op answer) post :=
  Iff.rfl

lemma meets_attempt {post : Result (Result α) → G → Prop} :
    Meets D (attempt c).run g post ↔ Meets D c.run g fun r g' => post (.ok r) g' := by
  change Meets D (c.run >>= fun r => pure (.ok r)) g post ↔ _
  rw [meets_bind]
  exact Iff.rfl

/-- A call whose error is passed on in other words. -/
lemma meets_wrapped_bind {text : String} {post : Result β → G → Prop}
    (hpost : ∀ fault fault' g, post (.error fault) g → post (.error fault') g) :
    Meets D c.run g (fun r g' =>
      match r with
      | .ok a => Meets D (f a).run g' post
      | .error fault => post (.error fault) g') →
    Meets D (wrapped text c >>= f).run g post := by
  intro h
  rw [meets_run_bind, wrapped, meets_run_bind, meets_attempt]
  refine h.mono fun r g' hr => ?_
  match r with
  | .ok a => exact hr
  | .error (.error _) => exact hpost _ _ _ hr
  | .error (.panic _) => exact hr

end Rules

/-! ### The engine -/

/-- `Engine.record`: the sequence number is read before the event is appended. -/
def record (event : Journal.Event) : Call Unit := do
  let sequence ← does .nextSequence
  let at_ ← clock
  let w ← world
  wrapped s!"persist {event.type_.text} event: " (append
    { event with sequence := sequence, at_ := at_, worldRevision := w.revision })

/-- `Engine.observedWorld`. -/
def observedWorld : Call World := do
  let w ← world
  let now ← clock
  return if w.observedAt < now then { w with observedAt := now } else w

/-- The wiring of one engine: the kernel it asks, its agents, and how many probers it has. -/
structure Engine where
  host : Host
  kernel : Kernel
  agents : List AgentDescriptor
  probers : ℕ

/-- `goalAchieved`. -/
def goalAchieved (host : Host) (goal : Goal) (w : World) : Bool :=
  decide ((matchingReadyAllocations host goal w : Int) = goal.workload.replicas.toInt) &&
    match goal.route with
    | none => true
    | some spec =>
      match w.routes[spec.host]? with
      | none => false
      | some route => decide (route.workload = goal.workload.name ∧ route.port = spec.port ∧
          route.exposure = spec.exposure)

/-- What a check observes. An allocation that is missing is neither ready nor drained. -/
def observes (host : Host) (w : World) (c : Check) : Option Bool :=
  let allocation := w.allocations[c.target]?
  match c.kind with
  | .allocationReady => some (allocation.any fun a => a.readyAt (w.now host.wall))
  | .agentReady => some (allocation.any fun a =>
    a.readyAt (w.now host.wall) && !a.draining && !a.exhausted)
  | .allocationDrained => some (allocation.any fun a => a.drained)
  | .routeReachable => some w.routes[c.target]?.isSome
  | .other _ => none

/-- `verifyChecks`. -/
def verifyChecks (host : Host) (w : World) (checks : List Check) : Result Unit :=
  checks.forM fun c => do
    let observed ← require (observes host w c) s!"unknown evidence check {quote c.kind.text}"
    refuseIf (boolText observed ≠ c.want)
      (s!"check {c.kind.text} for {c.target}: observed {boolText observed}, " ++
        s!"want {c.want}")

/-- `LeaseTargets`: the distinct targets a proposal will mutate. -/
def leaseTargets (p : Proposal) : List String :=
  ((p.actions.filter fun a => decide (a.kind ∈ [ActionKind.createAllocation, .startAllocation,
    .stopAllocation, .deleteAllocation, .publishRoute]) && decide (a.target ≠ "")).map
      (·.target)).dedup.insertionSort (· ≤ ·)

section Engine

variable (engine : Engine)

/-- A node stamps what it reports; the engine fills the gap of an executor without a node. -/
def timed (e : Evidence) : Call Evidence :=
  if e.observedAt = 0 then do
    let now ← clock
    return { e with observedAt := now }
  else return e

/-- The loop of `executeProposal` over the actions: evidence is applied, then recorded. -/
def executeActions (goal : Goal) (p : Proposal) : List Action → Bool → Call Bool
  | [], progress => return progress
  | a :: rest, _ => do
      record { type_ := .actionDispatched, actor := "coordinator", goalID := goal.id
               proposalID := p.id, actionID := a.id, target := a.target, kind := a.kind.text
               message := a.kind.text }
      match ← does (.ask (.execute a)) with
      | .error err => do
          match ← attempt (record { type_ := .goalBlocked, actor := "node-executor"
                                    goalID := goal.id, proposalID := p.id, actionID := a.id
                                    target := a.target, kind := a.kind.text
                                    message := faultText err }) with
          | .error recordErr =>
            refuse s!"execute action: {faultText err}; persist failure: {faultText recordErr}"
          | .ok () => settle (.error err)
      | .ok evidence => do
          let evidence ← timed evidence
          match ← attempt (projectEvidence evidence) with
          | .error err => do
              record { type_ := .goalBlocked, actor := "projection", goalID := goal.id
                       proposalID := p.id, actionID := a.id, target := a.target
                       kind := a.kind.text, message := faultText err }
              settle (wrapError s!"project evidence for action {quote a.id}: " (.error err))
          | .ok () => do
              record { type_ := .actionCompleted, actor := "node-executor", goalID := goal.id
                       proposalID := p.id, actionID := a.id, target := a.target
                       kind := a.kind.text, message := a.kind.text, evidence := some evidence }
              executeActions goal p rest true

/-- A measurement that one of the probers has made. -/
def observeWith (goal : Goal) (p : Proposal) (c : Check) (prober : ℕ) : Call Unit := do
  let w ← observedWorld
  match ← does (.ask (.probe prober w c)) with
  | none => return ()
  | some evidence => do
      wrapped s!"project probe evidence for {quote c.target}: " (projectEvidence evidence)
      record { type_ := .observationRecorded, actor := "prober", goalID := goal.id
               proposalID := p.id, target := c.target, kind := evidence.kind.text
               message := evidence.kind.text, evidence := some evidence }

/-- `Engine.observe`. -/
def observe (goal : Goal) (p : Proposal) : Call Unit :=
  p.expectedEvidence.forM fun c => (List.range engine.probers).forM (observeWith goal p c)

/-- `Engine.executeProposal`: the lease is released on every path. -/
def executeProposal (goal : Goal) (p : Proposal) (leaseID : String) : Call Bool := do
  let r ← attempt do
    let progress ← executeActions goal p p.actions false
    observe engine goal p
    let w ← observedWorld
    match verifyChecks engine.host w p.expectedEvidence with
    | .error err => do
        record { type_ := .goalBlocked, actor := "verifier", goalID := goal.id
                 proposalID := p.id, message := faultText err }
        settle (.error err)
    | .ok () => return progress
  does (.ask (.release leaseID))
  settle r

/-- One measurement of `refreshReadiness`, which is dropped if it changes nothing. -/
def refreshWith (goal : Goal) (id : String) (prober : ℕ) : Call Unit := do
  let before ← observedWorld
  let kind := if goal.workload.runtime.isSome then CheckKind.agentReady else .allocationReady
  match ← does (.ask (.probe prober before { kind := kind, target := id, want := "true" })) with
  | none => return ()
  | some evidence => do
      let now := before.now engine.host.wall
      let was := before.allocations[id]?.any fun a => a.readyAt now
      let willBe := decide (evidence.observe "ready" = "true") &&
        (decide (evidence.expiresAt = 0) || decide (now < evidence.expiresAt))
      if was = willBe then return ()
      wrapped s!"project readiness for {quote id}: " (projectEvidence evidence)
      record { type_ := .observationRecorded, actor := "prober", goalID := goal.id, target := id
               kind := evidence.kind.text, message := evidence.kind.text
               evidence := some evidence }

/-- `Engine.refreshReadiness`. -/
def refreshReadiness (goal : Goal) : Call Unit := do
  if engine.probers = 0 then return ()
  let w ← observedWorld
  let ids := ((w.allocations.toList.filter fun x =>
    decide (x.2.workload = goal.workload.name ∧ x.2.phase = .running)).map (·.1)).insertionSort
      (· ≤ ·)
  ids.forM fun id => (List.range engine.probers).forM (refreshWith engine goal id)

/-- The agents of a round, one after the other; the result says whether one has made
progress. -/
def consult (goal effective : Goal) : List AgentDescriptor → Bool → Call Bool
  | [], progress => return progress
  | agent :: rest, progress => do
      let w ← observedWorld
      match ← does (.ask (.propose agent effective w)) with
      | .error (.rollback text) => do
          record { type_ := .goalBlocked, actor := agent.id, goalID := goal.id, message := text }
          refuse text
      | .error (.other text) => do
          record { type_ := .proposalDenied, actor := agent.id, goalID := goal.id
                   message := text }
          consult goal effective rest progress
      | .ok p =>
        if p.actions = [] then consult goal effective rest progress
        else do
          record { type_ := .proposalCreated, actor := p.agentID, goalID := goal.id
                   proposalID := p.id, message := p.reasoning }
          match authorize engine.host engine.kernel agent effective w p with
          | .error err => do
              record { type_ := .proposalDenied, actor := "policy-kernel", goalID := goal.id
                       proposalID := p.id, message := faultText err }
              consult goal effective rest progress
          | .ok () => do
              record { type_ := .proposalApproved, actor := "policy-kernel", goalID := goal.id
                       proposalID := p.id
                       message := "all actions authorized against a simulated world" }
              match ← does (.ask (.acquire goal.id p.id (leaseTargets p))) with
              | .error err => do
                  record { type_ := .proposalDenied, actor := "policy-kernel"
                           goalID := goal.id, proposalID := p.id, message := faultText err }
                  consult goal effective rest progress
              | .ok leaseID => do
                  let executed ← executeProposal engine effective p leaseID
                  consult goal effective rest (progress || executed)

/-- A round, from where the goal is fixed; `next` is the round after it. -/
def round (goal effective : Goal) (next : Call Unit) : Call Unit := do
  refreshReadiness engine effective
  let w ← observedWorld
  if goalAchieved engine.host effective w then
    record { type_ := .goalAchieved, actor := "verifier", goalID := goal.id
             message := "goal conditions verified from current world evidence" }
  else do
    let progress ← consult engine goal effective engine.agents false
    if progress then next
    else do
      let w ← observedWorld
      match ← does (.ask (.paced effective w)) with
      | some pacing => do
          record { type_ := .goalBlocked, actor := "coordinator", goalID := goal.id
                   message := pacing }
          refuse pacing
      | none => do
          record { type_ := .goalBlocked, actor := "coordinator", goalID := goal.id
                   message := "no agent produced an authorized action" }
          refuse s!"goal {quote goal.id} is blocked"

/-- The rounds of `Engine.Run` that are left. An approved rollback changes which image the goal
means, and is resolved before anything else reads the goal. -/
def rounds (goal : Goal) (maxRounds : ℕ) : ℕ → Call Unit
  | 0 => do
      record { type_ := .goalBlocked, actor := "coordinator", goalID := goal.id
               message := "reconciliation round limit reached" }
      refuse s!"goal {quote goal.id} did not converge after {maxRounds} rounds"
  | left + 1 => do
      let w ← observedWorld
      let order ← does (.ask (.order w.approvals))
      let (effective, rolledBackFrom, compensating) := compensatedGoal engine.host order goal w
      if compensating then
        record { type_ := .goalCompensating, actor := "coordinator", goalID := goal.id
                 kind := ActionKind.createAllocation.text, target := goal.workload.name
                 message := s!"operator approved rollback from {rolledBackFrom} to " ++
                   effective.workload.image }
      round engine goal effective (rounds goal maxRounds left)

/-- `Engine.Run`. -/
def run (goal : Goal) (maxRounds : ℕ) : Call Unit := do
  record { type_ := .goalAccepted, actor := "operator", goalID := goal.id
           message := goal.objective }
  rounds engine goal maxRounds maxRounds

end Engine

/-! ### The server -/

/-- What does not change while a server runs: its operators' keys, the goals it has accepted,
and whether it has an anchor. -/
structure Site where
  host : Host
  decode : Bytes → Result ApprovalGrant
  operatorKeys : Table Bytes
  goals : Table Goal
  anchored : Bool
  maxRounds : ℕ

namespace Site

variable (site : Site)

/-- `Server.witnessHead`: the lock is held only to look up the anchor and the log. -/
def witnessHead : Call Unit := do
  lock
  unlock
  if site.anchored then
    let h ← does .head
    if h.hash ≠ "" then witness h

/-- `Server.Reconcile`: what has been recorded is witnessed even if the run failed. -/
def reconcile (engine : Engine) (goalID : String) : Call Unit := do
  lock
  unlock
  let goal ← settle (require site.goals[goalID]? s!"goal {quote goalID} was never accepted")
  let r ← attempt (run engine goal site.maxRounds)
  let witnessed ← attempt site.witnessHead
  settle (r >>= fun _ => witnessed)

/-- `Server.appendObservation`: recorded, witnessed, and then applied. -/
def appendObservation (actor goalID target message : String) (e : Evidence) : Call Unit := do
  let sequence ← does .nextSequence
  wrapped "record observation: " (append
    { sequence := sequence, at_ := e.observedAt, type_ := .observationRecorded, actor := actor
      goalID := goalID, target := target, kind := e.kind.text, message := message
      evidence := some e })
  if site.anchored then
    let h ← does .head
    if h.hash ≠ "" then wrapped "witness operator decision: " (witness h)
  projectEvidence e

/-- `Server.recordDecision`. -/
def recordDecision (grant : ApprovalGrant) (e : Evidence) (message : String) : Call Unit :=
  site.appendObservation ("operator:" ++ grant.issuedBy) grant.goalID grant.id
    (message ++ ": " ++ grant.scope) e

/-- `Server.Approve`. -/
def approve (signed : SignedApproval) : Call ApprovalGrant := locked do
  let now ← clock
  let grant ← settle (verifyApproval site.host site.decode signed site.operatorKeys now)
  settle (refuseIf (site.goals[grant.goalID]? = none)
    s!"goal {quote grant.goalID} has not been submitted; approve it after submitting")
  site.recordDecision grant (grant.evidence site.host) "approval granted"
  return grant

/-- The observation of a revocation. -/
def revocation (grant : ApprovalGrant) (now : Time) : Evidence :=
  { kind := .approvalRevoked, target := grant.id, source := "operator:" ++ grant.issuedBy
    observedAt := now
    observed := Table.ofEntries [("goal", grant.goalID), ("scope", grant.scope),
      ("revoked_by", grant.issuedBy), ("reason", grant.reason)] }

/-- `Server.Revoke`. -/
def revoke (signed : SignedApproval) : Call Unit := locked do
  let now ← clock
  let grant ← settle (verifyApproval site.host site.decode signed site.operatorKeys now)
  let w ← world
  settle (refuseIf (w.approvals[grant.id]? = none) s!"approval {quote grant.id} was never granted")
  let now ← clock
  site.recordDecision grant (revocation grant now) "approval revoked"

/-- The observation of an operator's cordon. -/
def cordoning (nodeID reason operator : String) (cordoned : Bool) (now : Time) : Evidence :=
  { kind := if cordoned then .nodeCordoned else .nodeUncordoned
    target := nodeID, source := "operator:" ++ operator, observedAt := now
    observed := Table.ofEntries [("node", nodeID), ("reason", reason)] }

/-- `Server.setCordon`. -/
def setCordon (nodeID reason operator : String) (cordoned : Bool) : Call Unit := do
  settle (refuseIf (nodeID = "") "a node is required")
  settle (refuseIf (operator = "") "an operator is required")
  locked do
    let w ← world
    settle (refuseIf (w.nodes[nodeID]? = none)
      s!"node {quote nodeID} is not in the observed world")
    let now ← clock
    let message := if cordoned then "node cordoned" else "node returned to service"
    site.appendObservation ("operator:" ++ operator) "" nodeID
      (if reason ≠ "" then message ++ ": " ++ reason else message)
      (cordoning nodeID reason operator cordoned now)

/-- `Server.Cordon`. -/
def cordon (nodeID reason operator : String) : Call Unit :=
  site.setCordon nodeID reason operator true

/-- `Server.Uncordon`. -/
def uncordon (nodeID operator : String) : Call Unit := site.setCordon nodeID "" operator false

/-- The observation of a node's connection. -/
def reachability (id : String) (reachable : Bool) (now : Time) : Evidence :=
  { kind := if reachable then .nodeReachable else .nodeUnreachable
    target := id, source := "controller", observedAt := now
    observed := Table.ofEntries [("node", id)] }

/-- One node of `ObserveNodes`; a tick that observes the same as the last has learned
nothing. -/
def observeNode (connected : List String) (w : World) (id : String) : Call Unit :=
  let reachable := decide (id ∈ connected)
  if w.nodes[id]?.any (·.healthy) = reachable then return ()
  else do
    let now ← clock
    site.appendObservation "controller" "" id
      (if reachable then "node is answering again" else "node stopped answering")
      (reachability id reachable now)

/-- `Server.ObserveNodes`. -/
def observeNodes (connected : List String) : Call Unit := locked do
  let w ← world
  ((w.nodes.toList.map (·.1)).insertionSort (· ≤ ·)).forM (site.observeNode connected w)

end Site

end A4s.Calls
