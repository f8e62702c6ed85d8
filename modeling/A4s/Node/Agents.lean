/-
Agent instances on a node and the queue they take work from (`node/agent.go`,
`node/queue.go`).

`Agents` bounds an instance: its tool envelope, its budget meter, the task it holds
and whether it was told to stop taking work. `TaskQueue` delivers work under leases.
Each method runs under the lock of its own record, so it is one step; `QueueBroker`
joins the two records and takes one lock after the other.
-/
import A4s.Node.Storage

namespace A4s.Daemon

open Go

/-! ### Agents -/

/-- One instance's budget ceiling and consumption. -/
structure Meter where
  budget : Budget
  spent : Budget := {}
  refusals : Int64 := 0
  deriving DecidableEq

structure Agents where
  envelopes : Table (List ToolGrant) := ∅
  tasks : Table String := ∅
  draining : Table Bool := ∅
  tokens : Table String := ∅
  meters : Table Meter := ∅
  deriving DecidableEq

/-- The order `sameEnvelope` sorts by. -/
def grantBefore (x y : ToolGrant) : Prop :=
  if x.name ≠ y.name then x.name ≤ y.name else x.scope ≤ y.scope

instance : DecidableRel grantBefore := fun x y =>
  inferInstanceAs (Decidable (if x.name ≠ y.name then x.name ≤ y.name else x.scope ≤ y.scope))

/-- Two grant sets are compared independently of order. -/
def sameEnvelope (a b : List ToolGrant) : Bool :=
  decide (a.length = b.length) &&
    decide (a.insertionSort grantBefore = b.insertionSort grantBefore)

namespace Agents

/-- `a.tasks[allocation]`: the task the instance holds, empty when it holds none. -/
def task (s : Agents) (allocation : String) : String := s.tasks[allocation]?.getD ""

def isDraining (s : Agents) (allocation : String) : Bool := s.draining[allocation]?.getD false

/-- Granting a different envelope than the one installed is refused. -/
def grant (a : Action) : Proc Agents Evidence := do
  Proc.guard (a.target = "") "tool grant requires an allocation"
  let s ← Proc.read id
  Proc.guard (s.envelopes[a.target]?.any (fun existing => !sameEnvelope existing a.tools) = true)
    s!"allocation {quote a.target} already holds a different tool envelope"
  Proc.modify fun s => { s with envelopes := s.envelopes.insert a.target a.tools }
  return { kind := .toolsGranted, target := a.target
           observed := Table.ofEntries [("count", toString a.tools.length)] }

/-- Draining is sticky. An instance that holds a task reports draining, one that has
released it reports drained. -/
def drain (a : Action) : Proc Agents Evidence := do
  Proc.guard (a.target = "") "drain requires an allocation"
  Proc.modify fun s => { s with draining := s.draining.insert a.target true }
  let task ← Proc.read fun s => s.task a.target
  if task ≠ "" then
    return { kind := .agentDraining, target := a.target
             observed := Table.ofEntries [("draining", "true"), ("task", task)] }
  else
    return { kind := .allocationDrained, target := a.target
             observed := Table.ofEntries [("drained", "true")] }

/-- `MayClaim`: the gate between the queue and an instance's lifecycle. -/
def mayClaim (s : Agents) (allocation : String) : Result Unit := do
  let meter ← require s.meters[allocation]?
    s!"allocation {quote allocation} holds no budget reservation"
  refuseIf (meter.spent.exhausts meter.budget = true) "allocation has exhausted its budget"
  refuseIf (s.isDraining allocation = true) "allocation is draining and may not take new work"
  refuseIf (s.task allocation ≠ "")
    s!"allocation {quote allocation} already holds task {quote (s.task allocation)}"

/-- Re-reserving keeps what has been spent. -/
def reserve (s : Agents) (allocation : String) (budget : Budget) : Agents :=
  { s with meters := s.meters.insert allocation (match s.meters[allocation]? with
    | none => { budget := budget }
    | some existing => { existing with budget := budget }) }

/-- `IssueToken`: one live token for an allocation. -/
def issueToken (m : Machine) (allocation : String) : Proc Agents String := do
  Proc.guard (allocation = "") "token requires an allocation"
  let token ← Proc.lift (wrapError "generate runtime token: " m.token)
  Proc.modify fun s => { s with
    tokens := (s.tokens.filter fun _ held => decide (held ≠ allocation)).insert token allocation }
  return token

def holdTask (s : Agents) (allocation task : String) : Agents :=
  { s with tasks := s.tasks.insert allocation task }

def releaseTask (s : Agents) (allocation : String) : Agents :=
  { s with tasks := s.tasks.erase allocation }

/-- `Release`: everything held for an allocation is forgotten. -/
def release (s : Agents) (allocation : String) : Agents :=
  { envelopes := s.envelopes.erase allocation
    tasks := s.tasks.erase allocation
    draining := s.draining.erase allocation
    tokens := s.tokens.filter fun _ held => decide (held ≠ allocation)
    meters := s.meters.erase allocation }

/-- `clampBudget`: every dimension is floored at zero. -/
def clampBudget (b : Budget) : Budget :=
  ⟨Resources.clamp b.tokens, Resources.clamp b.costMillis, Resources.clamp b.wallSeconds,
    Resources.clamp b.toolCalls⟩

/-- `Spend`: what was consumed in all, and whether the instance may continue. -/
def spend (allocation : String) (delta : Budget) : Proc Agents (Budget × Bool) := fun s =>
  match s.meters[allocation]? with
  | none => (.ok ({}, false), s)
  | some meter =>
    let spent := meter.spent.add (clampBudget delta)
    (.ok (spent, !spent.exhausts meter.budget),
      { s with meters := s.meters.insert allocation { meter with spent := spent } })

/-- `SpendEvidence`: the running total. -/
def spendEvidence (s : Agents) (allocation : String) : Option Evidence :=
  s.meters[allocation]?.map fun meter =>
    { kind := .agentSpent, target := allocation
      observed := Table.ofEntries ((if (0 : Int64) < meter.refusals then
          [("tool_refusals", sprintInt meter.refusals)] else []) ++
        [("tokens", sprintInt meter.spent.tokens),
          ("cost_millis", sprintInt meter.spent.costMillis),
          ("wall_seconds", sprintInt meter.spent.wallSeconds),
          ("tool_calls", sprintInt meter.spent.toolCalls),
          ("exhausted", if meter.spent.exhausts meter.budget then "true" else "false")]) }

/-- Granting tools changes an envelope alone. -/
lemma grant_spec {a : Action} {s s' : Agents} {e : Evidence}
    (h : Proc.Returns (grant a) s e s') : e.kind = .toolsGranted ∧ e.target = a.target := by
  simp only [grant, returns_bind, returns_guard, returns_read, returns_modify, returns_pure] at h
  obtain ⟨_, _, -, _, _, -, _, _, -, _, _, -, rfl, -⟩ := h
  exact ⟨rfl, rfl⟩

/-- A drain is reported complete by an instance that holds nothing, and names the task
of one that holds one. -/
lemma drain_spec {a : Action} {s s' : Agents} {e : Evidence} (h : Proc.Returns (drain a) s e s') :
    s' = { s with draining := s.draining.insert a.target true } ∧ e.target = a.target ∧
      (e.kind = .allocationDrained ∧ s.task a.target = "" ∨
        e.kind = .agentDraining ∧ e.observed["task"]? = some (s.task a.target) ∧
          s.task a.target ≠ "") := by
  simp only [drain, returns_bind, returns_guard, returns_read, returns_modify] at h
  obtain ⟨_, _, ⟨-, rfl⟩, _, _, rfl, task, _, ⟨rfl, rfl⟩, h⟩ := h
  split_ifs at h with hheld
  · obtain ⟨rfl, rfl⟩ := returns_pure.mp h
    exact ⟨rfl, rfl, .inr ⟨rfl, by simp [task], hheld⟩⟩
  · obtain ⟨rfl, rfl⟩ := returns_pure.mp h
    exact ⟨rfl, rfl, .inl ⟨rfl, not_not.mp hheld⟩⟩

end Agents

/-! ### Queues -/

/-- One instance's hold on a task. -/
structure TaskClaim where
  allocation : String
  expiresAt : Time
  deriving DecidableEq

structure QueueTask where
  id : String
  payload : String := ""
  enqueuedAt : Time := 0
  claim : Option TaskClaim := none
  attempts : Int64 := 0
  deriving DecidableEq

/-- `node.Queue`: a work queue agent instances pull from. -/
structure TaskQueue where
  name : String
  workload : String
  maxAttempts : Int64 := 0
  lease : Duration := 0
  tasks : Table QueueTask := ∅
  order : List String := []
  deriving DecidableEq

/-- `DefaultClaimLease`. -/
def defaultClaimLease : Duration := 15 * minute

/-- `DefaultMaxAttempts`. -/
def defaultMaxAttempts : Int64 := 3

namespace TaskQueue

def leaseOrDefault (q : TaskQueue) : Duration := if q.lease > 0 then q.lease else defaultClaimLease

def attemptsOrDefault (q : TaskQueue) : Int64 :=
  if q.maxAttempts > 0 then q.maxAttempts else defaultMaxAttempts

/-- A task nobody holds, or whose holder's lease lapsed. -/
def available (task : QueueTask) (now : Time) : Bool :=
  match task.claim with
  | none => true
  | some claim => decide (claim.expiresAt ≠ 0) && decide (claim.expiresAt ≤ now)

/-- The first task in delivery order that may be handed out. -/
def nextTask (q : TaskQueue) (now : Time) : Option QueueTask :=
  q.order.findSome? fun id =>
    match q.tasks[id]? with
    | none => none
    | some task =>
      if available task now && decide (task.attempts < q.attemptsOrDefault) then some task
      else none

def enqueue (m : Machine) (id payload : String) : Proc TaskQueue Unit := do
  Proc.guard (id = "") "queue task requires an id"
  let q ← Proc.read fun q => q
  if q.tasks[id]?.isNone then
    Proc.modify fun q => { q with
      tasks := q.tasks.insert id { id := id, payload := payload, enqueuedAt := m.now }
      order := q.order ++ [id] }
    Proc.lift m.saveQueue

/-- `Queue.Claim`: the oldest available task goes to the instance. -/
def claim (m : Machine) (allocation : String) : Proc TaskQueue (Option QueueTask) := do
  Proc.guard (allocation = "") "claim requires an allocation"
  let q ← Proc.read fun q => q
  match q.nextTask m.now with
  | none => return none
  | some task =>
    let held : QueueTask := { task with
      attempts := task.attempts + 1
      claim := some { allocation := allocation, expiresAt := m.now + q.leaseOrDefault } }
    Proc.modify fun q => { q with tasks := q.tasks.insert task.id held }
    Proc.lift m.saveQueue
    return some held

/-- The claim on a task is the allocation's. -/
def holds (task : QueueTask) (allocation : String) : Bool :=
  task.claim.any fun claim => decide (claim.allocation = allocation)

/-- Only the holder acknowledges; an absent task was acknowledged before. -/
def ack (m : Machine) (allocation id : String) : Proc TaskQueue Unit := do
  let q ← Proc.read fun q => q
  match q.tasks[id]? with
  | none => return ()
  | some task =>
    Proc.guard (holds task allocation = false)
      s!"allocation {quote allocation} does not hold task {quote id}"
    Proc.modify fun q => { q with tasks := q.tasks.erase id, order := q.order.erase id }
    Proc.lift m.saveQueue

def requeue (m : Machine) (allocation id : String) : Proc TaskQueue Unit := do
  let q ← Proc.read fun q => q
  let task ← Proc.lift (require q.tasks[id]? s!"task {quote id} does not exist")
  Proc.guard (holds task allocation = false)
    s!"allocation {quote allocation} does not hold task {quote id}"
  Proc.modify fun q => { q with tasks := q.tasks.insert id { task with claim := none } }
  Proc.lift m.saveQueue

/-- `ReleaseAllocation`: everything an instance holds is waiting again. -/
def releaseAllocation (m : Machine) (allocation : String) : Proc TaskQueue Unit := do
  let q ← Proc.read fun q => q
  if q.tasks.toList.any fun (_, task) => holds task allocation then
    Proc.modify fun q => { q with
      tasks := q.tasks.map fun _ task =>
        if holds task allocation then { task with claim := none } else task }
    Proc.lift m.saveQueue

end TaskQueue

end A4s.Daemon
