/-
An allocation as the node reports it and as the world books it.

The kernel reads capacity and budgets off the world, so what a creation commits must
arrive there as the action said it. The fields travel as text: the container runtime
reports little, the dispatcher adds what it knows of the action, and the projection
reads numbers back.

* `Books`: evidence that carries the fields of a creation, with a budget.
* `perform_books`: the dispatcher reports every field but the budget.
* `Reached.sound`: what the ledger answers again was established for the same work.
* `dispatched_creation_iff`: **the node's evidence and the in-memory data plane's
  project to the same world** exactly for actions without a budget.
-/
import A4s.Control.Execution
import A4s.Node.Runtime

namespace A4s.Daemon

open Go

/-! ### Evidence of a creation -/

/-- Evidence that carries the fields of a creation, and a budget. -/
structure Books (node : String) (a : Action) (budget : Budget) (e : Evidence) : Prop where
  kind : e.kind = .allocationCreated
  target : e.target = a.target
  node : e.observe "node" = node
  workload : e.observe "workload" = a.workload
  image : e.observe "image" = a.image
  replica : e.observedInt "replica" = a.replica
  resources : e.observedInt "cpu_millis" = a.resources.cpuMillis ∧
    e.observedInt "memory_mb" = a.resources.memoryMB
  budget : e.observedBudget = budget

/-- The world after a creation: the allocation with the action's fields, and its node
charged for it. -/
def bookWorld (w : World) (a : Action) (budget : Budget) (name : String) (node : Node) : World :=
  let allocation : Allocation :=
    { id := a.target, workload := a.workload, replica := a.replica, node := node.id
      image := a.image, resources := a.resources, phase := .created, budget := budget }
  let charged := { node with
    used := node.used.add a.resources, budgetUsed := node.budgetUsed.add budget }
  (w.setAllocation a.target allocation).setNode name charged

section Projection

variable {w : World} {a : Action} {e : Evidence} {budget : Budget} {name : String} {node : Node}

/-- A positive amount is at least one. -/
lemma not_lt_one {i : Int64} (h : 0 < i) : ¬i < 1 := by
  rw [Int64.lt_iff_toInt_lt] at h ⊢
  have hzero : (0 : Int64).toInt = 0 := rfl
  have hone : (1 : Int64).toInt = 1 := rfl
  omega

/-- What the projection makes of such evidence. -/
lemma Books.project (h : Books name a budget e) (hnew : w.allocations[a.target]? = none)
    (hnode : w.nodes[name]? = some node) (htarget : a.target ≠ "")
    (hcpu : 0 < a.resources.cpuMillis) (hmem : 0 < a.resources.memoryMB) :
    project w e = .ok (advance w (bookWorld w a budget name node) e) := by
  have hres : e.observedResources = .ok a.resources := by
    have hpair : (⟨e.observedInt "cpu_millis", e.observedInt "memory_mb"⟩ : Resources) =
        a.resources := by rw [h.resources.1, h.resources.2]
    rw [Evidence.observedResources, hpair]
    simp only [refuseIf_bind_ok, pure_ok, and_true]
    rintro (hlow | hlow)
    · exact not_lt_one hcpu hlow
    · exact not_lt_one hmem hlow
  have hinto : projectInto w e = .ok (bookWorld w a budget name node) := by
    simp only [projectInto, h.kind, projectAllocationCreated, knownNode, h.node, hnode, require,
      h.target, hnew, hres, h.budget, h.workload, h.image, h.replica, refuseIf, if_neg htarget,
      Option.isSome_none, Bool.false_eq_true, if_false]
    rfl
  rw [A4s.project, hinto]
  simp only [h.kind, observesNothing]
  rfl

end Projection

/-! ### What the dispatcher reports -/

section Perform

variable {wire : Wire} {config : Config} {c : Capabilities} {m : Machine} {a : Action}

/-- A container is created only for a named allocation with positive resources. -/
lemma createAllocation_ok {d d' : NodeState} {e : Evidence}
    (h : Proc.Returns (createAllocation m a) d e d') :
    (a.target ≠ "" ∧ 0 < a.resources.cpuMillis ∧ 0 < a.resources.memoryMB) ∧
      ∃ created, e = { kind := .allocationCreated, target := a.target
                       observed := Table.ofEntries
                         [("created", boolText created), ("image", a.image)] } := by
  simp only [createAllocation, returns_bind, returns_guard, returns_read,
    returns_pure, not_or, Int64.not_le] at h
  obtain ⟨_, _, ⟨⟨htarget, -⟩, rfl⟩, _, _, ⟨hpositive, rfl⟩, _, _, ⟨rfl, rfl⟩, created, _, -,
    rfl, -⟩ := h
  exact ⟨⟨htarget, hpositive⟩, created, rfl⟩

/-- The dispatcher adds every field of the action but its budget. -/
lemma attribute_books (hk : a.kind = .createAllocation) (now : Time) (created : Bool) :
    Books config.nodeID a {} (attribute_ config now
      { kind := .allocationCreated, target := a.target
        observed := Table.ofEntries [("created", boolText created), ("image", a.image)] } a) := by
  constructor <;>
    simp only [attribute_, hk, Evidence.observe, Evidence.observedInt, Evidence.observedBudget,
      get_insert, get_ofEntries_cons, get_ofEntries_nil, String.reduceEq,
      if_true, if_false, Option.getD_some, Option.getD_none, sscanInt_sprintInt, and_self]
  rfl

/-- **What the dispatcher reports of a creation**: every field but the budget. -/
lemma perform_books (hk : a.kind = .createAllocation) {d d' : NodeState} {e : Evidence}
    {attested : Option AttestedEvidence}
    (h : Proc.Returns (perform wire config c m a) d (e, attested) d') :
    (a.target ≠ "" ∧ 0 < a.resources.cpuMillis ∧ 0 < a.resources.memoryMB) ∧
      Books config.nodeID a {} e := by
  simp only [perform, CompositeRuntime.execute, hk, returns_bind, returns_pure, Prod.mk.injEq] at h
  obtain ⟨raw, d₁, ⟨raw', d₂, hcreate, _, _, -, rfl, -⟩, _, _, -, _, _, -, ⟨rfl, -⟩, -⟩ := h
  obtain ⟨hpositive, created, rfl⟩ := createAllocation_ok hcreate
  exact ⟨hpositive, attribute_books hk m.now created⟩

end Perform

/-- The in-memory data plane reports the budget as well. -/
lemma memoryExecutor_books {host : Host} {w : World} {a : Action} {e : Evidence}
    (hk : a.kind = .createAllocation) (h : MemoryExecutor.execute host w a = .ok e) (now : Time) :
    Books a.node a a.budget { e with observedAt := now } := by
  obtain ⟨hkind, htarget, hnode, hworkload, himage, hreplica, hresources, hbudget⟩ :=
    memoryExecutor_recordsCreation hk h
  exact ⟨hkind, htarget, hnode, hworkload, himage, hreplica, hresources, hbudget⟩

/-! ### What the ledger answers again -/

section Ledger

variable {wire : Wire} {config : Config} {c : Capabilities} {m : Machine}

/-- Every stored answer was given for some work, and stands in `P` to it. -/
def LedgerSound (wire : Wire) (P : ActionEnvelope → DispatchResult → Prop)
    (ledger : Table DispatchResult) : Prop :=
  ∀ (key : String) r, ledger[key]? = some r →
    ∃ work, r.envelopeDigest = workDigest wire work ∧ P work r

/-- What carrying out an action establishes about its answer. -/
def Established (wire : Wire) (config : Config) (P : ActionEnvelope → DispatchResult → Prop) :
    Prop :=
  ∀ {c : Capabilities} {m : Machine} {work : ActionEnvelope} {d d' : NodeState}
    {r : DispatchResult},
    Proc.Returns (perform wire config c m work.action) d (r.evidence, r.attested) d' → P work r

variable {P : ActionEnvelope → DispatchResult → Prop}

lemma LedgerSound.insert {ledger : Table DispatchResult} {work : ActionEnvelope}
    {r : DispatchResult} (h : LedgerSound wire P ledger)
    (hdigest : r.envelopeDigest = workDigest wire work) (hr : P work r) (key : String) :
    LedgerSound wire P (ledger.insert key r) := by
  intro key' r' hget
  rw [get_insert] at hget
  split_ifs at hget
  · cases hget
    exact ⟨work, hdigest, hr⟩
  · exact h key' r' hget

/-- The ledger stays sound, however a dispatch ends. -/
lemma dispatch_ledger (hP : Established wire config P) (signed : SignedAction) {d : NodeState}
    (h : LedgerSound wire P d.ledger) :
    LedgerSound wire P (dispatch wire config c m signed d).2.ledger := by
  rcases dispatch_ledger_cases (Prod.mk.eta (p := dispatch wire config c m signed d)).symm with
    hkept | ⟨work, r, d₁, -, hperform, hdigest, hstored⟩
  · rw [hkept]
    exact h
  · rw [hstored]
    exact h.insert hdigest (hP hperform) _

/-- **What a node returns is about the work it was asked for**, be it carried out now
or answered from the ledger. -/
lemma dispatch_answers {signed : SignedAction} {d d' : NodeState} {work : ActionEnvelope}
    {r : DispatchResult} (hP : Established wire config P) (h : LedgerSound wire P d.ledger)
    (hverify : verify wire signed config.keys config.nodeID m.now = .ok work)
    (hprobe : work.action.kind ≠ .probeReadiness)
    (hreturns : Proc.Returns (dispatch wire config c m signed) d r d') :
    ∃ work', P work' r ∧ workDigest wire work' = workDigest wire work := by
  cases hget : d.ledger[work.idempotencyKey]? with
  | none =>
    obtain ⟨-, d₁, hperform, -⟩ := dispatch_first hverify hprobe hget hreturns
    exact ⟨work, hP hperform, rfl⟩
  | some previous =>
    rw [Proc.Returns, dispatch_of_stored hverify hprobe hget] at hreturns
    obtain ⟨hanswer, -⟩ := Prod.mk.inj hreturns
    split_ifs at hanswer with hsame
    · cases hanswer
      obtain ⟨work', hdigest, hanswers⟩ := h _ _ hget
      exact ⟨work', hanswers, hdigest.symm.trans hsame⟩
    · cases hanswer

/-- The states of a node that started with an empty ledger: envelopes arrive in any
number and order and end in any way, and whatever else the daemon does leaves the
ledger alone. -/
inductive Reached (wire : Wire) (config : Config) : NodeState → Prop
  | fresh (d : NodeState) (hledger : d.ledger = ∅) : Reached wire config d
  | dispatched (c : Capabilities) (m : Machine) (signed : SignedAction) {d : NodeState}
      (h : Reached wire config d) : Reached wire config (dispatch wire config c m signed d).2
  | other {d d' : NodeState} (h : Reached wire config d) (hledger : d'.ledger = d.ledger) :
      Reached wire config d'

lemma Reached.sound (hP : Established wire config P) {d : NodeState}
    (h : Reached wire config d) : LedgerSound wire P d.ledger := by
  induction h with
  | fresh d hledger =>
    intro key r hget
    rw [hledger, get_empty] at hget
    cases hget
  | dispatched c m signed _ ih => exact dispatch_ledger hP signed ih
  | other _ hledger ih =>
    rw [hledger]
    exact ih

/-- What an answer to a creation carries. -/
def Answers (config : Config) (work : ActionEnvelope) (r : DispatchResult) : Prop :=
  work.action.kind = .createAllocation →
    (work.action.target ≠ "" ∧ 0 < work.action.resources.cpuMillis ∧
      0 < work.action.resources.memoryMB) ∧ Books config.nodeID work.action {} r.evidence

lemma perform_answers (wire : Wire) (config : Config) : Established wire config (Answers config) :=
  fun h hk => perform_books hk h

end Ledger

/-! ### Creations that were accepted -/

/-- Nodes are known under their own names, as the world is checked when it is loaded. -/
def NodesNamed (w : World) : Prop :=
  ∀ (name : String) node, w.nodes[name]? = some node → node.id = name ∧ name ≠ ""

lemma NodesNamed.project {w w' : World} {e : Evidence} (h : NodesNamed w)
    (hproject : project w e = .ok w') : NodesNamed w' := by
  intro name node hget
  have hmap := (project_effect hproject).nodes_id name
  rw [hget, Option.map_some] at hmap
  obtain ⟨node', hget', hid⟩ := Option.map_eq_some_iff.mp hmap.symm
  rw [← hid]
  exact h name node' hget'

/-- The world `w'` is `w` after the creation the action asks for: the allocation has the
fields of the action, and the node is charged exactly its resources and budget. -/
structure Created (w : World) (a : Action) (w' : World) : Prop where
  allocation : ∃ x, w'.allocations[a.target]? = some x ∧ x.workload = a.workload ∧
    x.image = a.image ∧ x.replica = a.replica ∧ x.node = a.node ∧ x.resources = a.resources ∧
    x.budget = a.budget
  charge : ∃ n n', w.nodes[a.node]? = some n ∧ w'.nodes[a.node]? = some n' ∧
    n'.used = n.used.add a.resources ∧ n'.budgetUsed = n.budgetUsed.add a.budget

section Theorem

variable {w w₁ : World} {a : Action}

lemma bookWorld_allocation (budget : Budget) (name : String) (node : Node) (e : Evidence) :
    (advance w (bookWorld w a budget name node) e).allocations[a.target]? =
      some { id := a.target, workload := a.workload, replica := a.replica, node := node.id
             image := a.image, resources := a.resources, phase := .created, budget := budget } :=
  get_insert_self

lemma bookWorld_node (budget : Budget) (name : String) (node : Node) (e : Evidence) :
    (advance w (bookWorld w a budget name node) e).nodes[name]? =
      some { node with
        used := node.used.add a.resources, budgetUsed := node.budgetUsed.add budget } :=
  get_insert_self

/-- A creation that was accepted finds its place free and its node known. -/
lemma creation_turn {host : Host} {k : Kernel} {actor : AgentDescriptor} {goal : Goal} {now : Time}
    {p : Proposal} {before rest : List Action}
    (haccepted : authorize host k actor goal { w with observedAt := now } p = .ok ())
    (hsplit : p.actions = before ++ a :: rest) (hk : a.kind = .createAllocation)
    (hexec : Executes w before w₁) (hnamed : NodesNamed w) :
    w₁.allocations[a.target]? = none ∧ ∃ node, w₁.nodes[a.node]? = some node ∧
      node.id = a.node ∧ a.node ≠ "" := by
  obtain ⟨-, simEnd, hwalk⟩ := authorize_admitted haccepted
  rw [hsplit] at hwalk
  obtain ⟨sim, habreast, hvalid⟩ := hwalk.turn hexec ⟨rfl, fun _ => rfl⟩
  simp only [validateAction, hk] at hvalid
  have hnew := (validateCreateAllocation_ok hvalid).1
  simp only [validateCreateAllocation, healthyNode, refuseIf_bind_ok, require_bind_ok] at hvalid
  obtain ⟨-, node, hnode, -⟩ := hvalid
  have hsome : w₁.nodes[a.node]?.isSome := by
    rw [← habreast.nodes]
    exact Option.isSome_iff_exists.mpr ⟨node, Option.filter_eq_some_iff.mp hnode |>.1⟩
  obtain ⟨node₁, hnode₁⟩ := Option.isSome_iff_exists.mp hsome
  have hnamed₁ : NodesNamed w₁ :=
    Executes.invariant (I := NodesNamed) (fun h hproject => h.project hproject) hexec hnamed
  exact ⟨habreast.absent hnew, node₁, hnode₁, hnamed₁ _ _ hnode₁⟩

/-- **The node's report of a creation and the in-memory data plane's agree** exactly
for actions that reserve no budget. A creation is accepted within a proposal, the
actions before it are carried out, and the node answers an envelope with it. Then
projecting the answer books what the action says, and the world is the one the
in-memory data plane leads to, if and only if the budget of the action is zero. -/
theorem dispatched_creation_iff {host : Host} {k : Kernel} {actor : AgentDescriptor} {goal : Goal}
    {p : Proposal} {rest : List Action} {wire : Wire} {config : Config} {c : Capabilities}
    {m : Machine} {signed : SignedAction} {work : ActionEnvelope}
    {d d' : NodeState} {r : DispatchResult} (now : Time) (before : List Action)
    (haccepted : authorize host k actor goal { w with observedAt := now } p = .ok ())
    (hsplit : p.actions = before ++ work.action :: rest)
    (hk : work.action.kind = .createAllocation)
    (hnamed : NodesNamed w) (hexec : Executes w before w₁) (hreached : Reached wire config d)
    (hcollision : ∀ work', workDigest wire work' = workDigest wire work →
      work'.action = work.action)
    (hverify : verify wire signed config.keys config.nodeID m.now = .ok work)
    (hreturns : Proc.Returns (dispatch wire config c m signed) d r d') :
    (∃ w₂ e, project w₁ r.evidence = .ok w₂ ∧ Created w₁ work.action w₂ ∧
        MemoryExecutor.execute host w₁ work.action = .ok e ∧
        project w₁ { e with observedAt := r.evidence.observedAt } = .ok w₂) ↔
      work.action.budget.isZero = true := by
  obtain ⟨hnew, node, hnode, hid, hne⟩ := creation_turn haccepted hsplit hk hexec hnamed
  -- the answer carries the fields of this creation, on this node
  obtain ⟨work', hbooks, hdigest⟩ := dispatch_answers (perform_answers wire config)
    (hreached.sound (perform_answers wire config)) hverify (by rw [hk]; decide) hreturns
  rw [Answers, hcollision work' hdigest] at hbooks
  obtain ⟨⟨htarget, hcpu, hmem⟩, hbooks⟩ := hbooks hk
  have hhere : config.nodeID = work.action.node :=
    ((verify_ok hverify).2.2.resolve_left hne).symm
  rw [hhere] at hbooks
  have hproject := hbooks.project hnew hnode htarget hcpu hmem
  constructor
  · rintro ⟨w₂, -, hw₂, ⟨⟨x, hx, -, -, -, -, -, hbudget⟩, -⟩, -⟩
    cases hproject.symm.trans hw₂
    rw [bookWorld_allocation] at hx
    cases hx
    exact decide_eq_true hbudget.symm
  · intro hzero
    have hbudget : work.action.budget = {} := of_decide_eq_true hzero
    have hmemory : ∃ e, MemoryExecutor.execute host w₁ work.action = .ok e := by
      simp only [MemoryExecutor.execute, hk, existingNode, hnode]
      exact ⟨_, rfl⟩
    obtain ⟨e, hmemory⟩ := hmemory
    have hbooks' := memoryExecutor_books hk hmemory r.evidence.observedAt
    refine ⟨_, e, hproject, ⟨⟨_, bookWorld_allocation _ _ _ _, rfl, rfl, rfl, hid, rfl,
      hbudget.symm⟩, node, _, hnode, bookWorld_node _ _ _ _, rfl, by rw [hbudget]⟩, hmemory, ?_⟩
    rw [hbooks'.project hnew hnode htarget hcpu hmem, hbudget]
    rfl

end Theorem

/-! ### An agent whose budget is not booked -/

namespace Creation

def budget : Budget := { tokens := 100, costMillis := 5, wallSeconds := 60, toolCalls := 8 }

/-- An agent workload with a budget. -/
def goal : Goal :=
  { id := "desk"
    workload :=
      { name := "desk", image := "desk@sha256:d", replicas := 1, resources := ⟨10, 16⟩
        runtime := some { provider := "llm", budget := budget } } }

def node : Node :=
  { id := "n1", healthy := true, capacity := ⟨100, 100⟩, budgetCapacity := budget
    images := Table.ofEntries [("desk@sha256:d", true)]
    providers := Table.ofEntries [("llm", { reachable := true })] }

def world : World := { nodes := Table.ofEntries [("n1", node)] }

def creation : Action :=
  { id := "create-desk-0", kind := .createAllocation, target := "desk-0", node := "n1"
    workload := "desk", image := "desk@sha256:d", resources := ⟨10, 16⟩, budget := budget }

def proposal : Proposal :=
  { id := "p", agentID := "placement-agent", goalID := "desk", basedOnRevision := 0
    actions := [creation] }

lemma accepted : authorize quietHost ⟨defaultPolicy⟩ { id := "placement-agent" } goal world
    proposal = .ok () := by
  decide

def work : ActionEnvelope :=
  { version := 1, id := "e", nodeID := "n1", goalID := "desk", proposalID := "p"
    worldRevision := 0, leaseID := "l", idempotencyKey := "k", issuedAt := 90 * second
    expiresAt := 120 * second, action := creation }

/-- The one message is the envelope, and its digest is told from the others'. -/
def wire : Wire :=
  { scriptWire [work] with
    sha256Hex := fun bytes => if bytes = [1] then "this" else "other"
    encodeWork := fun w => if w.action = creation then [1] else [0] }

def config : Config :=
  { nodeID := "n1", keys := Table.ofEntries [("key", List.replicate 32 0)], identityKey := [] }

def capabilities : Capabilities := bareCapabilities true

def signed : SignedAction := { envelopeBytes := [0], keyID := "key", signature := "" }

/-- A node with the agent capability that has done nothing yet. -/
def start : NodeState := { volumes := { root := "/volumes" }, agents := some {} }

/-- The node's answer. -/
def answer : DispatchResult :=
  { envelopeDigest := "this"
    evidence := attribute_ config quietMachine.now
      { kind := .allocationCreated, target := "desk-0"
        observed := Table.ofEntries [("created", "true"), ("image", "desk@sha256:d")] } creation }

lemma answered : (dispatch wire config capabilities quietMachine signed start).1 = .ok answer := by
  decide

lemma verified : verify wire signed config.keys config.nodeID quietMachine.now = .ok work := by
  decide

lemma returned : Proc.Returns (dispatch wire config capabilities quietMachine signed) start answer
    (dispatch wire config capabilities quietMachine signed start).2 :=
  Prod.ext answered rfl

lemma digest_eq {work' : ActionEnvelope} (h : workDigest wire work' = workDigest wire work) :
    work'.action = creation := by
  by_contra hne
  simp [workDigest, wire, hne, work] at h

lemma named : NodesNamed world := by
  intro name node hget
  rw [world, get_ofEntries_cons] at hget
  split_ifs at hget with hname
  · cases hget
    exact ⟨hname.symm, by rw [hname]; decide⟩
  · cases hget

/-- The budgets a projected creation books on the allocation and on its node. -/
def booked (r : Result World) : Option (Budget × Budget) := do
  let w ← r.toOption
  let allocation ← w.allocations["desk-0"]?
  let node ← w.nodes["n1"]?
  return (allocation.budget, node.budgetUsed)

end Creation

open Creation

/-- The kernel accepts an agent with a budget, the node creates it and answers, and the
projection books no budget, on the allocation or on the node. The in-memory data
plane has it booked on both. -/
theorem creation_without_budget :
    authorize quietHost ⟨defaultPolicy⟩ { id := "placement-agent" } goal world proposal = .ok () ∧
      proposal.actions = [creation] ∧
      verify wire signed config.keys config.nodeID
        quietMachine.now = .ok work ∧ work.action = creation ∧
      (dispatch wire config capabilities quietMachine signed start).1 = .ok answer ∧
      creation.budget = budget ∧
      booked (project world answer.evidence) = some ({}, {}) ∧
      booked (do
        let e ← MemoryExecutor.execute quietHost world creation
        project world e) = some (budget, budget) := by
  refine ⟨accepted, rfl, verified, rfl, answered, rfl, ?_, ?_⟩
  · decide
  · decide

/-- The report of that creation does not agree with the data plane's. -/
theorem dispatched_creation_iff_budget :
    ¬∃ w₂ e, project world answer.evidence = .ok w₂ ∧
      Created world creation w₂ ∧
      MemoryExecutor.execute quietHost world creation = .ok e ∧
      project world { e with observedAt := answer.evidence.observedAt } = .ok w₂ := by
  intro hagree
  have hzero := (dispatched_creation_iff 0 [] accepted rfl rfl
    named (.nil _) (.fresh _ rfl) (fun _ h => digest_eq h) verified
    returned).mp hagree
  cases hzero

end A4s.Daemon
