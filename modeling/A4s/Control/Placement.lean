/-
The placement agent (`PlacementAgent.Propose` of `control/agents.go`).

The agent fills the replica indices that no live allocation of the goal's own version
holds, at most `MaxReplicasPerProposal` in one proposal. Each replica is one block of
actions on one node: pull, create, grant, volumes, secrets, network, start.

* `PlacementAgent.blockActions`: the block of one replica.
* `PlacementAgent.propose`: the agent.
* `propose_blocks`: a proposal is a sequence of blocks.
* `Prepared`: **what is prepared for an allocation comes after its creation**, in
  every proposal, on every node.
-/
import A4s.Control.Kernel

namespace A4s

open Go

/-! ### How many replicas -/

/-- `Queue.DesiredWorkers`. -/
def Queue.desiredWorkers (q : Queue) (running : Int64) : Int64 :=
  let desired := running + q.depth
  let desired := if q.maxWorkers < desired then q.maxWorkers else desired
  if desired < 0 then 0 else desired

/-- The queue that backs the goal's workload. -/
def workloadQueue (goal : Goal) (w : World) : Option Queue :=
  match goal.workload.runtime with
  | none => none
  | some runtime =>
    if runtime.queue = "" then none
    else w.queues[runtime.queue]?.filter fun queue =>
      decide (queue.workload = goal.workload.name)

/-- `maxQueueDepthAge`. -/
def maxQueueDepthAge : Duration := 60 * second

def queueFresh (queue : Queue) (now : Time) : Bool :=
  decide (queue.observedAt ≠ 0) && decide (now - queue.observedAt ≤ maxQueueDepthAge)

def desiredReplicas (host : Host) (goal : Goal) (w : World) (running : Int64) : Int64 :=
  match workloadQueue goal w with
  | none => goal.workload.replicas
  | some queue =>
    if queueFresh queue (w.now host.wall) = false then goal.workload.replicas
    else
      let desired := queue.desiredWorkers running
      if desired < goal.workload.replicas then goal.workload.replicas else desired

/-! ### Where a replica goes -/

/-- `volumeHome`: an existing volume determines placement. -/
def volumeHome (goal : Goal) (w : World) : String :=
  ((goal.workload.volumes.findSome? fun ref => w.volumes[ref.name]?).map (·.node)).getD ""

/-- `volumeInFlight`: a volume the workload needs that is being moved. -/
def volumeInFlight (goal : Goal) (w : World) : String :=
  ((goal.workload.volumes.find? fun ref =>
    (w.volumes[ref.name]?.bind (·.handoff)).isSome).map (·.name)).getD ""

namespace PlacementAgent

/-- `MaxReplicasPerProposal`. -/
def maxReplicasPerProposal : ℕ := 2

def descriptor : AgentDescriptor :=
  { id := "placement-agent", role := "place and start workload allocations"
    capabilities := [.pullImage, .createAllocation, .startAllocation] }

/-- What a proposal has committed so far. -/
structure Batch where
  reserved : Table Resources := ∅
  reservedBudget : Table Budget := ∅
  occupancy : String → ℕ
  placed : ℕ := 0
  actions : List Action := []
  expectedEvidence : List Check := []

/-- The best node seen so far, and why others were passed over. -/
structure Candidate where
  selected : Option Node := none
  bestFreeMemory : Int64 := -1
  unreachable : ℕ := 0
  crowded : ℕ := 0

/-- The capacity a node keeps free with one more replica, if it can take one. -/
def consider (host : Host) (goal : Goal) (w : World) (b : Batch) (c : Candidate) (id : String)
    (node : Node) : Candidate :=
  let ceiling := goal.maxPerDomain
  let used := (node.used.add (b.reserved[id]?.getD {})).add goal.workload.resources
  let freeMemory := node.capacity.memoryMB - used.memoryMB
  let better : Candidate :=
    if c.selected = none ∨ c.bestFreeMemory < freeMemory then
      { c with selected := some node, bestFreeMemory := freeMemory } else c
  if node.schedulable = false ∨ nodeAllowed goal.constraints node = false then c
  else if 0 < ceiling ∧ ceiling.toInt ≤ b.occupancy node.failureDomain then
    { c with crowded := c.crowded + 1 }
  else if used.fits node.capacity = false then c
  else match goal.workload.runtime with
    | none => better
    | some runtime =>
      let committed := (node.budgetUsed.add (b.reservedBudget[id]?.getD {})).add runtime.budget
      if node.canReach runtime.provider (w.now host.wall) = false then
        { c with unreachable := c.unreachable + 1 }
      else if committed.fits node.budgetCapacity = false then c
      else better

/-- `selectNode`: nodes are considered in the order of their names. -/
def selectNode (host : Host) (goal : Goal) (w : World) (b : Batch) : Result Node :=
  let c := w.nodes.toList.foldl (fun c (id, node) => consider host goal w b c id node) {}
  let refused : Result Node :=
    if 0 < c.crowded then
      fail (s!"every candidate failure domain already holds {sprintInt goal.maxPerDomain} " ++
        s!"replicas of workload {quote goal.workload.name}")
    else fail "no healthy node satisfies placement and capacity constraints"
  match c.selected, goal.workload.runtime with
  | some node, _ => .ok node
  | none, some runtime =>
    if 0 < c.unreachable then
      fail (s!"no healthy node can reach provider {quote runtime.provider} with budget " ++
        s!"capacity for workload {quote goal.workload.name}")
    else refused
  | none, none => refused

/-- The node of the next replica: the selected one, unless data pins the workload. -/
def chooseNode (host : Host) (goal : Goal) (w : World) (b : Batch) : Result Node := do
  let node ← selectNode host goal w b
  let moving := volumeInFlight goal w
  refuseIf (moving ≠ "")
    (s!"volume {quote moving} for workload {quote goal.workload.name} is being moved; " ++
      "wait for the handoff to finish")
  let home := volumeHome goal w
  if home = "" then return node
  require (w.nodes[home]?.filter (·.schedulable))
    (s!"volume for workload {quote goal.workload.name} lives on node {quote home}, which " ++
      "is not available")

/-! ### The actions of one replica -/

section Block

variable (goal : Goal) (w : World) (node : Node) (id : String)

def pullActions : List Action :=
  if node.hasImage goal.workload.image then []
  else [{ id := "pull-" ++ id, kind := .pullImage, target := goal.workload.image
          node := node.id, image := goal.workload.image }]

def createAction (replica : Int64) : Action :=
  { id := "create-" ++ id, kind := .createAllocation, target := id
    workload := goal.workload.name, node := node.id, image := goal.workload.image
    replica := replica, resources := goal.workload.resources
    budget := (goal.workload.runtime.map (·.budget)).getD {}
    dependsOn := (pullActions goal node id).map (·.id) }

def grantActions : List Action :=
  match goal.workload.runtime with
  | none => []
  | some runtime =>
    if runtime.tools = [] then []
    else [{ id := "grant-tools-" ++ id, kind := .grantTools, target := id
            workload := goal.workload.name, node := node.id, tools := runtime.tools
            dependsOn := ["create-" ++ id] }]

/-- The volume is created if the world does not know it, then attached. -/
def volumeActions (ref : VolumeRef) : List Action :=
  let attach : Action :=
    { id := "attach-volume-" ++ ref.name ++ "-" ++ id, kind := .attachVolume, target := id
      workload := goal.workload.name, node := node.id, volume := some ref
      dependsOn := ["create-" ++ id] }
  match w.volumes[ref.name]? with
  | some _ => [attach]
  | none =>
    [{ id := "create-volume-" ++ ref.name, kind := .createVolume, target := ref.name
       workload := goal.workload.name, node := node.id, volume := some ref },
      { attach with dependsOn := ["create-" ++ id, "create-volume-" ++ ref.name] }]

def secretAction (ref : SecretRef) : Action :=
  { id := "mount-" ++ ref.name ++ "-" ++ id, kind := .mountSecret, target := id
    workload := goal.workload.name, node := node.id, secret := some ref
    dependsOn := ["create-" ++ id] }

def networkActions : List Action :=
  if goal.workload.port ≤ 0 then []
  else [{ id := "attach-" ++ id, kind := .attachNetwork, target := id
          workload := goal.workload.name, node := node.id, port := goal.workload.port
          dependsOn := ["create-" ++ id] }]

/-- What is prepared for the allocation between its creation and its start. -/
def preparation : List Action :=
  grantActions goal node id ++ goal.workload.volumes.flatMap (volumeActions goal w node id) ++
    goal.workload.secrets.map (secretAction goal node id) ++ networkActions goal node id

/-- The process starts when all that is prepared for its allocation is there. -/
def startAction : Action :=
  { id := "start-" ++ id, kind := .startAllocation, target := id
    workload := goal.workload.name, node := node.id
    dependsOn := ("create-" ++ id) ::
      ((preparation goal w node id).filter (·.kind ≠ .createVolume)).map (·.id) }

end Block

/-- All actions of one replica, in order. -/
def blockActions (goal : Goal) (w : World) (node : Node) (replica : Int64) : List Action :=
  let id := allocationID goal.workload.name replica
  pullActions goal node id ++ createAction goal node id replica ::
    (preparation goal w node id ++ [startAction goal w node id])

/-! ### The proposal -/

/-- The indices held by live allocations of the goal's own version. A drifted
allocation does not fill its slot. -/
def existingReplicas (goal : Goal) (w : World) : List Int64 :=
  ((w.allocations.toList.filter fun (_, x) =>
    decide (x.workload = goal.workload.name) && decide (x.phase ≠ .stopped) &&
      match w.nodes[x.node]? with
      | none => false
      | some node => decide (x.image = goal.workload.image) &&
          decide (x.resources = goal.workload.resources) && nodeAllowed goal.constraints node).map
    fun (_, x) => x.replica).dedup

/-- The batch with one more replica. -/
def Batch.place (b : Batch) (goal : Goal) (w : World) (node : Node) (replica : Int64) : Batch :=
  { reserved := b.reserved.insert node.id
      ((b.reserved[node.id]?.getD {}).add goal.workload.resources)
    reservedBudget := match goal.workload.runtime with
      | none => b.reservedBudget
      | some runtime => b.reservedBudget.insert node.id
          ((b.reservedBudget[node.id]?.getD {}).add runtime.budget)
    occupancy := fun domain =>
      if domain = node.failureDomain then b.occupancy domain + 1 else b.occupancy domain
    placed := b.placed + 1
    actions := b.actions ++ blockActions goal w node replica
    expectedEvidence := b.expectedEvidence ++
      [{ kind := if goal.workload.runtime.isSome then .agentReady else .allocationReady
         target := allocationID goal.workload.name replica, want := "true" }] }

/-- The loop over the replica indices; `remaining` indices are left. -/
def placeReplicas (host : Host) (goal : Goal) (w : World) :
    ℕ → Int64 → Batch → Result Batch
  | 0, _, b => .ok b
  | remaining + 1, replica, b =>
    if replica ∈ existingReplicas goal w then
      placeReplicas host goal w remaining (replica + 1) b
    else do
      let node ← chooseNode host goal w b
      let b := b.place goal w node replica
      if maxReplicasPerProposal ≤ b.placed then return b
      placeReplicas host goal w remaining (replica + 1) b

/-- `PlacementAgent.Propose`. A proposal that comes with an error is not used. -/
def propose (host : Host) (goal : Goal) (w : World) : Result Proposal := do
  let running := Int64.ofNat (existingReplicas goal w).length
  let b ← placeReplicas host goal w (desiredReplicas host goal w running).toNatClampNeg 0
    { occupancy := domainOccupancy w goal.workload.name }
  return { id := s!"{descriptor.id}-r{w.revision}", agentID := descriptor.id, goalID := goal.id
           basedOnRevision := w.revision
           reasoning := "place missing replicas on healthy nodes that satisfy hard " ++
             "constraints and capacity"
           actions := b.actions, expectedEvidence := b.expectedEvidence }

end PlacementAgent

/-! ### The shape of a proposal -/

/-- The kinds of actions in a placement proposal. -/
def ActionKind.places : ActionKind → Bool
  | .pullImage | .createAllocation | .grantTools | .createVolume | .attachVolume | .mountSecret
  | .attachNetwork | .startAllocation => true
  | _ => false

/-- The kinds that need the allocation they target. -/
def ActionKind.prepares : ActionKind → Bool
  | .grantTools | .attachVolume | .mountSecret | .attachNetwork | .startAllocation => true
  | _ => false

/-- Placement actions of which those that need an allocation come after its creation;
`created` has been created before. -/
def Prepared (created : List String) : List Action → Prop
  | [] => True
  | a :: rest => a.kind.places = true ∧ (a.kind.prepares = true → a.target ∈ created) ∧
      Prepared (if a.kind = .createAllocation then a.target :: created else created) rest

section Prepared

variable {created created' : List String} {actions actions' : List Action}

lemma Prepared.mono (h : Prepared created actions) (hsub : created ⊆ created') :
    Prepared created' actions := by
  induction actions generalizing created created' with
  | nil => trivial
  | cons a rest ih =>
    obtain ⟨hplaces, hneeds, hrest⟩ := h
    refine ⟨hplaces, fun hprepares => hsub (hneeds hprepares), ih hrest ?_⟩
    split_ifs
    · exact List.cons_subset_cons _ hsub
    · exact hsub

lemma Prepared.append (h : Prepared created actions) (h' : Prepared created actions') :
    Prepared created (actions ++ actions') := by
  induction actions generalizing created with
  | nil => exact h'
  | cons a rest ih =>
    obtain ⟨hplaces, hneeds, hrest⟩ := h
    refine ⟨hplaces, hneeds, ih hrest (h'.mono ?_)⟩
    split_ifs
    · exact List.subset_cons_self _ _
    · exact List.Subset.refl _

/-- Actions for one allocation, once it has been created. -/
lemma Prepared.of_created {id : String} (hid : id ∈ created)
    (h : ∀ a ∈ actions, a.kind.places = true ∧ a.kind ≠ .createAllocation ∧
      (a.kind.prepares = true → a.target = id)) : Prepared created actions := by
  induction actions with
  | nil => trivial
  | cons a rest ih =>
    obtain ⟨hplaces, hcreate, htarget⟩ := h a List.mem_cons_self
    refine ⟨hplaces, fun hprepares => htarget hprepares ▸ hid, ?_⟩
    rw [if_neg hcreate]
    exact ih fun a' ha' => h a' (List.mem_cons_of_mem _ ha')

end Prepared

namespace PlacementAgent

variable {host : Host} {p : Proposal}

variable {goal : Goal} {w : World} {node : Node} {id : String} {replica : Int64} {a : Action}

/-- A volume that is created is attached, on the same node. -/
lemma volumeActions_cases {ref : VolumeRef} (h : a ∈ volumeActions goal w node id ref) :
    a.node = node.id ∧ a.volume = some ref ∧
      (a.kind = .attachVolume ∧ a.target = id ∨
        a.kind = .createVolume ∧ a.target = ref.name ∧
          ∃ c ∈ volumeActions goal w node id ref, c.kind = .attachVolume ∧ c.volume = some ref) := by
  unfold volumeActions at h ⊢
  dsimp only at h ⊢
  cases hvolume : w.volumes[ref.name]? with
  | some volume =>
    rw [hvolume] at h
    obtain rfl := List.mem_singleton.mp h
    exact ⟨rfl, rfl, .inl ⟨rfl, rfl⟩⟩
  | none =>
    rw [hvolume] at h
    rcases List.mem_pair.mp h with rfl | rfl
    · exact ⟨rfl, rfl, .inr ⟨rfl, rfl, _, List.mem_cons_of_mem _ List.mem_cons_self, rfl, rfl⟩⟩
    · exact ⟨rfl, rfl, .inl ⟨rfl, rfl⟩⟩

/-- What the actions between creation and start are for: the allocation, or a volume that is
attached to it. -/
lemma preparation_cases (h : a ∈ preparation goal w node id) :
    a.node = node.id ∧
      (a.kind.prepares = true ∧ a.kind ≠ .startAllocation ∧ a.target = id ∨
        a.kind = .createVolume ∧ ∃ ref, a.volume = some ref ∧ a.target = ref.name ∧
          ∃ c ∈ preparation goal w node id, c.kind = .attachVolume ∧ c.volume = some ref) := by
  simp only [preparation, List.mem_append, List.mem_flatMap, List.mem_map] at h
  rcases h with ((hgrant | ⟨ref, href, hvolume⟩) | ⟨ref, -, rfl⟩) | hnetwork
  · unfold grantActions at hgrant
    split at hgrant
    · cases hgrant
    · split_ifs at hgrant
      · cases hgrant
      · obtain rfl := List.mem_singleton.mp hgrant
        exact ⟨rfl, .inl ⟨rfl, nofun, rfl⟩⟩
  · obtain ⟨hnode, href', ⟨hkind, htarget⟩ | ⟨hkind, htarget, c, hc, hattach⟩⟩ :=
      volumeActions_cases hvolume
    · exact ⟨hnode, .inl ⟨hkind ▸ rfl, hkind ▸ nofun, htarget⟩⟩
    · have hprepared : c ∈ preparation goal w node id := by
        simp only [preparation, List.mem_append, List.mem_flatMap]
        exact .inl (.inl (.inr ⟨ref, href, hc⟩))
      exact ⟨hnode, .inr ⟨hkind, ref, href', htarget, c, hprepared, hattach⟩⟩
  · exact ⟨rfl, .inl ⟨rfl, nofun, rfl⟩⟩
  · unfold networkActions at hnetwork
    split_ifs at hnetwork
    · cases hnetwork
    · obtain rfl := List.mem_singleton.mp hnetwork
      exact ⟨rfl, .inl ⟨rfl, nofun, rfl⟩⟩

lemma places_of_prepares {kind : ActionKind} (h : kind.prepares = true) :
    kind.places = true ∧ kind ≠ .createAllocation := by
  cases kind <;> simp_all [ActionKind.prepares, ActionKind.places]

/-- What the actions between creation and start look like. -/
lemma preparation_mem (h : a ∈ preparation goal w node id) :
    a.node = node.id ∧ a.kind.places = true ∧ a.kind ≠ .createAllocation ∧
      a.kind ≠ .startAllocation ∧ (a.kind.prepares = true → a.target = id) := by
  obtain ⟨hnode, ⟨hprepares, hstart, htarget⟩ | ⟨hkind, -⟩⟩ := preparation_cases h
  · obtain ⟨hplaces, hcreate⟩ := places_of_prepares hprepares
    exact ⟨hnode, hplaces, hcreate, hstart, fun _ => htarget⟩
  · rw [hkind]
    exact ⟨hnode, rfl, nofun, nofun, nofun⟩

lemma pullActions_mem (h : a ∈ pullActions goal node id) :
    a.node = node.id ∧ a.kind = .pullImage := by
  unfold pullActions at h
  split_ifs at h
  · cases h
  · obtain rfl := List.mem_singleton.mp h
    exact ⟨rfl, rfl⟩

lemma blockActions_node (h : a ∈ blockActions goal w node replica) : a.node = node.id := by
  simp only [blockActions, List.mem_append, List.mem_cons, List.not_mem_nil, or_false] at h
  rcases h with hpull | rfl | hprepare | rfl
  · exact (pullActions_mem hpull).1
  · rfl
  · exact (preparation_mem hprepare).1
  · rfl

/-- What is created and what is started in a block is its replica. -/
lemma blockActions_target (h : a ∈ blockActions goal w node replica)
    (hk : a.kind = .createAllocation ∨ a.kind = .startAllocation) :
    a.target = allocationID goal.workload.name replica := by
  simp only [blockActions, List.mem_append, List.mem_cons, List.not_mem_nil, or_false] at h
  rcases h with hpull | rfl | hprepare | rfl
  · rw [(pullActions_mem hpull).2] at hk
    rcases hk with hk | hk <;> cases hk
  · rfl
  · obtain ⟨-, -, hcreate, hstart, -⟩ := preparation_mem hprepare
    exact (hk.elim hcreate hstart).elim
  · rfl

lemma blockActions_prepared (created : List String) :
    Prepared created (blockActions goal w node replica) := by
  let id := allocationID goal.workload.name replica
  have hpull : Prepared created (pullActions goal node id) := by
    unfold pullActions
    split_ifs
    · trivial
    · exact ⟨rfl, nofun, trivial⟩
  refine hpull.append ⟨rfl, nofun, ?_⟩
  -- the replica is there from here on
  have hthere : id ∈ (createAction goal node id replica).target :: created := List.mem_cons_self
  refine Prepared.of_created hthere fun a ha => ?_
  rcases List.mem_append.mp ha with hprepare | hstart
  · obtain ⟨-, hplaces, hcreate, -, htarget⟩ := preparation_mem hprepare
    exact ⟨hplaces, hcreate, htarget⟩
  · obtain rfl := List.mem_singleton.mp hstart
    exact ⟨rfl, nofun, fun _ => rfl⟩

/-- The actions of several replicas. -/
def blocksActions (goal : Goal) (w : World) (blocks : List (Node × Int64)) : List Action :=
  blocks.flatMap fun block => blockActions goal w block.1 block.2

/-- Considering a node keeps the candidate or selects the node. -/
lemma consider_selected (host : Host) (b : Batch) (c : Candidate) (key : String) :
    (consider host goal w b c key node).selected = c.selected ∨
      (consider host goal w b c key node).selected = some node := by
  unfold consider
  cases goal.workload.runtime with
  | none =>
    dsimp only
    split_ifs <;> first | exact .inl rfl | exact .inr rfl
  | some runtime =>
    dsimp only
    split_ifs <;> first | exact .inl rfl | exact .inr rfl

/-- A node is selected from those of the world. -/
lemma selectNode_known {b : Batch} (h : selectNode host goal w b = .ok node) :
    ∃ key : String, w.nodes[key]? = some node := by
  have hfold : ∀ (l : List (String × Node)) (c : Candidate),
      (l.foldl (fun c (id, node) => consider host goal w b c id node) c).selected = c.selected ∨
        ∃ entry ∈ l, (l.foldl (fun c (id, node) => consider host goal w b c id node) c).selected =
          some entry.2 := by
    intro l
    induction l with
    | nil => exact fun c => .inl rfl
    | cons entry l ih =>
      intro c
      rcases ih (consider host goal w b c entry.1 entry.2) with hsame | ⟨entry', hmem, hnew⟩
      · rcases consider_selected host b c entry.1 with hkept | hselected
        · exact .inl (hsame.trans hkept)
        · exact .inr ⟨entry, List.mem_cons_self, hsame.trans hselected⟩
      · exact .inr ⟨entry', List.mem_cons_of_mem _ hmem, hnew⟩
  unfold selectNode at h
  dsimp only at h
  rcases hfold w.nodes.toList {} with hnone | ⟨entry, hmem, hselected⟩
  · rw [hnone] at h
    cases hruntime : goal.workload.runtime with
    | none =>
      rw [hruntime] at h
      dsimp only at h
      split_ifs at h <;> cases h
    | some runtime =>
      rw [hruntime] at h
      dsimp only at h
      split_ifs at h <;> cases h
  · rw [hselected] at h
    cases h
    exact ⟨entry.1, Table.mem_toList.mp hmem⟩

/-- The node of a replica is one of the world. -/
lemma chooseNode_known {b : Batch} (h : chooseNode host goal w b = .ok node) :
    ∃ key : String, w.nodes[key]? = some node := by
  obtain ⟨selected, hselected, h⟩ := bind_ok.mp h
  rw [refuseIf_bind_ok] at h
  obtain ⟨-, h⟩ := h
  dsimp only at h
  split_ifs at h with hhome
  · cases h
    exact selectNode_known hselected
  · obtain ⟨hget, -⟩ := Option.filter_eq_some_iff.mp (require_ok.mp h)
    exact ⟨volumeHome goal w, hget⟩

lemma placeReplicas_blocks {remaining : ℕ} {b b' : Batch}
    (h : placeReplicas host goal w remaining replica b = .ok b') :
    ∃ blocks, (∀ block ∈ blocks, ∃ key : String, w.nodes[key]? = some block.1) ∧
      b'.actions = b.actions ++ blocksActions goal w blocks := by
  induction remaining generalizing replica b with
  | zero =>
    cases h
    exact ⟨[], List.forall_mem_nil _, by simp [blocksActions]⟩
  | succ remaining ih =>
    unfold placeReplicas at h
    split_ifs at h with hheld
    · exact ih h
    · obtain ⟨node, hnode, h⟩ := bind_ok.mp h
      have hknown := chooseNode_known hnode
      dsimp only at h
      split_ifs at h with hfull
      · cases h
        exact ⟨[(node, replica)], List.forall_mem_singleton.mpr hknown,
          by simp [blocksActions, Batch.place]⟩
      · obtain ⟨blocks, hnodes, hblocks⟩ := ih h
        refine ⟨(node, replica) :: blocks, List.forall_mem_cons.mpr ⟨hknown, hnodes⟩, ?_⟩
        rw [hblocks]
        simp [blocksActions, Batch.place]

/-- **A proposal is a sequence of blocks**, on nodes of the world. -/
theorem propose_blocks (h : propose host goal w = .ok p) :
    ∃ blocks, (∀ block ∈ blocks, ∃ key : String, w.nodes[key]? = some block.1) ∧
      p.actions = blocksActions goal w blocks := by
  obtain ⟨b, hb, h⟩ := bind_ok.mp h
  cases h
  exact placeReplicas_blocks hb

/-- What a node sees of a proposal is a sequence of blocks. -/
lemma blocksActions_filter (blocks : List (Node × Int64)) (name : String) :
    (blocksActions goal w blocks).filter (fun a => decide (a.node = name)) =
      blocksActions goal w (blocks.filter fun block => decide (block.1.id = name)) := by
  induction blocks with
  | nil => rfl
  | cons block rest ih =>
    simp only [blocksActions, List.flatMap_cons, List.filter_append] at ih ⊢
    rw [ih, List.filter_cons]
    by_cases hname : block.1.id = name
    · have hall : (blockActions goal w block.1 block.2).filter
          (fun a => decide (a.node = name)) = blockActions goal w block.1 block.2 := by
        refine List.filter_eq_self.mpr fun a ha => ?_
        rw [blockActions_node ha, hname, decide_eq_true rfl]
      rw [hall, if_pos (decide_eq_true hname)]
      rfl
    · have hnone : (blockActions goal w block.1 block.2).filter
          (fun a => decide (a.node = name)) = [] := by
        refine List.filter_eq_nil_iff.mpr fun a ha => ?_
        rw [blockActions_node ha]
        simpa using hname
      rw [hnone, if_neg (by simpa using hname)]
      rfl

lemma blocksActions_prepared (blocks : List (Node × Int64)) (created : List String) :
    Prepared created (blocksActions goal w blocks) := by
  induction blocks with
  | nil => trivial
  | cons block rest ih => exact (blockActions_prepared created).append ih

/-- **On every node, what is prepared for an allocation comes after its creation.** -/
theorem propose_prepared (h : propose host goal w = .ok p)
    (name : String) : Prepared [] (p.actions.filter fun a => decide (a.node = name)) := by
  obtain ⟨blocks, -, hblocks⟩ := propose_blocks h
  rw [hblocks, blocksActions_filter]
  exact blocksActions_prepared _ []

lemma allocationID_ne (workload : String) (replica : Int64) :
    allocationID workload replica ≠ "" := by
  intro h
  have hlist := congrArg String.toList h
  simp [allocationID] at hlist

/-- What a proposal creates it starts, on the same node, and the other way round. -/
lemma propose_pairs (h : propose host goal w = .ok p)
    (ha : a ∈ p.actions) (hk : a.kind = .createAllocation ∨ a.kind = .startAllocation) :
    a.target ≠ "" ∧
    (∃ c ∈ p.actions, c.kind = .createAllocation ∧ c.target = a.target ∧ c.node = a.node) ∧
      ∃ s ∈ p.actions, s.kind = .startAllocation ∧ s.target = a.target ∧ s.node = a.node := by
  obtain ⟨blocks, -, hblocks⟩ := propose_blocks h
  rw [hblocks] at ha ⊢
  obtain ⟨⟨node, replica⟩, hblock, ha⟩ := List.mem_flatMap.mp ha
  rw [blockActions_target ha hk, blockActions_node ha]
  let id := allocationID goal.workload.name replica
  refine ⟨allocationID_ne _ _,
    ⟨createAction goal node id replica, List.mem_flatMap.mpr ⟨_, hblock, ?_⟩, rfl, rfl, rfl⟩,
    startAction goal w node id, List.mem_flatMap.mpr ⟨_, hblock, ?_⟩, rfl, rfl, rfl⟩
  · simp [blockActions, id]
  · simp [blockActions, id]

/-- **What an action of a proposal is for.** An allocation or an image is for an allocation that
the proposal creates on the same node, a volume for one that it is attached to there. -/
theorem propose_roles (h : propose host goal w = .ok p) (ha : a ∈ p.actions) :
    (∃ (key : String) (node : Node), w.nodes[key]? = some node ∧ node.id = a.node) ∧
      ((a.kind.prepares = true ∨ a.kind = .createAllocation) ∧
          (∃ c ∈ p.actions, c.kind = .createAllocation ∧ c.target = a.target ∧ c.node = a.node) ∨
        a.kind = .pullImage ∧
          (∃ c ∈ p.actions, c.kind = .createAllocation ∧ c.image = a.target ∧ c.node = a.node) ∨
        a.kind = .createVolume ∧ ∃ ref, a.volume = some ref ∧ a.target = ref.name ∧
          ∃ c ∈ p.actions, c.kind = .attachVolume ∧ c.volume = some ref ∧ c.node = a.node) := by
  obtain ⟨blocks, hknown, hblocks⟩ := propose_blocks h
  rw [hblocks] at ha ⊢
  obtain ⟨⟨node, replica⟩, hblock, ha⟩ := List.mem_flatMap.mp ha
  have hnode : a.node = node.id := blockActions_node ha
  obtain ⟨key, hkey⟩ := hknown _ hblock
  refine ⟨⟨key, node, hkey, hnode.symm⟩, ?_⟩
  rw [hnode]
  have hmem : ∀ {c}, c ∈ blockActions goal w node replica → c ∈ blocksActions goal w blocks :=
    fun hc => List.mem_flatMap.mpr ⟨_, hblock, hc⟩
  let id := allocationID goal.workload.name replica
  have hcreate : createAction goal node id replica ∈ blocksActions goal w blocks :=
    hmem (List.mem_append_right _ List.mem_cons_self)
  simp only [blockActions, List.mem_append, List.mem_cons, List.not_mem_nil, or_false] at ha
  rcases ha with hpull | rfl | hprepare | rfl
  · unfold pullActions at hpull
    split_ifs at hpull
    · cases hpull
    · obtain rfl := List.mem_singleton.mp hpull
      exact .inr (.inl ⟨rfl, _, hcreate, rfl, rfl, rfl⟩)
  · exact .inl ⟨.inr rfl, _, hcreate, rfl, rfl, rfl⟩
  · obtain ⟨-, ⟨hprepares, -, htarget⟩ | ⟨hkind, ref, href, htarget, c, hc, hattach, hvolume⟩⟩ :=
      preparation_cases hprepare
    · exact .inl ⟨.inl hprepares, _, hcreate, rfl, htarget.symm, rfl⟩
    · have hblockMem : c ∈ blockActions goal w node replica :=
        List.mem_append_right _ (List.mem_cons_of_mem _ (List.mem_append_left _ hc))
      exact .inr (.inr ⟨hkind, ref, href, htarget, c, hmem hblockMem, hattach, hvolume,
        blockActions_node hblockMem⟩)
  · exact .inl ⟨.inl rfl, _, hcreate, rfl, rfl, rfl⟩

end PlacementAgent

end A4s
