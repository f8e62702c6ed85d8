/-
The other agents that propose (`NetworkAgent` of `control/agents.go`, `control/rollout.go`,
`control/remediation.go`, `control/storage_agent.go`).

Like the placement agent they are deterministic: a proposal is read off the goal and the world.
Maps are ranged over in the order of their keys, which is the order the agents sort them into.

* `NetworkAgent.propose`, `RolloutAgent.propose`, `RemediationAgent.propose`,
  `StorageAgent.propose`, `StorageAgent.proposeBackup`: the agents.
* `BuiltIn`: the agents of a server, with the placement agent.
* `mem_stalePolicies`, `routeNode_eq`, `RolloutAgent.mem_propose`, `StorageAgent.mem_propose`
  and their like: **the node that each agent names**. The remediation agent names none.
-/
import A4s.Control.Placement
import A4s.Server.Calls

namespace A4s

open Go

/-- The proposal an agent starts from. -/
def AgentDescriptor.draft (d : AgentDescriptor) (stem reasoning : String) (goal : Goal)
    (w : World) : Proposal :=
  { id := s!"{stem}-r{w.revision}", agentID := d.id, goalID := goal.id
    basedOnRevision := w.revision, reasoning := reasoning, actions := [] }

/-! ### The network agent -/

namespace NetworkAgent

def descriptor : AgentDescriptor :=
  { id := "network-agent", role := "publish approved workload routes and service names"
    capabilities := [.publishRoute, .publishZone] }

/-- The ports of the goal's own workload. -/
def ports (goal : Goal) : Table Int64 :=
  Table.ofEntries [(goal.workload.name, goal.workload.port)]

/-- `stalePolicies`: the ruleset of the first node that runs the workload under other rules. An
intent that does not compile is passed over. -/
def stalePolicies (host : Host) (goal : Goal) (w : World) : List Action :=
  match goal.workload.policy with
  | none => []
  | some declared =>
    let policy :=
      if declared.workload = "" then { declared with workload := goal.workload.name }
      else declared
    (w.nodes.toList.filterMap fun (id, node) =>
      if node.healthy = false ∨ localAddresses w goal.workload.name id = [] then none
      else match compilePolicies host w (ports goal) [policy] id with
        | .error _ => none
        | .ok compiled =>
          if node.policyFingerprint = compiled.fingerprint host then none
          else some
            { id := "apply-policy-" ++ id, kind := .applyPolicy, target := id, node := id
              workload := goal.workload.name, policy := some compiled }).take 1

/-- `staleZones`: the zone of the first healthy node whose resolver has another one. -/
def staleZones (host : Host) (goal : Goal) (w : World) : List Action :=
  let directory := buildDirectory host w (ports goal)
  if (directory[goal.workload.name]?.getD {}).endpoints = [] then []
  else
    (w.nodes.toList.filterMap fun (id, node) =>
      let zone := buildServiceZone host w (ports goal) id
      if node.healthy = false ∨ zone.records.isEmpty ∨
          node.zoneFingerprint = zone.fingerprint host then none
      else some
        { id := "publish-zone-" ++ id, kind := .publishZone, target := id, node := id
          workload := goal.workload.name, zone := some zone }).take 1

/-- The nodes with a ready allocation of the workload. -/
def readyNodes (goal : Goal) (w : World) : List String :=
  ((w.allocations.toList.map Prod.snd).filter fun x =>
    decide (x.workload = goal.workload.name) && x.ready).map (·.node)

/-- `routeNode`: the node that will serve a route, empty if no allocation is ready. -/
def routeNode (goal : Goal) (w : World) : String :=
  ((readyNodes goal w).insertionSort (· ≤ ·)).head?.getD ""

def publishAction (goal : Goal) (w : World) (route : RouteSpec) : Action :=
  { id := "publish-" ++ goal.workload.name, kind := .publishRoute, target := route.host
    workload := goal.workload.name, node := routeNode goal w, port := route.port
    exposure := route.exposure }

def draft (goal : Goal) (w : World) : Proposal :=
  descriptor.draft descriptor.id
    "publish the requested route only after every desired replica is ready" goal w

/-- The proposal without a route to publish: the names, if they are out of date. -/
def publishNames (host : Host) (goal : Goal) (w : World) : Proposal :=
  if staleZones host goal w = [] then draft goal w
  else { draft goal w with
    reasoning := "publish service names to nodes whose resolver is out of date"
    actions := staleZones host goal w }

/-- `NetworkAgent.Propose`: rules before names, names before the route. -/
def propose (host : Host) (goal : Goal) (w : World) : Proposal :=
  let rules := stalePolicies host goal w
  if rules ≠ [] then
    { draft goal w with
      reasoning := "install network policy on nodes whose rules are out of date"
      actions := rules }
  else match goal.route with
    | none => publishNames host goal w
    | some route =>
      if w.routes[route.host]?.isSome ∨
          (matchingReadyAllocations host goal w : Int) < goal.workload.replicas.toInt then
        publishNames host goal w
      else { draft goal w with
        actions := staleZones host goal w ++ [publishAction goal w route]
        expectedEvidence := [{ kind := .routeReachable, target := route.host, want := "true" }] }

end NetworkAgent

/-! ### The rollout agent -/

structure RolloutAgent where
  minAvailable : Int64 := 0
  deriving DecidableEq

namespace RolloutAgent

def descriptor : AgentDescriptor :=
  { id := "rollout-agent", role := "replace drifted allocations within an availability budget"
    capabilities := [.stopAllocation, .deleteAllocation] }

/-- `floor`: the ready replicas a rollout must preserve. -/
def floor (r : RolloutAgent) (goal : Goal) : Int64 :=
  if 0 < r.minAvailable then r.minAvailable
  else if goal.workload.replicas ≤ 1 then 0
  else goal.workload.replicas - 1

/-- An allocation of the goal's own version on an allowed node that has budget left. -/
def matchesGoal (goal : Goal) (w : World) (x : Allocation) : Bool :=
  match w.nodes[x.node]? with
  | none => false
  | some node =>
    decide (x.image = goal.workload.image) && decide (x.resources = goal.workload.resources) &&
      nodeAllowed goal.constraints node && !x.exhausted

/-- `driftedAllocations`, in the order of their ids. -/
def driftedAllocations (goal : Goal) (w : World) : List Allocation :=
  ((w.allocations.toList.map Prod.snd).filter fun x =>
    decide (x.workload = goal.workload.name) && !matchesGoal goal w x).insertionSort
      fun x y => x.id ≤ y.id

/-- An action on an allocation, where the allocation is. -/
def actionOn (x : Allocation) (verb : String) (kind : ActionKind) (dependsOn : List String) :
    Action :=
  { id := verb ++ x.id, kind := kind, target := x.id, workload := x.workload, node := x.node
    dependsOn := dependsOn }

/-- `RolloutAgent.Propose`: one allocation that no longer matches the goal is retired, a stopped
one first. -/
def propose (r : RolloutAgent) (host : Host) (goal : Goal) (w : World) :
    Except Calls.Refusal Proposal :=
  let draft := descriptor.draft descriptor.id
    "retire one allocation that no longer matches the goal, within the availability budget" goal w
  match rollbackTarget goal w with
  | some knownGood =>
    .error (.rollback (s!"workload {quote goal.workload.name} failed on " ++
      s!"{goal.workload.image}; last known-good image is {knownGood}"))
  | none =>
    match driftedAllocations goal w with
    | [] => .ok draft
    | candidate :: rest =>
      match (candidate :: rest).find? fun x => decide (x.phase = .stopped) with
      | some stopped =>
        .ok { draft with actions := [actionOn stopped "delete-" .deleteAllocation []] }
      | none =>
        -- only the removal of a ready allocation costs availability
        let cost : Int := if candidate.readyAt (w.now host.wall) then 1 else 0
        let left := (servingAllocations host goal w : Int) - cost
        if left < (r.floor goal).toInt then
          .error (.other (s!"stopping {quote candidate.id} would leave {left} ready " ++
            s!"replicas, below the availability floor of {sprintInt (r.floor goal)}"))
        else if goal.workload.runtime.isSome ∧ candidate.task ≠ "" ∧
            candidate.draining = false ∧ candidate.exhausted = false then
          .ok { draft with
            reasoning :=
              "drain one agent instance so it finishes its task before being retired"
            actions := [actionOn candidate "drain-" .drainAllocation []]
            expectedEvidence :=
              [{ kind := .allocationDrained, target := candidate.id, want := "true" }] }
        else
          .ok { draft with actions :=
            [actionOn candidate "stop-" .stopAllocation [],
              actionOn candidate "delete-" .deleteAllocation ["stop-" ++ candidate.id]] }

end RolloutAgent

/-! ### The remediation agent -/

/-- `UnhealthyNodes`: not healthy and not yet cordoned. -/
def unhealthyNodes (w : World) : List String :=
  (w.nodes.toList.filter fun (_, node) => !node.healthy && !node.cordoned).map (·.1)

namespace RemediationAgent

/-- `MaxRemediationAttempts`. -/
def maxRemediationAttempts : Int64 := 3

def descriptor : AgentDescriptor :=
  { id := "remediation-agent"
    role := "take failed nodes out of service and retire allocations that cannot recover"
    capabilities := [.cordonNode, .stopAllocation, .deleteAllocation] }

/-- `failedNodeHolding`: an unhealthy, uncordoned node that holds the workload. -/
def failedNodeHolding (w : World) (workload : String) : String :=
  ((unhealthyNodes w).find? fun id =>
    w.allocations.toList.any fun (_, x) =>
      decide (x.workload = workload) && decide (x.node = id)).getD ""

/-- `retirableAllocation`: a stopped allocation, unless it has been repaired too often. -/
def retirableAllocation (w : World) (workload : String) : String :=
  ((w.allocations.toList.find? fun (id, x) =>
    decide (x.workload = workload) && decide (x.phase = .stopped) &&
      match w.backoff[id]? with
      | none => true
      | some state => decide (state.failures < maxRemediationAttempts)).map (·.1)).getD ""

/-- `evacuableAllocation`: a live allocation on a cordoned node. -/
def evacuableAllocation (w : World) (workload : String) : String :=
  ((w.allocations.toList.find? fun (_, x) =>
    decide (x.workload = workload) && decide (x.phase ≠ .stopped) &&
      match w.nodes[x.node]? with
      | none => false
      | some node => node.cordoned).map (·.1)).getD ""

def cordonAction (goal : Goal) (node : String) : Action :=
  { id := "cordon-" ++ node, kind := .cordonNode, target := node
    reason := "unhealthy node holding " ++ goal.workload.name }

/-- An action on an allocation; where the allocation is, it does not say. -/
def actionOn (goal : Goal) (target verb : String) (kind : ActionKind) (dependsOn : List String) :
    Action :=
  { id := verb ++ target, kind := kind, target := target, workload := goal.workload.name
    dependsOn := dependsOn }

/-- `RemediationAgent.Propose`: the first rung of the ladder that has work. -/
def propose (goal : Goal) (w : World) : Proposal :=
  let workload := goal.workload.name
  let draft := descriptor.draft descriptor.id "" goal w
  let failed := failedNodeHolding w workload
  let retired := retirableAllocation w workload
  let evacuated := evacuableAllocation w workload
  if failed ≠ "" then
    { draft with
      reasoning := s!"node {quote failed} is unhealthy and still holds {quote workload}; " ++
        "stop placing work on it"
      actions := [cordonAction goal failed] }
  else if retired ≠ "" then
    { draft with
      reasoning := s!"allocation {quote retired} stopped and is holding its replica slot; " ++
        "retire it so it can be replaced"
      actions := [actionOn goal retired "delete-" .deleteAllocation []] }
  else if evacuated ≠ "" then
    { draft with
      reasoning := s!"allocation {quote evacuated} runs on a cordoned node; move it off"
      actions :=
        [actionOn goal evacuated "stop-" .stopAllocation [],
          actionOn goal evacuated "delete-" .deleteAllocation ["stop-" ++ evacuated]] }
  else draft

end RemediationAgent

/-! ### The storage agent -/

/-- `DefaultVerificationInterval`. -/
def defaultVerificationInterval : Duration := 7 * 24 * hour

structure StorageAgent where
  interval : Duration := 0
  deriving DecidableEq

namespace StorageAgent

def descriptor : AgentDescriptor :=
  { id := "storage-agent", role := "verify, snapshot, and recover durable data"
    capabilities := [.snapshotVolume, .databaseBackup, .backupSnapshot, .restoreSnapshot,
      .quiesceVolume, .transferVolume, .adoptVolume, .pruneSnapshots, .verifyBackup,
      .collectImages] }

/-- A volume that is overdue, and since when its backup has not been verified. -/
structure Candidate where
  volume : Volume
  age : Duration

/-- The volumes of the workload that hold a snapshot, are not being moved and have gone
unverified for the interval. -/
def candidates (s : StorageAgent) (host : Host) (goal : Goal) (w : World) : List Candidate :=
  let interval := if s.interval ≤ 0 then defaultVerificationInterval else s.interval
  goal.workload.volumes.filterMap fun ref =>
    match w.volumes[ref.name]? with
    | none => none
    | some v =>
      let since := w.now host.wall - v.verifiedAt
      if v.lastSnapshot = "" ∨ v.handoff.isSome then none
      else if v.verifiedAt ≠ 0 ∧ since < interval then none
      else some { volume := v, age := since }

/-- The oldest verification comes first, the name breaks a tie. -/
def before (x y : Candidate) : Prop :=
  y.age < x.age ∨ (x.age = y.age ∧ x.volume.name ≤ y.volume.name)

instance : DecidableRel before := fun _ _ => inferInstanceAs (Decidable (_ ∨ _))

/-- `StorageAgent.Propose`: the volume most overdue is verified. -/
def propose (s : StorageAgent) (host : Host) (goal : Goal) (w : World) : Proposal :=
  let draft := descriptor.draft (descriptor.id ++ "-verify")
    "verify that the least recently checked backup is still recoverable" goal w
  match (s.candidates host goal w).insertionSort before with
  | [] => draft
  | chosen :: _ =>
    let v := chosen.volume
    { draft with actions :=
      [{ id := "verify-" ++ v.name, kind := .verifyBackup, target := v.name
         workload := goal.workload.name, node := v.node
         volume := some { name := v.name, checksum := v.snapshots[v.lastSnapshot]?.getD "" }
         snapshot := v.lastSnapshot }] }

/-- `StorageAgent.ProposeBackup`: the first volume of a database, with the database's own
tool. -/
def proposeBackup (goal : Goal) (w : World) (label : String) : Proposal :=
  let draft := descriptor.draft (descriptor.id ++ "-backup")
    "back up the database with its own consistent-backup tool" goal w
  if goal.workload.engine = "" then draft
  else match goal.workload.volumes.findSome? fun ref =>
      w.volumes[ref.name]?.map fun v => (ref.name, v) with
    | none => draft
    | some (name, v) =>
      { draft with actions :=
        [{ id := "db-backup-" ++ name, kind := .databaseBackup, target := name
           workload := goal.workload.name, node := v.node, volume := some { name := name }
           snapshot := label, engine := goal.workload.engine }] }

end StorageAgent

/-! ### The agents of a server -/

/-- The agents, with the storage agent's two ways to propose. -/
inductive BuiltIn where
  | placement
  | network
  | rollout (r : RolloutAgent)
  | remediation
  | storage (s : StorageAgent)
  | backup (label : String)
  deriving DecidableEq

namespace BuiltIn

def descriptor : BuiltIn → AgentDescriptor
  | .placement => PlacementAgent.descriptor
  | .network => NetworkAgent.descriptor
  | .rollout _ => RolloutAgent.descriptor
  | .remediation => RemediationAgent.descriptor
  | .storage _ => StorageAgent.descriptor
  | .backup _ => StorageAgent.descriptor

def propose (host : Host) (goal : Goal) (w : World) : BuiltIn → Except Calls.Refusal Proposal
  | .placement =>
    match PlacementAgent.propose host goal w with
    | .ok p => .ok p
    | .error (.error text) | .error (.panic text) => .error (.other text)
  | .network => .ok (NetworkAgent.propose host goal w)
  | .rollout r => r.propose host goal w
  | .remediation => .ok (RemediationAgent.propose goal w)
  | .storage s => .ok (s.propose host goal w)
  | .backup label => .ok (StorageAgent.proposeBackup goal w label)

end BuiltIn

/-! ### The node an action names -/

variable {host : Host} {goal : Goal} {w : World} {p : Proposal} {a : Action}

namespace NetworkAgent

/-- Of the actions for one node each, the one that is proposed is for a node of the world. -/
lemma mem_take_filterMap {f : String × Node → Option Action} {n : ℕ}
    (h : a ∈ (w.nodes.toList.filterMap f).take n) :
    ∃ id node, w.nodes[id]? = some node ∧ f (id, node) = some a := by
  obtain ⟨⟨id, node⟩, hmem, hf⟩ := List.mem_filterMap.mp (List.mem_of_mem_take h)
  exact ⟨id, node, Table.mem_toList.mp hmem, hf⟩

lemma mem_stalePolicies (h : a ∈ stalePolicies host goal w) :
    a.kind = .applyPolicy ∧ a.target = a.node ∧ ∃ node compiled, w.nodes[a.node]? = some node ∧
      a.policy = some compiled ∧ node.policyFingerprint ≠ compiled.fingerprint host := by
  unfold stalePolicies at h
  split at h
  · cases h
  · obtain ⟨id, node, hnode, hf⟩ := mem_take_filterMap h
    dsimp only at hf
    split at hf
    · cases hf
    · split at hf
      · cases hf
      · split_ifs at hf with hstale
        cases hf
        exact ⟨rfl, rfl, node, _, hnode, rfl, hstale⟩

lemma mem_staleZones (h : a ∈ staleZones host goal w) :
    a.kind = .publishZone ∧ a.target = a.node ∧ ∃ node zone, w.nodes[a.node]? = some node ∧
      a.zone = some zone ∧ node.zoneFingerprint ≠ zone.fingerprint host := by
  unfold staleZones at h
  dsimp only at h
  split_ifs at h with hserving
  · cases h
  · obtain ⟨id, node, hnode, hf⟩ := mem_take_filterMap h
    dsimp only at hf
    split_ifs at hf with hskip
    cases hf
    exact ⟨rfl, rfl, node, _, hnode, rfl, fun hsame => hskip (.inr (.inr hsame))⟩

lemma mem_readyNodes {n : String} : n ∈ readyNodes goal w ↔
    ∃ (key : String) (x : Allocation), w.allocations[key]? = some x ∧
      x.workload = goal.workload.name ∧ x.ready = true ∧ x.node = n := by
  simp only [readyNodes, List.mem_map, List.mem_filter, Bool.and_eq_true, decide_eq_true_eq]
  constructor
  · rintro ⟨x, ⟨⟨⟨key, _⟩, hmem, rfl⟩, hworkload, hready⟩, hn⟩
    exact ⟨key, _, Table.mem_toList.mp hmem, hworkload, hready, hn⟩
  · rintro ⟨key, x, hget, hworkload, hready, hn⟩
    have hmem := Table.mem_toList.mpr hget
    exact ⟨x, ⟨⟨(key, x), hmem, rfl⟩, hworkload, hready⟩, hn⟩

lemma routeNode_mem (h : readyNodes goal w ≠ []) : routeNode goal w ∈ readyNodes goal w := by
  unfold routeNode
  rw [← List.mem_insertionSort (· ≤ ·)]
  cases hsorted : (readyNodes goal w).insertionSort (· ≤ ·) with
  | nil =>
    have hlength := List.length_insertionSort (· ≤ ·) (readyNodes goal w)
    rw [hsorted] at hlength
    exact absurd (List.length_eq_zero_iff.mp hlength.symm) h
  | cons n rest => exact List.mem_cons_self

lemma routeNode_of_nil (h : readyNodes goal w = []) : routeNode goal w = "" := by
  rw [routeNode, h]
  rfl

lemma mem_publishNames (h : a ∈ (publishNames host goal w).actions) :
    a ∈ staleZones host goal w := by
  unfold publishNames at h
  split_ifs at h
  · cases h
  · exact h

lemma mem_propose (h : a ∈ (propose host goal w).actions) :
    a ∈ stalePolicies host goal w ∨ a ∈ staleZones host goal w ∨
      ∃ route, goal.route = some route ∧ a = publishAction goal w route := by
  unfold propose at h
  dsimp only at h
  split_ifs at h with hrules
  · exact .inl h
  · cases hroute : goal.route with
    | none =>
      rw [hroute] at h
      exact .inr (.inl (mem_publishNames h))
    | some route =>
      rw [hroute] at h
      dsimp only at h
      split_ifs at h with hwait
      · exact .inr (.inl (mem_publishNames h))
      · rcases List.mem_append.mp h with hzone | hpublish
        · exact .inr (.inl hzone)
        · exact .inr (.inr ⟨route, rfl, List.mem_singleton.mp hpublish⟩)

end NetworkAgent

namespace RolloutAgent

lemma mem_driftedAllocations {x : Allocation} (h : x ∈ driftedAllocations goal w) :
    ∃ key : String, w.allocations[key]? = some x := by
  obtain ⟨hmem, -⟩ := List.mem_filter.mp ((List.mem_insertionSort _).mp h)
  obtain ⟨⟨key, _⟩, hentry, rfl⟩ := List.mem_map.mp hmem
  exact ⟨key, Table.mem_toList.mp hentry⟩

/-- What a rollout proposes is done to one allocation, where it is. -/
lemma mem_propose {r : RolloutAgent} (h : r.propose host goal w = .ok p) (ha : a ∈ p.actions) :
    ∃ (x : Allocation) (verb : String) (kind : ActionKind) (dependsOn : List String),
      (∃ key : String, w.allocations[key]? = some x) ∧ a = actionOn x verb kind dependsOn ∧
        (kind = .stopAllocation ∨ kind = .deleteAllocation ∨ kind = .drainAllocation) := by
  unfold propose at h
  dsimp only at h
  cases htarget : rollbackTarget goal w with
  | some knownGood =>
    rw [htarget] at h
    cases h
  | none =>
    rw [htarget] at h
    dsimp only at h
    cases hdrifted : driftedAllocations goal w with
    | nil =>
      rw [hdrifted] at h
      cases h
      cases ha
    | cons candidate rest =>
      have hcandidate := mem_driftedAllocations (hdrifted ▸ List.mem_cons_self)
      rw [hdrifted] at h
      dsimp only at h
      cases hstopped : (candidate :: rest).find? fun x => decide (x.phase = .stopped) with
      | some stopped =>
        rw [hstopped] at h
        cases h
        have hmem := List.mem_of_find?_eq_some hstopped
        exact ⟨stopped, _, _, _, mem_driftedAllocations (hdrifted ▸ hmem),
          List.mem_singleton.mp ha, .inr (.inl rfl)⟩
      | none =>
        rw [hstopped] at h
        dsimp only at h
        generalize (servingAllocations host goal w : Int) - _ = left at h
        split_ifs at h with hfloor hdrain
        · cases h
          exact ⟨candidate, _, _, _, hcandidate, List.mem_singleton.mp ha,
            .inr (.inr rfl)⟩
        · cases h
          rcases List.mem_pair.mp ha with rfl | rfl
          · exact ⟨candidate, _, _, _, hcandidate, rfl, .inl rfl⟩
          · exact ⟨candidate, _, _, _, hcandidate, rfl, .inr (.inl rfl)⟩

end RolloutAgent

/-- **The remediation agent names no node**, whatever it proposes. -/
theorem RemediationAgent.mem_propose (h : a ∈ (propose goal w).actions) : a.node = "" := by
  unfold propose at h
  dsimp only at h
  split_ifs at h with hfailed hretired hevacuated
  · rw [List.mem_singleton.mp h]
    rfl
  · rw [List.mem_singleton.mp h]
    rfl
  · rcases List.mem_pair.mp h with rfl | rfl <;> rfl
  · cases h

namespace StorageAgent

lemma mem_candidates {s : StorageAgent} {c : Candidate} (h : c ∈ s.candidates host goal w) :
    ∃ key : String, w.volumes[key]? = some c.volume := by
  obtain ⟨ref, -, hf⟩ := List.mem_filterMap.mp h
  generalize (if s.interval ≤ 0 then _ else _ : Duration) = interval at hf
  cases hget : w.volumes[ref.name]? with
  | none =>
    rw [hget] at hf
    cases hf
  | some v =>
    rw [hget] at hf
    dsimp only at hf
    split_ifs at hf with hbusy hrecent
    cases hf
    exact ⟨ref.name, hget⟩

/-- What is verified is a volume of the world, where it is. -/
lemma mem_propose {s : StorageAgent} (h : a ∈ (s.propose host goal w).actions) :
    a.kind = .verifyBackup ∧ ∃ (key : String) (v : Volume), w.volumes[key]? = some v ∧
      v.name = a.target ∧ v.node = a.node := by
  unfold propose at h
  dsimp only at h
  cases hsorted : (s.candidates host goal w).insertionSort before with
  | nil =>
    rw [hsorted] at h
    cases h
  | cons chosen rest =>
    rw [hsorted] at h
    have hchosen : chosen ∈ s.candidates host goal w :=
      (List.mem_insertionSort before).mp (hsorted ▸ List.mem_cons_self)
    obtain ⟨key, hget⟩ := mem_candidates hchosen
    rw [List.mem_singleton.mp h]
    exact ⟨rfl, key, chosen.volume, hget, rfl, rfl⟩

/-- What is backed up is a volume of the world, where it is. -/
lemma mem_proposeBackup {label : String} (h : a ∈ (proposeBackup goal w label).actions) :
    a.kind = .databaseBackup ∧ ∃ v, w.volumes[a.target]? = some v ∧ v.node = a.node := by
  unfold proposeBackup at h
  dsimp only at h
  split_ifs at h with hengine
  · cases h
  · split at h
    · cases h
    · rename_i name v hfound
      obtain ⟨ref, -, hmap⟩ := List.exists_of_findSome?_eq_some hfound
      obtain ⟨v', hget, hpair⟩ := Option.map_eq_some_iff.mp hmap
      cases hpair
      rw [List.mem_singleton.mp h]
      exact ⟨rfl, v, hget, rfl⟩

end StorageAgent

end A4s
