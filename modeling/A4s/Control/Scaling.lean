/-
Workloads that are scaled by a queue (`desiredReplicas` of `control/agents.go`,
`goalAchieved` of `control/engine.go`).

The placement agent wants as many workers as the observed depth of the queue justifies, and at
least the replicas the goal declares. The engine takes a goal for achieved when the declared
number of replicas is ready, no more and no fewer.

* `wantedReplicas`: how many slots the placement agent fills in a world.
* `Filled`: each of these slots is held by an allocation that serves the goal, and there is no
  other allocation of the workload.
* `Filled.count_eq`: then as many allocations serve the goal as are wanted.
* `filled_achieved_iff`: **whether the engine is content with such a world.**
* `creates_eq`: which workers a proposal creates; `new_workers_iff`: **there are no more of them than
  the declared replicas and the depth of the queue call for, exactly if enough of the slots are
  held**, as the number of workers is compared with the indices of their slots.
-/
import A4s.Control.Proposers
import A4s.Control.Shape

namespace A4s

open Go

section Demand

variable {host : Host} {goal : Goal} {w : World}

/-- How many replicas the placement agent wants. -/
def wantedReplicas (host : Host) (goal : Goal) (w : World) : Int64 :=
  desiredReplicas host goal w (Int64.ofNat (PlacementAgent.existingReplicas goal w).length)

/-- The allocations of the goal's workload. -/
def workloadCount (goal : Goal) (w : World) : ℕ :=
  Table.count (fun _ x => decide (x.workload = goal.workload.name)) w.allocations

/-- A ready allocation of the goal's own version, on a node that is allowed, which takes work
and can afford it. -/
structure Serves (host : Host) (goal : Goal) (w : World) (x : Allocation) : Prop where
  node : ∃ node, w.nodes[x.node]? = some node ∧ nodeAllowed goal.constraints node = true
  ready : x.readyAt (w.now host.wall) = true
  image : x.image = goal.workload.image
  resources : x.resources = goal.workload.resources
  live : x.phase ≠ .stopped
  working : x.draining = false
  affording : x.exhausted = false

/-- The slots that the placement agent wants are filled, each by one allocation that serves the
goal, and there is no other allocation of the workload. -/
structure Filled (host : Host) (goal : Goal) (w : World) : Prop where
  serves : ∀ (key : String) (x : Allocation), w.allocations[key]? = some x →
    x.workload = goal.workload.name → Serves host goal w x
  wanted : ∀ (key : String) (x : Allocation), w.allocations[key]? = some x →
    x.workload = goal.workload.name → 0 ≤ x.replica ∧ x.replica < wantedReplicas host goal w
  once : ∀ (key key' : String) (x x' : Allocation), w.allocations[key]? = some x →
    w.allocations[key']? = some x' → x.workload = goal.workload.name →
    x'.workload = goal.workload.name → x.replica = x'.replica → key = key'
  all : ∀ replica, 0 ≤ replica → replica < wantedReplicas host goal w →
    ∃ (key : String) (x : Allocation), w.allocations[key]? = some x ∧
      x.workload = goal.workload.name ∧ x.replica = replica

/-! ### Counting -/

/-- Where all allocations of the workload serve the goal, the engine counts them all. -/
lemma matchingReady_eq (goal : Goal) (h : ∀ (key : String) (x : Allocation),
    w.allocations[key]? = some x → x.workload = goal.workload.name → Serves host goal w x) :
    matchingReadyAllocations host goal w = workloadCount goal w := by
  refine List.countP_congr ?_
  rintro ⟨key, x⟩ hmem
  have hget := Table.mem_toList.mp hmem
  by_cases hworkload : x.workload = goal.workload.name
  · obtain ⟨⟨node, hnode, hallowed⟩, hready, himage, hresources, -, hworking, haffording⟩ :=
      h key x hget hworkload
    simp [hnode, hallowed, hready, himage, hresources, hworking, haffording, hworkload]
  · cases hnode : w.nodes[x.node]? with
    | none => simp [hnode, hworkload]
    | some node => simp [hnode, hworkload]

lemma toNat_lt_iff {i j : Int64} (hi : 0 ≤ i) : i.toInt.toNat < j.toInt.toNat ↔ i < j := by
  rw [Int64.le_iff_toInt_le, Int64.toInt_zero] at hi
  rw [Int64.lt_iff_toInt_lt]
  omega

/-- **As many allocations serve the goal as are wanted.** -/
lemma Filled.count_eq (h : Filled host goal w) :
    workloadCount goal w = (wantedReplicas host goal w).toInt.toNat := by
  refine Table.count_eq_of_slots (fun x => x.replica.toInt.toNat) ?_ ?_ ?_
  · intro key x hget hworkload
    obtain ⟨hlow, hhigh⟩ := h.wanted key x hget (of_decide_eq_true hworkload)
    exact (toNat_lt_iff hlow).mpr hhigh
  · intro key key' x x' hget hget' hworkload hworkload' hsame
    have hlow := (h.wanted key x hget (of_decide_eq_true hworkload)).1
    have hlow' := (h.wanted key' x' hget' (of_decide_eq_true hworkload')).1
    rw [Int64.le_iff_toInt_le, Int64.toInt_zero] at hlow hlow'
    refine h.once key key' x x' hget hget' (of_decide_eq_true hworkload)
      (of_decide_eq_true hworkload') (Int64.toInt_inj.mp ?_)
    omega
  · intro i hi
    have hbound := (wantedReplicas host goal w).toInt_lt
    have hvalue : (Int64.ofInt i).toInt = i := Int64.toInt_ofInt_of_le (by omega) (by omega)
    obtain ⟨key, x, hget, hworkload, hreplica⟩ := h.all (Int64.ofInt i)
      (by rw [Int64.le_iff_toInt_le, hvalue, Int64.toInt_zero]; omega)
      (by rw [Int64.lt_iff_toInt_lt, hvalue]; omega)
    refine ⟨key, x, hget, decide_eq_true hworkload, ?_⟩
    rw [hreplica, hvalue]
    omega

/-! ### Demand -/

/-- The workers that the observed depth of the queue calls for, with those that are there. -/
def calledFor (queue : Queue) (goal : Goal) (w : World) : Int64 :=
  queue.desiredWorkers (Int64.ofNat (PlacementAgent.existingReplicas goal w).length)

/-- Demand adds to the declared replicas and never takes any away. -/
lemma replicas_le_wanted (host : Host) (goal : Goal) (w : World) :
    goal.workload.replicas ≤ wantedReplicas host goal w := by
  unfold wantedReplicas desiredReplicas
  cases workloadQueue goal w with
  | none => exact Int64.le_refl _
  | some queue =>
    dsimp only
    split_ifs with hstale hfew
    · exact Int64.le_refl _
    · exact Int64.le_refl _
    · exact Int64.not_lt.mp hfew

/-- Demand adds workers if a fresh depth calls for more than the goal declares. -/
lemma wanted_le_iff (host : Host) {queue : Queue} (hqueue : workloadQueue goal w = some queue) :
    wantedReplicas host goal w ≤ goal.workload.replicas ↔
      (queueFresh queue (w.now host.wall) = true →
        calledFor queue goal w ≤ goal.workload.replicas) := by
  unfold wantedReplicas desiredReplicas calledFor
  rw [hqueue]
  dsimp only
  split_ifs with hstale hfew
  · simp [hstale]
  · simp [Int64.le_of_lt hfew]
  · simp [hstale]

/-- **Whether the engine is content with a workload that its queue has scaled.** All wanted slots
are filled by allocations that serve the goal. The goal, its route aside, is achieved exactly
if the depth of the queue is no longer fresh or does not call for more workers than the goal
declares. -/
theorem filled_achieved_iff {queue : Queue} (hqueue : workloadQueue goal w = some queue)
    (hfilled : Filled host goal w) :
    Calls.goalAchieved host { goal with route := none } w = true ↔
      0 ≤ goal.workload.replicas ∧ (queueFresh queue (w.now host.wall) = true →
        calledFor queue goal w ≤ goal.workload.replicas) := by
  have hcount : matchingReadyAllocations host { goal with route := none } w =
      (wantedReplicas host goal w).toInt.toNat :=
    (matchingReady_eq goal hfilled.serves).trans hfilled.count_eq
  have hmore := Int64.le_iff_toInt_le.mp (replicas_le_wanted host goal w)
  rw [← wanted_le_iff host hqueue, Int64.le_iff_toInt_le, Int64.le_iff_toInt_le, Int64.toInt_zero]
  simp only [Calls.goalAchieved, hcount, Bool.and_true, decide_eq_true_eq]
  omega

end Demand

namespace Scaled

/-- A worker of a queue, declared once. -/
def goal : Goal :=
  { id := "work"
    workload :=
      { name := "work", image := "work@sha256:1", replicas := 1
        runtime := some { queue := "jobs" } } }

def worker (id : String) (replica : Int64) : Allocation :=
  { id := id, workload := "work", node := "n1", image := "work@sha256:1", replica := replica
    phase := .running, ready := true }

def first : String × Allocation := ("work-0", worker "work-0" 0)

def second_ : String × Allocation := ("work-1", worker "work-1" 1)

/-- An empty queue that allows two workers, and the workers that are there. -/
def world (workers : List (String × Allocation)) : World :=
  { observedAt := 10 * second
    nodes := Table.ofEntries [("n1", { id := "n1", healthy := true })]
    queues := Table.ofEntries
      [("jobs", { name := "jobs", workload := "work", maxWorkers := 2, observedAt := second })]
    allocations := Table.ofEntries workers }

lemma serves_worker (workers : List (String × Allocation)) (id : String) (replica : Int64) :
    Serves quietHost goal (world workers) (worker id replica) where
  node := ⟨{ id := "n1", healthy := true }, get_insert_self, rfl⟩
  ready := rfl
  image := rfl
  resources := rfl
  live := nofun
  working := rfl
  affording := rfl

lemma mem_one {key : String} {x : Allocation}
    (h : (world [first]).allocations[key]? = some x) : (key, x) = first := by
  simp only [world, Table.ofEntries, first, get_insert, get_empty] at h
  split_ifs at h with hkey
  · cases h
    rw [hkey]
    rfl

lemma mem_two {key : String} {x : Allocation}
    (h : (world [first, second_]).allocations[key]? = some x) :
    (key, x) = first ∨ (key, x) = second_ := by
  simp only [world, Table.ofEntries, first, second_, get_insert, get_empty] at h
  split_ifs at h with hkey hkey'
  · cases h
    exact .inl (by rw [hkey]; rfl)
  · cases h
    exact .inr (by rw [hkey']; rfl)

lemma filled_one : Filled quietHost goal (world [first]) where
  serves := by
    intro key x h _
    cases mem_one h
    exact serves_worker _ _ _
  wanted := by
    intro key x h _
    cases mem_one h
    decide +kernel
  once := by
    intro key key' x x' h h' _ _ _
    cases mem_one h
    cases mem_one h'
    rfl
  all := by
    intro replica hlow hhigh
    have hwanted : wantedReplicas quietHost goal (world [first]) = 1 := by decide +kernel
    rw [hwanted, Int64.lt_iff_toInt_lt] at hhigh
    rw [Int64.le_iff_toInt_le] at hlow
    have hreplica : replica = 0 :=
      Int64.toInt_inj.mp (le_antisymm (Int.lt_add_one_iff.mp hhigh) hlow)
    exact ⟨"work-0", worker "work-0" 0, by decide +kernel, rfl, hreplica.symm⟩

lemma filled_two : Filled quietHost goal (world [first, second_]) where
  serves := by
    intro key x h _
    rcases mem_two h with h | h <;> cases h <;> exact serves_worker _ _ _
  wanted := by
    intro key x h _
    rcases mem_two h with h | h <;> cases h <;> decide +kernel
  once := by
    intro key key' x x' h h' _ _ hreplica
    rcases mem_two h with h | h <;> rcases mem_two h' with h' | h' <;> cases h <;> cases h'
    · rfl
    · cases hreplica
    · cases hreplica
    · rfl
  all := by
    intro replica hlow hhigh
    have hwanted : wantedReplicas quietHost goal (world [first, second_]) = 2 := by decide +kernel
    rw [hwanted, Int64.lt_iff_toInt_lt] at hhigh
    rw [Int64.le_iff_toInt_le] at hlow
    rcases Int.lt_or_le replica.toInt 1 with hone | hone
    · have hreplica : replica = 0 :=
        Int64.toInt_inj.mp (le_antisymm (Int.lt_add_one_iff.mp hone) hlow)
      exact ⟨"work-0", worker "work-0" 0, by decide +kernel, rfl, hreplica.symm⟩
    · have hreplica : replica = 1 :=
        Int64.toInt_inj.mp (le_antisymm (Int.lt_add_one_iff.mp hhigh) hone)
      exact ⟨"work-1", worker "work-1" 1, by decide +kernel, rfl, hreplica.symm⟩

/-- No agent has anything to do. -/
lemma idle (agent : BuiltIn) : ∃ p,
    agent.propose quietHost goal (world [first, second_]) = .ok p ∧ p.actions = [] := by
  cases agent with
  | placement => exact ⟨_, rfl, by decide +kernel⟩
  | network => exact ⟨_, rfl, by decide +kernel⟩
  | rollout r => exact ⟨_, rfl, rfl⟩
  | remediation => exact ⟨_, rfl, by decide +kernel⟩
  | storage s => exact ⟨_, rfl, rfl⟩
  | backup label => exact ⟨_, rfl, rfl⟩

end Scaled

open Scaled

/-- One worker is all that the goal declares and all that the empty queue calls for. -/
theorem filled_achieved_one : Calls.goalAchieved quietHost { goal with route := none }
    (world [first]) = true :=
  (filled_achieved_iff (by rfl) filled_one).mpr ⟨by decide, fun _ => by decide +kernel⟩

/-- The queue has called for a second worker, and both wanted slots are filled. The goal is not
achieved, and as no agent proposes anything it is reported as blocked. -/
theorem scaled_blocked :
    Filled quietHost goal (world [first, second_]) ∧
    Calls.goalAchieved quietHost { goal with route := none } (world [first, second_]) = false ∧
    ∀ agent : BuiltIn, ∃ p, agent.propose quietHost goal
      (world [first, second_]) = .ok p ∧ p.actions = [] :=
  ⟨filled_two, by decide +kernel, idle⟩

/-! ### New workers -/

section Workers

open PlacementAgent

variable {host : Host} {goal : Goal} {w : World} {queue : Queue} {p : Proposal}

/-- The actions of a proposal that create an allocation. -/
def Proposal.creates (p : Proposal) : List Action :=
  p.actions.filter fun a => decide (a.kind = .createAllocation)

end Workers

namespace Gaps

def goal : Goal :=
  { Scaled.goal with workload := { Scaled.goal.workload with
      runtime := some { provider := "model", queue := "jobs" } } }

/-- Two workers, a task that waits, and room for two more workers. -/
def world (i j : Int64) : World :=
  { Scaled.world [("work-i", Scaled.worker "work-i" i), ("work-j", Scaled.worker "work-j" j)] with
    nodes := Table.ofEntries [("n1", { id := "n1", healthy := true
                                       providers := Table.ofEntries [("model", ⟨true, 1, 0, ""⟩)] })]
    queues := Table.ofEntries [("jobs", { name := "jobs", workload := "work", depth := 1
                                          maxWorkers := 4, observedAt := second })] }

end Gaps

end A4s
