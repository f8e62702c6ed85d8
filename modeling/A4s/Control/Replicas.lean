/-
How many replicas may live.

`validateCreateAllocation` checks the replica index of one creation against the
bound `authorizedReplicas`; nothing in the kernel checks that the index is free.
So the bound holds as long as indices are handed out at most once.

* `Ledger.Live`: an id is live and holds a replica index; `intent_live` says what
  an action can add.
* `Indexed`: the live allocations of a workload hold pairwise distinct indices
  below a bound; `Indexed.count_le` counts them.
* `FreshIndices`: no creation takes an index that is held.
* `live_le_authorized`: **the bound over runs**.
-/
import A4s.Control.Execution

namespace A4s

open Go

/-! ### Live allocations and their indices -/

/-- An allocation of the workload is not stopped and holds a replica index. -/
def Ledger.Live (l : Ledger) (workload id : String) (replica : Int64) : Prop :=
  ∃ s, l.slots id = some s ∧ s.workload = workload ∧ s.phase ≠ .stopped ∧ s.replica = replica

/-- The number of allocations of a workload that are not stopped. -/
def liveAllocations (w : World) (workload : String) : ℕ :=
  Table.count (fun _ x => decide (x.workload = workload) && decide (x.phase ≠ .stopped))
    w.allocations

section Live

variable {l : Ledger} {workload id j : String} {replica : Int64} {s : Slot}

lemma live_place (h : (l.place j s).Live workload id replica) :
    (id ≠ j ∧ l.Live workload id replica) ∨
      (id = j ∧ s.workload = workload ∧ s.replica = replica) := by
  obtain ⟨s', hs, hworkload, hphase, hreplica⟩ := h
  simp only [Ledger.place, Function.update_apply] at hs
  split_ifs at hs with hid
  · cases hs
    exact .inr ⟨hid, hworkload, hreplica⟩
  · exact .inl ⟨hid, s', hs, hworkload, hphase, hreplica⟩

/-- Entering a phase makes no allocation live that was not: it would have to
leave `stopped`. -/
lemma live_enter {phase : AllocationPhase} (h : (l.enter j phase).Live workload id replica)
    (hleave : phase = .stopped ∨ ∀ s, l.slots j = some s → s.phase ≠ .stopped) :
    l.Live workload id replica := by
  obtain ⟨s', hs, hworkload, hphase, hreplica⟩ := h
  simp only [Ledger.enter, Function.update_apply] at hs
  split_ifs at hs with hid
  · obtain ⟨s, hget, rfl⟩ := Option.map_eq_some_iff.mp hs
    rcases hleave with hstop | hleave
    · exact absurd hstop hphase
    · rw [hid]
      exact ⟨s, hget, hworkload, hleave s hget, hreplica⟩
  · exact ⟨s', hs, hworkload, hphase, hreplica⟩

lemma live_forget (h : (l.forget j).Live workload id replica) : l.Live workload id replica := by
  obtain ⟨s', hs, hlive⟩ := h
  simp only [Ledger.forget, Function.update_apply] at hs
  split_ifs at hs
  exact ⟨s', hs, hlive⟩

/-- **What an action can add**: only a creation makes an allocation live, under
its own target and index. -/
lemma intent_live {a : Action} (h : (a.intent l).Live workload id replica)
    (hstart : a.kind = .startAllocation → ∀ s, l.slots a.target = some s → s.phase ≠ .stopped) :
    l.Live workload id replica ∨ (a.kind = .createAllocation ∧ a.workload = workload ∧
      a.target = id ∧ a.replica = replica) := by
  unfold Action.intent at h
  split at h
  · rename_i hk
    rcases live_place h with ⟨-, hold⟩ | ⟨hid, hworkload, hreplica⟩
    · exact .inl hold
    · exact .inr ⟨hk, hworkload, hid.symm, hreplica⟩
  · rename_i hk
    exact .inl (live_enter h (.inr (hstart hk)))
  · exact .inl (live_enter h (.inl rfl))
  · exact .inl (live_forget h)
  -- volumes are no allocations
  · exact .inl h
  · exact .inl h
  · exact .inl h
  · exact .inl h

end Live

/-! ### Indices are held once -/

/-- The live allocations of a workload hold pairwise distinct indices below a
bound. -/
def Indexed (workload : String) (bound : Int64) (l : Ledger) : Prop :=
  ∀ id replica, l.Live workload id replica →
    0 ≤ replica ∧ replica < bound ∧ ∀ id', l.Live workload id' replica → id' = id

lemma live_of_get {w : World} {id : String} {x : Allocation} {workload : String}
    (hget : w.allocations[id]? = some x) (hworkload : x.workload = workload)
    (hphase : x.phase ≠ .stopped) : w.ledger.Live workload id x.replica :=
  ⟨x.slot, slots_of_get hget, hworkload, hphase, rfl⟩

/-- Pairwise distinct indices below a bound are at most as many as the bound. -/
lemma Indexed.count_le {workload : String} {bound : Int64} {w : World}
    (h : Indexed workload bound w.ledger) (hbound : 0 ≤ bound) :
    (liveAllocations w workload : ℤ) ≤ bound.toInt := by
  have hnonneg : 0 ≤ bound.toInt := Int64.le_iff_toInt_le.mp hbound
  have hcount : liveAllocations w workload ≤ bound.toInt.toNat := by
    refine Table.count_le_of_slots (fun x => x.replica.toInt.toNat) ?_ ?_
    · intro id x hget hx
      simp only [Bool.and_eq_true, decide_eq_true_eq] at hx
      obtain ⟨hlow, hhigh, -⟩ := h id _ (live_of_get hget hx.1 hx.2)
      have h0 : (0 : Int64).toInt ≤ x.replica.toInt := Int64.le_iff_toInt_le.mp hlow
      have h1 := Int64.lt_iff_toInt_lt.mp hhigh
      rw [Int64.toInt_zero] at h0
      omega
    · intro id id' x x' hget hget' hx hx' hslot
      simp only [Bool.and_eq_true, decide_eq_true_eq] at hx hx'
      have hlive := live_of_get hget hx.1 hx.2
      have hlive' := live_of_get hget' hx'.1 hx'.2
      have hsame : x.replica = x'.replica := by
        have h0 := Int64.le_iff_toInt_le.mp (h _ _ hlive).1
        have h0' := Int64.le_iff_toInt_le.mp (h _ _ hlive').1
        rw [Int64.toInt_zero] at h0 h0'
        exact Int64.toInt_inj.mp (by omega)
      rw [hsame] at hlive
      exact (h _ _ hlive').2.2 _ hlive
  omega

/-! ### Runs -/

/-- No creation of the workload takes an index that another live id holds, and no
two creations give one index to two ids. -/
def FreshIndices (workload : String) (l : Ledger) (actions : List Action) : Prop :=
  ∀ a ∈ actions, a.kind = .createAllocation → a.workload = workload →
    (∀ id, l.Live workload id a.replica → id = a.target) ∧
      ∀ b ∈ actions, b.kind = .createAllocation → b.workload = workload →
        b.replica = a.replica → b.target = a.target

/-- A round of the engine as it bears on a goal: the proposal serves the goal or a
goal of another workload, hands out indices once, and the bound does not shrink. -/
structure IndexedRound (k : Kernel) (goal : Goal) (w w' : World) : Prop where
  round : ∃ (host : Host) (actor : AgentDescriptor) (served : Goal) (now : Time) (p : Proposal)
    (n : ℕ), (served = goal ∨ served.workload.name ≠ goal.workload.name) ∧
      authorize host k actor served { w with observedAt := now } p = .ok () ∧
      Executes w (p.actions.take n) w' ∧
      FreshIndices goal.workload.name w.ledger p.actions
  bound : authorizedReplicas goal w ≤ authorizedReplicas goal w'

lemma authorizedReplicas_congr {goal : Goal} {w w' : World} (h : w'.queues = w.queues) :
    authorizedReplicas goal w' = authorizedReplicas goal w := by
  simp only [authorizedReplicas, h]

/-- The validator of starts wants an allocation that has not run. -/
lemma validateStartAllocation_created {host : Host} {goal : Goal} {w : World} {a : Action}
    (h : validateStartAllocation host goal w a = .ok ()) :
    ∀ s, w.ledger.slots a.target = some s → s.phase ≠ .stopped := by
  simp only [validateStartAllocation, require_bind_ok, Option.filter_eq_some_iff,
    decide_eq_true_eq] at h
  obtain ⟨x, ⟨hget, hphase⟩, -⟩ := h
  intro s hs
  rw [slots_of_get hget] at hs
  cases hs
  rw [Allocation.slot, hphase]
  exact AllocationPhase.noConfusion

/-- One of the actions creates an allocation of the goal's workload under this id,
at an index the bound allows. -/
def CreatedBy (goal : Goal) (w : World) (actions : List Action) (id : String) (replica : Int64) :
    Prop :=
  ∃ a ∈ actions, a.kind = .createAllocation ∧ a.workload = goal.workload.name ∧ a.target = id ∧
    a.replica = replica ∧ 0 ≤ replica ∧ replica < authorizedReplicas goal w

/-- What is live after a prefix was live before it or was created by it. -/
lemma live_after_prefix {host : Host} {grants : Grants} {goal served : Goal}
    {w w' sim simEnd : World}
    {actions : List Action} {n : ℕ} (hexec : Executes w (actions.take n) w')
    (hwalk : Admitted host grants served sim actions simEnd) (hledger : sim.ledger = w.ledger)
    (hqueues : sim.queues = w.queues)
    (hserved : served = goal ∨ served.workload.name ≠ goal.workload.name) :
    ∀ id replica, w'.ledger.Live goal.workload.name id replica →
      w.ledger.Live goal.workload.name id replica ∨ CreatedBy goal w actions id replica := by
  -- the relation kept in lockstep: equal ledgers, untouched queues, and the statement itself
  let R : World → World → Prop := fun sim w₁ =>
    sim.ledger = w₁.ledger ∧ sim.queues = w.queues ∧
      ∀ id replica, w₁.ledger.Live goal.workload.name id replica →
        w.ledger.Live goal.workload.name id replica ∨ CreatedBy goal w actions id replica
  have hR : R sim w := ⟨hledger, hqueues, fun _ _ h => .inl h⟩
  refine (hwalk.lockstep (P := fun a => a ∈ actions) (R := R) ?_ (fun _ h => h) n hexec
    hR).elim fun _ h => h.2.2.2
  rintro sim sim₁ w₁ w₂ a e ⟨hledger, hq, hall⟩ hmem - hvalid hsim hreport hproject
  have hnext := ledger_lockstep hledger hvalid hsim hreport hproject
  refine ⟨hnext, (simulate_effect hsim).2.queues.trans hq, fun id replica hlive => ?_⟩
  rw [← hnext, simulate_ledger hsim, hledger] at hlive
  have hphase : a.kind = .startAllocation →
      ∀ s, w₁.ledger.slots a.target = some s → s.phase ≠ .stopped := by
    intro hk
    simp only [validateAction, hk] at hvalid
    rw [← hledger]
    exact validateStartAllocation_created hvalid
  rcases intent_live hlive hphase with hold | ⟨hk, hworkload, hid, hreplica⟩
  · exact hall id replica hold
  · -- a creation: the validator has checked its index against the served goal
    simp only [validateAction, hk] at hvalid
    obtain ⟨-, hname, hlow, hhigh⟩ := validateCreateAllocation_ok hvalid
    rcases hserved with rfl | hother
    · rw [authorizedReplicas_congr hq] at hhigh
      rw [hreplica] at hlow hhigh
      exact .inr ⟨a, hmem, hk, hworkload, hid, hreplica, hlow, hhigh⟩
    · exact absurd (hname.symm.trans hworkload) hother

/-- One round keeps indices apart. -/
lemma IndexedRound.indexed {k : Kernel} {goal : Goal} {w w' : World} (h : IndexedRound k goal w w')
    (hw : Indexed goal.workload.name (authorizedReplicas goal w) w.ledger) :
    Indexed goal.workload.name (authorizedReplicas goal w') w'.ledger := by
  obtain ⟨⟨host, actor, served, now, p, n, hserved, hauth, hexec, hfresh⟩, hbound⟩ := h
  obtain ⟨-, simEnd, hwalk⟩ := authorize_admitted hauth
  have hafter := live_after_prefix hexec hwalk rfl rfl hserved
  intro id replica hlive
  -- the holder of the index was there before, or one of the actions created it
  rcases hafter id replica hlive with hold | ⟨a, ha, hk, hworkload, hid, hreplica, hlow, hhigh⟩
  · obtain ⟨hlow, hhigh, hunique⟩ := hw id replica hold
    refine ⟨hlow, Int64.lt_of_lt_of_le hhigh hbound, fun id' hlive' => ?_⟩
    rcases hafter id' replica hlive' with hold' | ⟨b, hb, hkb, hworkloadb, hidb, hreplicab, -⟩
    · exact hunique id' hold'
    · rw [← hreplicab] at hold
      exact hidb.symm.trans ((hfresh b hb hkb hworkloadb).1 id hold).symm
  · refine ⟨hlow, Int64.lt_of_lt_of_le hhigh hbound, fun id' hlive' => ?_⟩
    rcases hafter id' replica hlive' with hold' | ⟨b, hb, hkb, hworkloadb, hidb, hreplicab, -⟩
    · rw [← hreplica] at hold'
      exact ((hfresh a ha hk hworkload).1 id' hold').trans hid
    · have htarget :=
        (hfresh a ha hk hworkload).2 b hb hkb hworkloadb (hreplicab.trans hreplica.symm)
      exact hidb.symm.trans (htarget.trans hid)

/-- **The bound over runs**: if the live allocations of the goal's workload hold
pairwise distinct indices within the bound at the start, and no round hands out an
index that is held, then their number never exceeds `authorizedReplicas`. -/
theorem live_le_authorized {k : Kernel} {goal : Goal} {start w : World}
    (hcount :
      (liveAllocations start goal.workload.name : ℤ) ≤ (authorizedReplicas goal start).toInt)
    (hstart : Indexed goal.workload.name (authorizedReplicas goal start) start.ledger)
    (hrun : Relation.ReflTransGen (IndexedRound k goal) start w) :
    (liveAllocations w goal.workload.name : ℤ) ≤ (authorizedReplicas goal w).toInt := by
  have hnonneg : 0 ≤ authorizedReplicas goal start := by
    rw [Int64.le_iff_toInt_le, Int64.toInt_zero]
    omega
  have hinv : Indexed goal.workload.name (authorizedReplicas goal w) w.ledger ∧
      0 ≤ authorizedReplicas goal w := by
    induction hrun with
    | refl => exact ⟨hstart, hnonneg⟩
    | tail hrun hround ih => exact ⟨hround.indexed ih.1, Int64.le_trans ih.2 hround.bound⟩
  exact hinv.1.count_le hinv.2

/-! ### Two ids, one index -/

namespace Replicas

def image : String := "web@sha256:0"

def node : Node :=
  { id := "n1", capacity := ⟨1000, 1000⟩, healthy := true,
    images := Table.ofEntries [(image, true)] }

def goal : Goal :=
  { id := "web", workload :=
      { name := "web", image := image, replicas := 1, resources := ⟨100, 100⟩ } }

def start : World := { nodes := Table.ofEntries [("n1", node)] }

/-- A creation at index zero, under an id of the agent's choosing. -/
def create (id : String) : Action :=
  { id := id, kind := .createAllocation, target := id, workload := "web", node := "n1",
    image := image, resources := ⟨100, 100⟩ }

def created (id : String) : Evidence :=
  { kind := .allocationCreated, target := id,
    observed := Table.ofEntries
      [("node", "n1"), ("workload", "web"), ("image", image), ("replica", "0"),
       ("cpu_millis", "100"), ("memory_mb", "100")] }

def proposal (actions : List Action) : Proposal :=
  { id := "p", agentID := "placement-agent", goalID := "web", basedOnRevision := 0,
    actions := actions }

def allocation (id : String) : Allocation :=
  { id := id, workload := "web", node := "n1", image := image, resources := ⟨100, 100⟩,
    phase := .created }

/-- One replica. -/
def one : World :=
  { revision := 1
    nodes := Table.ofEntries [("n1", { node with used := ⟨100, 100⟩ })]
    allocations := Table.ofEntries [("web-0", allocation "web-0")] }

/-- Two replicas, both at index zero. -/
def two : World :=
  { revision := 2
    nodes := Table.ofEntries [("n1", { node with used := ⟨200, 200⟩ })]
    allocations := Table.ofEntries
      [("web-twin", allocation "web-twin"), ("web-0", allocation "web-0")] }

lemma executes_one : Executes start [create "web-0"] one := by
  have hexec : MemoryExecutor.execute quietHost start (create "web-0") = .ok (created "web-0") := by
    decide
  exact .single hexec (by decide)

lemma executes_two : Executes start [create "web-0", create "web-twin"] two := by
  have hexec : MemoryExecutor.execute quietHost start (create "web-0") = .ok (created "web-0") := by
    decide
  have htwin : MemoryExecutor.execute quietHost one (create "web-twin") =
      .ok (created "web-twin") := by
    decide
  have hproject : project start (created "web-0") = .ok one := by decide
  exact .cons (memoryExecutor_reports hexec) hproject (.single htwin (by decide))

lemma start_empty (workload id : String) (replica : Int64) :
    ¬start.ledger.Live workload id replica := by
  rintro ⟨s, hs, -⟩
  rw [slots_of_absent (show start.allocations[id]? = none from get_empty id)] at hs
  cases hs

end Replicas

open Replicas

/-- One accepted proposal creates two allocations at one index, and the goal has
one replica more than it is authorised for. -/
theorem live_exceeds_authorized :
    (liveAllocations start "web" : ℤ) ≤ (authorizedReplicas goal start).toInt ∧
      authorize quietHost ⟨defaultPolicy⟩ { id := "placement-agent" } goal start
        (proposal [create "web-0", create "web-twin"]) = .ok () ∧
      Executes start [create "web-0", create "web-twin"] two ∧
      authorizedReplicas goal start = authorizedReplicas goal two ∧
      (authorizedReplicas goal two).toInt < (liveAllocations two "web" : ℤ) := by
  refine ⟨?_, ?_, executes_two, ?_, ?_⟩ <;> decide

/-- The bound at the run that creates one replica. -/
theorem live_le_authorized_one :
    (liveAllocations one "web" : ℤ) ≤ (authorizedReplicas goal one).toInt := by
  have hauth : authorize quietHost ⟨defaultPolicy⟩ { id := "placement-agent" } goal
      start (proposal [create "web-0"]) = .ok () := by decide
  have hfresh : FreshIndices "web" start.ledger [create "web-0"] := by
    intro a ha _ _
    refine ⟨fun id hlive => absurd hlive (start_empty _ _ _), fun b hb _ _ _ => ?_⟩
    rw [List.mem_singleton.mp ha, List.mem_singleton.mp hb]
  have hround : IndexedRound ⟨defaultPolicy⟩ goal start one :=
    ⟨⟨quietHost, { id := "placement-agent" }, goal, 0, _, 1, .inl rfl, hauth,
      executes_one, hfresh⟩, by decide⟩
  have hstart : Indexed "web" (authorizedReplicas goal start)
      start.ledger := fun id replica hlive => absurd hlive (start_empty _ _ _)
  exact live_le_authorized (by decide) hstart (.single hround)

/-- Both creations are carried out as simulated. -/
theorem execution_follows_plan_two : ∃ sim,
    Admitted quietHost [(.createAllocation, true)] goal start
      [create "web-0", create "web-twin"] sim ∧ World.ledger sim = two.ledger := by
  refine execution_follows_plan (.cons rfl ?_ rfl (.cons rfl ?_ rfl (.nil _))) 2 executes_two
  · decide
  · decide

end A4s
