/-
How many replicas a failure domain may hold (`control/spread.go`).

The validator of creations counts a workload's live allocations in the domain of the node it
is asked for, in the world simulated so far. The executed world has the same allocations on
the same nodes, as long as nodes are recorded under their own ids: an execution records the
id that the node carries, the simulation the key it was found under.

* `Seated`: who counts for a domain; `seated_iff` reads it off the ledger, the roll and the
  domains.
* `SeatedAlike`: simulated and executed world count alike, kept by every action
  (`SeatedAlike.step`).
* `spread_kept`: **no domain is ever filled beyond the ceiling**, over whole courses.
-/
import A4s.Control.Course
import A4s.Control.Totals

namespace A4s

open Go

/-! ### Who counts for a domain -/

/-- An allocation of the workload that is not stopped is on a node of the domain. -/
def Seated (w : World) (workload domain id : String) : Prop :=
  ∃ x node, w.allocations[id]? = some x ∧ w.nodes[x.node]? = some node ∧
    x.workload = workload ∧ x.phase ≠ .stopped ∧ node.failureDomain = domain

/-- The ids that count for a domain. -/
def seats (w : World) (workload domain : String) : Finset String :=
  Table.keysWhere (fun _ a =>
    match w.nodes[a.node]? with
    | none => false
    | some node =>
      decide (a.workload = workload) && decide (a.phase ≠ .stopped) &&
        decide (node.failureDomain = domain)) w.allocations

section Seats

variable {w w' sim : World} {workload domain id : String}

lemma mem_seats : id ∈ seats w workload domain ↔ Seated w workload domain id := by
  rw [seats, Table.mem_keysWhere]
  constructor
  · rintro ⟨x, hget, hcounts⟩
    cases hnode : w.nodes[x.node]? with
    | none =>
      rw [hnode] at hcounts
      cases hcounts
    | some node =>
      simp only [hnode, Bool.and_eq_true, decide_eq_true_eq] at hcounts
      exact ⟨x, node, hget, hnode, hcounts.1.1, hcounts.1.2, hcounts.2⟩
  · rintro ⟨x, node, hget, hnode, hworkload, hphase, hdomain⟩
    refine ⟨x, hget, ?_⟩
    simp only [hnode, hworkload, hdomain, hphase, ne_eq, not_false_eq_true, decide_true,
      Bool.and_self]

lemma domainOccupancy_eq_card : domainOccupancy w workload domain =
    (seats w workload domain).card :=
  Table.count_eq_card _ _

/-- **Who counts is read off** the ledger, the roll and the domains. -/
lemma seated_iff : Seated w workload domain id ↔
    (∃ replica, w.ledger.Live workload id replica) ∧
      ∃ i, w.roll id = some i ∧ w.domains i.node = some domain := by
  constructor
  · rintro ⟨x, node, hget, hnode, hworkload, hphase, hdomain⟩
    refine ⟨⟨x.replica, live_of_get hget hworkload hphase⟩, x.identity, roll_of_get hget, ?_⟩
    rw [World.domains, Allocation.identity, hnode, Option.map_some, hdomain]
  · rintro ⟨⟨replica, s, hs, hworkload, hphase, -⟩, i, hi, hdomain⟩
    obtain ⟨x, hget, rfl⟩ := Option.map_eq_some_iff.mp hi
    obtain ⟨node, hnode, hsame⟩ := Option.map_eq_some_iff.mp hdomain
    rw [slots_of_get hget] at hs
    cases hs
    exact ⟨x, node, hget, hnode, hworkload, hphase, hsame⟩

/-- Fewer seats, lower occupancy. -/
lemma occupancy_le (h : ∀ id, Seated w' workload domain id → Seated w workload domain id) :
    domainOccupancy w' workload domain ≤ domainOccupancy w workload domain := by
  rw [domainOccupancy_eq_card, domainOccupancy_eq_card]
  refine Finset.card_le_card fun id hid => ?_
  exact mem_seats.mpr (h id (mem_seats.mp hid))

/-- One more seat, at most one more. -/
lemma occupancy_le_succ {target : String}
    (h : ∀ id, Seated w' workload domain id → Seated w workload domain id ∨ id = target) :
    domainOccupancy w' workload domain ≤ domainOccupancy w workload domain + 1 := by
  rw [domainOccupancy_eq_card, domainOccupancy_eq_card]
  have hsub : seats w' workload domain ⊆ insert target (seats w workload domain) := by
    intro id hid
    rcases h id (mem_seats.mp hid) with hold | rfl
    · exact Finset.mem_insert_of_mem (mem_seats.mpr hold)
    · exact Finset.mem_insert_self _ _
  exact (Finset.card_le_card hsub).trans (Finset.card_insert_le _ _)

end Seats

/-! ### Plan and world count alike -/

/-- The simulated and the executed world have the same allocations on the same nodes. -/
structure SeatedAlike (sim w : World) : Prop where
  ledger : sim.ledger = w.ledger
  domains : sim.domains = w.domains
  nodes : ∀ id, (sim.roll id).map Identity.node = (w.roll id).map Identity.node

section Alike

variable {host : Host} {goal : Goal} {sim sim₁ w w₁ : World} {a : Action} {e : Evidence}
  {workload domain : String}

lemma SeatedAlike.seated (h : SeatedAlike sim w) (id : String) :
    Seated sim workload domain id → Seated w workload domain id := by
  rw [seated_iff, seated_iff, h.ledger, h.domains]
  rintro ⟨hlive, i, hi, hdomain⟩
  have hnode := h.nodes id
  rw [hi, Option.map_some] at hnode
  obtain ⟨j, hj, hsame⟩ := Option.map_eq_some_iff.mp hnode.symm
  exact ⟨hlive, j, hj, hsame ▸ hdomain⟩

lemma SeatedAlike.symm (h : SeatedAlike sim w) : SeatedAlike w sim :=
  ⟨h.ledger.symm, h.domains.symm, fun id => (h.nodes id).symm⟩

lemma SeatedAlike.occupancy (h : SeatedAlike sim w) :
    domainOccupancy sim workload domain = domainOccupancy w workload domain :=
  le_antisymm (occupancy_le h.seated) (occupancy_le h.symm.seated)

/-- **One action keeps plan and world alike**, when nodes are recorded under their ids. -/
lemma SeatedAlike.step (h : SeatedAlike sim w) (hkeyed : Keyed w)
    (hvalid : validateAction host goal sim a = .ok ()) (hsim : simulateAction sim a = .ok sim₁)
    (htells : Tells a e) (hproject : project w e = .ok w₁) :
    SeatedAlike sim₁ w₁ ∧ Enrolment w a w₁ := by
  have henrolment := htells.enrolment hproject (validateAction_free h.ledger hvalid)
  refine ⟨⟨ledger_lockstep h.ledger hvalid hsim htells.toReports hproject, ?_, fun id => ?_⟩,
    henrolment⟩
  · rw [(simulate_sameDomains hsim).domains, project_domains hproject, h.domains]
  · rw [simulate_roll hsim, Action.enrol]
    have hid := h.nodes id
    cases henrolment with
    | created node budget hk hnode hpositive hbudget hroll =>
      rw [if_pos hk, hroll, Function.update_apply, Function.update_apply]
      split_ifs
      · -- the node carries the id it is recorded under
        rw [Option.map_some, Option.map_some, hkeyed _ _ hnode]
        rfl
      · exact hid
    | deleted hk hroll =>
      rw [if_neg (by rw [hk]; decide), if_pos hk, hroll, Function.update_apply,
        Function.update_apply]
      split_ifs
      · rfl
      · exact hid
    | kept hc hd hroll =>
      rw [if_neg hc, if_neg hd, hroll]
      exact hid

/-- **Who counts after an action** counted before it, or was created by it in the domain of
its node. -/
lemma seated_after (hkeyed : Keyed w) (henrolment : Enrolment w a w₁)
    (hledger : w₁.ledger = a.intent w.ledger) (hdomains : w₁.domains = w.domains)
    (hstart : a.kind = .startAllocation →
      ∀ s, w.ledger.slots a.target = some s → s.phase ≠ .stopped) {id : String}
    (h : Seated w₁ workload domain id) :
    Seated w workload domain id ∨ (a.kind = .createAllocation ∧ a.workload = workload ∧
      id = a.target ∧ w.domains a.node = some domain) := by
  rw [seated_iff, hledger, hdomains] at h
  obtain ⟨⟨replica, hlive⟩, i, hi, hdomain⟩ := h
  have hbefore := intent_live hlive hstart
  cases henrolment with
  | created node budget hk hnode hpositive hbudget hroll =>
    rw [hroll, Function.update_apply] at hi
    split_ifs at hi with hid
    · cases hi
      obtain ⟨s, hs, hworkload, -⟩ := hlive
      simp only [Action.intent, hk, Ledger.place, hid, Function.update_self] at hs
      cases hs
      rw [hkeyed _ _ hnode] at hdomain
      exact .inr ⟨hk, hworkload, hid, hdomain⟩
    · rcases hbefore with hold | ⟨-, -, htarget, -⟩
      · exact .inl (seated_iff.mpr ⟨⟨replica, hold⟩, i, hi, hdomain⟩)
      · exact absurd htarget.symm hid
  | deleted hk hroll =>
    rw [hroll, Function.update_apply] at hi
    split_ifs at hi
    rcases hbefore with hold | ⟨hcreates, -⟩
    · exact .inl (seated_iff.mpr ⟨⟨replica, hold⟩, i, hi, hdomain⟩)
    · rw [hk] at hcreates
      cases hcreates
  | kept hc hd hroll =>
    rw [hroll] at hi
    rcases hbefore with hold | ⟨hcreates, -⟩
    · exact .inl (seated_iff.mpr ⟨⟨replica, hold⟩, i, hi, hdomain⟩)
    · exact absurd hcreates hc

end Alike

/-! ### Runs -/

/-- The proposals are for the goal. -/
def goalWatch (goal : Goal) : Watch Unit where
  accept s _ r s' := r.goal = goal ∧ s' = s
  report _ s _ _ _ s' := s' = s

/-- No failure domain holds more of the goal's workload than the goal allows. -/
def Spread (goal : Goal) (w : World) : Prop :=
  ∀ domain, (domainOccupancy w goal.workload.name domain : ℤ) ≤ goal.maxPerDomain.toInt

section Runs

variable {host : Host} {goal : Goal} {k : Kernel} {sim sim₁ w w₁ : World} {a : Action}
  {e : Evidence}

/-- A creation that was accepted found room in the domain of its node. -/
lemma checkSpread_room (hceiling : 0 < goal.maxPerDomain) (h : checkSpread goal w a = .ok ())
    {domain : String} (hdomain : w.domains a.node = some domain) :
    (domainOccupancy w goal.workload.name domain : ℤ) < goal.maxPerDomain.toInt := by
  obtain ⟨node, hnode, rfl⟩ := Option.map_eq_some_iff.mp hdomain
  have hpositive : ¬goal.maxPerDomain ≤ 0 := Int64.not_le.mpr hceiling
  simp only [checkSpread, if_neg hpositive, hnode, refuseIf_ok, not_le] at h
  exact h

/-- **One action keeps the spread.** -/
lemma Spread.step (h : Spread goal w) (hceiling : 0 < goal.maxPerDomain) (hkeyed : Keyed w)
    (halike : SeatedAlike sim w) (hvalid : validateAction host goal sim a = .ok ())
    (hsim : simulateAction sim a = .ok sim₁) (htells : Tells a e)
    (hproject : project w e = .ok w₁) : Spread goal w₁ := by
  obtain ⟨halike₁, henrolment⟩ := halike.step hkeyed hvalid hsim htells hproject
  have hledger : w₁.ledger = a.intent w.ledger := by
    rw [← halike₁.ledger, simulate_ledger hsim, halike.ledger]
  have hstart : a.kind = .startAllocation →
      ∀ s, w.ledger.slots a.target = some s → s.phase ≠ .stopped := by
    rw [← halike.ledger]
    exact validateAction_unstopped hvalid
  intro domain
  have hafter (id : String) (hid : Seated w₁ goal.workload.name domain id) :=
    seated_after hkeyed henrolment hledger (project_domains hproject) hstart hid
  by_cases hcreates : a.kind = .createAllocation ∧ w.domains a.node = some domain
  · -- the creation was counted in the simulated world, which counts alike
    have hroom := checkSpread_room hceiling (validateAction_placed hvalid hcreates.1).spread
      (halike.domains ▸ hcreates.2)
    rw [halike.occupancy] at hroom
    have hle := occupancy_le_succ fun id hid => (hafter id hid).imp_right fun h => h.2.2.1
    omega
  · have hle := occupancy_le fun id hid => (hafter id hid).resolve_right fun h =>
      hcreates ⟨h.1, h.2.2.2⟩
    have hheld := h domain
    omega

end Runs

/-- A world whose nodes are recorded under their own ids, as admission checks. -/
structure Charted where
  world : World
  keyed : Keyed world

/-- **No domain is ever filled beyond the ceiling.** In every course of proposals for the
goal: if no failure domain holds more than `MaxPerDomain` live allocations of the goal's
workload at the start, none ever does. -/
theorem spread_kept {k : Kernel} {goal : Goal} (hceiling : 0 < goal.maxPerDomain)
    {start : Charted} {w : World} (hstart : Spread goal start.world)
    (hcourse : Course (goalWatch goal) k () start.world () w) : Spread goal w := by
  refine (hcourse.invariant (I := fun _ w => Keyed w ∧ Spread goal w) ?_ ?_
    ⟨start.keyed, hstart⟩).2
  · rintro ⟨⟩ ⟨⟩ ⟨⟩ w w₁ r n ⟨hkeyed, hspread⟩ hholds ⟨rfl, -⟩ hcarried
    obtain ⟨-, simEnd, hwalk⟩ := authorize_admitted hholds
    refine (hwalk.abreast (P := fun _ => True)
      (R := fun _ sim w => SeatedAlike sim w ∧ Keyed w ∧ Spread r.goal w) ?_
      (fun _ _ => trivial) n hcarried ⟨⟨rfl, rfl, fun _ => rfl⟩, hkeyed, hspread⟩).elim
      fun _ h => h.2
    rintro ⟨⟩ ⟨⟩ sim sim₁ w w₁ a e ⟨halike, hkeyed, hspread⟩ - hvalid hsim htells - hproject
    exact ⟨(halike.step hkeyed hvalid hsim htells hproject).1, hkeyed.project hproject,
      hspread.step hceiling hkeyed halike hvalid hsim htells hproject⟩
  · rintro ⟨⟩ w w₁ e ⟨hkeyed, hspread⟩ hk hproject
    refine ⟨hkeyed.project hproject, fun domain => ?_⟩
    have hle : domainOccupancy w₁ goal.workload.name domain ≤
        domainOccupancy w goal.workload.name domain := by
      refine occupancy_le fun id hid => ?_
      rw [seated_iff, measured_roll hk hproject, project_domains hproject,
        measured_ledger hk hproject] at hid
      exact seated_iff.mpr hid
    have hheld := hspread domain
    omega

/-! ### Two replicas in two domains -/

namespace Spreading

def image : String := "web@sha256:0"

def node (id domain : String) : Node :=
  { id := id, domain := domain, capacity := ⟨1000, 1000⟩, healthy := true
    images := Table.ofEntries [(image, true)] }

def goal : Goal :=
  { id := "web", workload :=
      { name := "web", image := image, replicas := 2, resources := ⟨100, 100⟩
        placement := some ⟨1⟩ } }

def world : World := { nodes := Table.ofEntries [("n1", node "n1" "a"), ("n2", node "n2" "b")] }

def start : Charted where
  world := world
  keyed := by
    intro name n hget
    simp only [world, get_ofEntries_cons, get_ofEntries_nil] at hget
    split_ifs at hget with h₁ h₂ <;> cases hget
    · exact h₁.symm
    · exact h₂.symm

def create (id node : String) (replica : Int64) : Action :=
  { id := id, kind := .createAllocation, target := id, workload := "web", node := node
    image := image, replica := replica, resources := ⟨100, 100⟩ }

def kernel : Kernel := ⟨{ defaultPolicy with maxActionsPerProposal := 2 }⟩

def acceptance : Acceptance :=
  { host := quietHost, actor := { id := "placement-agent" }, goal := goal, now := 20
    proposal := { id := "p", agentID := "placement-agent", goalID := "web", basedOnRevision := 0
                  actions := [create "web-0" "n1" 0, create "web-1" "n2" 1] } }

def created (id node replica : String) : Evidence :=
  { kind := .allocationCreated, target := id
    observed := Table.ofEntries
      [("node", node), ("workload", "web"), ("image", image), ("replica", replica),
       ("cpu_millis", "100"), ("memory_mb", "100")] }

/-- The world after one report. -/
def after (w : World) (e : Evidence) : World := (project w e).toOption.getD w

def one : World := after world (created "web-0" "n1" "0")

def two : World := after one (created "web-1" "n2" "1")

lemma spread : Spread goal start.world := by
  intro domain
  have hempty : domainOccupancy start.world goal.workload.name domain = 0 := by
    rw [domainOccupancy_eq_card, Finset.card_eq_zero]
    refine Finset.eq_empty_of_forall_notMem fun id hid => ?_
    obtain ⟨x, -, hget, -⟩ := mem_seats.mp hid
    have hnone : start.world.allocations[id]? = none := get_empty id
    rw [hnone] at hget
    cases hget
  rw [hempty]
  decide

lemma course : Course (goalWatch goal) kernel () start.world () two := by
  have hone : MemoryExecutor.execute quietHost world (create "web-0" "n1" 0) =
      .ok (created "web-0" "n1" "0") := by decide
  have htwo : MemoryExecutor.execute quietHost one (create "web-1" "n2" 1) =
      .ok (created "web-1" "n2" "1") := by decide
  have hfirst : project world (created "web-0" "n1" "0") = .ok one := by decide +kernel
  have hsecond : project one (created "web-1" "n2" "1") = .ok two := by decide +kernel
  have hholds : acceptance.Holds kernel world := by
    unfold Acceptance.Holds
    decide +kernel
  exact .round acceptance 2 hholds ⟨rfl, rfl⟩
    (.cons (memoryExecutor_tells hone) rfl hfirst
      (.cons (memoryExecutor_tells htwo) rfl hsecond (.nil _ _))) (.refl _ _)

end Spreading

theorem spread_kept_web : Spread Spreading.goal Spreading.two :=
  spread_kept (by decide) Spreading.spread Spreading.course

end A4s
