/-
Courses: runs of accepted proposals, watched.

A proposal is accepted in the world as read at some instant, a prefix of it is carried out,
every report is projected, and readiness is measured in between. What a property has to
remember besides the world (a clock, the deeds so far) is the state of a `Watch` that looks
on: it sees each acceptance and each report, and may refuse them, which is how a condition on
the steps of a run is said.

* `World.roll`: who the allocations are; `simulate_roll` and `project_enrols` say that only
  creations and deletions change it.
* `Tells`: what executors report, the placement of a creation included;
  `Tells.enrolment` is what carrying out an action does to the roll.
* `Admitted.abreast_done`: **the lockstep rule** with a watch.
* `Course.invariant`: the rule for whole courses.
-/
import A4s.Control.Replicas

namespace A4s

variable {w w' : World} {a : Action} {e : Evidence} {host : Host} {goal : Goal}

open Go

/-! ### Who an allocation is -/

/-- What an allocation is, as opposed to how it is doing. -/
structure Identity where
  workload : String
  replica : Int64
  node : String
  image : String
  resources : Resources
  budget : Budget
  deriving DecidableEq

def Allocation.identity (x : Allocation) : Identity :=
  ⟨x.workload, x.replica, x.node, x.image, x.resources, x.budget⟩

/-- The identity an action gives to the allocation it creates. -/
def Action.identity (a : Action) : Identity :=
  ⟨a.workload, a.replica, a.node, a.image, a.resources, a.budget⟩

lemma SameIdentity.identity {x x' : Allocation} (h : SameIdentity x x') :
    x'.identity = x.identity := by
  simp only [Allocation.identity, h.workload, h.replica, h.node, h.image, h.resources, h.budget]

/-- Who the allocations of the world are. -/
def World.roll (w : World) (id : String) : Option Identity :=
  w.allocations[id]?.map Allocation.identity

section Roll

variable {w w' : World} {id : String} {x x' : Allocation}

lemma roll_congr (h : w'.allocations = w.allocations) : w'.roll = w.roll := by
  funext id
  rw [World.roll, World.roll, h]

lemma roll_of_get (h : w.allocations[id]? = some x) : w.roll id = some x.identity := by
  rw [World.roll, h, Option.map_some]

lemma roll_of_absent (h : w.allocations[id]? = none) : w.roll id = none := by
  rw [World.roll, h, Option.map_none]

lemma roll_insert (h : w'.allocations = w.allocations.insert id x) :
    w'.roll = Function.update w.roll id (some x.identity) := by
  funext j
  simp only [World.roll, h, get_insert, Function.update_apply]
  split_ifs <;> rfl

lemma roll_insert_same (hget : w.allocations[id]? = some x)
    (h : w'.allocations = w.allocations.insert id x') (hsame : x'.identity = x.identity) :
    w'.roll = w.roll := by
  rw [roll_insert h, hsame, ← roll_of_get hget, Function.update_eq_self]

lemma roll_erase (h : w'.allocations = w.allocations.erase id) :
    w'.roll = Function.update w.roll id none := by
  funext j
  simp only [World.roll, h, get_erase, Function.update_apply]
  split_ifs <;> rfl

end Roll

/-- Who the allocations are after an action. -/
def Action.enrol (a : Action) (roll : String → Option Identity) : String → Option Identity :=
  if a.kind = .createAllocation then Function.update roll a.target (some a.identity)
  else if a.kind = .deleteAllocation then Function.update roll a.target none
  else roll

/-- **The simulation enrols** what an action creates and strikes what it deletes. -/
lemma simulate_roll (h : simulateAction w a = .ok w') : w'.roll = a.enrol w.roll := by
  have hother : a.kind ≠ .createAllocation → a.kind ≠ .deleteAllocation →
      a.enrol w.roll = w.roll := by
    intro hc hd
    rw [Action.enrol, if_neg hc, if_neg hd]
  cases (simulate_effect h).1 with
  | quiet hk ha hv =>
    rw [roll_congr ha, hother] <;> (intro hk'; rw [hk'] at hk; cases hk)
  | allocation x x' hk hget hsame hphase ha hv =>
    rw [roll_insert_same hget ha hsame.identity, hother] <;>
      (intro hk'; rw [hk'] at hk; cases hk)
  | created hk ha hv =>
    rw [roll_insert ha, Action.enrol, if_pos hk]
    rfl
  | deleted hk ha hv =>
    rw [roll_erase ha, Action.enrol, if_neg (by rw [hk]; decide), if_pos hk]
  | volumeCreated ref hk href ha hv => rw [roll_congr ha, hother] <;> simp [hk]
  | attached ref v x generation hk href hget howner ha hv =>
    rw [roll_insert_same hget ha rfl, hother] <;> simp [hk]
  | absent ref hk href hnone ha hv => rw [roll_congr ha, hother] <;> simp [hk]
  | detached ref v v' hk href hget howner ha hv =>
    rcases ha with ⟨-, ha⟩ | ⟨x, hown, ha⟩
    · rw [roll_congr ha, hother] <;> simp [hk]
    · rw [roll_insert_same hown ha rfl, hother] <;> simp [hk]

/-- The identity a report gives to the allocation it creates on a node. -/
def Evidence.identity (e : Evidence) (node : Node) (resources : Resources) : Identity :=
  ⟨e.observe "workload", e.observedInt "replica", node.id, e.observe "image", resources,
    e.observedBudget⟩

/-- What a report does to the roll: a creation enrols somebody new or is no news, a deletion
strikes, and nothing else changes anybody. -/
structure Enrols (w : World) (e : Evidence) (w' : World) : Prop where
  kept : e.kind ≠ .allocationCreated → e.kind ≠ .allocationDeleted → w'.roll = w.roll
  struck : e.kind = .allocationDeleted → w'.roll = Function.update w.roll e.target none
  enrolled : e.kind = .allocationCreated → w.allocations[e.target]? = none →
    ∃ node resources, w.nodes[e.observe "node"]? = some node ∧
      e.observedResources = .ok resources ∧
      w'.roll = Function.update w.roll e.target (some (e.identity node resources))

lemma Enrols.of_same (hroll : w'.roll = w.roll)
    (hc : e.kind ≠ .allocationCreated) (hd : e.kind ≠ .allocationDeleted) : Enrols w e w' :=
  ⟨fun _ _ => hroll, fun h => absurd h hd, fun h => absurd h hc⟩

/-- **The projection enrols** what a creation reports, strikes what a deletion reports, and
changes nobody else. -/
lemma project_enrols (h : project w e = .ok w') : Enrols w e w' := by
  cases (project_effect h).populates with
  | same hretires hcreated hdeleted ha =>
    refine ⟨fun _ _ => roll_congr ha, fun hk => ?_, fun hk hnew => ?_⟩
    -- nobody was there to be struck
    · rw [roll_congr ha, ← roll_of_absent (hdeleted hk), Function.update_eq_self]
    · have hthere := hcreated hk
      rw [hnew] at hthere
      cases hthere
  | updated a a' hk hget hup ha =>
    refine .of_same (roll_insert_same hget ha hup.identity.identity) ?_ ?_
    · rintro hkind
      rw [hkind] at hk
      cases hk
    · rintro hkind
      rw [hkind] at hk
      cases hk
  | created node resources hk hnew hnode hres ha =>
    refine ⟨fun hc => absurd hk hc, fun hd => ?_, fun _ _ =>
      ⟨node, resources, hnode, hres, roll_insert ha⟩⟩
    rw [hk] at hd
    cases hd
  | deleted a hk hget ha =>
    refine ⟨fun _ hd => absurd hk hd, fun _ => roll_erase ha, fun hc => ?_⟩
    rw [hk] at hc
    cases hc
  | holds id a volumes hk hget ha =>
    refine .of_same (roll_insert_same hget ha rfl) ?_ ?_
    · rcases hk with hk | hk <;> simp [hk]
    · rcases hk with hk | hk <;> simp [hk]

/-! ### Failure domains -/

/-- The failure domain of every node. -/
def World.domains (w : World) (name : String) : Option String :=
  w.nodes[name]?.map Node.failureDomain

section Domains

variable {w w' : World} {a : Action} {e : Evidence} {name : String} {n n' : Node}

lemma domainOf_eq (w : World) (name : String) : domainOf w name = (w.domains name).getD "" := by
  rw [domainOf, World.domains]
  cases w.nodes[name]? <;> rfl

lemma domains_congr (h : w'.nodes = w.nodes) : w'.domains = w.domains := by
  funext name
  rw [World.domains, World.domains, h]

lemma domains_insert (hget : w.nodes[name]? = some n) (h : w'.nodes = w.nodes.insert name n')
    (hsame : n'.failureDomain = n.failureDomain) : w'.domains = w.domains := by
  funext j
  rw [World.domains, World.domains, h]
  exact Table.map_get_insert hget hsame j

/-- At most the record of one node was written, and it stayed in its domain. -/
def SameDomains (w w' : World) : Prop :=
  w'.nodes = w.nodes ∨ ∃ name n n', w.nodes[name]? = some n ∧
    w'.nodes = w.nodes.insert name n' ∧ n'.failureDomain = n.failureDomain

lemma SameDomains.domains (h : SameDomains w w') : w'.domains = w.domains := by
  rcases h with h | ⟨name, n, n', hget, h, hsame⟩
  · exact domains_congr h
  · exact domains_insert hget h hsame

lemma SameDomains.node (hget : w.nodes[name]? = some n) (h : w'.nodes = w.nodes.insert name n')
    (hsame : n'.failureDomain = n.failureDomain) : SameDomains w w' :=
  .inr ⟨name, n, n', hget, h, hsame⟩

/-- **No action moves a node to another domain.** -/
lemma simulate_sameDomains (h : simulateAction w a = .ok w') : SameDomains w w' := by
  cases simulate_write h with
  | node name n n' hk hget hdomain => exact .node hget rfl hdomain
  | created n n' hk hget hdomain => exact .node hget rfl hdomain
  | deleted w₁ hk hnode =>
    rcases hnode with rfl | ⟨name, n, n', hget, rfl, hdomain⟩
    · exact .inl rfl
    · exact .node hget rfl hdomain
  | detached ref v v' w₁ hk href hget howner hmove hown =>
    rcases hown with ⟨-, rfl⟩ | ⟨x, -, rfl⟩
    · exact .inl rfl
    · exact .inl rfl
  -- the other actions write volumes, allocations and routes
  | nothing | route | volume | known | fresh | allocation | attached | absent => exact .inl rfl

/-- Evidence about a node leaves it in its domain. -/
lemma projectInto_sameDomains
    (hk : e.kind.updatesTargetNode = true ∨ e.kind.updatesObservedNode = true)
    (h : projectInto w e = .ok w') : SameDomains w w' := by
  cases hkind : e.kind <;>
    simp only [hkind, EvidenceKind.updatesTargetNode, EvidenceKind.updatesObservedNode,
      Bool.false_eq_true, or_self] at hk
  case imagePresent =>
    simp only [projectInto, hkind, projectImagePresent, knownNode, require_bind_ok,
      refuseIf_bind_ok, pure_ok] at h
    obtain ⟨n, hget, -, rfl⟩ := h
    exact .node hget rfl rfl
  case providerReachable =>
    simp only [projectInto, hkind, projectProviderReachable, knownNode, require_bind_ok,
      refuseIf_bind_ok] at h
    obtain ⟨n, hget, -, h⟩ := h
    split_ifs at h <;> cases h
    · exact .inl rfl
    · exact .node hget rfl rfl
  case policyApplied | zonePublished | imagesCollected | nodeCordoned | nodeUncordoned |
      nodeReachable | nodeUnreachable =>
    simp only [projectInto, hkind, projectPolicyApplied, projectZonePublished,
      projectImagesCollected, projectNodeCordoned, projectNodeUncordoned,
      projectNodeReachability, knownNode, require_bind_ok, pure_ok] at h
    obtain ⟨n, hget, rfl⟩ := h
    exact .node hget rfl rfl

/-- **No evidence moves a node to another domain.** -/
lemma project_domains (h : project w e = .ok w') : w'.domains = w.domains := by
  cases project_effect h with
  | unchanged | allocation | volume | volumeCreated | attached | detached | decision =>
    exact domains_congr ‹w'.nodes = w.nodes›
  | created node resources hk hnew hnode hres ha hv hn hp => exact domains_insert hnode hn rfl
  | deleted x hk hget ha hv hn hp =>
    rcases hn with ⟨-, hn⟩ | ⟨node, hnode, hn⟩
    · exact domains_congr hn
    · exact domains_insert hnode hn rfl
  | node id n n' hk hget hid ha hv hn hp hload =>
    obtain ⟨next, hinto, hnext⟩ := bind_ok.mp h
    have hkinds := hk.imp And.left And.left
    rw [← (projectInto_sameDomains hkinds hinto).domains]
    refine domains_congr ?_
    cases hnext
    split_ifs <;> rfl

end Domains

/-! ### What executors report -/

/-- What an executor reports, the placement of a creation included: its node, image and
resources, and its budget or none. -/
structure Tells (a : Action) (e : Evidence) : Prop extends Reports a e where
  node : a.kind = .createAllocation → e.observe "node" = a.node
  image : a.kind = .createAllocation → e.observe "image" = a.image
  resources : a.kind = .createAllocation →
    e.observedInt "cpu_millis" = a.resources.cpuMillis ∧
      e.observedInt "memory_mb" = a.resources.memoryMB
  budget : a.kind = .createAllocation → e.observedBudget = a.budget ∨ e.observedBudget = {}

/-- The engine stamps evidence that carries no time. -/
lemma Tells.stamp (h : Tells a e) (now : Time) : Tells a { e with observedAt := now } :=
  ⟨h.toReports.stamp now, h.node, h.image, h.resources, h.budget⟩

/-- **The in-memory data plane tells.** -/
lemma memoryExecutor_tells (h : MemoryExecutor.execute host w a = .ok e) : Tells a e :=
  ⟨memoryExecutor_reports h, fun hk => (memoryExecutor_recordsCreation hk h).node,
    fun hk => (memoryExecutor_recordsCreation hk h).image,
    fun hk => (memoryExecutor_recordsCreation hk h).resources,
    fun hk => .inl (memoryExecutor_recordsCreation hk h).budget⟩

/-- Creations are reported of creations only, deletions of deletions, and only a start is
reported as running. -/
lemma Reports.kind_iff (h : Reports a e) :
    (e.kind = .allocationCreated ↔ a.kind = .createAllocation) ∧
      (e.kind = .allocationDeleted ↔ a.kind = .deleteAllocation) ∧
      (e.kind = .allocationRunning ↔ a.kind = .startAllocation) := by
  have hkind := h.kind
  cases hk : a.kind <;> rw [hk] at hkind <;>
    simp only [ActionKind.reports, List.mem_cons, List.not_mem_nil, or_false] at hkind
  case drainAllocation => rcases hkind with hkind | hkind <;> simp [hkind]
  all_goals simp [hkind]

/-- What carrying out an action does to the roll. -/
inductive Enrolment (w : World) (a : Action) (w' : World) : Prop
  /-- the allocation is enrolled as the action says, on the node as recorded -/
  | created (node : Node) (budget : Budget) (hk : a.kind = .createAllocation)
      (hnode : w.nodes[a.node]? = some node)
      (hpositive : 1 ≤ a.resources.cpuMillis ∧ 1 ≤ a.resources.memoryMB)
      (hbudget : budget = a.budget ∨ budget = {})
      (hroll : w'.roll = Function.update w.roll a.target
        (some { a.identity with node := node.id, budget := budget }))
  /-- the allocation is struck -/
  | deleted (hk : a.kind = .deleteAllocation)
      (hroll : w'.roll = Function.update w.roll a.target none)
  /-- everybody stays who they are -/
  | kept (hc : a.kind ≠ .createAllocation) (hd : a.kind ≠ .deleteAllocation)
      (hroll : w'.roll = w.roll)

/-- **What carrying out an action does to the roll**, once the target of a creation is
free. -/
lemma Tells.enrolment (h : Tells a e) (hproject : project w e = .ok w')
    (hfree : a.kind = .createAllocation → w.allocations[a.target]? = none) :
    Enrolment w a w' := by
  obtain ⟨hcreated, hdeleted, -⟩ := h.toReports.kind_iff
  have htarget (hs : a.subject = some a.target) : e.target = a.target :=
    Option.some.inj (h.subject.symm.trans hs)
  have henrols := project_enrols hproject
  by_cases hc : a.kind = .createAllocation
  · have ht := htarget (by simp [Action.subject, hc, ActionKind.onVolume])
    obtain ⟨node, resources, hnode, hres, hroll⟩ :=
      henrols.enrolled (hcreated.mpr hc) (ht ▸ hfree hc)
    simp only [Evidence.observedResources, refuseIf_bind_ok, pure_ok, not_or, Int64.not_lt] at hres
    obtain ⟨⟨hcpu, hmemory⟩, rfl⟩ := hres
    obtain ⟨hrcpu, hrmemory⟩ := h.resources hc
    refine .created node e.observedBudget hc (h.node hc ▸ hnode) ⟨hrcpu ▸ hcpu, hrmemory ▸ hmemory⟩
      (h.budget hc) ?_
    rw [hroll, ht, Evidence.identity, Action.identity, (h.created hc).1, (h.created hc).2,
      h.image hc, hrcpu, hrmemory]
  · by_cases hd : a.kind = .deleteAllocation
    · have ht := htarget (by simp [Action.subject, hd, ActionKind.onVolume])
      exact .deleted hd (ht ▸ henrols.struck (hdeleted.mpr hd))
    · exact .kept hc hd (henrols.kept (mt hcreated.mp hc) (mt hdeleted.mp hd))

/-! ### What acceptance established -/

/-- The budget an allocation of the goal reserves. -/
def Goal.budget (goal : Goal) : Budget :=
  match goal.workload.runtime with
  | none => {}
  | some runtime => runtime.budget

/-- What the validator of creations established about the placement. -/
structure Placed (goal : Goal) (w : World) (a : Action) : Prop where
  free : w.allocations[a.target]? = none
  known : ∃ node, w.nodes[a.node]? = some node
  workload : a.workload = goal.workload.name
  image : a.image = goal.workload.image
  resources : a.resources = goal.workload.resources
  spread : checkSpread goal w a = .ok ()
  budget : a.budget = goal.budget

lemma validateAction_placed
    (h : validateAction host goal w a = .ok ()) (hk : a.kind = .createAllocation) :
    Placed goal w a := by
  simp only [validateAction, hk, validateCreateAllocation, healthyNode, refuseIf_bind_ok,
    require_bind_ok, Option.filter_eq_some_iff] at h
  obtain ⟨hnew, node, ⟨hnode, -⟩, -, -, hworkload, himage, hresources, -, -, h⟩ := h
  obtain ⟨_, hspread, hagent⟩ := bind_ok.mp h
  refine ⟨by simpa using hnew, ⟨node, hnode⟩, not_not.mp hworkload, ?_, not_not.mp hresources,
    hspread, ?_⟩
  · exact not_not.mp fun hne => himage (.inl hne)
  · rw [Goal.budget]
    cases hruntime : goal.workload.runtime with
    | none =>
      simp only [validateAgentPlacement, hruntime, refuseIf_ok, Bool.not_eq_false] at hagent
      exact of_decide_eq_true hagent
    | some runtime =>
      simp only [validateAgentPlacement, hruntime, refuseIf_bind_ok] at hagent
      exact not_not.mp hagent.1

/-- The target of an accepted creation is free in every world with the simulated ledger. -/
lemma validateAction_free {sim : World}
    (hledger : sim.ledger = w.ledger) (h : validateAction host goal sim a = .ok ())
    (hk : a.kind = .createAllocation) : w.allocations[a.target]? = none := by
  have hslot := slots_of_absent (validateAction_placed h hk).free
  rw [hledger] at hslot
  exact Option.map_eq_none_iff.mp hslot

/-- The validator of starts wants an allocation that has not run. -/
lemma validateAction_unstopped
    (h : validateAction host goal w a = .ok ()) (hk : a.kind = .startAllocation) :
    ∀ s, w.ledger.slots a.target = some s → s.phase ≠ .stopped := by
  simp only [validateAction, hk] at h
  exact validateStartAllocation_created h

/-- **The governor's checks passed** in the world as read. -/
lemma authorize_governed {k : Kernel} {actor : AgentDescriptor} {p : Proposal}
    (h : authorize host k actor goal w p = .ok ()) :
    checkDisruptionBudget host k w p = .ok () ∧ checkImageProvenance host k goal w p = .ok () ∧
      checkClusterBudget k w p = .ok () := by
  simp only [authorize, refuseIf_bind_ok] at h
  obtain ⟨-, -, -, -, -, -, h⟩ := h
  obtain ⟨_, -, h⟩ := bind_ok.mp h
  obtain ⟨_, -, h⟩ := bind_ok.mp h
  obtain ⟨_, hdisruptions, h⟩ := bind_ok.mp h
  obtain ⟨_, -, h⟩ := bind_ok.mp h
  obtain ⟨_, himages, hceilings⟩ := bind_ok.mp h
  exact ⟨hdisruptions, himages, hceilings⟩

/-! ### Watching a run -/

/-- A proposal that was accepted, with what the kernel read. -/
structure Acceptance where
  host : Host
  actor : AgentDescriptor
  goal : Goal
  now : Time
  proposal : Proposal

/-- The kernel accepts the proposal in the world as read. -/
def Acceptance.Holds (r : Acceptance) (k : Kernel) (w : World) : Prop :=
  authorize r.host k r.actor r.goal { w with observedAt := r.now } r.proposal = .ok ()

/-- What looks on while proposals are accepted and carried out. Its state moves with each
acceptance and each report; a step it has no move for is not part of the runs it watches. -/
structure Watch (σ : Type) where
  accept : σ → World → Acceptance → σ → Prop
  report : Acceptance → σ → World → Action → Evidence → σ → Prop

/-- Actions are carried out in order, and the projection applies each report. -/
inductive Carries {σ : Type} (report : σ → World → Action → Evidence → σ → Prop) :
    σ → World → List Action → σ → World → Prop
  | nil (s : σ) (w : World) : Carries report s w [] s w
  | cons {s s₁ s' : σ} {w w₁ w' : World} {a : Action} {e : Evidence} {rest : List Action}
      (htells : Tells a e) (hreport : report s w a e s₁) (hproject : project w e = .ok w₁)
      (hrest : Carries report s₁ w₁ rest s' w') : Carries report s w (a :: rest) s' w'

/-- A course of the engine: accepted proposals carried out as far as they go, and
measurements of readiness in between. -/
inductive Course {σ : Type} (watch : Watch σ) (k : Kernel) : σ → World → σ → World → Prop
  | refl (s : σ) (w : World) : Course watch k s w s w
  | round {s s₁ s₂ s' : σ} {w w₁ w' : World} (r : Acceptance) (n : ℕ) (haccepted : r.Holds k w)
      (hwatched : watch.accept s w r s₁)
      (hcarried : Carries (watch.report r) s₁ w (r.proposal.actions.take n) s₂ w₁)
      (hrest : Course watch k s₂ w₁ s' w') : Course watch k s w s' w'
  | measured {s s' : σ} {w w₁ w' : World} {e : Evidence} (hk : e.kind.measuresReadiness = true)
      (hproject : project w e = .ok w₁) (hrest : Course watch k s w₁ s' w') :
      Course watch k s w s' w'

section Watched

variable {σ : Type} {report : σ → World → Action → Evidence → σ → Prop} {watch : Watch σ}
  {k : Kernel}

/-- **The lockstep rule**: a relation between the actions done, the watch, the simulated world
and the executed one that every accepted and reported action keeps holds at every prefix. -/
theorem Admitted.abreast_done {grants : Grants} {P : Action → Prop}
    {R : List Action → σ → World → World → Prop}
    (hstep : ∀ {done : List Action} {s s₁ : σ} {sim sim₁ w w₁ : World} {a : Action} {e : Evidence},
      R done s sim w → P a → validateAction host goal sim a = .ok () →
      simulateAction sim a = .ok sim₁ → Tells a e → report s w a e s₁ →
      project w e = .ok w₁ → R (done ++ [a]) s₁ sim₁ w₁)
    {sim simEnd : World} {actions : List Action} (h : Admitted host grants goal sim actions simEnd)
    (hP : ∀ a ∈ actions, P a) (done : List Action) {s s' : σ} (n : ℕ)
    (hcarried : Carries report s w (actions.take n) s' w') (hR : R done s sim w) :
    ∃ sim', R (done ++ actions.take n) s' sim' w' := by
  induction h generalizing done s w n with
  | nil sim =>
    rw [List.take_nil] at hcarried ⊢
    cases hcarried
    rw [List.append_nil]
    exact ⟨sim, hR⟩
  | cons hgrant hvalid hsim hrest ih =>
    cases n with
    | zero =>
      cases hcarried
      rw [List.take_zero, List.append_nil]
      exact ⟨_, hR⟩
    | succ n =>
      cases hcarried with
      | cons htells hreport hproject hcarried =>
        rw [List.take_succ_cons, List.append_cons]
        exact ih (fun a ha => hP a (List.mem_cons_of_mem _ ha)) _ n hcarried
          (hstep hR (hP _ List.mem_cons_self) hvalid hsim htells hreport hproject)

/-- The lockstep rule for a relation that does not look at what was done. -/
theorem Admitted.abreast {grants : Grants} {P : Action → Prop} {R : σ → World → World → Prop}
    (hstep : ∀ {s s₁ : σ} {sim sim₁ w w₁ : World} {a : Action} {e : Evidence}, R s sim w → P a →
      validateAction host goal sim a = .ok () → simulateAction sim a = .ok sim₁ → Tells a e →
      report s w a e s₁ → project w e = .ok w₁ → R s₁ sim₁ w₁)
    {sim simEnd : World} {actions : List Action} (h : Admitted host grants goal sim actions simEnd)
    (hP : ∀ a ∈ actions, P a) {s s' : σ} (n : ℕ)
    (hcarried : Carries report s w (actions.take n) s' w') (hR : R s sim w) :
    ∃ sim', R s' sim' w' :=
  h.abreast_done (R := fun _ => R) hstep hP [] n hcarried hR

/-- **The rule for courses**: what every round keeps, and every measurement, holds at the
end. -/
theorem Course.invariant {I : σ → World → Prop}
    (hround : ∀ {s s₁ s₂ : σ} {w w₁ : World} {r : Acceptance} {n : ℕ}, I s w → r.Holds k w →
      watch.accept s w r s₁ →
      Carries (watch.report r) s₁ w (r.proposal.actions.take n) s₂ w₁ → I s₂ w₁)
    (hmeasured : ∀ {s : σ} {w w₁ : World} {e : Evidence}, I s w →
      e.kind.measuresReadiness = true → project w e = .ok w₁ → I s w₁)
    {s s' : σ} (h : Course watch k s w s' w') (hI : I s w) : I s' w' := by
  induction h with
  | refl => exact hI
  | round r n haccepted hwatched hcarried _ ih =>
    exact ih (hround hI haccepted hwatched hcarried)
  | measured hk hproject _ ih => exact ih (hmeasured hI hk hproject)

end Watched

/-- A measurement of readiness leaves everybody who they are. -/
lemma measured_roll (hk : e.kind.measuresReadiness = true)
    (h : project w e = .ok w') : w'.roll = w.roll := by
  refine (project_enrols h).kept ?_ ?_ <;>
    · intro hkind
      rw [hkind] at hk
      cases hk

/-- Nor does it move an allocation or a volume. -/
lemma measured_ledger (hk : e.kind.measuresReadiness = true)
    (h : project w e = .ok w') : w'.ledger = w.ledger := by
  rw [project_ledger h]
  cases hkind : e.kind <;> rw [hkind] at hk <;> cases hk <;> rw [Evidence.meaning, hkind]

end A4s
