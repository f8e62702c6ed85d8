/-
What a node has committed.

Every node record carries two totals, the resources and the budgets of the allocations
on it. The kernel admits against the totals and never recounts, so they have to stay in
step with the allocations as evidence comes in.

* `World.committed`, `World.reserved`: the sums the totals stand for, in the wrapping
  arithmetic of the code's integers.
* `balanced_step_iff`: what one piece of evidence does to the balance. A creation keeps
  it; a deletion keeps it only if it frees no budget and its resources are covered.
* `balanced_run_iff`: **the totals are the sums throughout a run** exactly when every
  deletion in it is of that kind.
-/
import A4s.Go.Run
import A4s.Control.Effect

namespace A4s

open Go

/-! ### Amounts add up -/

instance : Add Resources := ⟨Resources.add⟩

instance : Zero Resources := ⟨{}⟩

instance : Neg Resources := ⟨fun r => ⟨-r.cpuMillis, -r.memoryMB⟩⟩

instance : AddCommGroup Resources where
  add_assoc a b c := congrArg₂ Resources.mk (Int64.add_assoc _ _ _) (Int64.add_assoc _ _ _)
  add_comm a b := congrArg₂ Resources.mk (Int64.add_comm _ _) (Int64.add_comm _ _)
  zero_add a := congrArg₂ Resources.mk (Int64.zero_add _) (Int64.zero_add _)
  add_zero a := congrArg₂ Resources.mk (Int64.add_zero _) (Int64.add_zero _)
  neg_add_cancel a := congrArg₂ Resources.mk (Int64.add_left_neg _) (Int64.add_left_neg _)
  nsmul := nsmulRec
  zsmul := zsmulRec

/-- A budget from its four dimensions, pairwise. -/
lemma Budget.ext_dims {b c : Budget} (ht : b.tokens = c.tokens) (hc : b.costMillis = c.costMillis)
    (hw : b.wallSeconds = c.wallSeconds) (hk : b.toolCalls = c.toolCalls) : b = c := by
  cases b
  cases c
  simp_all

instance : Add Budget := ⟨Budget.add⟩

instance : Zero Budget := ⟨{}⟩

instance : Neg Budget :=
  ⟨fun b => ⟨-b.tokens, -b.costMillis, -b.wallSeconds, -b.toolCalls⟩⟩

instance : AddCommGroup Budget where
  add_assoc a b c := Budget.ext_dims (Int64.add_assoc _ _ _) (Int64.add_assoc _ _ _)
    (Int64.add_assoc _ _ _) (Int64.add_assoc _ _ _)
  add_comm a b := Budget.ext_dims (Int64.add_comm _ _) (Int64.add_comm _ _) (Int64.add_comm _ _)
    (Int64.add_comm _ _)
  zero_add a := Budget.ext_dims (Int64.zero_add _) (Int64.zero_add _) (Int64.zero_add _)
    (Int64.zero_add _)
  add_zero a := Budget.ext_dims (Int64.add_zero _) (Int64.add_zero _) (Int64.add_zero _)
    (Int64.add_zero _)
  neg_add_cancel a := Budget.ext_dims (Int64.add_left_neg _) (Int64.add_left_neg _)
    (Int64.add_left_neg _) (Int64.add_left_neg _)
  nsmul := nsmulRec
  zsmul := zsmulRec

/-- What is in use, less the resources, is not negative, so that nothing is clamped. -/
def Resources.covers (used r : Resources) : Prop :=
  0 ≤ used.cpuMillis - r.cpuMillis ∧ 0 ≤ used.memoryMB - r.memoryMB

lemma clamp_eq_iff {i : Int64} : Resources.clamp i = i ↔ 0 ≤ i := by
  rw [Resources.clamp]
  split_ifs with h
  · constructor
    · intro heq
      rw [← heq]
      exact Int64.le_refl 0
    · intro hle
      exact absurd h (Int64.not_lt.mpr hle)
  · exact ⟨fun _ => Int64.not_lt.mp h, fun _ => rfl⟩

/-- Giving resources back undoes taking them exactly when they are covered. -/
lemma subtract_eq_iff {r rest : Resources} :
    (r + rest).subtract r = rest ↔ (r + rest).covers r := by
  have hback : ∀ i j : Int64, i + j - i = j := by
    intro i j
    rw [Int64.add_comm, Int64.add_sub_cancel]
  change Resources.mk (Resources.clamp (r.cpuMillis + rest.cpuMillis - r.cpuMillis))
      (Resources.clamp (r.memoryMB + rest.memoryMB - r.memoryMB)) = rest ↔
    0 ≤ r.cpuMillis + rest.cpuMillis - r.cpuMillis ∧
      0 ≤ r.memoryMB + rest.memoryMB - r.memoryMB
  rw [hback, hback, ← clamp_eq_iff, ← clamp_eq_iff]
  cases rest
  simp

/-! ### Totals and sums -/

namespace World

/-- The resources of the allocations recorded on a node. -/
def committed (w : World) (node : String) : Resources :=
  w.allocations.sum fun _ a => if a.node = node then a.resources else 0

/-- The budgets of the allocations recorded on a node. -/
def reserved (w : World) (node : String) : Budget :=
  w.allocations.sum fun _ a => if a.node = node then a.budget else 0

end World

/-- The totals of every node are the sums over its allocations. -/
def Balanced (w : World) : Prop :=
  ∀ (name : String) n, w.nodes[name]? = some n →
    n.used = w.committed n.id ∧ n.budgetUsed = w.reserved n.id

/-- The node map is keyed by the nodes' own ids. -/
def Keyed (w : World) : Prop := ∀ (name : String) n, w.nodes[name]? = some n → n.id = name

/-- A deletion frees no budget, which the projection would keep charged, and its
resources are covered by what its node has in use. -/
def Releases (w : World) (e : Evidence) : Prop :=
  e.kind = .allocationDeleted → ∀ a, w.allocations[e.target]? = some a →
    ∀ n, w.nodes[a.node]? = some n → a.budget = 0 ∧ n.used.covers a.resources

section Step

variable {w w' : World} {e : Evidence} {id : String} {a a' : Allocation}

/-- The two sums of a world, as one value. -/
def World.sums (w : World) : (String → Resources) × (String → Budget) := (w.committed, w.reserved)

lemma sums_congr (h : w'.allocations = w.allocations) : w'.sums = w.sums := by
  refine Prod.ext (funext fun node => ?_) (funext fun node => ?_)
  · simp only [World.sums, World.committed, h]
  · simp only [World.sums, World.reserved, h]

/-- Rewriting an allocation that stays what it is keeps the sums. -/
lemma sums_insert_same (hget : w.allocations[id]? = some a) (hnode : a'.node = a.node)
    (hres : a'.resources = a.resources) (hbudget : a'.budget = a.budget)
    (h : w'.allocations = w.allocations.insert id a') : w'.sums = w.sums := by
  refine Prod.ext (funext fun node => ?_) (funext fun node => ?_)
  · simp only [World.sums, World.committed, h]
    exact Table.sum_insert_same hget (by simp only [hnode, hres])
  · simp only [World.sums, World.reserved, h]
    exact Table.sum_insert_same hget (by simp only [hnode, hbudget])

lemma sums_insert_new (hnew : w.allocations[id]? = none)
    (h : w'.allocations = w.allocations.insert id a) (node : String) :
    w'.committed node = (if a.node = node then a.resources else 0) + w.committed node ∧
      w'.reserved node = (if a.node = node then a.budget else 0) + w.reserved node := by
  rw [World.committed, World.reserved, h]
  exact ⟨Table.sum_insert_new hnew a, Table.sum_insert_new hnew a⟩

lemma sums_erase (hget : w.allocations[id]? = some a)
    (h : w'.allocations = w.allocations.erase id) (node : String) :
    w.committed node = (if a.node = node then a.resources else 0) + w'.committed node ∧
      w.reserved node = (if a.node = node then a.budget else 0) + w'.reserved node := by
  simp only [World.committed, World.reserved, h]
  exact ⟨Table.sum_erase hget, Table.sum_erase hget⟩

/-- Where the sums stay and no total moves, the balance is kept. -/
lemma Balanced.congr (h : Balanced w) (hsums : w'.sums = w.sums)
    (hnodes : ∀ (name : String) n', w'.nodes[name]? = some n' →
      ∃ n, w.nodes[name]? = some n ∧ n'.id = n.id ∧ SameLoad n n') : Balanced w' := by
  intro name n' hn'
  obtain ⟨n, hn, hid, hload⟩ := hnodes name n' hn'
  obtain ⟨hused, hbudget⟩ := h name n hn
  obtain ⟨hcommitted, hreserved⟩ := Prod.ext_iff.mp hsums
  rw [hload.used, hload.budgetUsed, hid]
  exact ⟨hused.trans (congrFun hcommitted n.id).symm, hbudget.trans (congrFun hreserved n.id).symm⟩

lemma same_nodes (h : w'.nodes = w.nodes) : ∀ (name : String) n', w'.nodes[name]? = some n' →
    ∃ n, w.nodes[name]? = some n ∧ n'.id = n.id ∧ SameLoad n n' := by
  intro name n' hn'
  rw [h] at hn'
  exact ⟨n', hn', rfl, rfl, rfl⟩

/-- Evidence of anything but a deletion releases nothing. -/
lemma releases_of_ne (h : e.kind ≠ .allocationDeleted) : Releases w e := fun hk => absurd hk h

/-- A creation charges the node it is recorded on, and no other. -/
lemma Balanced.created {node : Node} (h : Balanced w) (hkeyed : Keyed w)
    (hnew : w.allocations[id]? = none) {name : String} (hnode : w.nodes[name]? = some node)
    (hat : a.node = node.id) (ha : w'.allocations = w.allocations.insert id a)
    (hn : w'.nodes = w.nodes.insert name { node with
      used := node.used.add a.resources, budgetUsed := node.budgetUsed.add a.budget }) :
    Balanced w' := by
  intro name' n' hn'
  rw [hn, get_insert] at hn'
  rw [(sums_insert_new hnew ha _).1, (sums_insert_new hnew ha _).2]
  split_ifs at hn' with hname
  · cases hn'
    obtain ⟨hused, hbudget⟩ := h name node hnode
    rw [if_pos hat, if_pos hat, ← hused, ← hbudget]
    exact ⟨add_comm node.used a.resources, add_comm node.budgetUsed a.budget⟩
  · have hother : a.node ≠ n'.id := by
      rw [hat, hkeyed _ _ hnode, hkeyed _ _ hn']
      exact fun heq => hname heq.symm
    rw [if_neg hother, if_neg hother, zero_add, zero_add]
    exact h name' n' hn'

/-- A deletion from a node that is not there moves no total and no sum of a node. -/
lemma Balanced.deleted_nowhere (h : Balanced w) (hkeyed : Keyed w)
    (hget : w.allocations[id]? = some a) (hnone : w.nodes[a.node]? = none)
    (ha : w'.allocations = w.allocations.erase id) (hn : w'.nodes = w.nodes) : Balanced w' := by
  intro name n hname
  rw [hn] at hname
  have hother : a.node ≠ n.id := by
    intro heq
    rw [heq, hkeyed _ _ hname, hname] at hnone
    cases hnone
  obtain ⟨hcommitted, hreserved⟩ := sums_erase hget ha n.id
  rw [if_neg hother, zero_add] at hcommitted hreserved
  rw [← hcommitted, ← hreserved]
  exact h name n hname

/-- **A deletion keeps the balance exactly when it frees no budget and its resources
are covered.** -/
lemma Balanced.deleted_iff {node : Node} (h : Balanced w) (hkeyed : Keyed w)
    (hget : w.allocations[id]? = some a) (hnode : w.nodes[a.node]? = some node)
    (ha : w'.allocations = w.allocations.erase id)
    (hn : w'.nodes = w.nodes.insert a.node { node with used := node.used.subtract a.resources }) :
    Balanced w' ↔ a.budget = 0 ∧ node.used.covers a.resources := by
  have hid : a.node = node.id := (hkeyed _ _ hnode).symm
  obtain ⟨hused, hbudget⟩ := h _ _ hnode
  obtain ⟨hcommitted, hreserved⟩ := sums_erase hget ha node.id
  rw [if_pos hid, ← hused] at hcommitted
  rw [if_pos hid, ← hbudget] at hreserved
  -- the totals of the allocation's own node, before the others
  have hown : (node.used.subtract a.resources = w'.committed node.id ∧
      node.budgetUsed = w'.reserved node.id) ↔ a.budget = 0 ∧ node.used.covers a.resources := by
    rw [hcommitted, hreserved, subtract_eq_iff, add_eq_right, and_comm]
  rw [← hown]
  constructor
  · intro hbalanced
    exact hbalanced a.node { node with used := node.used.subtract a.resources }
      (by rw [hn, get_insert_self])
  · intro htotals name n hname
    rw [hn, get_insert] at hname
    split_ifs at hname with hat
    · cases hname
      exact htotals
    · have hother : a.node ≠ n.id := by
        rw [hkeyed _ _ hname]
        exact fun heq => hat heq.symm
      obtain ⟨hcommitted', hreserved'⟩ := sums_erase hget ha n.id
      rw [if_neg hother, zero_add] at hcommitted' hreserved'
      rw [← hcommitted', ← hreserved']
      exact h name n hname

/-- **What one piece of evidence does to the balance.** -/
theorem balanced_step_iff (hkeyed : Keyed w) (h : Balanced w) (hproject : project w e = .ok w') :
    Balanced w' ↔ Releases w e := by
  cases project_effect hproject with
  | unchanged hidle ha hv hn =>
    refine iff_of_true (h.congr (sums_congr ha) (same_nodes hn)) fun hk a hget => ?_
    rw [Idle, hk] at hidle
    rw [hidle] at hget
    cases hget
  | allocation a a' hk hget hup ha hv hn =>
    have hsums := sums_insert_same hget hup.identity.node hup.identity.resources
      hup.identity.budget ha
    refine iff_of_true (h.congr hsums (same_nodes hn)) (releases_of_ne fun hdel => ?_)
    rw [hdel] at hk
    cases hk
  | created node resources hk hnew hnode hres ha hv hn =>
    exact iff_of_true (h.created hkeyed hnew hnode rfl ha hn) (releases_of_ne (by simp [hk]))
  | deleted a hk hget ha hv hn =>
    rcases hn with ⟨hnone, hn⟩ | ⟨node, hnode, hn⟩
    · refine iff_of_true (h.deleted_nowhere hkeyed hget hnone ha hn) fun _ a' hget' n hn' => ?_
      cases hget.symm.trans hget'
      rw [hnone] at hn'
      cases hn'
    · rw [h.deleted_iff hkeyed hget hnode ha hn]
      constructor
      · intro hcovered _ a' hget' n hn'
        cases hget.symm.trans hget'
        cases hnode.symm.trans hn'
        exact hcovered
      · intro hreleases
        exact hreleases hk a hget node hnode
  | volume v v' hk hget hname howner ha hv hn =>
    refine iff_of_true (h.congr (sums_congr ha) (same_nodes hn)) (releases_of_ne fun hdel => ?_)
    rw [hdel] at hk
    cases hk
  | volumeCreated v hk hnew hname hnode howner ha hv hn =>
    exact iff_of_true (h.congr (sums_congr ha) (same_nodes hn)) (releases_of_ne (by simp [hk]))
  | attached v v' a hk hget hown howner ha hv hn =>
    have hsums := sums_insert_same hown (by rfl) (by rfl) (by rfl) ha
    exact iff_of_true (h.congr hsums (same_nodes hn)) (releases_of_ne (by simp [hk]))
  | detached v v' hk hget hmay hgen howner ha hv hn =>
    have hsums : w'.sums = w.sums := by
      rcases ha with ⟨-, ha⟩ | ⟨a, hown, ha⟩
      · exact sums_congr ha
      · exact sums_insert_same hown (by rfl) (by rfl) (by rfl) ha
    exact iff_of_true (h.congr hsums (same_nodes hn)) (releases_of_ne (by simp [hk]))
  | node name n n' hk hget hid ha hv hn hp hload =>
    refine iff_of_true (h.congr (sums_congr ha) fun name' m hm => ?_)
      (releases_of_ne fun hdel => ?_)
    · rw [hn, get_insert] at hm
      split_ifs at hm with hname
      · cases hm
        exact ⟨n, hname ▸ hget, hid, hload⟩
      · exact ⟨m, hm, rfl, rfl, rfl⟩
    · rw [hdel] at hk
      rcases hk with ⟨hk, -⟩ | ⟨hk, -⟩ <;> cases hk
  | decision hk ha hv hn =>
    refine iff_of_true (h.congr (sums_congr ha) (same_nodes hn)) (releases_of_ne fun hdel => ?_)
    rw [hdel] at hk
    cases hk

end Step

/-! ### Runs -/

/-- Evidence does not rename nodes. -/
lemma Keyed.project {w w' : World} {e : Evidence} (h : Keyed w)
    (hproject : A4s.project w e = .ok w') : Keyed w' := by
  intro name n' hn'
  have hids := (project_effect hproject).nodes_id name
  rw [hn', Option.map_some] at hids
  obtain ⟨n, hn, hid⟩ := Option.map_eq_some_iff.mp hids.symm
  rw [← hid]
  exact h name n hn

/-- **The totals of every node are the sums over its allocations**, throughout a run
that accepts a sequence of evidence, exactly when every deletion in it frees no budget
and has its resources covered. -/
theorem balanced_run_iff {w w' : World} {es : List Evidence} (hkeyed : Keyed w)
    (hbalanced : Balanced w) (hrun : Run project w es w') :
    Run.Always project Balanced w es ↔ Run.Throughout project Releases w es :=
  hrun.always_iff (I := Keyed) (P := Balanced) (Q := Releases)
    (fun h hproject => h.project hproject)
    (fun hkeyed h hproject => balanced_step_iff hkeyed h hproject) hkeyed hbalanced

/-! ### A budget that stays charged -/

namespace Totals

def budget : Budget := ⟨100, 5, 60, 8⟩

/-- A node that is charged for one agent. -/
def node : Node := { id := "n1", used := ⟨10, 16⟩, budgetUsed := budget }

def agent : Allocation :=
  { id := "desk-0", workload := "desk", node := "n1", resources := ⟨10, 16⟩, phase := .stopped
    budget := budget }

def world : World :=
  { nodes := Table.ofEntries [("n1", node)], allocations := Table.ofEntries [("desk-0", agent)] }

def deletion : Evidence := { kind := .allocationDeleted, target := "desk-0" }

/-- The world without the agent. -/
def after : World := (project world deletion).toOption.getD {}

lemma keyed : Keyed world := by
  intro name n hn
  rw [world, get_ofEntries_cons] at hn
  split_ifs at hn with hname
  · cases hn
    exact hname.symm
  · cases hn

lemma balanced : Balanced world := by
  intro name n hn
  rw [world, get_ofEntries_cons] at hn
  split_ifs at hn with hname
  · cases hn
    exact ⟨by decide, by decide⟩
  · cases hn

lemma run : Run project world [deletion] after := by
  have hproject : project world deletion = .ok after := by decide
  exact .cons hproject (.nil after)

end Totals

open Totals

/-- The agent is deleted from a world whose totals are right: its node stays charged
for a budget no allocation holds. -/
theorem budget_stays_charged :
    Keyed world ∧ Balanced world ∧
      Run project world [deletion] after ∧
      after.allocations = ∅ ∧
      (after.nodes["n1"]?.map (·.budgetUsed)) = some budget ∧
      ¬Balanced after := by
  have hnode : after.nodes["n1"]? = some { node with used := ⟨0, 0⟩ } := by decide
  refine ⟨keyed, balanced, run, by decide, by decide, fun h => ?_⟩
  have hcharged : budget = after.reserved "n1" := (h "n1" _ hnode).2
  have hfree : after.reserved "n1" = 0 := by decide
  exact absurd (hcharged.trans hfree) (by decide)

/-- The balance of the run that deletes the agent. -/
theorem balanced_run_iff_deletion :
    Run.Always project Balanced world [deletion] ↔
      Run.Throughout project Releases world [deletion] :=
  balanced_run_iff keyed balanced run

end A4s
