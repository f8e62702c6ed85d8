/-
The cluster ceilings over whole runs (`control/clusterbudget.go`).

What the live allocations commit is compared with the ceilings once for each proposal, in the
world as read, together with what the proposal's creations would add. Sums wrap in Go; where
nothing overflows they are sums of integers, one for each `Dimension`.

* `Dimension`: the seven sums, each with its amounts and its ceiling.
* `World.held`: what is committed, in the integers; `commitment_of` and `checkClusterBudget_ok`
  relate it to the code's wrapping sums.
* `held_step`: **only a creation adds**, as long as no amount is negative.
* `commitment_within`: **the ceilings hold over whole courses.**
-/
import A4s.Control.Course

namespace A4s

open Go

/-! ### Dimensions -/

/-- What is summed and compared with a ceiling. -/
inductive Dimension where
  | allocations
  | cpu
  | memory
  | tokens
  | cost
  | wall
  | toolCalls
  deriving DecidableEq

namespace Dimension

/-- What an allocation with these resources and this budget commits. -/
def amount (d : Dimension) (resources : Resources) (budget : Budget) : Int64 :=
  match d with
  | .allocations => 1
  | .cpu => resources.cpuMillis
  | .memory => resources.memoryMB
  | .tokens => budget.tokens
  | .cost => budget.costMillis
  | .wall => budget.wallSeconds
  | .toolCalls => budget.toolCalls

/-- What a commitment says. -/
def total (d : Dimension) (c : ClusterCommitment) : Int64 :=
  match d with
  | .allocations => c.allocations
  | .cpu => c.resources.cpuMillis
  | .memory => c.resources.memoryMB
  | .tokens => c.budget.tokens
  | .cost => c.budget.costMillis
  | .wall => c.budget.wallSeconds
  | .toolCalls => c.budget.toolCalls

/-- The ceiling a policy sets. -/
def ceiling (d : Dimension) (p : Policy) : Int64 :=
  match d with
  | .allocations => p.maxAllocations
  | .cpu => p.clusterCeiling.cpuMillis
  | .memory => p.clusterCeiling.memoryMB
  | .tokens => p.clusterBudget.tokens
  | .cost => p.clusterBudget.costMillis
  | .wall => p.clusterBudget.wallSeconds
  | .toolCalls => p.clusterBudget.toolCalls

lemma total_commit (d : Dimension) (c : ClusterCommitment) (resources : Resources)
    (budget : Budget) :
    d.total (c.commit resources budget) = d.total c + d.amount resources budget := by
  cases d <;> rfl

lemma total_zero (d : Dimension) : d.total {} = 0 := by
  cases d <;> rfl

end Dimension

/-- What the live allocations commit, in the integers. -/
def World.held (w : World) (d : Dimension) : ℤ :=
  w.allocations.sum fun _ x =>
    if x.phase = .stopped then 0 else (d.amount x.resources x.budget).toInt

/-- What an action would add. -/
def Action.adds (a : Action) (d : Dimension) : ℤ :=
  if a.kind = .createAllocation then (d.amount a.resources a.budget).toInt else 0

/-- What a list of actions would add. -/
def adding (actions : List Action) (d : Dimension) : ℤ := (actions.map (·.adds d)).sum

section Sums

variable {d : Dimension}

/-- **The code's sum wraps once**: it is the integer sum, taken to 64 bits. -/
lemma total_foldl {α : Type} (live : α → Bool) (resources : α → Resources) (budget : α → Budget)
    (l : List α) (c : ClusterCommitment) :
    d.total (l.foldl (fun total x => if live x then total.commit (resources x) (budget x)
      else total) c) =
      d.total c + Int64.ofInt
        ((l.map fun x => if live x then (d.amount (resources x) (budget x)).toInt else 0).sum) := by
  induction l generalizing c with
  | nil => simp
  | cons x l ih =>
    rw [List.foldl_cons, ih, List.map_cons, List.sum_cons]
    cases hlive : live x with
    | false => simp
    | true =>
      simp only [if_true]
      rw [Dimension.total_commit, Int64.ofInt_add, Int64.ofInt_toInt, Int64.add_assoc]

lemma commitment_of (w : World) : d.total (commitment w) = Int64.ofInt (w.held d) := by
  have hfold := total_foldl (d := d) (fun x : Allocation => !decide (x.phase = .stopped))
    Allocation.resources Allocation.budget (w.allocations.toList.map Prod.snd) {}
  simp only [Bool.not_eq_true', decide_eq_false_iff_not, ite_not, List.map_map,
    Dimension.total_zero, Int64.zero_add] at hfold
  rw [commitment, hfold]
  rfl

lemma addedCommitment_of (p : Proposal) :
    d.total (addedCommitment p) = Int64.ofInt (adding p.actions d) := by
  have hfold := total_foldl (d := d) (fun a : Action => decide (a.kind = .createAllocation))
    Action.resources Action.budget p.actions {}
  simp only [decide_eq_true_eq, Dimension.total_zero, Int64.zero_add] at hfold
  rw [addedCommitment, hfold]
  rfl

end Sums

/-! ### What a step can add -/

/-- No dimension of the budget is negative. -/
structure Budget.Nonneg (b : Budget) : Prop where
  tokens : 0 ≤ b.tokens
  cost : 0 ≤ b.costMillis
  wall : 0 ≤ b.wallSeconds
  toolCalls : 0 ≤ b.toolCalls

/-- No live allocation commits a negative amount. -/
def NonNegative (w : World) : Prop :=
  ∀ (id : String) x, w.allocations[id]? = some x → x.phase ≠ .stopped →
    ∀ d : Dimension, 0 ≤ (d.amount x.resources x.budget).toInt

section Step

variable {w w' : World} {e : Evidence} {id : String} {x x' : Allocation} {d : Dimension}

lemma toInt_nonneg {i : Int64} (h : 0 ≤ i) : 0 ≤ i.toInt := by
  rw [Int64.le_iff_toInt_le, Int64.toInt_zero] at h
  exact h

lemma toInt_nonneg_of_one_le {i : Int64} (h : 1 ≤ i) : 0 ≤ i.toInt := by
  have hone : (1 : Int64).toInt ≤ i.toInt := Int64.le_iff_toInt_le.mp h
  have hval : (1 : Int64).toInt = 1 := rfl
  omega

/-- Positive resources and a budget that is not negative commit nothing negative. -/
lemma amount_nonneg {resources : Resources} {budget : Budget}
    (hpositive : 1 ≤ resources.cpuMillis ∧ 1 ≤ resources.memoryMB) (hbudget : budget.Nonneg)
    (d : Dimension) : 0 ≤ (d.amount resources budget).toInt := by
  cases d with
  | allocations => exact toInt_nonneg_of_one_le (Int64.le_refl 1)
  | cpu => exact toInt_nonneg_of_one_le hpositive.1
  | memory => exact toInt_nonneg_of_one_le hpositive.2
  | tokens => exact toInt_nonneg hbudget.tokens
  | cost => exact toInt_nonneg hbudget.cost
  | wall => exact toInt_nonneg hbudget.wall
  | toolCalls => exact toInt_nonneg hbudget.toolCalls

/-- What is reported of a budget is the budget or nothing, so it commits no more. -/
lemma amount_le {resources : Resources} {budget reported : Budget}
    (hreported : reported = budget ∨ reported = {}) (hbudget : budget.Nonneg) (d : Dimension) :
    (d.amount resources reported).toInt ≤ (d.amount resources budget).toInt := by
  rcases hreported with rfl | rfl
  · exact le_refl _
  · cases d with
    | allocations | cpu | memory => exact le_refl _
    | tokens => exact toInt_nonneg hbudget.tokens
    | cost => exact toInt_nonneg hbudget.cost
    | wall => exact toInt_nonneg hbudget.wall
    | toolCalls => exact toInt_nonneg hbudget.toolCalls

lemma held_congr (h : w'.allocations = w.allocations) : w'.held d = w.held d := by
  rw [World.held, World.held, h]

/-- A live allocation that stays who it is, and live only if it was, commits no more. -/
lemma held_insert_le (hget : w.allocations[id]? = some x)
    (h : w'.allocations = w.allocations.insert id x') (hsame : x'.identity = x.identity)
    (hphase : x'.phase ≠ .stopped → x.phase ≠ .stopped) (hw : NonNegative w) :
    NonNegative w' ∧ ∀ d, w'.held d ≤ w.held d := by
  have hresources : x'.resources = x.resources := congrArg Identity.resources hsame
  have hbudget : x'.budget = x.budget := congrArg Identity.budget hsame
  constructor
  · intro j y hy hlive
    rw [h, get_insert] at hy
    split_ifs at hy with hj
    · cases hy
      rw [hresources, hbudget]
      exact hw id x hget (hphase hlive)
    · exact hw j y hy hlive
  · intro d
    rw [World.held, World.held, h, Table.sum_insert, Table.sum_erase hget, hresources, hbudget]
    have hle : (if x'.phase = .stopped then 0 else (d.amount x.resources x.budget).toInt) ≤
        if x.phase = .stopped then 0 else (d.amount x.resources x.budget).toInt := by
      split_ifs with hstopped hwas hwas
      · exact le_refl _
      · exact hw id x hget hwas d
      · exact absurd hwas (hphase hstopped)
      · exact le_refl _
    omega

/-- Forgetting an allocation frees what it commits. -/
lemma held_erase_le (hget : w.allocations[id]? = some x)
    (h : w'.allocations = w.allocations.erase id) (hw : NonNegative w) :
    NonNegative w' ∧ ∀ d, w'.held d ≤ w.held d := by
  constructor
  · intro j y hy hlive
    rw [h, get_erase] at hy
    split_ifs at hy
    exact hw j y hy hlive
  · intro d
    rw [World.held, World.held, h, Table.sum_erase hget]
    have hle : 0 ≤ if x.phase = .stopped then 0 else (d.amount x.resources x.budget).toInt := by
      split_ifs with hstopped
      · exact le_refl _
      · exact hw id x hget hstopped d
    omega

/-- Evidence that creates nothing, and makes nothing run that has stopped, adds nothing. -/
lemma held_kept (hw : NonNegative w) (hproject : project w e = .ok w')
    (hk : e.kind ≠ .allocationCreated)
    (hrunning : e.kind = .allocationRunning →
      ∀ x, w.allocations[e.target]? = some x → x.phase ≠ .stopped) :
    NonNegative w' ∧ ∀ d, w'.held d ≤ w.held d := by
  cases (project_effect hproject).populates with
  | same _ _ _ ha =>
    exact ⟨fun id x hget => hw id x (ha ▸ hget), fun d => (held_congr ha).le⟩
  | updated x x' hupdates hget hup ha =>
    refine held_insert_le hget ha hup.identity.identity ?_ hw
    rw [hup.phase]
    intro hlive hstopped
    -- of the phases evidence brings about, only running is live
    by_cases hruns : e.kind = .allocationRunning
    · exact hrunning hruns x hget hstopped
    · rw [hstopped] at hlive
      cases hkind : e.kind <;> simp_all [phaseAfter]
  | created node resources hk' => exact absurd hk' hk
  | deleted x hdeleted hget ha => exact held_erase_le hget ha hw
  | holds id x volumes _ hget ha => exact held_insert_le hget ha rfl (fun h => h) hw

/-- A creation that is news records the allocation as reported. -/
lemma created_allocations (h : Effect w e w') (hk : e.kind = .allocationCreated)
    (hnew : w.allocations[e.target]? = none) :
    (1 ≤ e.observedInt "cpu_millis" ∧ 1 ≤ e.observedInt "memory_mb") ∧
      ∃ node : Node, w'.allocations = w.allocations.insert e.target
        { id := e.target, workload := e.observe "workload", replica := e.observedInt "replica"
          node := node.id, image := e.observe "image"
          resources := ⟨e.observedInt "cpu_millis", e.observedInt "memory_mb"⟩
          phase := .created, budget := e.observedBudget } := by
  cases h.populates with
  | created node resources _ _ hnode hres ha =>
    simp only [Evidence.observedResources, refuseIf_bind_ok, pure_ok, not_or, Int64.not_lt] at hres
    obtain ⟨hpositive, rfl⟩ := hres
    exact ⟨hpositive, node, ha⟩
  | same _ hcreated =>
    have hthere := hcreated hk
    rw [hnew] at hthere
    cases hthere
  | updated _ _ h => rw [hk] at h; cases h
  | deleted _ h => rw [hk] at h; cases h
  | holds _ _ _ h => rw [hk] at h; rcases h with h | h <;> cases h

/-- **Only a creation adds**, and no more than its action says. -/
lemma held_step {a : Action} (hw : NonNegative w) (htells : Tells a e)
    (hproject : project w e = .ok w')
    (hfree : a.kind = .createAllocation → w.allocations[a.target]? = none)
    (hstart : a.kind = .startAllocation →
      ∀ s, w.ledger.slots a.target = some s → s.phase ≠ .stopped)
    (hbudget : a.kind = .createAllocation → a.budget.Nonneg) :
    NonNegative w' ∧ (∀ d, w'.held d ≤ w.held d + a.adds d) ∧
      (a.kind = .createAllocation → 1 ≤ a.resources.cpuMillis ∧ 1 ≤ a.resources.memoryMB) := by
  obtain ⟨hcreated, -⟩ := htells.toReports.kind_iff
  have htarget (hs : a.subject = some a.target) : e.target = a.target :=
    Option.some.inj (htells.subject.symm.trans hs)
  by_cases hk : a.kind = .createAllocation
  · have ht := htarget (by simp [Action.subject, hk, ActionKind.onVolume])
    have hbudget := hbudget hk
    obtain ⟨hpositive, node, ha⟩ := created_allocations (project_effect hproject)
      (hcreated.mpr hk) (ht ▸ hfree hk)
    obtain ⟨hcpu, hmemory⟩ := htells.resources hk
    rw [hcpu, hmemory] at hpositive
    have hreported : e.observedBudget.Nonneg := by
      rcases htells.budget hk with h | h
      · rwa [h]
      · rw [h]
        exact ⟨Int64.le_refl 0, Int64.le_refl 0, Int64.le_refl 0, Int64.le_refl 0⟩
    refine ⟨?_, fun d => ?_, fun _ => hpositive⟩
    · intro j y hy hlive
      rw [ha, get_insert, hcpu, hmemory] at hy
      split_ifs at hy
      · cases hy
        exact amount_nonneg hpositive hreported
      · exact hw j y hy hlive
    · rw [World.held, World.held, ha, hcpu, hmemory, Table.sum_insert_new (ht ▸ hfree hk),
        Action.adds, if_pos hk]
      have hle : (d.amount ⟨a.resources.cpuMillis, a.resources.memoryMB⟩ e.observedBudget).toInt ≤
          (d.amount a.resources a.budget).toInt := amount_le (htells.budget hk) hbudget d
      simp only [reduceCtorEq, if_false]
      omega
  · have hrunning : e.kind = .allocationRunning →
        ∀ x, w.allocations[e.target]? = some x → x.phase ≠ .stopped := by
      intro hruns x hget
      have hstarts := htells.toReports.kind_iff.2.2.mp hruns
      have ht := htarget (by simp [Action.subject, hstarts, ActionKind.onVolume])
      rw [ht] at hget
      exact hstart hstarts x.slot (slots_of_get hget)
    obtain ⟨hnonneg, hle⟩ := held_kept hw hproject (mt hcreated.mp hk) hrunning
    refine ⟨hnonneg, fun d => ?_, fun hc => absurd hc hk⟩
    rw [Action.adds, if_neg hk, add_zero]
    exact hle d

end Step

/-! ### The check -/

/-- What the world commits is within every ceiling that is set. -/
def Within (p : Policy) (w : World) : Prop :=
  ∀ d : Dimension, 0 < d.ceiling p → d.total (commitment w) ≤ d.ceiling p

/-- What is held and would be added fits a machine integer, in every dimension. -/
def NoOverflow (w : World) (actions : List Action) : Prop :=
  ∀ d : Dimension, w.held d + adding actions d ≤ Int64.maxValue.toInt

section Check

variable {k : Kernel} {w : World} {p : Proposal} {d : Dimension} {actions : List Action}

lemma le_of_not_exceeds {total ceiling : Int64} (h : ¬exceeds total ceiling = true)
    (hceiling : 0 < ceiling) : total ≤ ceiling := by
  have hnot : ¬(0 < ceiling ∧ ceiling < total) := by simpa [exceeds] using h
  exact Int64.not_lt.mp fun hlt => hnot ⟨hceiling, hlt⟩

/-- **What the check established**: the proposal creates nothing, or the sums stay within
every ceiling that is set. -/
lemma checkClusterBudget_ok (h : checkClusterBudget k w p = .ok ()) :
    (addedCommitment p).allocations = 0 ∨
      ∀ d : Dimension, 0 < d.ceiling k.policy →
        d.total (commitment w) + d.total (addedCommitment p) ≤ d.ceiling k.policy := by
  rw [checkClusterBudget] at h
  split_ifs at h with hnone
  · exact .inl hnone
  · simp only [refuseIf_bind_ok, List.forM, pure_ok] at h
    obtain ⟨hallocations, hcpu, hmemory, htokens, hcost, hwall, htools, -⟩ := h
    refine .inr fun d hceiling => ?_
    cases d with
    | allocations => exact le_of_not_exceeds hallocations hceiling
    | cpu => exact le_of_not_exceeds hcpu hceiling
    | memory => exact le_of_not_exceeds hmemory hceiling
    | tokens => exact le_of_not_exceeds htokens hceiling
    | cost => exact le_of_not_exceeds hcost hceiling
    | wall => exact le_of_not_exceeds hwall hceiling
    | toolCalls => exact le_of_not_exceeds htools hceiling

lemma toInt_ofInt {n : ℤ} (hlow : 0 ≤ n) (hhigh : n ≤ Int64.maxValue.toInt) :
    (Int64.ofInt n).toInt = n := by
  rw [Int64.toInt_maxValue] at hhigh
  exact Int64.toInt_ofInt_of_le (by omega) (by omega)

lemma held_nonneg (hw : NonNegative w) (d : Dimension) : 0 ≤ w.held d := by
  refine List.sum_nonneg ?_
  intro amount hamount
  obtain ⟨⟨id, x⟩, hmem, rfl⟩ := List.mem_map.mp hamount
  dsimp only
  split_ifs with hstopped
  · exact le_refl _
  · exact hw id x (Table.mem_toList.mp hmem) hstopped d

/-- In the integers: what the code compares with a ceiling is the sum that is held. -/
lemma within_iff (hw : NonNegative w) (hfits : NoOverflow w []) :
    Within k.policy w ↔ ∀ d : Dimension, 0 < d.ceiling k.policy →
      w.held d ≤ (d.ceiling k.policy).toInt := by
  have htotal (d : Dimension) : (d.total (commitment w)).toInt = w.held d := by
    rw [commitment_of]
    refine toInt_ofInt (held_nonneg hw d) ?_
    have hd := hfits d
    rwa [adding, List.map_nil, List.sum_nil, add_zero] at hd
  simp only [Within, Int64.le_iff_toInt_le, htotal]

/-- The actions that are carried out add no more than the whole proposal, once a creation
among them shows that the amounts are not negative. -/
lemma adding_take_le (n : ℕ) (hnonneg : ∀ a ∈ actions, ∀ d, 0 ≤ a.adds d) (d : Dimension) :
    adding (actions.take n) d ≤ adding actions d := by
  have hsplit : adding actions d = adding (actions.take n) d + adding (actions.drop n) d := by
    rw [adding, adding, adding, ← List.sum_append, ← List.map_append, List.take_append_drop]
  have hrest : 0 ≤ adding (actions.drop n) d := by
    refine List.sum_nonneg fun amount hamount => ?_
    obtain ⟨a, ha, rfl⟩ := List.mem_map.mp hamount
    exact hnonneg a (List.mem_of_mem_drop ha) d
  omega

/-- Actions that create nothing add nothing. -/
lemma adding_of_none (h : ∀ a ∈ actions, a.kind ≠ .createAllocation) : adding actions d = 0 := by
  refine List.sum_eq_zero fun amount hamount => ?_
  obtain ⟨a, ha, rfl⟩ := List.mem_map.mp hamount
  exact if_neg (h a ha)

end Check

/-! ### Runs -/

/-- No goal reserves a negative budget, nothing overflows, and the actions carried out in the
current round are remembered. -/
def ceilingsWatch : Watch (List Action) where
  accept _ w r carried := r.goal.budget.Nonneg ∧ NoOverflow w r.proposal.actions ∧ carried = []
  report _ carried _ a _ carried' := carried' = carried ++ [a]

section Runs

variable {k : Kernel} {w w₁ : World} {r : Acceptance} {n : ℕ} {carried carried' : List Action}
  {actions : List Action}

lemma carried_eq (h : Carries (ceilingsWatch.report r) carried w actions carried' w₁) :
    carried' = carried ++ actions := by
  induction h with
  | nil => rw [List.append_nil]
  | cons htells hreport hproject hrest ih => rw [ih, hreport, List.append_assoc]; rfl

/-- What is known of the actions carried out so far in a round that began in `w`. -/
structure Charged (w : World) (carried : List Action) (w₁ : World) : Prop where
  nonneg : NonNegative w₁
  held : ∀ d : Dimension, w₁.held d ≤ w.held d + adding carried d
  positive : ∀ a ∈ carried, a.kind = .createAllocation →
    1 ≤ a.resources.cpuMillis ∧ 1 ≤ a.resources.memoryMB

/-- A round adds no more than what it carries out. -/
lemma Acceptance.Holds.charged (h : r.Holds k w) (hw : NonNegative w)
    (hbudget : r.goal.budget.Nonneg)
    (hcarried : Carries (ceilingsWatch.report r) [] w (r.proposal.actions.take n) carried' w₁) :
    Charged w carried' w₁ := by
  obtain ⟨-, simEnd, hwalk⟩ := authorize_admitted h
  refine (hwalk.abreast (P := fun _ => True)
    (R := fun carried sim w₁ => sim.ledger = w₁.ledger ∧ Charged w carried w₁) ?_
    (fun _ _ => trivial) n hcarried ⟨rfl, hw, fun d => by simp [adding],
      fun _ ha => absurd ha List.not_mem_nil⟩).elim fun _ h => h.2
  rintro carried carried' sim sim₁ w₁ w₂ a e ⟨hledger, hcharged⟩ - hvalid hsim htells rfl hproject
  have hstart : a.kind = .startAllocation →
      ∀ s, w₁.ledger.slots a.target = some s → s.phase ≠ .stopped := by
    rw [← hledger]
    exact validateAction_unstopped hvalid
  obtain ⟨hnonneg, hheld, hpositive⟩ := held_step hcharged.nonneg htells hproject
    (validateAction_free hledger hvalid) hstart
    fun hk => by rwa [(validateAction_placed hvalid hk).budget]
  refine ⟨ledger_lockstep hledger hvalid hsim htells.toReports hproject, hnonneg, fun d => ?_, ?_⟩
  · have hbefore := hcharged.held d
    have hafter := hheld d
    rw [adding, List.map_append, List.sum_append, List.map_singleton, List.sum_singleton]
    rw [adding] at hbefore
    omega
  · intro b hb hk
    rcases List.mem_append.mp hb with hb | hb
    · exact hcharged.positive b hb hk
    · rw [List.mem_singleton.mp hb] at hk ⊢
      exact hpositive hk

/-- **One round keeps within the ceilings.** -/
lemma Acceptance.Holds.ceilings (h : r.Holds k w) (hw : NonNegative w)
    (hbudget : r.goal.budget.Nonneg) (hfits : NoOverflow w r.proposal.actions)
    (hheld : ∀ d : Dimension, 0 < d.ceiling k.policy → w.held d ≤ (d.ceiling k.policy).toInt)
    (hcharged : Charged w (r.proposal.actions.take n) w₁) (d : Dimension)
    (hceiling : 0 < d.ceiling k.policy) : w₁.held d ≤ (d.ceiling k.policy).toInt := by
  have hafter := hcharged.held d
  by_cases hnone : ∀ a ∈ r.proposal.actions.take n, a.kind ≠ .createAllocation
  · rw [adding_of_none hnone, add_zero] at hafter
    exact hafter.trans (hheld d hceiling)
  · -- a creation was carried out: its resources are the goal's, and so are those of the others
    push Not at hnone
    obtain ⟨b, hb, hkb⟩ := hnone
    obtain ⟨-, simEnd, hwalk⟩ := authorize_admitted h
    have hplaced : ∀ a ∈ r.proposal.actions, a.kind = .createAllocation →
        a.resources = r.goal.workload.resources ∧ a.budget = r.goal.budget := by
      intro a ha hk
      obtain ⟨-, sim, -, hvalid⟩ := hwalk.validated ha
      exact ⟨(validateAction_placed hvalid hk).resources, (validateAction_placed hvalid hk).budget⟩
    have hpositive := hcharged.positive b hb hkb
    rw [(hplaced b (List.mem_of_mem_take hb) hkb).1] at hpositive
    have hadds : ∀ a ∈ r.proposal.actions, ∀ d, 0 ≤ a.adds d := by
      intro a ha d
      rw [Action.adds]
      split_ifs with hk
      · rw [(hplaced a ha hk).1, (hplaced a ha hk).2]
        exact amount_nonneg hpositive hbudget d
      · exact le_refl _
    have hsum (d : Dimension) : 0 ≤ adding r.proposal.actions d := by
      refine List.sum_nonneg fun amount hamount => ?_
      obtain ⟨a, ha, rfl⟩ := List.mem_map.mp hamount
      exact hadds a ha d
    have htake := adding_take_le n hadds d
    obtain ⟨-, -, hchecked⟩ := authorize_governed h
    rcases checkClusterBudget_ok hchecked with hzero | hwithin
    · -- the proposal does create something
      have hcount : 1 ≤ adding r.proposal.actions .allocations := by
        have hone : b.adds .allocations = 1 := by
          rw [Action.adds, if_pos hkb]
          rfl
        rw [← hone]
        refine List.single_le_sum (fun amount hamount => ?_) _
          (List.mem_map.mpr ⟨b, List.mem_of_mem_take hb, rfl⟩)
        obtain ⟨a, ha, rfl⟩ := List.mem_map.mp hamount
        exact hadds a ha .allocations
      have htotal : Dimension.allocations.total (addedCommitment r.proposal) =
          Int64.ofInt (adding r.proposal.actions .allocations) := addedCommitment_of _
      have hsmall := hfits .allocations
      have hheld₀ := held_nonneg hw .allocations
      have hint := toInt_ofInt (by omega)
        (show adding r.proposal.actions .allocations ≤ Int64.maxValue.toInt by omega)
      rw [← htotal] at hint
      have hzero' : (Dimension.allocations.total (addedCommitment r.proposal)).toInt = 0 := by
        rw [Dimension.total, hzero]
        rfl
      omega
    · have hle := Int64.le_iff_toInt_le.mp (hwithin d hceiling)
      have hcommitment : d.total (commitment { w with observedAt := r.now }) =
          Int64.ofInt (w.held d) := commitment_of _
      rw [hcommitment, addedCommitment_of, ← Int64.ofInt_add,
        toInt_ofInt (add_nonneg (held_nonneg hw d) (hsum d)) (hfits d)] at hle
      omega

end Runs

/-- **The ceilings hold over whole courses.** Where nothing overflows, no live allocation
commits a negative amount at the start and no goal reserves a negative budget: if what the
world commits is within every ceiling at the start, it always is. -/
theorem commitment_within {k : Kernel} {start w : World} {carried : List Action}
    (hnonneg : NonNegative start) (hfits : NoOverflow start []) (hstart : Within k.policy start)
    (hcourse : Course ceilingsWatch k [] start carried w) : Within k.policy w := by
  have hceilings := (within_iff hnonneg hfits).mp hstart
  have hinv := hcourse.invariant (I := fun _ w => NonNegative w ∧
    ∀ d : Dimension, 0 < d.ceiling k.policy → w.held d ≤ (d.ceiling k.policy).toInt) ?_ ?_
    ⟨hnonneg, hceilings⟩
  · -- a sum within a ceiling fits a machine integer
    intro d hceiling
    have hheld := hinv.2 d hceiling
    rw [commitment_of, Int64.le_iff_toInt_le,
      toInt_ofInt (held_nonneg hinv.1 d) (hheld.trans (Int64.toInt_le _))]
    exact hheld
  · rintro carried carried₁ carried₂ w w₁ r n ⟨hnonneg, hheld⟩ hholds
      ⟨hbudget, hfits, rfl⟩ hcarried
    have hcharged := hholds.charged hnonneg hbudget hcarried
    rw [carried_eq hcarried, List.nil_append] at hcharged
    exact ⟨hcharged.nonneg, hholds.ceilings hnonneg hbudget hfits hheld hcharged⟩
  · rintro carried w w₁ e ⟨hnonneg, hheld⟩ hk hproject
    have hcreates : e.kind ≠ .allocationCreated := by
      intro hkind
      rw [hkind] at hk
      cases hk
    have hruns : e.kind ≠ .allocationRunning := by
      intro hkind
      rw [hkind] at hk
      cases hk
    obtain ⟨hnonneg₁, hle⟩ := held_kept hnonneg hproject hcreates fun h => absurd h hruns
    exact ⟨hnonneg₁, fun d hceiling => (hle d).trans (hheld d hceiling)⟩

/-! ### A negative commitment, deleted -/

namespace Ceilings

def kernel : Kernel :=
  ⟨{ maxActionsPerProposal := 8, grants := defaultGrants, maxAllocations := 10
     clusterCeiling := ⟨1000, 1000⟩, clusterBudget := ⟨10, 10, 10, 10⟩ }⟩

def image : String := "web@sha256:0"

def node : Node :=
  { id := "n1", capacity := ⟨5000, 5000⟩, healthy := true
    images := Table.ofEntries [(image, true)] }

def allocation (id workload : String) (cpu : Int64) : Allocation :=
  { id := id, workload := workload, node := "n1", image := image, resources := ⟨cpu, 100⟩
    phase := .created }

def goal (workload : String) : Goal :=
  { id := workload, workload :=
      { name := workload, image := image, replicas := 1, resources := ⟨100, 100⟩ } }

def acceptance (workload agent : String) (a : Action) : Acceptance :=
  { host := quietHost, actor := { id := agent }, goal := goal workload, now := 20
    proposal := { id := "p", agentID := agent, goalID := workload, basedOnRevision := 0
                  actions := [a] } }

/-- One allocation commits 1200, another takes 500 off the sum. -/
def start : World :=
  { nodes := Table.ofEntries [("n1", node)]
    allocations := Table.ofEntries
      [("old-0", allocation "old-0" "old" (-500)), ("web-0", allocation "web-0" "web" 1200)] }

def delete : Action :=
  { id := "delete", kind := .deleteAllocation, target := "old-0", workload := "old" }

def deleted : Evidence :=
  { kind := .allocationDeleted, target := "old-0"
    observed := Table.ofEntries [("deleted", "true")] }

/-- The world after one report. -/
def after (w : World) (e : Evidence) : World := (project w e).toOption.getD w

/-- One action is accepted and carried out by the in-memory data plane. -/
lemma courseOf {w : World} {a : Action} {e : Evidence} (workload agent : String)
    (hholds : (acceptance workload agent a).Holds kernel w)
    (hexec : MemoryExecutor.execute quietHost w a = .ok e)
    (hproject : project w e = .ok (after w e)) (hfits : NoOverflow w [a]) :
    Course ceilingsWatch kernel [] w [a] (after w e) := by
  have hbudget : (goal workload).budget.Nonneg := by
    constructor <;> exact Int64.le_refl _
  exact .round _ 1 hholds ⟨hbudget, hfits, rfl⟩
    (.cons (memoryExecutor_tells hexec) rfl hproject (.nil _ _)) (.refl _ _)

lemma course : Course ceilingsWatch kernel [] start [delete] (after start deleted) := by
  refine courseOf "old" "remediation-agent" ?_ (by decide) (by decide +kernel) fun d => ?_
  · unfold Acceptance.Holds
    decide +kernel
  · cases d <;> decide +kernel

end Ceilings

open Ceilings

/-- A world commits 700 of at most 1000, because one of its allocations has negative
resources. An accepted proposal deletes that allocation, and the world commits 1200. -/
theorem ceiling_exceeded :
    Course ceilingsWatch kernel [] start [delete] (after start deleted) ∧
      commitment start = { allocations := 2, resources := ⟨700, 200⟩ } ∧
      kernel.policy.clusterCeiling = ⟨1000, 1000⟩ ∧
      commitment (after start deleted) = { allocations := 1, resources := ⟨1200, 100⟩ } :=
  ⟨course, by decide +kernel, rfl, by decide +kernel⟩

namespace Ceilings

def empty : World := { nodes := Table.ofEntries [("n1", node)] }

def create : Action :=
  { id := "create", kind := .createAllocation, target := "web-0", workload := "web", node := "n1"
    image := image, resources := ⟨100, 100⟩ }

def created : Evidence :=
  { kind := .allocationCreated, target := "web-0"
    observed := Table.ofEntries
      [("node", "n1"), ("workload", "web"), ("image", image), ("replica", "0"),
       ("cpu_millis", "100"), ("memory_mb", "100")] }

lemma courseOfOne : Course ceilingsWatch kernel [] empty [create] (after empty created) := by
  refine courseOf "web" "placement-agent" ?_ (by decide) (by decide +kernel) fun d => ?_
  · unfold Acceptance.Holds
    decide +kernel
  · cases d <;> decide +kernel

lemma empty_nonnegative : NonNegative empty := by
  intro id x hget
  rw [empty, get_empty] at hget
  cases hget

lemma empty_fits : NoOverflow empty [] := by
  intro d
  cases d <;> decide +kernel

lemma empty_within : Within kernel.policy empty := by
  intro d
  cases d <;> decide +kernel

end Ceilings

theorem commitment_within_one :
    Within kernel.policy (after empty created) :=
  commitment_within empty_nonnegative empty_fits empty_within courseOfOne

end A4s
