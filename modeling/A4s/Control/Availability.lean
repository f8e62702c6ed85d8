/-
How much capacity an accepted proposal takes away.

A replica serves when it is ready at a given instant. Stops, drains and deletions
take replicas out of service, each validated on its own and against the goal of the
proposal; what they take together, and from whom, is counted here.

* `Effect.serves`: evidence takes out the allocation it retires or deletes, and puts
  nothing into service unless it measures readiness.
* `Executes.serves`, `Plays.serves`: the allocations that serve after a proposal.
* `ready_floor_iff`: **the floor of a goal survives an accepted proposal** exactly
  when the proposal disturbs none of its replicas, or few enough.
-/
import A4s.Control.Execution

namespace A4s

variable {w : World} {id : String}

open Go

/-! ### Replicas in service -/

/-- The allocation is a replica of the workload and ready. -/
def World.serves (w : World) (workload : String) (now : Time) (id : String) : Bool :=
  w.allocations[id]?.any fun x => decide (x.workload = workload) && x.readyAt now

/-- The replicas of a workload that are ready. -/
def World.serving (w : World) (workload : String) (now : Time) : Finset String :=
  Table.keysWhere (fun _ x => decide (x.workload = workload) && x.readyAt now) w.allocations

lemma mem_serving {workload : String} {now : Time} :
    id ∈ w.serving workload now ↔ w.serves workload now id = true := by
  rw [World.serving, Table.mem_keysWhere, World.serves, Option.any_eq_true]

lemma readyReplicas_eq_card (w : World) (workload : String) (now : Time) :
    readyReplicas w workload now = (w.serving workload now).card :=
  Table.count_eq_card _ _

lemma serves_congr {w' : World} (h : w'.allocations[id]? = w.allocations[id]?)
    (workload : String) (now : Time) : w'.serves workload now id = w.serves workload now id := by
  rw [World.serves, World.serves, h]

lemma serves_of_get {x : Allocation}
    (h : w.allocations[id]? = some x) (workload : String) (now : Time) :
    w.serves workload now id = (decide (x.workload = workload) && x.readyAt now) := by
  rw [World.serves, h]
  rfl

lemma serves_of_absent (h : w.allocations[id]? = none)
    (workload : String) (now : Time) : w.serves workload now id = false := by
  rw [World.serves, h]
  rfl

/-! ### What evidence takes out of service -/

/-- Evidence after which its target is not in service. -/
def Evidence.takesOut (e : Evidence) (id : String) : Bool :=
  (e.kind.retires || decide (e.kind = .allocationDeleted)) && decide (e.target = id)

section Serves

variable {w w' : World} {e : Evidence} {id : String}

lemma takesOut_of_ne (h : id ≠ e.target) : e.takesOut id = false := by
  simp [Evidence.takesOut, h.symm]

/-- An update that does not retire its allocation and measures nothing keeps it in
service or out of it. -/
lemma Updates.serves {kind : EvidenceKind} {x x' : Allocation} (h : Updates kind x x')
    (hmeasure : kind.measuresReadiness = false) (hspent : kind ≠ .agentSpent)
    (workload : String) (now : Time) :
    (decide (x'.workload = workload) && x'.readyAt now) =
      ((decide (x.workload = workload) && x.readyAt now) && !kind.retires) := by
  rw [h.identity.workload]
  cases hretires : kind.retires with
  | true => simp [Allocation.readyAt, h.retired hretires]
  | false => simp [Allocation.readyAt, h.keeps hretires hmeasure hspent, h.expiry hmeasure]

/-- Rewriting what an allocation holds keeps it in service or out of it. -/
lemma serves_insert {x x' : Allocation} {j : String} (hget : w.allocations[j]? = some x)
    (ha : w'.allocations = w.allocations.insert j x') (hworkload : x'.workload = x.workload)
    (hready : x'.ready = x.ready) (hexpiry : x'.readyExpiresAt = x.readyExpiresAt)
    (workload : String) (now : Time) : w'.serves workload now id = w.serves workload now id := by
  by_cases hid : id = j
  · subst hid
    have hget' : w'.allocations[id]? = some x' := by
      rw [ha]
      exact get_insert_self
    rw [serves_of_get hget', serves_of_get hget, hworkload, Allocation.readyAt, hready, hexpiry]
    rfl
  · refine serves_congr ?_ workload now
    rw [ha]
    exact get_insert_of_ne hid

/-- Evidence of other kinds takes nothing out of service. -/
lemma takesOut_of_kind (hretires : e.kind.retires = false) (hdelete : e.kind ≠ .allocationDeleted)
    (id : String) : e.takesOut id = false := by
  simp [Evidence.takesOut, hretires, hdelete]

/-- Evidence that takes nothing out leaves replicas in service where they are. -/
lemma serves_kept {workload : String} {now : Time}
    (hsame : w'.serves workload now id = w.serves workload now id) (hout : e.takesOut id = false) :
    w'.serves workload now id = (w.serves workload now id && !e.takesOut id) := by
  rw [hsame, hout, Bool.not_false, Bool.and_true]

/-- **What evidence takes out of service**: it takes out the allocation it retires or
deletes, and every other one is as it was. -/
theorem Effect.serves (h : Effect w e w') (hmeasure : e.kind.measuresReadiness = false)
    (hspent : e.kind ≠ .agentSpent) (workload : String) (now : Time) (id : String) :
    w'.serves workload now id = (w.serves workload now id && !e.takesOut id) := by
  cases h.populates with
  | same hretires _ hdeleted ha =>
    have hsame : w'.serves workload now id = w.serves workload now id :=
      serves_congr (by rw [ha]) workload now
    by_cases hk : e.kind = .allocationDeleted
    · -- what is deleted twice was not there the second time
      by_cases hid : id = e.target
      · rw [hsame, hid, serves_of_absent (hdeleted hk), Bool.false_and]
      · exact serves_kept hsame (takesOut_of_ne hid)
    · exact serves_kept hsame (takesOut_of_kind hretires hk id)
  | updated x x' hk hget hup ha =>
    by_cases hid : id = e.target
    · subst hid
      have hget' : w'.allocations[e.target]? = some x' := by
        rw [ha]
        exact get_insert_self
      have hdelete : e.kind ≠ .allocationDeleted := by
        intro hkind
        rw [hkind] at hk
        cases hk
      rw [serves_of_get hget', serves_of_get hget, hup.serves hmeasure hspent]
      simp [Evidence.takesOut, hdelete]
    · refine serves_kept (serves_congr ?_ workload now) (takesOut_of_ne hid)
      rw [ha]
      exact get_insert_of_ne hid
  | created node resources hk hnew hnode hres ha =>
    refine serves_kept ?_ (takesOut_of_kind (by rw [hk]; rfl) (by simp [hk]) id)
    by_cases hid : id = e.target
    · subst hid
      -- a new allocation is not ready
      rw [serves_of_absent hnew, serves_of_get (ha ▸ get_insert_self)]
      simp [Allocation.readyAt]
    · refine serves_congr ?_ workload now
      rw [ha]
      exact get_insert_of_ne hid
  | deleted x hk hget ha =>
    by_cases hid : id = e.target
    · subst hid
      have hgone : w'.allocations[e.target]? = none := by
        rw [ha, get_erase, if_pos rfl]
      rw [serves_of_absent hgone]
      simp [Evidence.takesOut, hk]
    · refine serves_kept (serves_congr ?_ workload now) (takesOut_of_ne hid)
      rw [ha, get_erase, if_neg hid]
  | holds j x volumes hk hget ha =>
    refine serves_kept (serves_insert hget ha rfl rfl rfl workload now) (takesOut_of_kind ?_ ?_ id)
    · rcases hk with hk | hk <;> rw [hk] <;> rfl
    · rcases hk with hk | hk <;> simp [hk]

end Serves

/-! ### What a proposal takes out of service -/

/-- A disruptive action of the list targets the allocation. -/
def disrupts (actions : List Action) (id : String) : Bool :=
  actions.any fun a => disruptive a.kind && decide (a.target = id)

/-- The replicas of a workload that are ready and that a proposal disrupts. -/
def disturbed (w : World) (workload : String) (now : Time) (actions : List Action) :
    Finset String :=
  (w.serving workload now).filter fun id => disrupts actions id = true

section Reported

variable {w w' : World} {a : Action} {e : Evidence}

/-- Executors do not measure readiness, and they do not meter agents. -/
lemma Reports.not_measured (h : Reports a e) :
    e.kind.measuresReadiness = false ∧ e.kind ≠ .agentSpent := by
  have hkind := h.kind
  cases hk : a.kind <;> simp only [hk, ActionKind.reports, List.mem_cons, List.not_mem_nil,
    or_false] at hkind
  case drainAllocation => rcases hkind with hkind | hkind <;> simp [hkind,
    EvidenceKind.measuresReadiness]
  all_goals simp [hkind, EvidenceKind.measuresReadiness]

/-- A disruptive action is about the allocation it targets. -/
lemma Reports.disrupted (h : Reports a e) (hdis : disruptive a.kind = true) :
    e.target = a.target := by
  have hsubject := h.subject
  cases hk : a.kind <;> simp only [hk, disruptive, Bool.false_eq_true] at hdis
  all_goals
    simp only [Action.subject, hk, ActionKind.onVolume, Bool.false_eq_true, if_false,
      Option.some.injEq] at hsubject
    exact hsubject.symm

/-- Only disruptive actions are reported with evidence that takes replicas out. -/
lemma Reports.takesOut (h : Reports a e) (id : String) (hout : e.takesOut id = true) :
    disrupts [a] id = true := by
  have hdis : disruptive a.kind = true := by
    have hkind := h.kind
    cases hk : a.kind <;> simp only [hk, ActionKind.reports, List.mem_cons, List.not_mem_nil,
      or_false] at hkind
    case stopAllocation | deleteAllocation | drainAllocation => rfl
    all_goals simp [Evidence.takesOut, hkind, EvidenceKind.retires] at hout
  simp only [Evidence.takesOut, Bool.and_eq_true, decide_eq_true_eq] at hout
  simp [disrupts, hdis, ← h.disrupted hdis, hout.2]

/-- A disruptive action that is reported complete takes its target out. -/
lemma Reports.completed (h : Reports a e) (hdone : e.kind ≠ .agentDraining) (id : String) :
    e.takesOut id = disrupts [a] id := by
  rw [Bool.eq_iff_iff]
  refine ⟨h.takesOut id, fun hdis => ?_⟩
  simp only [disrupts, List.any_cons, List.any_nil, Bool.or_false, Bool.and_eq_true,
    decide_eq_true_eq] at hdis
  have htarget := h.disrupted hdis.1
  have hkind := h.kind
  cases hk : a.kind <;> simp only [hk, disruptive, Bool.false_eq_true, false_and] at hdis
  all_goals
    simp only [hk, ActionKind.reports, List.mem_cons, List.not_mem_nil, or_false, hdone] at hkind
    simp [Evidence.takesOut, hkind, EvidenceKind.retires, htarget, hdis.2]

lemma disrupts_cons (a : Action) (rest : List Action) (id : String) :
    disrupts (a :: rest) id = (disrupts [a] id || disrupts rest id) := by
  simp [disrupts]

/-- **A proposal takes out of service at most what it disrupts.** -/
theorem Executes.serves {actions : List Action} (h : Executes w actions w') (workload : String)
    (now : Time) (hserves : w.serves workload now id = true)
    (hdis : disrupts actions id = false) : w'.serves workload now id = true := by
  induction h with
  | nil w => exact hserves
  | cons hreport hproject hrest ih =>
    rw [disrupts_cons, Bool.or_eq_false_iff] at hdis
    refine ih ?_ hdis.2
    have hout : ¬_ = true := fun hout => by simpa [hdis.1] using hreport.takesOut id hout
    rw [(project_effect hproject).serves hreport.not_measured.1 hreport.not_measured.2, hserves]
    simp [hout]

/-- The in-memory data plane drains at once. -/
lemma memoryExecutor_completes {host : Host} (h : MemoryExecutor.execute host w a = .ok e) :
    e.kind ≠ .agentDraining := by
  have hkind := (memoryExecutor_reports h).kind
  cases hk : a.kind <;> simp only [hk, ActionKind.reports, List.mem_cons, List.not_mem_nil,
    or_false] at hkind
  case drainAllocation =>
    simp only [MemoryExecutor.execute, hk, existingAllocation, require_bind_ok, pure_ok] at h
    obtain ⟨x, -, rfl⟩ := h
    simp
  all_goals simp [hkind]

/-- **The in-memory data plane takes out of service all that a proposal disrupts.** -/
theorem Plays.serves {host : Host} {actions : List Action} (h : Plays host w actions w')
    (workload : String) (now : Time) (id : String) :
    w'.serves workload now id = (w.serves workload now id && !disrupts actions id) := by
  induction h with
  | nil w => simp [disrupts]
  | @cons w w₁ w' a e rest hplay hproject hrest ih =>
    have hreport := memoryExecutor_reports hplay
    rw [ih, (project_effect hproject).serves hreport.not_measured.1 hreport.not_measured.2,
      hreport.completed (memoryExecutor_completes hplay), disrupts_cons a rest, Bool.not_or,
      Bool.and_assoc]

end Reported

/-! ### Proposals that take replicas out of service are carried out -/

/-- The kinds granted together with stops, drains and deletions. -/
def ActionKind.retirement : ActionKind → Bool
  | .cordonNode | .stopAllocation | .deleteAllocation | .drainAllocation | .detachVolume => true
  | _ => false

lemma mem_of_lookup_grantAll {kinds : List ActionKind} {kind : ActionKind}
    (h : (grantAll kinds).lookup kind = some true) : kind ∈ kinds := by
  induction kinds with
  | nil => cases h
  | cons head tail ih =>
    by_cases heq : kind = head
    · rw [heq]
      exact List.mem_cons_self
    · have hskip : (kind == head) = false := by simpa using heq
      rw [grantAll, List.map_cons, List.lookup_cons, hskip] at h
      exact List.mem_cons_of_mem _ (ih h)

lemma retirement_of_grantAll {kinds : List ActionKind} {kind kind' : ActionKind}
    (hall : ∀ k ∈ kinds, disruptive k = true → ∀ k' ∈ kinds, k'.retirement = true)
    (hdis : disruptive kind = true) (hgrant : (grantAll kinds).lookup kind = some true)
    (hgrant' : (grantAll kinds).lookup kind' = some true) : kind'.retirement = true :=
  hall kind (mem_of_lookup_grantAll hgrant) hdis kind' (mem_of_lookup_grantAll hgrant')

/-- The shipped policy grants disruption only next to cordons and detachments. -/
lemma defaultPolicy_retirement {agentID : String} {kind kind' : ActionKind}
    (hdis : disruptive kind = true)
    (hgrant : (Kernel.grantsFor ⟨defaultPolicy⟩ agentID).lookup kind = some true)
    (hgrant' : (Kernel.grantsFor ⟨defaultPolicy⟩ agentID).lookup kind' = some true) :
    kind'.retirement = true := by
  simp only [Kernel.grantsFor, defaultPolicy, defaultGrants, get_ofEntries_cons,
    get_ofEntries_nil] at hgrant hgrant'
  -- one case for each shipped agent, and one for every other name
  split_ifs at hgrant hgrant' <;> simp only [Option.getD_some, Option.getD_none] at hgrant hgrant'
  case neg => cases hgrant
  all_goals exact retirement_of_grantAll (by decide) hdis hgrant hgrant'

section Carried

variable {host : Host} {goal : Goal} {sim w : World} {a : Action}

lemma detach_plays (host : Host) {ref : VolumeRef} (hk : a.kind = .detachVolume)
    (href : a.volume = some ref) : ∃ w', Plays host w [a] w' := by
  apply Plays.of_report
  simp only [MemoryExecutor.execute, hk, volumeRef, href, require_some_bind]
  refine ⟨_, rfl, ?_⟩
  simp only [projectInto, projectVolumeDetached]
  cases w.volumes[ref.name]? with
  | none => exact ⟨_, rfl⟩
  | some v =>
    dsimp only
    split_ifs <;> exact ⟨_, rfl⟩

lemma cordon_plays (host : Host) {node : Node} (hk : a.kind = .cordonNode) (htarget : a.target ≠ "")
    (hget : w.nodes[a.target]? = some node) : ∃ w', Plays host w [a] w' := by
  apply Plays.of_report
  refine ⟨{ kind := .nodeCordoned, target := a.target
            observed := Table.ofEntries [("node", a.target), ("reason", a.reason)] }, ?_⟩
  simp only [MemoryExecutor.execute, hk, existingNode, cordonEvidence, require_bind_ok,
    refuseIf_bind_ok, pure_ok, projectInto, projectNodeCordoned, knownNode]
  exact ⟨⟨node, hget, htarget, rfl⟩, _, node, hget, rfl⟩

/-- A retirement that was validated is carried out by the data plane. -/
lemma Abreast.plays (h : Abreast sim w) (hkind : a.kind.retirement = true)
    (hvalid : validateAction host goal sim a = .ok ()) : ∃ w', Plays host w [a] w' := by
  cases hk : a.kind <;> simp only [hk, ActionKind.retirement, Bool.false_eq_true] at hkind
  case cordonNode =>
    simp only [validateAction, hk, validateCordonNode, refuseIf_bind_ok, refuseIf_ok] at hvalid
    have hsome : w.nodes[a.target]?.isSome := by
      rw [← h.nodes]
      simpa using hvalid.2
    obtain ⟨node, hget⟩ := Option.isSome_iff_exists.mp hsome
    exact cordon_plays host hk hvalid.1 hget
  case detachVolume =>
    simp only [validateAction, hk] at hvalid
    obtain ⟨ref, -, href, -⟩ := validateDetachVolume_ok hvalid
    exact detach_plays host hk href
  case stopAllocation =>
    simp only [validateAction, hk, validateStopAllocation, existingAllocation,
      require_bind_ok] at hvalid
    obtain ⟨x, hget, -⟩ := hvalid
    obtain ⟨y, hget⟩ := h.allocation hget
    exact allocation_plays host (.inl hk) hget
  case deleteAllocation =>
    simp only [validateAction, hk, validateDeleteAllocation, existingAllocation,
      require_bind_ok] at hvalid
    obtain ⟨x, hget, -⟩ := hvalid
    obtain ⟨y, hget⟩ := h.allocation hget
    exact allocation_plays host (.inr (.inl hk)) hget
  case drainAllocation =>
    simp only [validateAction, hk, validateDrainAllocation, existingAllocation,
      require_bind_ok] at hvalid
    obtain ⟨x, hget, -⟩ := hvalid
    obtain ⟨y, hget⟩ := h.allocation hget
    exact allocation_plays host (.inr (.inr hk)) hget

lemma Admitted.granted {grants : Grants} {simEnd : World} {actions : List Action}
    (hwalk : Admitted host grants goal sim actions simEnd) (ha : a ∈ actions) :
    grants.lookup a.kind = some true := by
  induction hwalk with
  | nil => cases ha
  | cons hgrant _ _ _ ih =>
    rcases List.mem_cons.mp ha with rfl | ha
    · exact hgrant
    · exact ih ha

/-- **Retirements that were accepted can be carried out to the end.** -/
theorem Admitted.plays {grants : Grants} {simEnd : World} {actions : List Action}
    (hwalk : Admitted host grants goal sim actions simEnd)
    (hkinds : ∀ a ∈ actions, a.kind.retirement = true) (h : Abreast sim w) :
    ∃ w', Plays host w actions w' := by
  induction hwalk generalizing w with
  | nil sim => exact ⟨w, .nil w⟩
  | cons hgrant hvalid hsim hrest ih =>
    obtain ⟨w₁, hplays⟩ := h.plays (hkinds _ List.mem_cons_self) hvalid
    cases hplays with
    | cons hplay hproject hnil =>
      cases hnil
      have habreast := h.step hvalid hsim (memoryExecutor_reports hplay) hproject
      obtain ⟨w', hrest⟩ := ih (fun a ha => hkinds a (List.mem_cons_of_mem _ ha)) habreast
      exact ⟨w', .cons hplay hproject hrest⟩

end Carried

/-! ### The floor -/

section Floor

variable {w w' : World} {actions : List Action}

lemma serving_split (w : World) (workload : String) (now : Time) (actions : List Action) :
    ((w.serving workload now).filter fun id => ¬disrupts actions id = true).card +
      (disturbed w workload now actions).card = readyReplicas w workload now := by
  rw [readyReplicas_eq_card, disturbed, Nat.add_comm]
  exact Finset.card_filter_add_card_filter_not _

/-- A prefix of a proposal leaves in service what the proposal does not disturb. -/
lemma Executes.floor {n : ℕ} (h : Executes w (actions.take n) w') (workload : String) (now : Time) :
    readyReplicas w workload now ≤
      readyReplicas w' workload now + (disturbed w workload now actions).card := by
  rw [← serving_split w workload now actions, readyReplicas_eq_card w']
  refine Nat.add_le_add_right (Finset.card_le_card fun id hid => ?_) _
  obtain ⟨hserving, hdis⟩ := Finset.mem_filter.mp hid
  refine mem_serving.mpr (h.serves workload now (mem_serving.mp hserving) ?_)
  -- what a prefix disrupts, the proposal disrupts
  rw [Bool.eq_false_iff]
  intro hprefix
  obtain ⟨a, ha, hat⟩ := List.any_eq_true.mp hprefix
  exact hdis (List.any_eq_true.mpr ⟨a, List.mem_of_mem_take ha, hat⟩)

/-- The data plane takes out of service all that the proposal disturbs. -/
lemma Plays.floor {host : Host} (h : Plays host w actions w') (workload : String) (now : Time) :
    readyReplicas w workload now =
      readyReplicas w' workload now + (disturbed w workload now actions).card := by
  rw [← serving_split w workload now actions, readyReplicas_eq_card w']
  congr 2
  ext id
  rw [Finset.mem_filter, mem_serving, mem_serving, h.serves]
  simp

end Floor

lemma authorize_retirement {host : Host} {actor : AgentDescriptor} {goal : Goal}
    {p : Proposal} (haccepted : authorize host ⟨defaultPolicy⟩ actor goal w p = .ok ())
    (hdis : ∃ a ∈ p.actions, disruptive a.kind = true) : ∃ w', Plays host w p.actions w' := by
  obtain ⟨-, sim, hwalk⟩ := authorize_admitted haccepted
  obtain ⟨a, ha, hdis⟩ := hdis
  refine hwalk.plays (fun b hb => ?_) ⟨rfl, fun _ => rfl⟩
  exact defaultPolicy_retirement hdis (hwalk.granted ha) (hwalk.granted hb)

/-- **The floor of a goal survives an accepted proposal** exactly when the proposal
disturbs none of its ready replicas, or leaves all but one of its replicas ready. The
proposal may be for any goal, and readiness is that of the instant of authorization. -/
theorem ready_floor_iff {host : Host} {actor : AgentDescriptor} {goal : Goal} {w : World}
    {p : Proposal} (haccepted : authorize host ⟨defaultPolicy⟩ actor goal w p = .ok ())
    (other : Goal) :
    (∀ n w', Executes w (p.actions.take n) w' →
        min (readyReplicas w other.workload.name (w.now host.wall) : ℤ)
            (other.workload.replicas.toInt - 1) ≤
          readyReplicas w' other.workload.name (w.now host.wall)) ↔
      disturbed w other.workload.name (w.now host.wall) p.actions = ∅ ∨
        (disturbed w other.workload.name (w.now host.wall) p.actions).card +
            (other.workload.replicas.toInt - 1) ≤
          readyReplicas w other.workload.name (w.now host.wall) := by
  constructor
  · intro hfloor
    refine or_iff_not_imp_left.mpr fun hsome => ?_
    obtain ⟨id, hid⟩ := Finset.nonempty_iff_ne_empty.mpr hsome
    have hcard : 0 < (disturbed w other.workload.name (w.now host.wall) p.actions).card :=
      Finset.card_pos.mpr ⟨id, hid⟩
    -- the data plane takes the disturbed replicas out, all of them
    have hdis : ∃ a ∈ p.actions, disruptive a.kind = true := by
      obtain ⟨a, ha, hat⟩ := List.any_eq_true.mp (Finset.mem_filter.mp hid).2
      exact ⟨a, ha, (Bool.and_eq_true _ _ ▸ hat).1⟩
    obtain ⟨w', hplays⟩ := authorize_retirement haccepted hdis
    have hafter := hfloor p.actions.length w' (by rw [List.take_length]; exact hplays.executes)
    have hcount := hplays.floor other.workload.name (w.now host.wall)
    omega
  · rintro hfew n w' hexec
    have hcount := hexec.floor other.workload.name (w.now host.wall)
    rcases hfew with hnone | hfew
    · rw [hnone, Finset.card_empty] at hcount
      omega
    · omega

/-! ### Two drains empty a workload of two replicas -/

namespace Availability

/-- An agent workload of two replicas. -/
def goal : Goal :=
  { id := "desk", workload := { name := "desk", replicas := 2, runtime := some {} } }

def replica (id : String) : Allocation :=
  { id := id, workload := "desk", node := "n1", phase := .running, ready := true }

def world : World :=
  { nodes := Table.ofEntries [("n1", { id := "n1", healthy := true })]
    allocations := Table.ofEntries [("desk-1", replica "desk-1"), ("desk-0", replica "desk-0")] }

def drain (id : String) : Action :=
  { id := "drain-" ++ id, kind := .drainAllocation, target := id, workload := "desk" }

def proposal : Proposal :=
  { id := "p", agentID := "rollout-agent", goalID := "desk", basedOnRevision := 0
    actions := [drain "desk-0", drain "desk-1"]
    expectedEvidence := [⟨.allocationDrained, "desk-0", "true"⟩,
      ⟨.allocationDrained, "desk-1", "true"⟩] }

lemma accepted : authorize quietHost ⟨defaultPolicy⟩ { id := "rollout-agent" } goal world
    proposal = .ok () := by
  decide

end Availability

open Availability

/-- The kernel accepts the drain of both replicas of a workload of two, and the data
plane leaves none of them ready. -/
theorem ready_below_floor :
    authorize quietHost ⟨defaultPolicy⟩ { id := "rollout-agent" } goal world proposal = .ok () ∧
      goal.workload.replicas = 2 ∧
      readyReplicas world "desk" (world.now 0) = 2 ∧
      ∃ w', Executes world proposal.actions w' ∧
        readyReplicas w' "desk" (world.now 0) = 0 := by
  have hdis : ∃ a ∈ proposal.actions, disruptive a.kind = true := by decide
  obtain ⟨w', hplays⟩ := authorize_retirement accepted hdis
  have hready : readyReplicas world "desk" (world.now 0) = 2 := by decide
  have hboth : (disturbed world "desk" (world.now 0) proposal.actions).card = 2 := by decide
  have hcount := hplays.floor "desk" (world.now 0)
  exact ⟨accepted, rfl, hready, w', hplays.executes, by omega⟩

/-- The floor of the workload whose replicas are both drained. -/
theorem ready_floor_iff_drained :
    (∀ n w', Executes world (proposal.actions.take n) w' →
        min (readyReplicas world "desk" (world.now 0) : ℤ) (2 - 1) ≤
          readyReplicas w' "desk" (world.now 0)) ↔
      disturbed world "desk" (world.now 0) proposal.actions = ∅ ∨
        (disturbed world "desk" (world.now 0) proposal.actions).card + (2 - 1 : ℤ) ≤
          readyReplicas world "desk" (world.now 0) :=
  ready_floor_iff accepted goal

end A4s
