/-
The disruption governor over whole runs (`control/disruption.go`).

Each disruption that evidence brings about is dated and entered in a ledger, which forgets
what is older than `DisruptionRetention`. The governor compares what is recent in the ledger
with the budget once for each proposal, in the world as read.

* `recorded`, `project_disruptions`: what a report enters in the ledger.
* `Tolerated`, `checkDisruptionBudget_iff`: what the check establishes.
* `Chronicle`, `paceWatch`: all disruptions of a run, on one clock.
* `Paced`: what holds within a round; `Paced.step` is one action carried out.
* `disruptions_paced`: **every window and every pair of disruptions** of every run.
-/
import A4s.Control.Spread
import A4s.Go.Window

namespace A4s

open Go

/-! ### What a report enters in the ledger -/

/-- Evidence that takes capacity away. -/
def EvidenceKind.disrupts : EvidenceKind → Bool
  | .allocationStopped => true
  | .allocationDeleted => true
  | .allocationDrained => true
  | _ => false

/-- The entry for an allocation that is disrupted. -/
def disruption (w : World) (x : Allocation) (e : Evidence) : Disruption :=
  { target := x.id, workload := x.workload, node := x.node, domain := domainOf w x.node
    kind := e.kind, at_ := e.observedAt }

/-- The entry a report makes, if it makes one: the report is dated, and the allocation it takes
away was there and had not stopped. -/
def recorded (w : World) (e : Evidence) : Option Disruption :=
  if e.kind.disrupts = true ∧ e.observedAt ≠ 0 then
    (w.allocations[e.target]?.filter fun x => decide (x.phase ≠ .stopped)).map (disruption w · e)
  else none

/-- The ledger with an entry, pruned relative to it. -/
def entered (ledger : List Disruption) : Option Disruption → List Disruption
  | none => ledger
  | some d => since Disruption.at_ (d.at_ - disruptionRetention) (ledger ++ [d])

section Recorded

variable {w w' : World} {e : Evidence} {x : Allocation}

lemma recorded_eq_some {d : Disruption} (h : recorded w e = some d) :
    e.kind.disrupts = true ∧ ∃ x, w.allocations[e.target]? = some x ∧ d = disruption w x e := by
  rw [recorded] at h
  split_ifs at h with hcounts
  obtain ⟨x, hx, rfl⟩ := Option.map_eq_some_iff.mp h
  exact ⟨hcounts.1, x, (Option.filter_eq_some_iff.mp hx).1, rfl⟩

lemma recorded_of_kind (hk : e.kind.disrupts = false) : recorded w e = none := by
  rw [recorded, if_neg]
  rintro ⟨hkind, -⟩
  rw [hkind] at hk
  cases hk

/-- The code's entry, for the allocation the report is about. -/
lemma recordDisruption_entered (hk : e.kind.disrupts = true)
    (hget : w.allocations[e.target]? = some x) :
    (recordDisruption w x e.kind e.observedAt).disruptions =
      entered w.disruptions (recorded w e) := by
  rw [recordDisruption, recorded, hget]
  by_cases hdated : e.observedAt = 0
  · rw [if_pos (.inl hdated), if_neg (fun h => h.2 hdated)]
    rfl
  · by_cases hstopped : x.phase = .stopped
    · rw [if_pos (.inr hstopped), if_pos ⟨hk, hdated⟩, Option.filter_some_neg (by simpa)]
      rfl
    · rw [if_neg (by simp [hdated, hstopped]), if_pos ⟨hk, hdated⟩,
        Option.filter_some_pos (by simpa)]
      rfl

/-- What the ledger gets does not depend on the rest of the world. -/
lemma recordDisruption_congr {x' : Allocation} {kind : EvidenceKind} {at_ : Time}
    (hledger : w'.disruptions = w.disruptions) (hdomains : w'.domains = w.domains)
    (hid : x'.id = x.id) (hsame : x'.identity = x.identity) (hphase : x'.phase = x.phase) :
    (recordDisruption w' x' kind at_).disruptions =
      (recordDisruption w x kind at_).disruptions := by
  have hworkload : x'.workload = x.workload := congrArg Identity.workload hsame
  have hnode : x'.node = x.node := congrArg Identity.node hsame
  simp only [recordDisruption, hphase, hid, hworkload, hnode, domainOf_eq, hdomains, hledger]
  split_ifs
  · exact hledger
  · rfl

lemma applyReadiness_disruptions (w : World) (x : Allocation) (e : Evidence) :
    (applyReadiness w x e).disruptions = w.disruptions := by
  unfold applyReadiness
  dsimp only
  split_ifs <;> rfl

/-- Other evidence leaves the ledger alone. -/
lemma projectInto_disruptions (hk : e.kind.disrupts = false) :
    Ensures (fun next => next.disruptions = w.disruptions) (projectInto w e) := by
  unfold projectInto
  split <;> rename_i hkind <;> rw [hkind] at hk <;>
    simp only [EvidenceKind.disrupts, Bool.true_eq_false] at hk
  all_goals
    try simp only [projectImagePresent, projectAllocationCreated, projectVolumeCreated,
      projectVolumeAttached, projectVolumeDetached, projectVolumeSnapshotted, projectVolumeBackedUp,
      projectVolumeQuiesced, projectVolumeTransferred, projectVolumeAdopted, projectPolicyApplied,
      projectZonePublished, projectImagesCollected, projectSnapshotsPruned,
      projectDatabaseBackedUp, projectBackupVerified, projectVolumeRestored, projectSecretMounted,
      projectNetworkAttached, projectNetworkDetached, projectAllocationRunning, projectReady,
      projectNodeCordoned, projectNodeUncordoned, projectNodeReachability,
      projectAllocationFailed, projectRouteReachable, projectToolsGranted, projectAgentSpent,
      projectAgentDraining, projectProviderReachable, projectApprovalGranted,
      projectApprovalRevoked, projectQueueObserved]
    -- every way through the function ends in a refusal or in a world with the same ledger
    repeat' first
      | with_reducible exact .fail _
      | with_reducible refine .bind fun _ => ?_
      | with_reducible refine .ite ?_ ?_
      | with_reducible exact .ret (applyReadiness_disruptions w _ e)
      | exact .ret rfl
      | exact .ok rfl
      | split

/-- **What a report does to the ledger.** -/
lemma project_disruptions (h : project w e = .ok w') :
    w'.disruptions = entered w.disruptions (recorded w e) := by
  obtain ⟨next, hinto, hnext⟩ := bind_ok.mp h
  have hdisruptions : w'.disruptions = next.disruptions := by
    cases hnext
    split_ifs <;> rfl
  rw [hdisruptions]
  cases hk : e.kind.disrupts with
  | false =>
    rw [projectInto_disruptions hk next hinto, recorded_of_kind hk]
    rfl
  | true =>
    cases hkind : e.kind <;> simp only [hkind, EvidenceKind.disrupts, Bool.false_eq_true] at hk
    case allocationStopped =>
      simp only [projectInto, hkind, projectAllocationStopped, knownAllocation,
        require_bind_ok, pure_ok] at hinto
      obtain ⟨x, hget, rfl⟩ := hinto
      rw [← recordDisruption_entered (by rw [hkind]; rfl) hget, hkind]
      rfl
    case allocationDeleted =>
      simp only [projectInto, hkind, projectAllocationDeleted] at hinto
      split at hinto <;> rename_i hget <;> cases hinto
      · rw [recorded, hget]
        split_ifs <;> rfl
      · rename_i x
        rw [← recordDisruption_entered (by rw [hkind]; rfl) hget, hkind]
        split
        · rename_i n hnode
          exact recordDisruption_congr rfl (domains_insert hnode rfl rfl) rfl rfl rfl
        · rfl
    case allocationDrained =>
      simp only [projectInto, hkind, projectAllocationDrained, knownAllocation,
        require_bind_ok, pure_ok] at hinto
      obtain ⟨x, hget, rfl⟩ := hinto
      rw [← recordDisruption_entered (by rw [hkind]; rfl) hget, hkind]
      exact recordDisruption_congr rfl (domains_congr rfl) rfl rfl rfl

end Recorded

/-! ### The check -/

section Check

variable {host : Host} {k : Kernel} {w : World} {p : Proposal}

/-- The actions that would disrupt. -/
def disrupting (actions : List Action) : List Action := actions.filter (disruptive ·.kind)

lemma now_of_dated (host : Host) (h : w.observedAt ≠ 0) : w.now host.wall = w.observedAt :=
  if_neg h

lemma length_recentDisruptions {now : Time} {window : Duration} (h : 0 < window) :
    (recentDisruptions w now window).length =
      (since Disruption.at_ (now - window) w.disruptions).length := by
  rw [recentDisruptions, if_neg (not_le.mpr h), List.length_insertionSort]
  rfl

lemma mem_recentDisruptions {now : Time} {window : Duration} {d : Disruption} (h : 0 < window) :
    d ∈ recentDisruptions w now window ↔
      d ∈ since Disruption.at_ (now - window) w.disruptions := by
  rw [recentDisruptions, if_neg (not_le.mpr h), List.mem_insertionSort]
  rfl

/-- The known domains the actions would disturb. -/
def disturbedDomains (w : World) (actions : List Action) : List String :=
  (((disrupting actions).map (actionDomain w)).filter (· ≠ "")).dedup

lemma mem_disturbedDomains {actions : List Action} {a : Action} (ha : a ∈ disrupting actions)
    (hdomain : actionDomain w a ≠ "") : actionDomain w a ∈ disturbedDomains w actions := by
  rw [disturbedDomains, List.mem_dedup, List.mem_filter]
  exact ⟨List.mem_map_of_mem ha, decide_eq_true hdomain⟩

/-- The window of the budget. -/
def Kernel.window (k : Kernel) : Duration :=
  if k.policy.disruptionWindow ≤ 0 then defaultDisruptionWindow else k.policy.disruptionWindow

/-- The governor tolerates a proposal that disrupts. -/
structure Tolerated (k : Kernel) (w : World) (now : Time) (p : Proposal) : Prop where
  budget : 0 < k.policy.maxDisruptionsPerWindow →
    ((recentDisruptions w now k.window).length + (disrupting p.actions).length : ℤ) ≤
      k.policy.maxDisruptionsPerWindow.toInt
  cooldown : 0 < k.policy.disruptionCooldown → (disturbedDomains w p.actions).length ≤ 1 ∧
    ∀ domain ∈ disturbedDomains w p.actions,
      ∀ d ∈ recentDisruptions w now k.policy.disruptionCooldown,
        d.domain ≠ "" → d.domain = domain

/-- **What the check establishes** for a proposal that disrupts. -/
lemma checkDisruptionBudget_iff : checkDisruptionBudget host k w p = .ok () ↔
    (disrupting p.actions ≠ [] → Tolerated k w (w.now host.wall) p) := by
  rw [checkDisruptionBudget]
  by_cases hnone : p.actions.filter (disruptive ·.kind) = []
  · exact iff_of_true (if_pos hnone) fun hsome => absurd hnone hsome
  rw [if_neg hnone, imp_iff_right (show disrupting p.actions ≠ [] from hnone)]
  dsimp only
  rw [refuseIf_guarded]
  have hdomains : ∀ domain, ((((recentDisruptions w (w.now host.wall)
      k.policy.disruptionCooldown).map (·.domain)).filter (· ≠ "")).forM fun other =>
        refuseIf (other ≠ domain)
          (s!"failure domain {quote other} was disrupted within the last " ++
            s!"{host.durationText k.policy.disruptionCooldown}; wait before disrupting " ++
            s!"{quote domain}")) = .ok () ↔
      ∀ d ∈ recentDisruptions w (w.now host.wall) k.policy.disruptionCooldown,
        d.domain ≠ "" → d.domain = domain := by
    intro domain
    simp only [forM_ok, refuseIf_ok, List.mem_filter, List.mem_map, not_not, decide_eq_true_eq,
      and_imp, forall_exists_index, forall_apply_eq_imp_iff₂]
  constructor
  · rintro ⟨hbudget, hcooldown⟩
    refine ⟨fun hmax => not_lt.mp (hbudget hmax), fun hlong => ?_⟩
    rw [if_pos hlong, refuseIf_bind_ok, forM_ok] at hcooldown
    exact ⟨not_lt.mp hcooldown.1, fun domain hdomain =>
      (hdomains domain).mp (hcooldown.2 domain hdomain)⟩
  · rintro ⟨hbudget, hcooldown⟩
    refine ⟨fun hmax => not_lt.mpr (hbudget hmax), ?_⟩
    split_ifs with hlong
    · rw [refuseIf_bind_ok, forM_ok]
      exact ⟨not_lt.mpr (hcooldown hlong).1, fun domain hdomain =>
        (hdomains domain).mpr ((hcooldown hlong).2 domain hdomain)⟩
    · rfl

end Check

/-! ### Where allocations stand -/

/-- Nodes are known by their names, and every allocation stands on a known node. -/
structure Sited (w : World) : Prop where
  keyed : Keyed w
  named : ∀ (name : String) n, w.nodes[name]? = some n → name ≠ ""
  stands : ∀ (id : String) x, w.allocations[id]? = some x → w.nodes[x.node]?.isSome = true

namespace Sited

variable {w w' : World} {a : Action} {e : Evidence}

lemma domain (h : Sited w) {name : String} (hknown : w.nodes[name]?.isSome = true) :
    name ≠ "" ∧ domainOf w name ≠ "" := by
  obtain ⟨n, hn⟩ := Option.isSome_iff_exists.mp hknown
  have hname := h.named name n hn
  refine ⟨hname, ?_⟩
  rw [domainOf, hn]
  dsimp only [Node.failureDomain]
  split_ifs with hdomain
  · exact hdomain
  · rwa [h.keyed name n hn]

lemma isSome_congr (h : w'.domains = w.domains) (name : String) :
    w'.nodes[name]?.isSome = w.nodes[name]?.isSome := by
  have hname := congrArg Option.isSome (congrFun h name)
  rwa [World.domains, World.domains, Option.isSome_map, Option.isSome_map] at hname

/-- An allocation stands where the roll has it. -/
lemma roll (h : Sited w) {id : String} {i : Identity} (hi : w.roll id = some i) :
    w.nodes[i.node]?.isSome = true := by
  obtain ⟨x, hx, rfl⟩ := Option.map_eq_some_iff.mp hi
  exact h.stands id x hx

lemma of_roll (h : Sited w) (hproject : project w e = .ok w')
    (hstands : ∀ id i, w'.roll id = some i → w.nodes[i.node]?.isSome = true) : Sited w' := by
  have hknown := isSome_congr (project_domains hproject)
  refine ⟨h.keyed.project hproject, fun name n hn => ?_, fun id x hx => ?_⟩
  · obtain ⟨n', hn'⟩ := Option.isSome_iff_exists.mp
      ((hknown name).symm.trans (Option.isSome_of_eq_some hn))
    exact h.named name n' hn'
  · rw [hknown]
    exact hstands id x.identity (roll_of_get hx)

/-- **Carrying out an action keeps every allocation on a known node.** -/
lemma step (h : Sited w) (hproject : project w e = .ok w') (henrolment : Enrolment w a w') :
    Sited w' := by
  refine h.of_roll hproject fun id i hi => ?_
  cases henrolment with
  | created node budget hk hnode hpositive hbudget hroll =>
    rw [hroll, Function.update_apply] at hi
    split_ifs at hi
    · have hnodes : i.node = a.node := by
        rw [← h.keyed a.node node hnode]
        exact (congrArg Identity.node (Option.some.inj hi)).symm
      rw [hnodes, hnode]
      rfl
    · exact h.roll hi
  | deleted hk hroll =>
    rw [hroll, Function.update_apply] at hi
    split_ifs at hi
    exact h.roll hi
  | kept hc hd hroll =>
    rw [hroll] at hi
    exact h.roll hi

end Sited

/-! ### Chronicles -/

/-- What is remembered of a run: the clock, and every disruption there was. -/
structure Chronicle where
  clock : Time
  history : List Disruption

/-- One clock that never goes back dates the world as read and every report, and every entry is
remembered. The proposals are those that `admits` lets through. -/
def paceWatch (admits : World → Acceptance → Prop) : Watch Chronicle where
  accept c w r c' := c.clock ≤ r.now ∧ r.now ≠ 0 ∧ admits w r ∧ c' = { c with clock := r.now }
  report _ c w _ e c' :=
    c.clock ≤ e.observedAt ∧ c' = ⟨e.observedAt, c.history ++ (recorded w e).toList⟩

/-- No action disrupts what another one of the proposal creates. -/
def Apart (actions : List Action) : Prop :=
  ∀ a ∈ disrupting actions, ∀ b ∈ actions, b.kind = .createAllocation → b.target ≠ a.target

/-- What is known of the entries `batch` that the actions `done` made, in a round that began
at `now`. -/
structure Batch (now : Time) (done : List Action) (batch : List Disruption) : Prop where
  few : batch.length ≤ (disrupting done).length
  late : ∀ d ∈ batch, now ≤ d.at_

/-- Where the entries come from: a disruption of an allocation that stood there already in `w`,
unless the round created it. -/
structure Traced (w : World) (done : List Action) (batch : List Disruption) (w₁ : World) :
    Prop where
  sited : Sited w₁
  domains : w₁.domains = w.domains
  remaining : ∀ id, (∀ b ∈ done, b.kind = .createAllocation → b.target ≠ id) →
    w₁.roll id = w.roll id ∨ w₁.roll id = none
  known : ∀ d ∈ batch, d.domain ≠ ""
  source : ∀ d ∈ batch, ∃ a ∈ disrupting done,
    (∀ b ∈ done, b.kind = .createAllocation → b.target ≠ a.target) → d.domain = actionDomain w a

section Rounds

variable {w w₁ w₂ : World} {now : Time} {done : List Action} {batch : List Disruption}
  {a : Action} {e : Evidence} {d : Disruption}

lemma disrupting_append (done : List Action) (a : Action) :
    disrupting (done ++ [a]) =
      disrupting done ++ if disruptive a.kind = true then [a] else [] := by
  rw [disrupting, List.filter_append, List.filter_singleton, Bool.cond_eq_ite]
  rfl

lemma mem_disrupting {actions : List Action} :
    a ∈ disrupting actions ↔ a ∈ actions ∧ disruptive a.kind = true := List.mem_filter

/-- Disruptions are reported of disruptive actions only, and of their targets. -/
lemma Reports.disrupts (h : Reports a e) (hk : e.kind.disrupts = true) :
    disruptive a.kind = true ∧ e.target = a.target := by
  have hkind := h.kind
  have hsubject := h.subject
  cases hk' : a.kind <;> rw [hk'] at hkind <;>
    simp only [ActionKind.reports, List.mem_cons, List.not_mem_nil, or_false] at hkind
  case stopAllocation | deleteAllocation | drainAllocation =>
    simp only [Action.subject, hk', ActionKind.onVolume, Bool.false_eq_true, if_false,
      Option.some.injEq] at hsubject
    exact ⟨rfl, hsubject.symm⟩
  all_goals
    rw [hkind] at hk
    cases hk

/-- **A report makes at most one entry**, and only of a disruptive action. -/
lemma Batch.step (h : Batch now done batch) (htells : Tells a e) (hclock : now ≤ e.observedAt) :
    Batch now (done ++ [a]) (batch ++ (recorded w₁ e).toList) := by
  have hfew := h.few
  cases hrecorded : recorded w₁ e with
  | none =>
    refine ⟨?_, ?_⟩
    · rw [disrupting_append, Option.toList_none, List.append_nil, List.length_append]
      omega
    · rw [Option.toList_none, List.append_nil]
      exact h.late
  | some d =>
    obtain ⟨hk, x, hget, rfl⟩ := recorded_eq_some hrecorded
    refine ⟨?_, ?_⟩
    · rw [disrupting_append, if_pos (htells.toReports.disrupts hk).1, List.length_append,
        List.length_append]
      exact Nat.add_le_add_right hfew 1
    · intro d hd
      rcases List.mem_append.mp hd with hd | hd
      · exact h.late d hd
      · rw [Option.toList_some, List.mem_singleton] at hd
        rw [hd]
        exact hclock

/-- **An entry is traced to the allocation as it stood when the round began.** -/
lemma Traced.step (h : Traced w done batch w₁) (htells : Tells a e)
    (hproject : project w₁ e = .ok w₂) (henrolment : Enrolment w₁ a w₂) :
    Traced w (done ++ [a]) (batch ++ (recorded w₁ e).toList) w₂ := by
  have hdomains := project_domains hproject
  have hearlier {id : String}
      (hnew : ∀ b ∈ done ++ [a], b.kind = .createAllocation → b.target ≠ id) :
      ∀ b ∈ done, b.kind = .createAllocation → b.target ≠ id :=
    fun b hb => hnew b (List.mem_append_left _ hb)
  -- the entry of this report, if there is one
  have hentry : ∀ d, recorded w₁ e = some d → d.domain ≠ "" ∧
      disruptive a.kind = true ∧
      ((∀ b ∈ done, b.kind = .createAllocation → b.target ≠ a.target) →
        d.domain = actionDomain w a) := by
    intro d hd
    obtain ⟨hk, x, hget, rfl⟩ := recorded_eq_some hd
    obtain ⟨hdisruptive, htarget⟩ := htells.toReports.disrupts hk
    obtain ⟨hnode, hdomain⟩ := h.sited.domain (h.sited.stands _ _ hget)
    refine ⟨hdomain, hdisruptive, fun hold => ?_⟩
    have hroll := roll_of_get hget
    rw [htarget] at hroll
    rcases h.remaining a.target hold with hsame | hgone
    · obtain ⟨y, hy, hidentity⟩ := Option.map_eq_some_iff.mp (hsame.symm.trans hroll)
      have hsite : y.node = x.node := congrArg Identity.node hidentity
      rw [actionDomain, hy]
      dsimp only
      rw [hsite, if_pos hnode, domainOf_eq, ← h.domains, ← domainOf_eq]
      rfl
    · rw [hgone] at hroll
      cases hroll
  refine ⟨h.sited.step hproject henrolment, hdomains.trans h.domains, ?_, ?_, ?_⟩
  · intro id hnew
    cases henrolment with
    | created node budget hk hnode hpositive hbudget hroll =>
      rw [hroll, Function.update_of_ne]
      · exact h.remaining id (hearlier hnew)
      · exact (hnew a (by simp) hk).symm
    | deleted hk hroll =>
      rw [hroll, Function.update_apply]
      split_ifs
      · exact .inr rfl
      · exact h.remaining id (hearlier hnew)
    | kept hc hd hroll =>
      rw [hroll]
      exact h.remaining id (hearlier hnew)
  · intro d hd
    rcases List.mem_append.mp hd with hd | hd
    · exact h.known d hd
    · exact (hentry d (Option.mem_toList.mp hd)).1
  · intro d hd
    rcases List.mem_append.mp hd with hd | hd
    · obtain ⟨b, hb, hsource⟩ := h.source d hd
      refine ⟨b, ?_, fun hnew => hsource (hearlier hnew)⟩
      rw [disrupting_append]
      exact List.mem_append_left _ hb
    · obtain ⟨-, hdisruptive, hsource⟩ := hentry d (Option.mem_toList.mp hd)
      exact ⟨a, mem_disrupting.mpr ⟨by simp, hdisruptive⟩, fun hnew => hsource (hearlier hnew)⟩

variable {admits : World → Acceptance → Prop} {k : Kernel} {r : Acceptance} {c c' : Chronicle}
  {n : ℕ}

/-- The ledger holds what is recent of the chronicle. -/
abbrev Chronicle.Kept (c : Chronicle) (w : World) : Prop :=
  Retains Disruption.at_ disruptionRetention c.clock w.disruptions c.history

/-- **A round adds a batch of entries** to the chronicle. -/
lemma Acceptance.Holds.entries (h : r.Holds k w) (hclock : c.clock = r.now) (hkept : c.Kept w)
    (hcarried : Carries ((paceWatch admits).report r) c w (r.proposal.actions.take n) c' w₁) :
    ∃ batch, c'.history = c.history ++ batch ∧ c'.Kept w₁ ∧
      Batch r.now (r.proposal.actions.take n) batch ∧
      (Sited w → Traced w (r.proposal.actions.take n) batch w₁) := by
  obtain ⟨-, simEnd, hwalk⟩ := authorize_admitted h
  refine (hwalk.abreast_done (P := fun _ => True)
    (R := fun done c' sim w₁ => sim.ledger = w₁.ledger ∧ r.now ≤ c'.clock ∧
      ∃ batch, c'.history = c.history ++ batch ∧ c'.Kept w₁ ∧ Batch r.now done batch ∧
        (Sited w → Traced w done batch w₁)) ?_ (fun _ _ => trivial) [] n hcarried ?_).elim
    fun _ h => h.2.2
  · rintro done c₁ c₂ sim sim₁ w₁ w₂ a e ⟨hledger, hnow, batch, hhistory, hkept, hbatch, htraced⟩ -
      hvalid hsim htells ⟨hlater, rfl⟩ hproject
    have henrolment := htells.enrolment hproject (validateAction_free hledger hvalid)
    refine ⟨ledger_lockstep hledger hvalid hsim htells.toReports hproject, hnow.trans hlater,
      batch ++ (recorded w₁ e).toList, ?_, ?_, hbatch.step htells (hnow.trans hlater),
      fun hsited => (htraced hsited).step htells hproject henrolment⟩
    · dsimp only
      rw [hhistory, List.append_assoc]
    · rw [Chronicle.Kept, project_disruptions hproject]
      cases hrecorded : recorded w₁ e with
      | none =>
        rw [Option.toList_none, List.append_nil]
        exact hkept.later hlater
      | some d =>
        obtain ⟨-, x, -, rfl⟩ := recorded_eq_some hrecorded
        exact hkept.record _ hlater
  · exact ⟨rfl, hclock.ge, [], (List.append_nil _).symm, hkept, ⟨Nat.le_refl _, by simp⟩,
      fun hsited => ⟨hsited, rfl, fun _ _ => .inl rfl, by simp, by simp⟩⟩

lemma eq_of_mem_of_length_le_one {l : List String} {x y : String} (hl : l.length ≤ 1) (hx : x ∈ l)
    (hy : y ∈ l) : x = y := by
  obtain ⟨z, rfl⟩ := List.length_eq_one_iff.mp (Nat.le_antisymm hl (List.length_pos_of_mem hx))
  rw [List.mem_singleton.mp hx, List.mem_singleton.mp hy]

lemma disrupting_take (actions : List Action) (n : ℕ) :
    (disrupting (actions.take n)).Sublist (disrupting actions) :=
  (List.take_sublist n actions).filter _

/-- **A round keeps within the budget.** -/
lemma Acceptance.Holds.bounded (h : r.Holds k w) (hdated : r.now ≠ 0) (hclock : c.clock = r.now)
    (hkept : c.Kept w) (hmax : 0 < k.policy.maxDisruptionsPerWindow)
    (hwindow : 0 < k.policy.disruptionWindow)
    (hretained : k.policy.disruptionWindow ≤ disruptionRetention)
    (hbatch : Batch r.now (r.proposal.actions.take n) batch)
    (hbounded : Bounded Disruption.at_ k.policy.disruptionWindow
      k.policy.maxDisruptionsPerWindow.toInt c.history) :
    Bounded Disruption.at_ k.policy.disruptionWindow k.policy.maxDisruptionsPerWindow.toInt
      (c.history ++ batch) := by
  have hfew : batch.length ≤ (disrupting r.proposal.actions).length :=
    hbatch.few.trans (disrupting_take _ n).length_le
  by_cases hsome : disrupting r.proposal.actions = []
  · rw [hsome, List.length_nil, Nat.le_zero, List.length_eq_zero_iff] at hfew
    rwa [hfew, List.append_nil]
  · refine hbounded.append hbatch.late ?_
    have hroom := (checkDisruptionBudget_iff.mp (authorize_governed h).1 hsome).budget hmax
    rw [now_of_dated _ hdated, Kernel.window, if_neg (not_le.mpr hwindow),
      length_recentDisruptions hwindow] at hroom
    dsimp only at hroom
    rw [hkept.recent _ (by rw [hclock]; exact Int.sub_le_sub_left hretained _)] at hroom
    omega

/-- **A round disrupts one domain**, the one of everything inside its cooldown. -/
lemma Acceptance.Holds.alike (h : r.Holds k w) (hdated : r.now ≠ 0) (hclock : c.clock = r.now)
    (hkept : c.Kept w) (hcooldown : 0 < k.policy.disruptionCooldown)
    (hretained : k.policy.disruptionCooldown ≤ disruptionRetention)
    (hapart : Apart r.proposal.actions) (hbatch : Batch r.now (r.proposal.actions.take n) batch)
    (htraced : Traced w (r.proposal.actions.take n) batch w₁)
    (hknown : ∀ d ∈ c.history, d.domain ≠ "")
    (halike : Alike Disruption.at_ k.policy.disruptionCooldown Disruption.domain c.history) :
    Alike Disruption.at_ k.policy.disruptionCooldown Disruption.domain (c.history ++ batch) := by
  have hsource : ∀ d ∈ batch, ∃ a ∈ disrupting r.proposal.actions,
      d.domain = actionDomain w a := by
    intro d hd
    obtain ⟨a, ha, hdomain⟩ := htraced.source d hd
    have ha' := (disrupting_take _ n).subset ha
    exact ⟨a, ha', hdomain fun b hb => hapart a ha' b (List.mem_of_mem_take hb)⟩
  have hdisturbed : ∀ d ∈ batch, d.domain ∈ disturbedDomains w r.proposal.actions := by
    intro d hd
    obtain ⟨a, ha, hdomain⟩ := hsource d hd
    have hne := htraced.known d hd
    rw [hdomain] at hne ⊢
    exact mem_disturbedDomains ha hne
  have hchecked (d : Disruption) (hd : d ∈ batch) :=
    (checkDisruptionBudget_iff.mp (authorize_governed h).1
      (List.ne_nil_of_mem (hsource d hd).choose_spec.1)).cooldown hcooldown
  refine halike.append hbatch.late (fun d hd d' hd' => ?_) fun d hd d' hd' => ?_
  · exact eq_of_mem_of_length_le_one (hchecked d hd).1 (hdisturbed d hd) (hdisturbed d' hd')
  · have hrecent := hkept.recent (r.now - k.policy.disruptionCooldown)
      (by rw [hclock]; exact Int.sub_le_sub_left hretained _)
    refine (hchecked d' hd').2 _ (hdisturbed d' hd') d ?_ (hknown d (mem_since.mp hd).1)
    rw [mem_recentDisruptions hcooldown, now_of_dated _ hdated]
    dsimp only
    rwa [hrecent]

end Rounds

/-- A measurement of readiness leaves the ledger, and every allocation where it is. -/
lemma measured_disruptions {w w' : World} {e : Evidence} (hk : e.kind.measuresReadiness = true)
    (h : project w e = .ok w') : w'.disruptions = w.disruptions := by
  have hquiet : e.kind.disrupts = false := by
    cases hkind : e.kind <;> rw [hkind] at hk <;> cases hk <;> rfl
  rw [project_disruptions h, recorded_of_kind hquiet]
  rfl

/-- **The rule for chronicles**: what every round keeps that adds its batch of entries, and every
measurement, holds at the end. -/
lemma Course.chronicle {k : Kernel} {admits : World → Acceptance → Prop}
    {J : List Disruption → World → Prop}
    (hround : ∀ {c : Chronicle} {w w₁ : World} {r : Acceptance} {n : ℕ} {batch : List Disruption},
      J c.history w → r.Holds k w → r.now ≠ 0 → admits w r → c.clock = r.now → c.Kept w →
      Batch r.now (r.proposal.actions.take n) batch →
      (Sited w → Traced w (r.proposal.actions.take n) batch w₁) → J (c.history ++ batch) w₁)
    (hmeasured : ∀ {history : List Disruption} {w w₁ : World} {e : Evidence}, J history w →
      e.kind.measuresReadiness = true → project w e = .ok w₁ → J history w₁)
    {c c' : Chronicle} {w w' : World} (h : Course (paceWatch admits) k c w c' w') (hkept : c.Kept w)
    (hJ : J c.history w) : c'.Kept w' ∧ J c'.history w' := by
  refine h.invariant (I := fun c w => c.Kept w ∧ J c.history w) ?_ ?_ ⟨hkept, hJ⟩
  · rintro c c₁ c₂ w w₁ r n ⟨hkept, hJ⟩ hholds ⟨hlater, hdated, hadmits, rfl⟩ hcarried
    have hkept := hkept.later hlater
    obtain ⟨batch, hhistory, hafter, hbatch, htraced⟩ := hholds.entries rfl hkept hcarried
    refine ⟨hafter, ?_⟩
    rw [hhistory]
    exact hround hJ hholds hdated hadmits rfl hkept hbatch htraced
  · rintro c w w₁ e ⟨hkept, hJ⟩ hk hproject
    refine ⟨?_, hmeasured hJ hk hproject⟩
    rwa [Chronicle.Kept, measured_disruptions hk hproject]

/-- **Disruptions are paced.** In every run of proposals, each carried out as far as it goes
before the next is authorized, on one clock that dates the world and the evidence: if a budget
is set, no window ever holds more disruptions than it allows; and if no proposal disrupts what
it creates, disruptions less than the cooldown apart are in one failure domain. What the ledger
holds at the start counts. -/
theorem disruptions_paced {k : Kernel} {admits : World → Acceptance → Prop}
    (hwindow : 0 < k.policy.disruptionWindow)
    (hwindow' : k.policy.disruptionWindow ≤ disruptionRetention)
    (hcooldown : 0 < k.policy.disruptionCooldown)
    (hcooldown' : k.policy.disruptionCooldown ≤ disruptionRetention)
    {start w : World} {clock : Time} {c : Chronicle}
    (hcourse : Course (paceWatch admits) k ⟨clock, start.disruptions⟩ start c w) :
    w.disruptions.Sublist c.history ∧
      (0 < k.policy.maxDisruptionsPerWindow →
        Bounded Disruption.at_ k.policy.disruptionWindow k.policy.maxDisruptionsPerWindow.toInt
          start.disruptions →
        Bounded Disruption.at_ k.policy.disruptionWindow k.policy.maxDisruptionsPerWindow.toInt
          c.history) ∧
      (Sited start → (∀ w r, admits w r → Apart r.proposal.actions) →
        (∀ d ∈ start.disruptions, d.domain ≠ "") →
        Alike Disruption.at_ k.policy.disruptionCooldown Disruption.domain start.disruptions →
        Alike Disruption.at_ k.policy.disruptionCooldown Disruption.domain c.history) := by
  refine ⟨?_, fun hmax hbounded => ?_, fun hsited hapart hknown halike => ?_⟩
  · exact (hcourse.chronicle (J := fun _ _ => True) (fun _ _ _ _ _ _ _ _ => trivial)
      (fun _ _ _ => trivial) (Retains.refl _) trivial).1.part
  · refine (hcourse.chronicle (J := fun history _ => Bounded Disruption.at_
      k.policy.disruptionWindow k.policy.maxDisruptionsPerWindow.toInt history) ?_
      (fun h _ _ => h) (Retains.refl _) hbounded).2
    intro c w w₁ r n batch hbounded hholds hdated _ hclock hkept hbatch _
    exact hholds.bounded hdated hclock hkept hmax hwindow hwindow' hbatch hbounded
  · refine (hcourse.chronicle (J := fun history w => Sited w ∧ (∀ d ∈ history, d.domain ≠ "") ∧
      Alike Disruption.at_ k.policy.disruptionCooldown Disruption.domain history) ?_ ?_
      (Retains.refl _) ⟨hsited, hknown, halike⟩).2.2.2
    · rintro c w w₁ r n batch ⟨hsited, hknown, halike⟩ hholds hdated hadmits hclock hkept hbatch
        htraced
      have htraced := htraced hsited
      refine ⟨htraced.sited, ?_, ?_⟩
      · intro d hd
        rcases List.mem_append.mp hd with hd | hd
        · exact hknown d hd
        · exact htraced.known d hd
      · exact hholds.alike hdated hclock hkept hcooldown hcooldown' (hapart w r hadmits) hbatch
          htraced hknown halike
    · rintro history w w₁ e ⟨hsited, hrest⟩ hk hproject
      refine ⟨hsited.of_roll hproject fun id i hi => ?_, hrest⟩
      rw [measured_roll hk hproject] at hi
      exact hsited.roll hi

/-! ### Two replicas in two domains -/

namespace Pacing

def image : String := "web@sha256:0"

def node (id domain : String) : Node :=
  { id := id, domain := domain, capacity := ⟨1000, 1000⟩, healthy := true
    images := Table.ofEntries [(image, true)] }

def goal : Goal :=
  { id := "web", workload :=
      { name := "web", image := image, replicas := 2, resources := ⟨100, 100⟩ } }

def replica : Allocation :=
  { id := "web-0", workload := "web", replica := 0, node := "n1", image := image
    resources := ⟨100, 100⟩, phase := .created }

def start : World :=
  { nodes := Table.ofEntries [("n1", node "n1" "a"), ("n2", node "n2" "b")]
    allocations := Table.ofEntries [("web-0", replica)] }

lemma sited : Sited start := by
  refine ⟨?_, ?_, ?_⟩
  · intro name n hget
    simp only [start, get_ofEntries_cons, get_ofEntries_nil] at hget
    split_ifs at hget with h₁ h₂ <;> cases hget
    · exact h₁.symm
    · exact h₂.symm
  · intro name n hget hname
    simp [start, get_ofEntries_cons, hname] at hget
  · intro id x hget
    simp only [start, get_ofEntries_cons, get_ofEntries_nil] at hget
    split_ifs at hget
    cases hget
    rfl

/-- An operator may create and delete; the governor is as shipped. -/
def kernel : Kernel :=
  ⟨{ defaultPolicy with
      grants := Table.ofEntries [("operator", grantAll [.createAllocation, .deleteAllocation])] }⟩

/-- The same without a budget. -/
def unlimited : Kernel := ⟨{ kernel.policy with maxDisruptionsPerWindow := 0 }⟩

def create : Action :=
  { id := "create", kind := .createAllocation, target := "web-1", workload := "web", node := "n2"
    image := image, replica := 1, resources := ⟨100, 100⟩ }

/-- A deletion that names a node. -/
def delete (target node : String) : Action :=
  { id := "delete-" ++ target, kind := .deleteAllocation, target := target, workload := "web"
    node := node }

def acceptance (actions : List Action) : Acceptance :=
  { host := quietHost, actor := { id := "operator" }, goal := goal, now := 20
    proposal := { id := "p", agentID := "operator", goalID := "web", basedOnRevision := 0
                  actions := actions } }

def created : Evidence :=
  { kind := .allocationCreated, target := "web-1", observedAt := 20
    observed := Table.ofEntries
      [("node", "n2"), ("workload", "web"), ("image", image), ("replica", "1"),
       ("cpu_millis", "100"), ("memory_mb", "100")] }

def deleted (target : String) : Evidence :=
  { kind := .allocationDeleted, target := target, observedAt := 20
    observed := Table.ofEntries [("deleted", "true")] }

/-- The world after one report. -/
def after (w : World) (e : Evidence) : World := (project w e).toOption.getD w

def entry (target node domain : String) : Disruption :=
  { target := target, workload := "web", node := node, domain := domain
    kind := .allocationDeleted, at_ := 20 }

def two : World := after start created

lemma create_tells : Tells create created := by
  have h : MemoryExecutor.execute quietHost start create =
      .ok { created with observedAt := 0 } := by decide +kernel
  exact (memoryExecutor_tells h).stamp 20

lemma delete_tells : Tells (delete "web-1" "n1") (deleted "web-1") ∧
    Tells (delete "web-0" "") (deleted "web-0") := by
  have h₁ : MemoryExecutor.execute quietHost two (delete "web-1" "n1") =
      .ok { deleted "web-1" with observedAt := 0 } := by decide +kernel
  have h₀ : MemoryExecutor.execute quietHost two (delete "web-0" "") =
      .ok { deleted "web-0" with observedAt := 0 } := by decide +kernel
  exact ⟨(memoryExecutor_tells h₁).stamp 20, (memoryExecutor_tells h₀).stamp 20⟩

/-- One replica is deleted. -/
lemma deletes {k : Kernel} (admits : World → Acceptance → Prop)
    (hholds : (acceptance [delete "web-0" ""]).Holds k start)
    (hadmits : admits start (acceptance [delete "web-0" ""])) :
    Course (paceWatch admits) k ⟨10, start.disruptions⟩ start ⟨20, [entry "web-0" "n1" "a"]⟩
      (after start (deleted "web-0")) := by
  have hproject : project start (deleted "web-0") = .ok (after start (deleted "web-0")) := by
    decide +kernel
  have hrecorded : recorded start (deleted "web-0") = some (entry "web-0" "n1" "a") := by
    decide +kernel
  refine .round (acceptance [delete "web-0" ""]) 1 hholds
    ⟨(by decide : (10 : ℤ) ≤ 20), (by decide : (20 : ℤ) ≠ 0), hadmits, rfl⟩
    (.cons delete_tells.2 ⟨le_refl (20 : ℤ), rfl⟩ hproject (.nil _ _)) ?_
  rw [hrecorded]
  exact .refl _ _

/-- The second replica is created and both are deleted: the proposal names the first node for
the deletion of a replica the governor does not know yet. -/
lemma creates_and_deletes : Course (paceWatch fun _ _ => True) kernel ⟨10, start.disruptions⟩ start
    ⟨20, [entry "web-1" "n2" "b", entry "web-0" "n1" "a"]⟩
    (after (after two (deleted "web-1")) (deleted "web-0")) := by
  have hholds : (acceptance [create, delete "web-1" "n1", delete "web-0" ""]).Holds kernel
      start := by
    unfold Acceptance.Holds
    decide +kernel
  have htwo : project start created = .ok two := by decide +kernel
  have hone : project two (deleted "web-1") = .ok (after two (deleted "web-1")) := by
    decide +kernel
  have hnone : project (after two (deleted "web-1")) (deleted "web-0") =
      .ok (after (after two (deleted "web-1")) (deleted "web-0")) := by decide +kernel
  have hcreated : recorded start created = none := by decide +kernel
  have hsecond : recorded two (deleted "web-1") = some (entry "web-1" "n2" "b") := by
    decide +kernel
  have hfirst : recorded (after two (deleted "web-1")) (deleted "web-0") =
      some (entry "web-0" "n1" "a") := by decide +kernel
  refine .round (acceptance [create, delete "web-1" "n1", delete "web-0" ""]) 3 hholds
    ⟨(by decide : (10 : ℤ) ≤ 20), (by decide : (20 : ℤ) ≠ 0), trivial, rfl⟩
    (.cons create_tells ⟨le_refl (20 : ℤ), rfl⟩ htwo
      (.cons delete_tells.1 ⟨le_refl (20 : ℤ), rfl⟩ hone
        (.cons delete_tells.2 ⟨le_refl (20 : ℤ), rfl⟩ hnone (.nil _ _)))) ?_
  rw [hcreated, hsecond, hfirst]
  exact .refl _ _

end Pacing

open Pacing

/-- Without a budget one disruption is too many; and a proposal that creates an allocation and
deletes it again disrupts a domain the governor did not look at. -/
theorem disruptions_unpaced :
    (Course (paceWatch fun _ _ => True) unlimited ⟨10, start.disruptions⟩
        start ⟨20, [entry "web-0" "n1" "a"]⟩
        (after start (deleted "web-0")) ∧
      ¬Bounded Disruption.at_ unlimited.policy.disruptionWindow
        unlimited.policy.maxDisruptionsPerWindow.toInt
        [entry "web-0" "n1" "a"]) ∧
    Sited start ∧
    Course (paceWatch fun _ _ => True) kernel ⟨10, start.disruptions⟩ start
      ⟨20, [entry "web-1" "n2" "b", entry "web-0" "n1" "a"]⟩
      (after (after two (deleted "web-1")) (deleted "web-0")) ∧
    ¬Alike Disruption.at_ kernel.policy.disruptionCooldown Disruption.domain
      [entry "web-1" "n2" "b", entry "web-0" "n1" "a"] := by
  refine ⟨⟨deletes _ ?_ trivial, fun hbounded => ?_⟩, sited, creates_and_deletes, fun halike => ?_⟩
  · unfold Acceptance.Holds
    decide +kernel
  · exact absurd (hbounded 20) (by decide)
  · exact absurd (halike _ List.mem_cons_self _ (List.mem_cons_of_mem _ List.mem_cons_self)
      (by decide)) (by decide)

theorem disruptions_paced_one :
    Bounded Disruption.at_ kernel.policy.disruptionWindow
        kernel.policy.maxDisruptionsPerWindow.toInt [entry "web-0" "n1" "a"] ∧
      Alike Disruption.at_ kernel.policy.disruptionCooldown Disruption.domain
        [entry "web-0" "n1" "a"] := by
  have hholds : (acceptance [delete "web-0" ""]).Holds kernel start := by
    unfold Acceptance.Holds
    decide +kernel
  have hapart : Apart [delete "web-0" ""] := by
    intro a _ b hb hk
    rw [List.mem_singleton.mp hb] at hk
    cases hk
  have hcourse := deletes (fun _ r => Apart r.proposal.actions) hholds hapart
  obtain ⟨-, hbounded, halike⟩ := disruptions_paced (by decide) (by decide) (by decide)
    (by decide) hcourse
  have hempty : Bounded Disruption.at_ kernel.policy.disruptionWindow
      kernel.policy.maxDisruptionsPerWindow.toInt start.disruptions :=
    fun _ => (by decide : (0 : ℤ) ≤ kernel.policy.maxDisruptionsPerWindow.toInt)
  exact ⟨hbounded (by decide) hempty, halike sited (fun _ _ h => h)
    (fun _ hd => absurd hd List.not_mem_nil) (fun _ hd => absurd hd List.not_mem_nil)⟩

end A4s
