/-
Simulation against execution, action by action.

`simulateAction` and the pair of `MemoryExecutor.execute` and the projection are two
interpreters of the same actions. They agree except where

* the projection refuses a report the validators let happen (a text that is empty, an
  amount that is not positive, an envelope too large to allocate);
* a snapshot is taken: the simulation records neither its place in the order nor that it
  moved a quiesced handoff on;
* an allocation that holds a budget is deleted: only the simulation releases it;
* snapshots are pruned in a dry run, which the projection carries out, or under ids that
  are no single line of text.

* `Mirrored`: the actions outside that list, kind by kind.
* `simulation_agrees_iff`: **an accepted action is executed as simulated** exactly if it is
  mirrored.
-/
import A4s.Control.Outcome
import A4s.Control.Pruning

namespace A4s

open Go

/-! ### Where the two agree -/

/-- One line of text, as the list of pruned snapshots is reported. -/
def OneLine (text : String) : Prop := text ≠ "" ∧ '\n' ∉ text.toList

/-- Releasing an amount does not move the counter. -/
def Unmoved (used amount : Int64) : Prop := (amount = 0 ∧ 0 ≤ used) ∨ (used = 0 ∧ -amount < 0)

instance (used amount : Int64) : Decidable (Unmoved used amount) :=
  inferInstanceAs (Decidable (_ ∨ _))

/-- Releasing a budget moves no dimension of the node's. -/
structure Budget.Unmoved (used amount : Budget) : Prop where
  tokens : A4s.Unmoved used.tokens amount.tokens
  costMillis : A4s.Unmoved used.costMillis amount.costMillis
  wallSeconds : A4s.Unmoved used.wallSeconds amount.wallSeconds
  toolCalls : A4s.Unmoved used.toolCalls amount.toolCalls

/-- The plan and its execution say the same of the action. -/
def Mirrored (w : World) (a : Action) : Prop :=
  match a.kind with
  | .createAllocation => a.target ≠ "" ∧ 1 ≤ a.resources.cpuMillis ∧ 1 ≤ a.resources.memoryMB
  | .createVolume => ∀ ref, a.volume = some ref → ref.name ≠ ""
  | .attachVolume => a.target ≠ ""
  | .snapshotVolume => ∀ ref, a.volume = some ref → ∀ v, w.volumes[ref.name]? = some v →
      v.snapshots[ref.name ++ "-simulated"]? = some "simulated" ∧
        v.handoff.map (·.phase) ≠ some .quiesced
  | .quiesceVolume => a.node ≠ ""
  | .transferVolume => ∀ ref, a.volume = some ref → ∀ v, w.volumes[ref.name]? = some v →
      ∀ handoff, v.handoff = some handoff → handoff.checksum ≠ ""
  | .pruneSnapshots => ∀ ref, a.volume = some ref → ∀ v, w.volumes[ref.name]? = some v →
      ∀ id ∈ prunableSnapshots v a.retain,
        if a.dryRun then ∀ line ∈ splitLines id, line ∉ v.snapshotOrder ∧ v.backups[line]? = none
        else OneLine id
  | .mountSecret => ∀ secret, a.secret = some secret → secret.name ≠ "" ∧ secret.version ≠ ""
  | .deleteAllocation => ∀ x, w.allocations[a.target]? = some x →
      ∀ node, w.nodes[x.node]? = some node → node.budgetUsed.Unmoved x.budget
  | .grantTools => a.tools.length * 40 ≤ 2 ^ 48 ∨ 2 ^ 63 ≤ a.tools.length
  | .publishRoute => a.target ≠ ""
  | _ => True

section Kinds

variable {host : Host} {goal : Goal} {w : World} {a : Action}

/-! ### Actions on nodes -/

lemma agrees_pullImage (hk : a.kind = .pullImage)
    (hvalid : validatePullImage host goal w a = .ok ()) : Agrees host w a := by
  simp only [validatePullImage, healthyNode, require_bind_ok, Option.filter_eq_some_iff,
    refuseIf_ok, not_or] at hvalid
  obtain ⟨node, ⟨hget, -⟩, -, hpinned⟩ := hvalid
  have hne : a.image ≠ "" := by
    intro h
    rw [h] at hpinned
    exact hpinned (by decide)
  apply agrees_of
  case hsim =>
    simp only [simulateAction, hk, updateNode, existingNode, hget]
    rfl
  case hexec =>
    simp only [MemoryExecutor.execute, hk, existingNode, hget]
    rfl
  case hinto =>
    simp [projectInto, projectImagePresent, knownNode, Evidence.observe, hget, require, refuseIf,
      hne]
    rfl
  case hsame => exact Steady.same (.node hget (by rfl)) (.node hget (by rfl))

/-- Taking a node out of service and back. -/
lemma agrees_service (hk : a.kind = .cordonNode ∨ a.kind = .uncordonNode)
    (hvalid : validateAction host goal w a = .ok ()) : Agrees host w a := by
  rcases hk with hk | hk
  all_goals
    simp only [validateAction, hk, validateCordonNode, validateUncordonNode, refuseIf_bind_ok,
      refuseIf_ok, Bool.not_eq_true, Option.isNone_eq_false_iff, Option.isSome_iff_exists] at hvalid
    obtain ⟨hne, node, hget⟩ := hvalid
    apply agrees_of
    case hsim =>
      simp only [simulateAction, hk, updateNode, existingNode, hget]
      rfl
    case hexec =>
      simp only [MemoryExecutor.execute, hk, existingNode, hget, cordonEvidence, refuseIf,
        if_neg hne]
      rfl
    case hinto =>
      simp only [projectInto, projectNodeCordoned, projectNodeUncordoned, knownNode, hget]
      rfl
    case hsame => exact Steady.same (.node hget (by rfl)) (.node hget (by rfl))

/-- A document that is handed to a node. -/
lemma agrees_handed (hk : a.kind = .applyPolicy ∨ a.kind = .publishZone)
    (hvalid : validateAction host goal w a = .ok ()) : Agrees host w a := by
  rcases hk with hk | hk
  all_goals
    simp only [validateAction, hk, validateApplyPolicy, validatePublishZone, refuseIf_bind_ok,
      Bool.not_eq_true, require_bind_ok, Option.isNone_eq_false_iff,
      Option.isSome_iff_exists] at hvalid
    obtain ⟨-, ⟨node, hget⟩, document, hdocument, -⟩ := hvalid
    apply agrees_of
    case hsim =>
      simp only [simulateAction, hk]
      rfl
    case hexec =>
      simp only [MemoryExecutor.execute, hk, hdocument]
      rfl
    case hinto =>
      simp only [projectInto, projectPolicyApplied, projectZonePublished, knownNode, hget]
      rfl
    case hsame => exact Steady.same (.of_eq rfl rfl rfl) (.node hget (by rfl))

lemma agrees_collectImages (hk : a.kind = .collectImages)
    (hvalid : validateCollectImages host goal w a = .ok ()) : Agrees host w a := by
  simp only [validateCollectImages, healthyNode, refuseIf_bind_ok, require_bind_ok,
    Option.filter_eq_some_iff] at hvalid
  obtain ⟨-, node, ⟨hget, -⟩, -⟩ := hvalid
  apply agrees_of
  case hsim =>
    simp only [simulateAction, hk]
    rfl
  case hexec =>
    simp only [MemoryExecutor.execute, hk]
    rfl
  case hinto =>
    simp only [projectInto, projectImagesCollected, knownNode, hget]
    rfl
  case hsame => exact Steady.same (.of_eq rfl rfl rfl) (.node hget (by rfl))

/-! ### Actions on allocations -/

/-- An action that moves an allocation the world has on to its next phase. -/
lemma agrees_moved (hk : a.kind = .startAllocation ∨ a.kind = .stopAllocation ∨
    a.kind = .drainAllocation) (hvalid : validateAction host goal w a = .ok ()) :
    Agrees host w a := by
  have hknown : ∃ x, w.allocations[a.target]? = some x := by
    rcases hk with hk | hk | hk
    all_goals
      simp only [validateAction, hk, validateStartAllocation, validateStopAllocation,
        validateDrainAllocation, existingAllocation, require_bind_ok,
        Option.filter_eq_some_iff] at hvalid
    · obtain ⟨x, ⟨hget, -⟩, -⟩ := hvalid
      exact ⟨x, hget⟩
    all_goals
      obtain ⟨x, hget, -⟩ := hvalid
      exact ⟨x, hget⟩
  obtain ⟨x, hget⟩ := hknown
  rcases hk with hk | hk | hk
  all_goals
    apply agrees_of
    case hsim =>
      simp only [simulateAction, hk, updateAllocation, existingAllocation, hget]
      rfl
    case hexec =>
      simp only [MemoryExecutor.execute, hk, existingAllocation, hget]
      rfl
    case hinto =>
      simp only [projectInto, projectAllocationRunning, projectAllocationStopped,
        projectAllocationDrained, knownAllocation, hget]
      rfl
    case hsame => exact .allocation rfl

lemma agrees_attachNetwork (hk : a.kind = .attachNetwork)
    (hvalid : validateAttachNetwork host goal w a = .ok ()) : Agrees host w a := by
  simp only [validateAttachNetwork, existingAllocation, require_bind_ok] at hvalid
  obtain ⟨x, hget, -⟩ := hvalid
  have haddress : simulatedAddress x.replica ≠ "" := by
    intro h
    have hlen := congrArg String.length h
    simp [simulatedAddress] at hlen
  apply agrees_of
  case hsim =>
    simp only [simulateAction, hk, updateAllocation, existingAllocation, hget]
    rfl
  case hexec =>
    simp only [MemoryExecutor.execute, hk, existingAllocation, hget]
    rfl
  case hinto =>
    simp [projectInto, projectNetworkAttached, knownAllocation, Evidence.observe, hget, require,
      refuseIf, haddress]
    rfl
  case hsame => exact Steady.same (.allocation hget (by rfl)) (.allocation hget (by rfl))

lemma agrees_mountSecret_iff (hk : a.kind = .mountSecret)
    (hvalid : validateMountSecret host goal w a = .ok ()) :
    Agrees host w a ↔ Mirrored w a := by
  simp only [validateMountSecret, existingAllocation, require_bind_ok, refuseIf_bind_ok]
    at hvalid
  obtain ⟨x, hget, -, secret, hsecret, -⟩ := hvalid
  rw [agrees_iff (secret.name ≠ "" ∧ secret.version ≠ "") (w.setAllocation a.target
    { x with secrets := x.secrets.insert secret.name secret.version })]
  case hsim =>
    simp only [simulateAction, hk, existingAllocation, hget, hsecret]
    rfl
  case hexec =>
    simp only [MemoryExecutor.execute, hk, existingAllocation, hget, hsecret]
    rfl
  case hinto =>
    intro w'
    simp only [projectInto, projectSecretMounted, knownAllocation, hget, require_bind_ok,
      refuseIf_bind_ok, pure_ok]
    simp [Evidence.observe]
  rw [and_iff_left (Steady.same (.allocation hget (by rfl)) (.allocation hget (by rfl)))]
  simp [Mirrored, hk, hsecret]

/-- An envelope of as many tools as the action lists can be made. -/
lemma makeslicePanics_length (n : ℕ) :
    makeslicePanics ((sscanInt (toString n)).getD 0) 40 = false ↔
      n * 40 ≤ 2 ^ 48 ∨ 2 ^ 63 ≤ n := by
  rw [sscanInt_length, makeslicePanics]
  by_cases hn : n < 2 ^ 63
  · have hhigh : (n : Int) < 2 ^ 63 := by exact_mod_cast hn
    have htoInt : (Int64.ofInt n).toInt = n :=
      Int64.toInt_ofInt_of_le (le_trans (by norm_num) (Int.natCast_nonneg n)) hhigh
    have hnonneg : ¬ Int64.ofInt n < 0 := by
      rw [Int64.lt_iff_toInt_lt, htoInt, Int64.toInt_zero]
      exact not_lt.mpr (Int.natCast_nonneg n)
    have hsize : (n : Int) * (40 : ℕ) > 2 ^ 48 ↔ ¬ n * 40 ≤ 2 ^ 48 := by
      rw [not_le]
      exact_mod_cast Iff.rfl
    rw [if_pos hn, htoInt]
    simp only [hnonneg, decide_false, Bool.false_or, decide_eq_false_iff_not, hsize,
      not_not, not_le.mpr hn, or_false]
  · rw [if_neg hn]
    exact ⟨fun _ => .inr (not_lt.mp hn), fun _ => by decide⟩

lemma agrees_grantTools_iff (hk : a.kind = .grantTools)
    (hvalid : validateGrantTools host goal w a = .ok ()) :
    Agrees host w a ↔ Mirrored w a := by
  simp only [validateGrantTools, existingAllocation, require_bind_ok, refuseIf_bind_ok]
    at hvalid
  obtain ⟨x, hget, hphase, -⟩ := hvalid
  obtain ⟨count, hcount⟩ : ∃ count, (sscanInt (toString a.tools.length)).getD 0 = count := ⟨_, rfl⟩
  rw [agrees_iff (makeslicePanics count 40 = false) (w.setAllocation a.target
    { x with tools := List.replicate count.toInt.toNat {} })]
  case hsim =>
    simp only [simulateAction, hk, updateAllocation, existingAllocation, hget]
    rfl
  case hexec =>
    simp only [MemoryExecutor.execute, hk, existingAllocation, hget]
    rfl
  case hinto =>
    intro w'
    simp only [projectInto, projectToolsGranted, knownAllocation, hget, require_bind_ok,
      refuseIf_bind_ok, Evidence.observedInt, Evidence.observe, get_ofEntries_cons,
      if_true, Option.getD_some, hcount, Option.some.injEq, exists_eq_left', hphase,
      not_false_eq_true, true_and]
    cases makeslicePanics count 40 with
    | false => simp
    | true => simp only [if_true, bind_ok, crash_ne_ok, false_and, exists_false,
        Bool.true_eq_false]
  rw [and_iff_left (Steady.same (.allocation hget (by rfl)) (.allocation hget (by rfl))), ← hcount,
    makeslicePanics_length]
  simp only [Mirrored, hk]

lemma agrees_publishRoute_iff (hk : a.kind = .publishRoute) :
    Agrees host w a ↔ Mirrored w a := by
  let route : Route := ⟨a.target, a.workload, a.port, a.exposure⟩
  rw [agrees_iff (a.target ≠ "") { w with routes := w.routes.insert a.target route }]
  case hsim =>
    simp only [simulateAction, hk]
    rfl
  case hexec =>
    simp only [MemoryExecutor.execute, hk]
    rfl
  case hinto =>
    intro w'
    simp only [projectInto, projectRouteReachable, refuseIf_bind_ok, pure_ok]
    simp [Evidence.observe, Evidence.observedInt, sscanInt_sprintInt, route]
  rw [and_iff_left (SameOutcome.of_eq (by rfl) (by rfl) (by rfl))]
  simp only [Mirrored, hk]

/-- The projection takes the node's own id for the allocation, which nothing else of the
outcome depends on. -/
lemma agrees_createAllocation_iff (hk : a.kind = .createAllocation)
    (hvalid : validateCreateAllocation host goal w a = .ok ()) :
    Agrees host w a ↔ Mirrored w a := by
  simp only [validateCreateAllocation, healthyNode, refuseIf_bind_ok, require_bind_ok,
    Option.filter_eq_some_iff] at hvalid
  obtain ⟨hnew, node, ⟨hget, -⟩, -⟩ := hvalid
  obtain ⟨e, hexec⟩ : ∃ e, MemoryExecutor.execute host w a = .ok e := by
    simp only [MemoryExecutor.execute, hk, existingNode, hget]
    exact ⟨_, rfl⟩
  have hrecords := memoryExecutor_recordsCreation hk hexec
  let booked : Allocation :=
    { id := a.target, workload := a.workload, replica := a.replica, node := node.id,
      image := a.image, resources := a.resources, phase := .created, budget := a.budget }
  let charged : Node := { node with
    used := node.used.add a.resources, budgetUsed := node.budgetUsed.add a.budget }
  have hsim : simulateAction w a =
      .ok ((w.setAllocation a.target { booked with node := a.node }).setNode a.node charged) := by
    simp only [simulateAction, hk, simulateCreateAllocation, existingNode, hget]
    rfl
  have hinto : ∀ w', projectInto w e = .ok w' ↔
      (a.target ≠ "" ∧ 1 ≤ a.resources.cpuMillis ∧ 1 ≤ a.resources.memoryMB) ∧
        (w.setAllocation a.target booked).setNode a.node charged = w' := by
    intro w'
    simp only [projectInto, hrecords.kind, projectAllocationCreated, knownNode, hrecords.node, hget,
      hrecords.target, hrecords.workload, hrecords.replica, hrecords.image, hrecords.budget,
      Evidence.observedResources, hrecords.resources.1, hrecords.resources.2, hnew,
      Bool.false_eq_true, if_false, bind_ok, pure_ok, refuseIf_ok, not_or, Int64.not_lt]
    constructor
    · rintro ⟨n, hn, _, htarget, _, ⟨_, hpositive, rfl⟩, rfl⟩
      cases require_ok.mp hn
      exact ⟨⟨htarget, hpositive⟩, rfl⟩
    · rintro ⟨⟨htarget, hpositive⟩, rfl⟩
      exact ⟨node, rfl, (), htarget, _, ⟨(), hpositive, rfl⟩, rfl⟩
  have hplanned : SameOutcome w (w.setAllocation a.target { booked with node := a.node })
      (w.setAllocation a.target booked) := .allocation rfl
  rw [agrees_iff _ _ hsim hexec hinto,
    and_iff_left ⟨hplanned.allocations, fun _ => rfl, hplanned.volumes, hplanned.orders⟩]
  simp only [Mirrored, hk]

/-! ### Deletion -/

lemma clamp_sub_eq_iff (used amount : Int64) :
    Resources.clamp (used - amount) = used ↔ Unmoved used amount := by
  rw [Resources.clamp, Unmoved]
  constructor
  · intro h
    split_ifs at h with hneg
    · refine .inr ⟨h.symm, ?_⟩
      rwa [← h, Int64.zero_sub] at hneg
    · have hzero : amount = 0 := by grind
      rw [h] at hneg
      exact .inl ⟨hzero, Int64.not_lt.mp hneg⟩
  · rintro (⟨rfl, hnonneg⟩ | ⟨rfl, hneg⟩)
    · rw [Int64.sub_zero, if_neg (Int64.not_lt.mpr hnonneg)]
    · rw [Int64.zero_sub, if_pos hneg]

lemma subtract_eq_self_iff (used amount : Budget) :
    used.subtract amount = used ↔ used.Unmoved amount := by
  rw [Budget.subtract]
  constructor
  · intro h
    obtain ⟨h₁, h₂, h₃, h₄⟩ := Budget.mk.inj h
    exact ⟨(clamp_sub_eq_iff _ _).mp h₁, (clamp_sub_eq_iff _ _).mp h₂,
      (clamp_sub_eq_iff _ _).mp h₃, (clamp_sub_eq_iff _ _).mp h₄⟩
  · rintro ⟨h₁, h₂, h₃, h₄⟩
    rw [(clamp_sub_eq_iff _ _).mpr h₁, (clamp_sub_eq_iff _ _).mpr h₂,
      (clamp_sub_eq_iff _ _).mpr h₃, (clamp_sub_eq_iff _ _).mpr h₄]

lemma agrees_deleteAllocation_iff (hk : a.kind = .deleteAllocation)
    (hvalid : validateDeleteAllocation host goal w a = .ok ()) :
    Agrees host w a ↔ Mirrored w a := by
  simp only [validateDeleteAllocation, existingAllocation, require_bind_ok] at hvalid
  obtain ⟨x, hget, -⟩ := hvalid
  simp only [Mirrored, hk, hget, Option.some.injEq, forall_eq']
  cases hnode : w.nodes[x.node]? with
  | none =>
    refine iff_of_true ?_ (by simp)
    apply agrees_of
    case hsim =>
      simp only [simulateAction, hk, simulateDeleteAllocation, existingAllocation, hget]
      rfl
    case hexec =>
      simp only [MemoryExecutor.execute, hk, existingAllocation, hget]
      rfl
    case hinto =>
      simp only [projectInto, projectAllocationDeleted, hget, hnode]
      rfl
    case hsame =>
      simp only [hnode]
      exact .of_eq rfl rfl rfl
  | some node =>
    simp only [Option.some.injEq, forall_eq']
    rw [← subtract_eq_self_iff, agrees_iff_same]
    case hsim =>
      simp only [simulateAction, hk, simulateDeleteAllocation, existingAllocation, hget]
      rfl
    case hexec =>
      simp only [MemoryExecutor.execute, hk, existingAllocation, hget]
      rfl
    case hinto =>
      simp only [projectInto, projectAllocationDeleted, hget, hnode, recordDisruption, true_or,
        if_true]
      rfl
    simp only [hnode]
    constructor
    · intro h
      have hboth := h.nodes x.node
      simp only [World.setNode, get_insert_self, Option.map_some, Option.some.injEq,
        Node.outcome, Prod.mk.injEq, true_and] at hboth
      exact hboth
    · intro h
      rw [h]
      exact .of_eq rfl rfl rfl

/-! ### Actions on volumes -/

lemma volumeSnapshot_of {ref : VolumeRef} {text : String} (href : a.volume = some ref)
    (hsnapshot : a.snapshot ≠ "") : volumeSnapshot a text = .ok ref :=
  volumeSnapshot_eq_ok.mpr ⟨href, hsnapshot⟩

lemma agrees_createVolume_iff (hk : a.kind = .createVolume)
    (hvalid : validateCreateVolume host goal w a = .ok ()) :
    Agrees host w a ↔ Mirrored w a := by
  simp only [validateCreateVolume, volumeRef, healthyNode, require_bind_ok, refuseIf_bind_ok,
    Option.filter_eq_some_iff] at hvalid
  obtain ⟨ref, href, -, node, ⟨hnode, -⟩, -⟩ := hvalid
  let volume : Volume := { name := ref.name, node := a.node }
  rw [agrees_iff (ref.name ≠ "") (if w.volumes[ref.name]?.isSome then w
    else w.setVolume ref.name volume)]
  case hsim =>
    simp only [simulateAction, hk, volumeRef, href]
    rfl
  case hexec =>
    simp only [MemoryExecutor.execute, hk, volumeRef, href, existingNode, hnode]
    rfl
  case hinto =>
    intro w'
    simp only [projectInto, projectVolumeCreated, knownNode, Evidence.observe, get_ofEntries_cons,
      if_true, Option.getD_some, hnode, require_some_bind, refuseIf_bind_ok]
    cases w.volumes[ref.name]?.isSome with
    | false => exact Iff.and Iff.rfl pure_ok
    | true => exact Iff.and Iff.rfl pure_ok
  rw [and_iff_left (.of_eq rfl rfl rfl)]
  simp [Mirrored, hk, href]

lemma agrees_attachVolume_iff (hk : a.kind = .attachVolume)
    (hvalid : validateAttachVolume host goal w a = .ok ()) :
    Agrees host w a ↔ Mirrored w a := by
  simp only [validateAttachVolume, volumeRef, existingAllocation, existingVolume,
    require_bind_ok, refuseIf_bind_ok] at hvalid
  obtain ⟨ref, href, x, hx, -, v, hv, -, howner, -⟩ := hvalid
  let held : Volume := if v.owner ≠ a.target then
    { v with owner := a.target, generation := v.generation + 1 } else v
  rw [agrees_iff (a.target ≠ "") ((w.setVolume ref.name held).setAllocation a.target
    { x with volumes := x.volumes.insert ref.name held.generation })]
  case hsim =>
    simp only [simulateAction, hk, simulateAttachVolume, volumeRef, href, existingVolume,
      existingAllocation, hx, require_some_bind, hv]
    rfl
  case hexec =>
    simp only [MemoryExecutor.execute, hk, volumeRef, href, existingAllocation, hx]
    rfl
  case hinto =>
    intro w'
    simp only [projectInto, projectVolumeAttached, knownVolume, hv, Evidence.observe,
      get_ofEntries_cons, if_true, Option.getD_some, hx, require_some_bind,
      refuseIf_bind_ok, howner, not_false_eq_true, true_and, pure_ok]
    exact Iff.rfl
  rw [and_iff_left (.of_eq rfl rfl rfl)]
  simp only [Mirrored, hk]

lemma agrees_detachVolume (hk : a.kind = .detachVolume)
    (hvalid : validateDetachVolume host goal w a = .ok ()) : Agrees host w a := by
  obtain ⟨ref, v, href, hv, howner⟩ := validateDetachVolume_ok hvalid
  have hmay : ¬ (v.owner ≠ "" ∧ a.target ≠ "" ∧ v.owner ≠ a.target) := by tauto
  apply agrees_of
  case hsim =>
    simp only [simulateAction, hk, simulateDetachVolume, volumeRef, href, require_some_bind, hv]
    rfl
  case hexec =>
    simp only [MemoryExecutor.execute, hk, volumeRef, href]
    rfl
  case hinto =>
    simp only [projectInto, projectVolumeDetached, hv, Evidence.observe,
      get_ofEntries_cons, if_true, Option.getD_some, if_neg hmay]
    rfl
  case hsame => exact .of_eq rfl rfl rfl

lemma agrees_quiesceVolume_iff (hk : a.kind = .quiesceVolume)
    (hvalid : validateQuiesceVolume host goal w a = .ok ()) :
    Agrees host w a ↔ Mirrored w a := by
  simp only [validateQuiesceVolume, volumeRef, existingVolume, healthyNode, require_bind_ok,
    refuseIf_bind_ok, Option.filter_eq_some_iff] at hvalid
  obtain ⟨ref, href, v, hv, howner, node, ⟨hnode, -⟩, -⟩ := hvalid
  rw [agrees_iff (a.node ≠ "") (w.setVolume ref.name { v with
    handoff := some { from_ := v.node, to_ := a.node, phase := .quiesced } })]
  case hsim =>
    simp only [simulateAction, hk, volumeRef, href, require_some_bind, updateVolume_of_get hv]
    rfl
  case hexec =>
    simp only [MemoryExecutor.execute, hk, volumeRef, href]
    rfl
  case hinto =>
    intro w'
    simp only [projectInto, projectVolumeQuiesced, knownVolume, hv, knownNode, Evidence.observe,
      get_ofEntries_cons, if_true, Option.getD_some, hnode, require_some_bind,
      refuseIf_bind_ok, howner, not_false_eq_true, true_and, pure_ok]
  rw [and_iff_left (.of_eq rfl rfl rfl)]
  simp only [Mirrored, hk]

lemma agrees_transferVolume_iff (hk : a.kind = .transferVolume)
    (hvalid : validateTransferVolume host goal w a = .ok ()) :
    Agrees host w a ↔ Mirrored w a := by
  simp only [validateTransferVolume, volumeRef, existingVolume, require_bind_ok,
    refuseIf_bind_ok] at hvalid
  obtain ⟨ref, href, v, hv, handoff, hhandoff, hphase, -⟩ := hvalid
  rw [agrees_iff (handoff.checksum ≠ "") (w.setVolume ref.name { v with
    handoff := some { handoff with phase := .transferred } })]
  case hsim =>
    simp only [simulateAction, hk, volumeRef, href, require_some_bind, updateVolume_of_get hv,
      hhandoff]
    rfl
  case hexec =>
    simp only [MemoryExecutor.execute, hk, volumeRef, href, require_some_bind, hv, Option.bind_some,
      hhandoff]
    rfl
  case hinto =>
    intro w'
    simp only [projectInto, projectVolumeTransferred, knownVolume, hv, hhandoff, require_some_bind,
      refuseIf_bind_ok, hphase, Evidence.observe, get_ofEntries_cons, String.reduceEq, if_true,
      if_false, Option.getD_some, not_false_eq_true, true_and, pure_ok, ne_eq, not_true_eq_false]
  rw [and_iff_left (.of_eq rfl rfl rfl)]
  simp [Mirrored, hk, href, hv, hhandoff]

lemma agrees_adoptVolume (hk : a.kind = .adoptVolume)
    (hvalid : validateAdoptVolume host goal w a = .ok ()) : Agrees host w a := by
  simp only [validateAdoptVolume, volumeRef, existingVolume, require_bind_ok,
    refuseIf_bind_ok, refuseIf_ok] at hvalid
  obtain ⟨ref, href, v, hv, handoff, hhandoff, hphase, hnode⟩ := hvalid
  apply agrees_of
  case hsim =>
    simp only [simulateAction, hk, volumeRef, href, require_some_bind, updateVolume_of_get hv,
      hhandoff]
    rfl
  case hexec =>
    simp only [MemoryExecutor.execute, hk, volumeRef, href]
    rfl
  case hinto =>
    simp only [projectInto, projectVolumeAdopted, knownVolume, hv, hhandoff, require_some_bind,
      refuseIf, if_neg hphase, Evidence.observe, get_ofEntries_cons, if_true,
      Option.getD_some, if_neg hnode]
    rfl
  case hsame => exact .of_eq rfl rfl rfl

lemma agrees_databaseBackup (hk : a.kind = .databaseBackup)
    (hvalid : validateDatabaseBackup host goal w a = .ok ()) : Agrees host w a := by
  simp only [validateDatabaseBackup, volumeRef, existingVolume, require_bind_ok,
    refuseIf_bind_ok] at hvalid
  obtain ⟨ref, href, hlabel, -, v, hv, -⟩ := hvalid
  apply agrees_of
  case hsim =>
    simp only [simulateAction, hk, volumeSnapshot_of href hlabel, ok_bind]
    exact congrArg Except.ok (updateVolume_of_get hv _)
  case hexec =>
    simp only [MemoryExecutor.execute, hk, volumeSnapshot_of href hlabel]
    rfl
  case hinto =>
    simp only [projectInto, projectDatabaseBackedUp, knownVolume, hv, require_some_bind, refuseIf,
      Evidence.observe, get_ofEntries_cons, String.reduceEq, if_true, if_false,
      Option.getD_some, hlabel, or_false]
    rfl
  case hsame => exact .of_eq rfl rfl rfl

lemma agrees_verifyBackup (hk : a.kind = .verifyBackup)
    (hvalid : validateVerifyBackup host goal w a = .ok ()) : Agrees host w a := by
  simp only [validateVerifyBackup, volumeRef, existingVolume, recordedSnapshot, require_bind_ok,
    refuseIf_bind_ok, refuseIf_ok] at hvalid
  obtain ⟨ref, href, hsnapshot, v, hv, hrecorded⟩ := hvalid
  apply agrees_of
  case hsim =>
    simp only [simulateAction, hk, volumeSnapshot_of href hsnapshot, ok_bind]
    rfl
  case hexec =>
    simp only [MemoryExecutor.execute, hk, volumeSnapshot_of href hsnapshot, ok_bind,
      existingVolume, hv]
    rfl
  case hinto =>
    simp only [projectInto, projectBackupVerified, knownVolume, hv, require_some_bind, refuseIf,
      Evidence.observe, get_ofEntries_cons, String.reduceEq, if_true, if_false,
      Option.getD_some, hsnapshot, ne_eq, not_true_eq_false, hrecorded]
    rfl
  case hsame => exact Steady.same (.of_eq rfl rfl rfl) (.volume hv (by rfl) (by rfl))

lemma agrees_backupSnapshot (hk : a.kind = .backupSnapshot)
    (hvalid : validateBackupSnapshot host goal w a = .ok ()) : Agrees host w a := by
  simp only [validateBackupSnapshot, volumeRef, existingVolume, recordedSnapshot,
    require_bind_ok, refuseIf_bind_ok, refuseIf_ok, Bool.not_eq_true,
    Option.isNone_eq_false_iff, Option.isSome_iff_exists] at hvalid
  obtain ⟨ref, href, hsnapshot, v, hv, checksum, hrecorded⟩ := hvalid
  apply agrees_of
  case hsim =>
    simp only [simulateAction, hk, volumeSnapshot_of href hsnapshot, ok_bind]
    exact congrArg Except.ok (updateVolume_of_get hv _)
  case hexec =>
    simp only [MemoryExecutor.execute, hk, volumeSnapshot_of href hsnapshot]
    rfl
  case hinto =>
    simp only [projectInto, projectVolumeBackedUp, knownVolume, hv, require_some_bind, refuseIf,
      Evidence.observe, get_ofEntries_cons, get_ofEntries_nil, String.reduceEq,
      if_true, if_false, Option.getD_some, Option.getD_none, hsnapshot, or_self, hrecorded, ne_eq,
      not_true_eq_false, false_and]
    rfl
  case hsame => exact .of_eq rfl rfl rfl

lemma agrees_restoreSnapshot (hk : a.kind = .restoreSnapshot)
    (hvalid : validateRestoreSnapshot host goal w a = .ok ()) : Agrees host w a := by
  simp only [validateRestoreSnapshot, volumeRef, existingVolume, recordedSnapshot,
    require_bind_ok, refuseIf_bind_ok] at hvalid
  obtain ⟨ref, href, hsnapshot, v, hv, hrecorded, -⟩ := hvalid
  apply agrees_of
  case hsim =>
    simp only [simulateAction, hk, volumeSnapshot_of href hsnapshot, ok_bind]
    exact congrArg Except.ok (updateVolume_of_get hv _)
  case hexec =>
    simp only [MemoryExecutor.execute, hk, volumeSnapshot_of href hsnapshot]
    rfl
  case hinto =>
    simp only [projectInto, projectVolumeRestored, knownVolume, hv, require_some_bind, refuseIf,
      Evidence.observe, get_ofEntries_cons, if_true, Option.getD_some, hsnapshot, if_false,
      hrecorded]
    rfl
  case hsame =>
    exact Steady.same (.volume hv (by rfl) (by rfl)) (.volume hv (by rfl) (by rfl))

/-- A snapshot moves a quiesced handoff on. -/
lemma handoffAfterSnapshot_phase (snapshot checksum : String) (handoff : Option VolumeHandoff) :
    handoff.map (·.phase) = (handoffAfterSnapshot snapshot checksum handoff).map (·.phase) ↔
      handoff.map (·.phase) ≠ some .quiesced := by
  cases handoff with
  | none => simp [handoffAfterSnapshot]
  | some h =>
    by_cases hphase : h.phase = .quiesced
    · simp [handoffAfterSnapshot, hphase]
    · simp [handoffAfterSnapshot, hphase]

lemma agrees_snapshotVolume_iff (hk : a.kind = .snapshotVolume)
    (hvalid : validateSnapshotVolume host goal w a = .ok ()) :
    Agrees host w a ↔ Mirrored w a := by
  simp only [validateSnapshotVolume, volumeRef, existingVolume, require_bind_ok] at hvalid
  obtain ⟨ref, href, v, hv, -⟩ := hvalid
  obtain ⟨snapshot, hsnapshot⟩ : ∃ snapshot, ref.name ++ "-simulated" = snapshot := ⟨_, rfl⟩
  have hnamed : snapshot ≠ "" := by
    rw [← hsnapshot]
    simp
  rw [agrees_iff (v.snapshots[snapshot]? = none ∨ v.snapshots[snapshot]? = some "simulated")
    (w.setVolume ref.name { v with
      snapshotOrder := if v.snapshots[snapshot]?.isSome then v.snapshotOrder
        else v.snapshotOrder ++ [snapshot]
      snapshots := v.snapshots.insert snapshot "simulated"
      lastSnapshot := snapshot
      handoff := handoffAfterSnapshot snapshot "simulated" v.handoff })]
  case hsim =>
    simp only [simulateAction, hk, volumeRef, href, require_some_bind]
    exact congrArg Except.ok (updateVolume_of_get hv _)
  case hexec =>
    simp only [MemoryExecutor.execute, hk, volumeRef, href, require_some_bind, hsnapshot]
    rfl
  case hinto =>
    intro w'
    simp only [projectInto, projectVolumeSnapshotted, knownVolume, hv, require_some_bind,
      refuseIf_bind_ok, Evidence.observe, get_ofEntries_cons, String.reduceEq, if_true,
      if_false, Option.getD_some, hnamed, or_false, not_false_eq_true, true_and, pure_ok]
    refine and_congr_left fun _ => ?_
    cases v.snapshots[snapshot]? <;> simp
  rw [sameOutcome_volume_iff hv]
  simp only [Volume.outcome, Prod.mk.injEq, true_and, and_true, handoffAfterSnapshot_phase,
    sameOrder_iff le_rfl]
  simp only [Mirrored, hk, href, hv, hsnapshot, Option.some.injEq, forall_eq']
  cases hold : v.snapshots[snapshot]? with
  | none => simp
  | some checksum => simp

/-! ### Pruning -/

lemma splitLines_of_oneLine {text : String} (h : OneLine text) : splitLines text = [text] := by
  simp [splitLines, split, splitRunes_of_absent h.2, h.1]

lemma flatMap_splitLines {ids : List String} (h : ∀ id ∈ ids, OneLine id) :
    ids.flatMap splitLines = ids := by
  induction ids with
  | nil => rfl
  | cons id ids ih =>
    rw [List.flatMap_cons, splitLines_of_oneLine (h id List.mem_cons_self),
      ih fun id' hid' => h id' (List.mem_cons_of_mem _ hid'), List.singleton_append]

lemma oneLine_of_mem_splitLines {text line : String} (h : line ∈ splitLines text) :
    OneLine line := by
  simp only [splitLines, split, List.mem_filter, List.mem_map, decide_eq_true_eq] at h
  obtain ⟨⟨piece, hpiece, rfl⟩, hne⟩ := h
  refine ⟨hne, ?_⟩
  rw [String.toList_ofList]
  exact sep_not_mem_piece hpiece

/-- Pruning leaves owner, generation, node and handoff alone. -/
lemma foldl_dropSnapshot_outcome (v : Volume) (ids : List String) :
    (ids.foldl dropSnapshot v).outcome = (v.owner, v.generation, v.node, v.handoff.map (·.phase),
      ids.foldl (fun t id => t.erase id) v.backups) := by
  rw [foldl_dropSnapshot]
  rfl

lemma pruned_outcome (v : Volume) (lines : List String) :
    (pruned v lines).outcome = (lines.foldl dropSnapshot v).outcome := by
  rw [pruned]
  split_ifs <;> rfl

lemma agrees_pruneSnapshots_iff (hk : a.kind = .pruneSnapshots)
    (hvalid : validatePruneSnapshots host goal w a = .ok ()) :
    Agrees host w a ↔ Mirrored w a := by
  simp only [validatePruneSnapshots, volumeRef, existingVolume, require_bind_ok] at hvalid
  obtain ⟨ref, href, v, hv, -⟩ := hvalid
  obtain ⟨ids, hids⟩ : ∃ ids, prunableSnapshots v a.retain = ids := ⟨_, rfl⟩
  rw [agrees_iff_same]
  case hsim =>
    simp only [simulateAction, hk, volumeRef, href, require_some_bind, updateVolume_of_get hv, hids]
    rfl
  case hexec =>
    simp only [MemoryExecutor.execute, hk, volumeRef, href, require_some_bind, existingVolume, hv,
      hids]
    rfl
  case hinto =>
    simp only [projectInto, projectSnapshotsPruned, knownVolume, hv, require_some_bind,
      Evidence.observe, get_ofEntries_cons, if_true, Option.getD_some, splitLines_join]
    rfl
  obtain ⟨lines, hlines⟩ : ∃ lines, ids.flatMap splitLines = lines := ⟨_, rfl⟩
  rw [hlines]
  change SameOutcome w (if a.dryRun then w else w.setVolume ref.name (ids.foldl dropSnapshot v))
    (w.setVolume ref.name (pruned v lines)) ↔ _
  simp only [Mirrored, hk, href, hv, hids, Option.some.injEq, forall_eq']
  cases a.dryRun with
  | true =>
    have hself : w = w.setVolume ref.name v := (World.setVolume_get hv).symm
    rw [if_pos rfl]
    nth_rewrite 2 [hself]
    rw [sameOutcome_volume_iff hv, pruned_outcome, pruned_order, sameOrder_iff le_rfl,
      eq_comm (b := v.snapshotOrder.diff lines), diff_eq_self_iff, foldl_dropSnapshot_outcome]
    simp only [Volume.outcome, Prod.mk.injEq, true_and, if_true, ← hlines, List.mem_flatMap]
    rw [eq_comm, Table.foldl_erase_eq_self_iff]
    constructor
    · rintro ⟨hbackups, horder⟩ id hid line hline
      have hmem : line ∈ ids.flatMap splitLines := List.mem_flatMap.mpr ⟨id, hid, hline⟩
      exact ⟨horder line ⟨id, hid, hline⟩, hbackups line hmem⟩
    · intro h
      refine ⟨fun line hline => ?_, ?_⟩
      · obtain ⟨id, hid, hline⟩ := List.mem_flatMap.mp hline
        exact (h id hid line hline).2
      · rintro line ⟨id, hid, hline⟩
        exact (h id hid line hline).1
  | false =>
    have hshrinks : (ids.foldl dropSnapshot v).snapshotOrder.length ≤ v.snapshotOrder.length := by
      rw [foldl_dropSnapshot]
      exact (List.diff_sublist _ _).length_le
    rw [if_neg Bool.false_ne_true, sameOutcome_volume_iff hv, pruned_outcome, pruned_order,
      sameOrder_iff hshrinks, foldl_dropSnapshot ids]
    simp only [Bool.false_eq_true, if_false]
    constructor
    · rintro ⟨-, hsame⟩ id hid
      by_contra hmalformed
      -- the plan removes every occurrence of the id, the report names none of them
      have hunnamed : lines.count id = 0 := by
        rw [List.count_eq_zero, ← hlines, List.mem_flatMap]
        rintro ⟨id', -, hline⟩
        exact hmalformed (oneLine_of_mem_splitLines hline)
      have hall : ids.count id = v.snapshotOrder.count id := by
        rw [← hids, prunableSnapshots] at hid ⊢
        exact List.count_filter (List.mem_filter.mp hid).2
      have hpos : 0 < ids.count id := List.count_pos_iff.mpr hid
      have hcount := congrArg (List.count id) hsame
      rw [List.count_diff, List.count_diff] at hcount
      omega
    · intro h
      rw [← hlines, flatMap_splitLines h]
      exact ⟨by rw [foldl_dropSnapshot], rfl⟩

end Kinds

/-- **An accepted action is executed as simulated** exactly if it is mirrored. -/
theorem simulation_agrees_iff {host : Host} {goal : Goal} {w : World} {a : Action}
    (hvalid : validateAction host goal w a = .ok ()) : Agrees host w a ↔ Mirrored w a := by
  have haction := hvalid
  cases hk : a.kind <;> simp only [validateAction, hk] at hvalid
  case createAllocation => exact agrees_createAllocation_iff hk hvalid
  case mountSecret => exact agrees_mountSecret_iff hk hvalid
  case createVolume => exact agrees_createVolume_iff hk hvalid
  case attachVolume => exact agrees_attachVolume_iff hk hvalid
  case snapshotVolume => exact agrees_snapshotVolume_iff hk hvalid
  case quiesceVolume => exact agrees_quiesceVolume_iff hk hvalid
  case transferVolume => exact agrees_transferVolume_iff hk hvalid
  case pruneSnapshots => exact agrees_pruneSnapshots_iff hk hvalid
  case deleteAllocation => exact agrees_deleteAllocation_iff hk hvalid
  case publishRoute => exact agrees_publishRoute_iff hk
  case grantTools => exact agrees_grantTools_iff hk hvalid
  case probeReadiness => exact absurd hvalid fail_ne_ok
  case other => exact absurd hvalid fail_ne_ok
  -- the actions that are mirrored whatever they say
  all_goals simp only [Mirrored, hk, iff_true]
  case pullImage => exact agrees_pullImage hk hvalid
  case attachNetwork => exact agrees_attachNetwork hk hvalid
  case detachVolume => exact agrees_detachVolume hk hvalid
  case restoreSnapshot => exact agrees_restoreSnapshot hk hvalid
  case backupSnapshot => exact agrees_backupSnapshot hk hvalid
  case adoptVolume => exact agrees_adoptVolume hk hvalid
  case collectImages => exact agrees_collectImages hk hvalid
  case verifyBackup => exact agrees_verifyBackup hk hvalid
  case databaseBackup => exact agrees_databaseBackup hk hvalid
  case startAllocation => exact agrees_moved (.inl hk) haction
  case stopAllocation => exact agrees_moved (.inr (.inl hk)) haction
  case drainAllocation => exact agrees_moved (.inr (.inr hk)) haction
  case applyPolicy => exact agrees_handed (.inl hk) haction
  case publishZone => exact agrees_handed (.inr hk) haction
  case cordonNode => exact agrees_service (.inl hk) haction
  case uncordonNode => exact agrees_service (.inr hk) haction

/-! ### Three actions that are executed otherwise than simulated -/

namespace Divergence

/-- A stopped agent that still holds its budget, a volume with two snapshots, and one that
is about to move. -/
def world : World :=
  { nodes := Table.ofEntries
      [("n1", { id := "n1", healthy := true, budgetUsed := { tokens := 100 } })]
    allocations := Table.ofEntries
      [("agent-0", { id := "agent-0", workload := "agent", node := "n1", phase := .stopped,
                     budget := { tokens := 100 } })]
    volumes := Table.ofEntries
      [("data", { name := "data", node := "n1", lastSnapshot := "s2",
                  snapshots := Table.ofEntries [("s1", "sum-1"), ("s2", "sum-2")],
                  snapshotOrder := ["s1", "s2"] }),
       ("moving", { name := "moving", node := "n1",
                    handoff := some { from_ := "n1", to_ := "n2", phase := .quiesced } })] }

def goal : Goal := { id := "keep-agent", workload := { name := "agent" } }

def delete : Action :=
  { id := "delete", kind := .deleteAllocation, target := "agent-0", workload := "agent" }

def snapshot : Action :=
  { id := "snapshot", kind := .snapshotVolume, volume := some { name := "moving" } }

def prune : Action :=
  { id := "prune", kind := .pruneSnapshots, volume := some { name := "data" }, retain := 1,
    dryRun := true }

lemma delete_valid : validateDeleteAllocation quietHost goal world delete = .ok () := by decide

lemma snapshot_valid : validateSnapshotVolume quietHost goal world snapshot = .ok () := by decide

lemma prune_valid : validatePruneSnapshots quietHost goal world prune = .ok () := by decide

end Divergence

open Divergence

/-- **Three divergences**: the kernel accepts each of the actions, and none is executed as
simulated. Deleting the agent releases its budget in the plan only, the snapshot moves the
handoff on in the world only, and the dry run removes a snapshot from the world. -/
theorem simulation_diverges :
    (validateAction quietHost goal world delete = .ok () ∧
        ¬ Agrees quietHost world delete) ∧
      (validateAction quietHost goal world snapshot = .ok () ∧
        ¬ Agrees quietHost world snapshot) ∧
      validateAction quietHost goal world prune = .ok () ∧
        ¬ Agrees quietHost world prune := by
  refine ⟨⟨delete_valid, ?_⟩, ⟨snapshot_valid, ?_⟩, prune_valid, ?_⟩
  · rw [agrees_deleteAllocation_iff rfl delete_valid]
    intro h
    have htokens := (h _ (by rfl) _ (by rfl)).tokens
    exact absurd htokens (by decide)
  · rw [agrees_snapshotVolume_iff rfl snapshot_valid]
    intro h
    exact (h _ (by rfl) _ (by rfl)).2 (by rfl)
  · rw [agrees_pruneSnapshots_iff rfl prune_valid]
    intro h
    have hline := h _ (by rfl) _ (by rfl) "s1" (by decide) "s1" (by decide)
    exact hline.1 (by decide)

/-- Taking the node out of service is executed as simulated. -/
theorem simulation_agrees_iff_cordon :
    Agrees quietHost world { id := "cordon", kind := .cordonNode, target := "n1" } := by
  have hvalid : validateAction quietHost goal world
      { id := "cordon", kind := .cordonNode, target := "n1" } = .ok () := by decide
  exact (simulation_agrees_iff hvalid).mpr trivial

end A4s
