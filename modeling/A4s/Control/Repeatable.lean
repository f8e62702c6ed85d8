/-
Which evidence repeats.

The kinds of evidence that touch more than one record, and the kinds that do not repeat: a
detachment advances the generation again, a failure is counted again, a drain is charged to
the disruption ledger again, and a transfer or an adoption is refused the second time.

* `Repeatable`: what the world and the evidence have to be for the evidence to repeat.
* `project_repeats_iff`: accepted evidence repeats exactly then.
-/
import A4s.Control.Replay

namespace A4s

open Go

/-! ### Creations -/

section Creations

variable {w w₁ : World} {e : Evidence}

lemma replays_allocationCreated (hk : e.kind = .allocationCreated) (h : project w e = .ok w₁) :
    Replays w₁ e := by
  refine replays_again (by rw [hk]; rfl) h fun next revision time hinto => ?_
  simp only [projectInto, hk, projectAllocationCreated, knownNode, require_bind_ok,
    refuseIf_bind_ok] at hinto ⊢
  obtain ⟨node, hnode, htarget, hinto⟩ := hinto
  split_ifs at hinto with hold
  · cases hinto
    exact ⟨node, hnode, htarget, if_pos hold⟩
  · obtain ⟨resources, -, hinto⟩ := bind_ok.mp hinto
    cases hinto
    exact ⟨_, get_insert_self, htarget, if_pos (Option.isSome_of_eq_some get_insert_self)⟩

lemma replays_volumeCreated (hk : e.kind = .volumeCreated) (h : project w e = .ok w₁) :
    Replays w₁ e := by
  refine replays_again (by rw [hk]; rfl) h fun next revision time hinto => ?_
  simp only [projectInto, hk, projectVolumeCreated, knownNode, require_bind_ok,
    refuseIf_bind_ok] at hinto ⊢
  obtain ⟨htarget, node, hnode, hinto⟩ := hinto
  split_ifs at hinto with hold
  · cases hinto
    exact ⟨htarget, node, hnode, if_pos hold⟩
  · cases hinto
    exact ⟨htarget, node, hnode, if_pos (Option.isSome_of_eq_some get_insert_self)⟩

end Creations

/-! ### Volumes and their holders -/

section Holders

variable {w w₁ : World} {e : Evidence}

lemma replays_volumeQuiesced (hk : e.kind = .volumeQuiesced) (h : project w e = .ok w₁) :
    Replays w₁ e := by
  refine replays_again (by rw [hk]; rfl) h fun next revision time hinto => ?_
  simp only [projectInto, hk, projectVolumeQuiesced, knownVolume, knownNode, require_bind_ok,
    refuseIf_bind_ok, pure_ok] at hinto ⊢
  obtain ⟨v, -, hto, node, hnode, howner, rfl⟩ := hinto
  exact ⟨_, get_insert_self, hto, node, hnode, howner, by
    simp only [World.stamp, World.setVolume, Table.insert_insert]⟩

/-- A volume attached to its owner again is left as it is. -/
lemma replays_volumeAttached (hk : e.kind = .volumeAttached) (h : project w e = .ok w₁) :
    Replays w₁ e := by
  have hkind := observes_of hk rfl
  obtain ⟨next, hinto, hstamp⟩ := project_advance hkind h
  simp only [projectInto, hk, projectVolumeAttached, knownVolume, require_bind_ok,
    refuseIf_bind_ok, pure_ok] at hinto
  obtain ⟨v, -, hnamed, a, -, -, rfl⟩ := hinto
  obtain ⟨v', hv', howner⟩ : ∃ v', v' = (if v.owner ≠ e.observe "allocation" then
      { v with owner := e.observe "allocation", generation := v.generation + 1 } else v) ∧
      v'.owner = e.observe "allocation" := by
    refine ⟨_, rfl, ?_⟩
    split_ifs with hheld
    · rfl
    · exact not_not.mp hheld
  obtain ⟨a', ha'⟩ : ∃ a', a' = { a with volumes := a.volumes.insert e.target v'.generation } :=
    ⟨_, rfl⟩
  have hvolume : w₁.volumes[e.target]? = some v' := by
    rw [← hstamp, hv']
    exact get_insert_self
  have hallocation : w₁.allocations[e.observe "allocation"]? = some a' := by
    rw [← hstamp, ha', hv']
    exact get_insert_self
  have hkept : { a' with volumes := a'.volumes.insert e.target v'.generation } = a' := by
    simp only [ha', Table.insert_insert]
  refine replays_of_into hkind h ?_
  simp only [projectInto, hk, projectVolumeAttached, knownVolume, hvolume, hallocation,
    require_some_bind, refuseIf_bind_ok, pure_ok, howner, ne_eq, not_true_eq_false, if_false,
    and_false, not_false_eq_true, hkept, World.setVolume_get hvolume,
    World.setAllocation_get hallocation, and_true]
  exact hnamed

/-- What a release that is not refused leaves of the volume. -/
lemma projectVolumeDetached_volume {v : Volume} {next : World}
    (hinto : projectVolumeDetached w e = .ok next) (hget : w.volumes[e.target]? = some v)
    (howner : ¬ (v.owner ≠ "" ∧ e.observe "allocation" ≠ "" ∧ v.owner ≠ e.observe "allocation")) :
    next.volumes[e.target]? = some { v with owner := "", generation := v.generation + 1 } := by
  simp only [projectVolumeDetached, hget, if_neg howner, Except.ok.injEq] at hinto
  rw [← hinto]
  exact get_insert_self

/-- **A release advances the generation every time.** Only a release by another than the
owner, or of an unknown volume, repeats. -/
lemma replays_volumeDetached_iff (hk : e.kind = .volumeDetached) (h : project w e = .ok w₁) :
    Replays w₁ e ↔ ∀ v, w.volumes[e.target]? = some v →
      v.owner ≠ "" ∧ e.observe "allocation" ≠ "" ∧ v.owner ≠ e.observe "allocation" := by
  have hkind := observes_of hk rfl
  have hcase : ∀ w, projectInto w e = projectVolumeDetached w e := fun w => by
    rw [projectInto, hk]
  obtain ⟨next, hinto, hstamp⟩ := project_advance hkind h
  rw [hcase] at hinto
  cases hget : w.volumes[e.target]? with
  | none =>
    refine iff_of_true (replays_of_into hkind h ?_) (fun v hv => by cases hv)
    rw [projectVolumeDetached, hget] at hinto
    cases hinto
    have hgone : w₁.volumes[e.target]? = none := by rw [← hstamp]; exact hget
    rw [hcase, projectVolumeDetached, hgone]
  | some v =>
    simp only [Option.some.injEq, forall_eq']
    by_cases hother : v.owner ≠ "" ∧ e.observe "allocation" ≠ "" ∧
        v.owner ≠ e.observe "allocation"
    · refine iff_of_true (replays_of_into hkind h ?_) hother
      simp only [projectVolumeDetached, hget, if_pos hother, Except.ok.injEq] at hinto
      have hthere : w₁.volumes[e.target]? = some v := by
        rw [← hstamp, ← hinto]
        exact hget
      simp only [hcase, projectVolumeDetached, hthere, if_pos hother]
    · refine iff_of_false ?_ hother
      have hthere : w₁.volumes[e.target]? =
          some { v with owner := "", generation := v.generation + 1 } := by
        have hnext := projectVolumeDetached_volume hinto hget hother
        rw [← hstamp]
        exact hnext
      rintro ⟨w', hproject, hsame⟩
      obtain ⟨next', hinto', rfl⟩ := project_advance hkind hproject
      rw [hcase] at hinto'
      -- the released volume has no owner, so it is released again
      have hagain := projectVolumeDetached_volume hinto' hthere (fun howned => howned.1 rfl)
      have hvolume : next'.volumes = w₁.volumes := (congrArg World.volumes hsame :)
      rw [hvolume, hthere] at hagain
      have hgeneration := congrArg Volume.generation (Option.some.inj hagain)
      exact absurd (UInt64.add_eq_left.mp hgeneration.symm) (by decide)

end Holders

/-! ### The end of an allocation -/

section Endings

variable {w w₁ : World} {e : Evidence}

lemma recordDisruption_of_idle {a : Allocation} {kind : EvidenceKind} {at_ : Time}
    (h : at_ = 0 ∨ a.phase = .stopped) : recordDisruption w a kind at_ = w := if_pos h

/-- What is detached or deleted is gone, and is not missed the second time. -/
lemma replays_gone (hk : e.kind = .networkDetached ∨ e.kind = .allocationDeleted)
    (h : project w e = .ok w₁) : Replays w₁ e := by
  refine replays_again (by rcases hk with hk | hk <;> rw [hk] <;> rfl)
    h fun next revision time hinto => ?_
  rcases hk with hk | hk
  all_goals
    simp only [projectInto, hk, projectNetworkDetached, projectAllocationDeleted] at hinto ⊢
    cases hget : w.allocations[e.target]? with
    | none =>
      rw [hget] at hinto
      cases hinto
      simp only [World.stamp, hget]
    | some a =>
      rw [hget] at hinto
      cases hinto
      simp only [World.stamp, World.setAllocation, get_insert_self, Table.insert_insert, get_erase,
        if_true]

/-- A stopped allocation is not disrupted by being stopped. -/
lemma replays_allocationStopped (hk : e.kind = .allocationStopped) (h : project w e = .ok w₁) :
    Replays w₁ e := by
  refine replays_again (by rw [hk]; rfl) h fun next revision time hinto => ?_
  simp only [projectInto, hk, projectAllocationStopped, knownAllocation, require_bind_ok,
    pure_ok] at hinto ⊢
  obtain ⟨a, -, rfl⟩ := hinto
  refine ⟨_, get_insert_self, ?_⟩
  rw [recordDisruption_of_idle (.inr rfl)]
  simp only [World.stamp, World.setAllocation, Table.insert_insert]

/-- **A failure is counted every time.** -/
lemma not_replays_allocationFailed (hk : e.kind = .allocationFailed) : ¬ Replays w₁ e := by
  have hkind := observes_of hk rfl
  -- the counter of the target after one projection
  have hcounted : ∀ {w w' : World}, project w e = .ok w' →
      (w'.backoff[e.target]?.getD {}).failures = (w.backoff[e.target]?.getD {}).failures + 1 := by
    intro w w' hproject
    obtain ⟨next, hinto, rfl⟩ := project_advance hkind hproject
    simp only [projectInto, hk, projectAllocationFailed, knownAllocation, require_bind_ok,
      pure_ok] at hinto
    obtain ⟨a, -, rfl⟩ := hinto
    simp only [advance, recordFailure, World.setAllocation, get_insert_self, Option.getD_some]
  rintro ⟨w', hproject, hsame⟩
  have hbackoff : w'.backoff = w₁.backoff := (congrArg World.backoff hsame :)
  have hcount := hcounted hproject
  rw [hbackoff] at hcount
  exact absurd (Int64.add_eq_left.mp hcount.symm) (by decide)

/-- A disruption that counts is one more entry, however often the ledger holds it already. -/
lemma disruptions_recordDisruption_ne {a : Allocation} {kind : EvidenceKind} {at_ : Time}
    (h : ¬ (at_ = 0 ∨ a.phase = .stopped))
    (hrecent : ∀ d ∈ w.disruptions, at_ - disruptionRetention < d.at_) :
    (recordDisruption w a kind at_).disruptions ≠ w.disruptions := by
  have hnow : at_ - disruptionRetention < at_ := Int.sub_lt_self _ (by decide)
  rw [recordDisruption, if_neg h]
  dsimp only
  rw [List.filter_eq_self.mpr]
  · intro hsame
    have hlength := congrArg List.length hsame
    simp at hlength
  · intro d hd
    rw [decide_eq_true_eq]
    rcases List.mem_append.mp hd with hold | hnew
    · exact hrecent d hold
    · rw [List.mem_singleton.mp hnew]
      exact hnow

/-- **A drain is charged every time**, unless the allocation had stopped or the evidence
carries no time. -/
lemma replays_allocationDrained_iff (hk : e.kind = .allocationDrained) (h : project w e = .ok w₁) :
    Replays w₁ e ↔ ∀ a, w.allocations[e.target]? = some a →
      e.observedAt = 0 ∨ a.phase = .stopped := by
  have hkind := observes_of hk rfl
  have htime := project_time hkind h
  obtain ⟨next, hinto, hstamp⟩ := project_advance hkind h
  simp only [projectInto, hk, projectAllocationDrained, knownAllocation, require_bind_ok,
    pure_ok] at hinto
  obtain ⟨a, hget, hnext⟩ := hinto
  obtain ⟨a', ha'⟩ : ∃ a', a' = { a with
    draining := true, task := "", ready := false, readySince := 0 } := ⟨_, rfl⟩
  rw [← ha'] at hnext
  have hthere : w₁.allocations[e.target]? = some a' := by
    rw [← hstamp, ← hnext, recordDisruption]
    split_ifs
    · exact get_insert_self
    · exact get_insert_self
  have hphase : a'.phase = a.phase := by rw [ha']
  have hkept : { a' with draining := true, task := "", ready := false, readySince := 0 } = a' := by
    rw [ha']
  have hagain : ∀ w', projectInto w₁ e = .ok w' ↔
      True ∧ recordDisruption w₁ a' .allocationDrained e.observedAt = w' := by
    intro w'
    simp only [projectInto, hk, projectAllocationDrained, knownAllocation, hthere,
      require_some_bind, pure_ok, hkept, World.setAllocation_get hthere, true_and]
  rw [replays_iff hkind htime _ hagain (by rw [recordDisruption]; split_ifs <;> rfl)
    (by rw [recordDisruption]; split_ifs <;> rfl), hget]
  simp only [true_and, Option.some.injEq, forall_eq']
  rw [← hphase]
  constructor
  · intro hsame
    by_contra hcounts
    refine disruptions_recordDisruption_ne hcounts ?_ (congrArg World.disruptions hsame)
    -- the first projection has dropped what is older than the retention
    intro d hd
    rw [← hstamp, ← hnext, recordDisruption, if_neg hcounts] at hd
    exact of_decide_eq_true (List.mem_filter.mp hd).2
  · intro hidle
    exact recordDisruption_of_idle hidle

end Endings

/-! ### Readiness -/

section Readiness

variable {w w₁ : World} {e : Evidence}

/-- The readiness the allocation had was not held, or had lapsed by the time of the evidence. -/
def Lapsed (a : Allocation) (e : Evidence) : Prop :=
  a.ready = false ∨ (a.readyExpiresAt ≠ 0 ∧ a.readyExpiresAt ≤ e.observedAt)

lemma readySinceAfter_of_ready {a : Allocation} (h : e.observe "ready" = "true") :
    (Lapsed a e ∨ a.readySince = 0) ∧ readySinceAfter a e = e.observedAt ∨
      ¬ (Lapsed a e ∨ a.readySince = 0) ∧ readySinceAfter a e = a.readySince := by
  have hlapsed : ((!a.ready || (decide (a.readyExpiresAt ≠ 0) &&
      decide (a.readyExpiresAt ≤ e.observedAt))) = true) ↔ Lapsed a e := by
    simp only [Lapsed, Bool.or_eq_true, Bool.not_eq_true', Bool.and_eq_true, decide_eq_true_eq]
  rw [readySinceAfter, if_neg (not_not.mpr h)]
  by_cases hrestart : Lapsed a e ∨ a.readySince = 0
  · exact .inl ⟨hrestart, if_pos (hrestart.imp_left hlapsed.mpr)⟩
  · exact .inr ⟨hrestart, if_neg fun h => hrestart (h.imp_left hlapsed.mp)⟩

/-- The allocation as a readiness measurement leaves it. -/
def probed (a : Allocation) (e : Evidence) : Allocation :=
  { a with
    readySince := readySinceAfter a e
    ready := decide (e.observe "ready" = "true")
    readyExpiresAt := e.expiresAt }

/-- A measurement that had expired when it was made restarts the run of readiness. -/
lemma readySinceAfter_probed_iff (a : Allocation) (e : Evidence) :
    readySinceAfter (probed a e) e = readySinceAfter a e ↔
      (e.observe "ready" = "true" → e.expiresAt ≠ 0 → e.expiresAt ≤ e.observedAt →
        Lapsed a e ∨ a.readySince = 0 ∨ a.readySince = e.observedAt) := by
  by_cases hready : e.observe "ready" = "true"
  · have hlapsed : Lapsed (probed a e) e ↔ e.expiresAt ≠ 0 ∧ e.expiresAt ≤ e.observedAt := by
      simp only [Lapsed, probed, hready, decide_true, Bool.true_eq_false, false_or]
    have hsince : (probed a e).readySince = readySinceAfter a e := rfl
    have hfirst := readySinceAfter_of_ready (a := a) hready
    have hsecond := readySinceAfter_of_ready (a := probed a e) hready
    rw [hlapsed, hsince] at hsecond
    simp only [hready, true_imp_iff]
    grind
  · refine iff_of_true ?_ fun h => absurd h hready
    simp only [readySinceAfter, ne_eq, hready, not_false_eq_true, if_true]

/-- A measurement that leaves the allocation as it is, made a second time. -/
lemma applyReadiness_again {a : Allocation} (hget : w.allocations[e.target]? = some a)
    (hsame : probed a e = a)
    (hcleared : e.observe "ready" = "true" →
      w.backoff[a.id]? = none ∧ w.knownGood[a.workload]? = some a.image) :
    applyReadiness w a e = w := by
  have hset : w.setAllocation e.target (probed a e) = w := by
    rw [hsame, World.setAllocation_get hget]
  have hunfold : applyReadiness w a e = if decide (e.observe "ready" = "true") then
      { clearBackoff (w.setAllocation e.target (probed a e)) a.id with
        knownGood := w.knownGood.insert a.workload a.image }
      else w.setAllocation e.target (probed a e) := rfl
  rw [hunfold, hset]
  split_ifs with hready
  · obtain ⟨hbackoff, hgood⟩ := hcleared (of_decide_eq_true hready)
    rw [Table.insert_get_self hgood, clearBackoff, Table.erase_of_absent hbackoff]
  · rfl

/-- **Readiness repeats** unless the measurement had expired when it was made and the run of
readiness it joined began before it. -/
lemma replays_ready_iff (hkind : observesNothing e.kind = false)
    (hcase : ∀ w, projectInto w e = projectReady w e) (h : project w e = .ok w₁) :
    Replays w₁ e ↔ ∀ a, w.allocations[e.target]? = some a →
      e.observe "ready" = "true" → e.expiresAt ≠ 0 → e.expiresAt ≤ e.observedAt →
        Lapsed a e ∨ a.readySince = 0 ∨ a.readySince = e.observedAt := by
  have htime := project_time hkind h
  obtain ⟨next, hinto, hstamp⟩ := project_advance hkind h
  simp only [hcase, projectReady, knownAllocation, require_bind_ok, refuseIf_bind_ok,
    pure_ok] at hinto
  obtain ⟨a, hget, hphase, hnext⟩ := hinto
  have hthere : w₁.allocations[e.target]? = some (probed a e) := by
    rw [← hstamp, ← hnext]
    simp only [advance, applyReadiness_allocations, get_insert_self]
    rfl
  have hagain : ∀ w', projectInto w₁ e = .ok w' ↔
      True ∧ applyReadiness w₁ (probed a e) e = w' := by
    intro w'
    simp only [hcase, projectReady, knownAllocation, hthere, require_some_bind,
      refuseIf_bind_ok, pure_ok]
    exact and_congr_left fun _ => iff_of_true hphase trivial
  rw [replays_iff hkind htime _ hagain (by rw [applyReadiness]; dsimp only; split_ifs <;> rfl)
    (by rw [applyReadiness]; dsimp only; split_ifs <;> rfl), hget]
  simp only [true_and, Option.some.injEq, forall_eq']
  rw [← readySinceAfter_probed_iff]
  constructor
  · intro hsame
    have hallocations := congrArg (fun w => w.allocations[e.target]?) hsame
    simp only [applyReadiness_allocations, get_insert_self, hthere, Option.some.injEq]
      at hallocations
    exact congrArg Allocation.readySince hallocations
  · intro hsince
    refine applyReadiness_again hthere ?_ fun hready => ?_
    · rw [probed, hsince]
      rfl
    · rw [← hstamp, ← hnext]
      simp only [advance, applyReadiness, hready, decide_true, if_true, clearBackoff,
        World.setAllocation, probed, get_erase, get_insert_self, and_self]

end Readiness

/-! ### Pruned snapshots -/

/-- **A prune repeats** exactly if it has left no further occurrence of an id it names. -/
lemma replays_snapshotsPruned_iff {w w₁ : World} {e : Evidence} (hk : e.kind = .snapshotsPruned)
    (h : project w e = .ok w₁) :
    Replays w₁ e ↔ ∀ v, w.volumes[e.target]? = some v →
      ∀ id ∈ splitLines (e.observe "removed"),
        v.snapshotOrder.count id ≤ (splitLines (e.observe "removed")).count id := by
  have hwrites : Writes (volumeCell e.target) e (fun _ => True)
      fun v => pruned v (splitLines (e.observe "removed")) := by
    intro w w'
    simp only [projectInto, hk, projectSnapshotsPruned, knownVolume, require_bind_ok, pure_ok,
      true_and]
    rfl
  obtain ⟨v, hget, -, hiff⟩ := hwrites.replays (by rw [hk]; rfl) h
  have hget' : w.volumes[e.target]? = some v := hget
  rw [hiff, true_and, pruned_again_iff, hget']
  simp only [Option.some.injEq, forall_eq']

/-! ### Routes and approvals -/

section Routes

variable {w w₁ : World} {e : Evidence}

lemma replays_routeReachable (hk : e.kind = .routeReachable) (h : project w e = .ok w₁) :
    Replays w₁ e := by
  refine replays_again (by rw [hk]; rfl) h fun next revision time hinto => ?_
  simp only [projectInto, hk, projectRouteReachable, refuseIf_bind_ok, pure_ok] at hinto ⊢
  obtain ⟨hnamed, rfl⟩ := hinto
  exact ⟨hnamed, by simp only [World.stamp, Table.insert_insert]⟩

lemma replays_routeRemoved (hk : e.kind = .routeRemoved) (h : project w e = .ok w₁) :
    Replays w₁ e := by
  refine replays_again (by rw [hk]; rfl) h fun next revision time hinto => ?_
  simp only [projectInto, hk, Except.ok.injEq] at hinto ⊢
  subst hinto
  have hgone : (w.routes.erase e.target)[e.target]? = none := by
    rw [get_erase, if_pos rfl]
  simp only [World.stamp, Table.erase_of_absent hgone]

lemma replays_approvalGranted (hk : e.kind = .approvalGranted) (h : project w e = .ok w₁) :
    Replays w₁ e := by
  refine replays_again (by rw [hk]; rfl) h fun next revision time hinto => ?_
  simp only [projectInto, hk, projectApprovalGranted, refuseIf_bind_ok, pure_ok] at hinto ⊢
  obtain ⟨hnamed, hgoal, hscope, rfl⟩ := hinto
  exact ⟨hnamed, hgoal, hscope, by simp only [World.stamp, Table.insert_insert]⟩

lemma replays_approvalRevoked (hk : e.kind = .approvalRevoked) (h : project w e = .ok w₁) :
    Replays w₁ e := by
  refine replays_again (by rw [hk]; rfl) h fun next revision time hinto => ?_
  simp only [projectInto, hk, projectApprovalRevoked] at hinto ⊢
  cases hget : w.approvals[e.target]? with
  | none =>
    rw [hget] at hinto
    cases hinto
    simp only [World.stamp, hget]
  | some approval =>
    rw [hget] at hinto
    cases hinto
    simp only [World.stamp, get_insert_self, Table.insert_insert]

/-- A diagnosis is recorded for audit alone. -/
lemma replays_diagnosisRecorded (hk : e.kind = .diagnosisRecorded) : Replays w₁ e :=
  ⟨w₁, by simp only [project, projectInto, hk]; rfl, rfl⟩

end Routes

/-! ### The equivalence -/

/-- What the world and the evidence have to be for the evidence to repeat. -/
def Repeatable (w : World) (e : Evidence) : Prop :=
  match e.kind with
  | .volumeTransferred | .volumeAdopted | .allocationFailed => False
  | .volumeDetached => ∀ v, w.volumes[e.target]? = some v →
      v.owner ≠ "" ∧ e.observe "allocation" ≠ "" ∧ v.owner ≠ e.observe "allocation"
  | .snapshotsPruned => ∀ v, w.volumes[e.target]? = some v →
      ∀ id ∈ splitLines (e.observe "removed"),
        v.snapshotOrder.count id ≤ (splitLines (e.observe "removed")).count id
  | .allocationReady | .agentReady => ∀ a, w.allocations[e.target]? = some a →
      e.observe "ready" = "true" → e.expiresAt ≠ 0 → e.expiresAt ≤ e.observedAt →
        Lapsed a e ∨ a.readySince = 0 ∨ a.readySince = e.observedAt
  | .allocationDrained => ∀ a, w.allocations[e.target]? = some a →
      e.observedAt = 0 ∨ a.phase = .stopped
  | _ => True

/-- **Accepted evidence repeats exactly if it is repeatable.** -/
theorem project_repeats_iff {w w₁ : World} {e : Evidence} (h : project w e = .ok w₁) :
    Replays w₁ e ↔ Repeatable w e := by
  cases hk : e.kind <;> simp only [Repeatable, hk, iff_true, iff_false]
  case allocationCreated => exact replays_allocationCreated hk h
  case volumeCreated => exact replays_volumeCreated hk h
  case volumeAttached => exact replays_volumeAttached hk h
  case volumeSnapshotted => exact replays_volumeSnapshotted hk h
  case volumeQuiesced => exact replays_volumeQuiesced hk h
  case backupVerified => exact replays_backupVerified hk h
  case networkDetached | allocationDeleted => exact replays_gone (by simp [hk]) h
  case allocationStopped => exact replays_allocationStopped hk h
  case routeReachable => exact replays_routeReachable hk h
  case routeRemoved => exact replays_routeRemoved hk h
  case toolsGranted => exact replays_toolsGranted hk h
  case agentSpent => exact replays_agentSpent hk h
  case providerReachable => exact replays_providerReachable hk h
  case approvalGranted => exact replays_approvalGranted hk h
  case approvalRevoked => exact replays_approvalRevoked hk h
  case diagnosisRecorded => exact replays_diagnosisRecorded hk
  case queueObserved => exact replays_queueObserved hk h
  -- the evidence that writes fields of one record
  case imagePresent | imagesCollected | policyApplied | zonePublished | nodeCordoned |
      nodeUncordoned | nodeReachable | nodeUnreachable =>
    exact replays_node (by simp [hk]) h
  case secretMounted | networkAttached | allocationRunning | agentDraining =>
    exact replays_allocation (by simp [hk]) h
  case volumeBackedUp | databaseBackedUp | volumeRestored =>
    exact replays_volume (by simp [hk]) h
  -- the kinds that repeat under a condition
  case volumeDetached => exact replays_volumeDetached_iff hk h
  case snapshotsPruned => exact replays_snapshotsPruned_iff hk h
  case allocationReady | agentReady =>
    exact replays_ready_iff (by rw [hk]; rfl) (fun w => by rw [projectInto, hk]) h
  case allocationDrained => exact replays_allocationDrained_iff hk h
  -- the kinds that never do
  case volumeTransferred | volumeAdopted => exact not_replays_handoff (by simp [hk]) h
  case allocationFailed => exact not_replays_allocationFailed hk
  -- an unknown kind is not accepted
  case other text =>
    simp only [project, projectInto, hk, bind_ok, fail_ne_ok, false_and, exists_false] at h

/-! ### Three reports delivered twice -/

namespace Repetition

def received : VolumeHandoff :=
  { from_ := "n1", to_ := "n2", phase := .transferred, snapshot := "s", checksum := "c" }

/-- An allocation that holds a volume, and a volume that its new node has received. -/
def world : World :=
  { nodes := Table.ofEntries [("n1", { id := "n1" }), ("n2", { id := "n2" })]
    allocations := Table.ofEntries
      [("web-0", { id := "web-0", workload := "web", node := "n1", phase := .running })]
    volumes := Table.ofEntries
      [("data", { name := "data", node := "n1", owner := "web-0", generation := 1 }),
       ("moving", { name := "moving", node := "n1", handoff := some received })] }

def failed : Evidence :=
  { kind := .allocationFailed, target := "web-0", observedAt := 5
    observed := Table.ofEntries [("exit_code", "1")] }

def released : Evidence :=
  { kind := .volumeDetached, target := "data", observedAt := 5
    observed := Table.ofEntries [("allocation", "web-0")] }

def adopted : Evidence :=
  { kind := .volumeAdopted, target := "moving", observedAt := 5
    observed := Table.ofEntries [("node", "n2")] }

def cordoned : Evidence := { kind := .nodeCordoned, target := "n1", observedAt := 5 }

lemma released_ok : ∃ w₁, project world released = .ok w₁ := ⟨_, rfl⟩

lemma adopted_ok : ∃ w₁, project world adopted = .ok w₁ := ⟨_, rfl⟩

end Repetition

open Repetition

/-- **Three reports that do not repeat**: a failure delivered twice counts as two, the volume
released twice advances two generations, and the adoption is refused the second time. -/
theorem project_not_repeated :
    (∃ w₁, project world failed = .ok w₁ ∧ ¬ Replays w₁ failed) ∧
      (∃ w₁, project world released = .ok w₁ ∧ ¬ Replays w₁ released) ∧
      ∃ w₁, project world adopted = .ok w₁ ∧ ¬ Replays w₁ adopted := by
  refine ⟨⟨_, rfl, not_replays_allocationFailed rfl⟩, ?_, ?_⟩
  · obtain ⟨w₁, hok⟩ := released_ok
    refine ⟨w₁, hok, fun hreplays => ?_⟩
    have howner := (replays_volumeDetached_iff rfl hok).mp hreplays _ (by rfl)
    exact howner.2.2 (by rfl)
  · obtain ⟨w₁, hok⟩ := adopted_ok
    exact ⟨w₁, hok, not_replays_handoff (.inr rfl) hok⟩

/-- A node reported cordoned twice is cordoned as it was. -/
theorem project_repeats_iff_cordoned :
    ∃ w₁, project world cordoned = .ok w₁ ∧ Replays w₁ cordoned := by
  have hok : ∃ w₁, project world cordoned = .ok w₁ := ⟨_, rfl⟩
  obtain ⟨w₁, hok⟩ := hok
  exact ⟨w₁, hok, (project_repeats_iff hok).mpr trivial⟩

end A4s
