/-
Projecting the same evidence twice.

Events are delivered more than once, and the projection promises that applying the same
evidence twice yields the same result. The revision counts projections, so it is left out.

* `Replays`: the evidence is accepted again, and nothing but the revision changes.
* `Cell`, `Writes`: evidence that updates one record of the world under a guard.
* `Writes.replays`: such evidence repeats exactly if the record it left passes the guard and
  is left as it is.
-/
import A4s.Control.Pruning

namespace A4s

open Go

/-! ### Projecting twice -/

/-- The same evidence is accepted again, and changes nothing but the revision. -/
def Replays (w : World) (e : Evidence) : Prop :=
  ∃ w', project w e = .ok w' ∧ { w' with revision := w.revision } = w

/-- Revision and evaluation time set. -/
def World.stamp (w : World) (revision : UInt64) (time : Time) : World :=
  { w with revision := revision, observedAt := time }

section Rules

variable {w w₁ : World} {e : Evidence}

lemma observes_of {k : EvidenceKind} (hk : e.kind = k) (h : observesNothing k = false) :
    observesNothing e.kind = false := by
  rw [hk]
  exact h

/-- The time of the evidence has passed in the world it was projected into. -/
lemma project_time (hk : observesNothing e.kind = false) (h : project w e = .ok w₁) :
    e.observedAt = 0 ∨ e.observedAt ≤ w₁.observedAt := by
  simp only [project, hk, Bool.false_eq_true, if_false, bind_ok, pure_ok] at h
  obtain ⟨next, -, rfl⟩ := h
  by_cases hlater : e.observedAt ≠ 0 ∧ next.observedAt < e.observedAt
  · simp [advance, hlater]
  · by_cases hzero : e.observedAt = 0
    · exact .inl hzero
    · refine .inr ?_
      simp only [advance, if_neg hlater]
      exact not_lt.mp fun hlt => hlater ⟨hzero, hlt⟩

/-- A projection of the kind's own case, under a condition, to a world that keeps
revision and time. -/
lemma replays_iff {c : Prop} (hk : observesNothing e.kind = false)
    (htime : e.observedAt = 0 ∨ e.observedAt ≤ w₁.observedAt) (next : World)
    (hinto : ∀ w', projectInto w₁ e = .ok w' ↔ c ∧ next = w')
    (hrevision : next.revision = w₁.revision) (hobserved : next.observedAt = w₁.observedAt) :
    Replays w₁ e ↔ c ∧ next = w₁ := by
  have hlate : ¬ (e.observedAt ≠ 0 ∧ next.observedAt < e.observedAt) := by
    rw [hobserved]
    rintro ⟨hzero, hlt⟩
    exact htime.elim hzero (not_le.mpr hlt)
  have hback : { advance w₁ next e with revision := w₁.revision } = next := by
    rw [advance, if_neg hlate, ← hrevision]
  constructor
  · rintro ⟨w', hproject, hsame⟩
    simp only [project, hk, Bool.false_eq_true, if_false, bind_ok, pure_ok] at hproject
    obtain ⟨_, hnext, rfl⟩ := hproject
    obtain ⟨hc, rfl⟩ := (hinto _).mp hnext
    exact ⟨hc, hback.symm.trans hsame⟩
  · rintro ⟨hc, hsame⟩
    refine ⟨advance w₁ next e, ?_, hback.trans hsame⟩
    simp only [project, hk, Bool.false_eq_true, if_false, bind_ok, pure_ok]
    exact ⟨next, (hinto next).mpr ⟨hc, rfl⟩, rfl⟩

/-- Evidence that the world it led to takes as it is. -/
lemma replays_of_into (hk : observesNothing e.kind = false) (h : project w e = .ok w₁)
    (hinto : projectInto w₁ e = .ok w₁) : Replays w₁ e :=
  (replays_iff (c := True) hk (project_time hk h) w₁
    (fun w' => by rw [hinto, Except.ok.injEq, true_and]) rfl rfl).mpr ⟨trivial, rfl⟩

lemma project_advance (hk : observesNothing e.kind = false) (h : project w e = .ok w₁) :
    ∃ next, projectInto w e = .ok next ∧ advance w next e = w₁ := by
  simpa only [project, hk, Bool.false_eq_true, if_false, bind_ok, pure_ok] using h

/-- **The rule for evidence that repeats**: the world it leads to takes it as it is, whatever
its revision and time. -/
lemma replays_again (hk : observesNothing e.kind = false) (h : project w e = .ok w₁)
    (hagain : ∀ next revision time, projectInto w e = .ok next →
      projectInto (next.stamp revision time) e = .ok (next.stamp revision time)) :
    Replays w₁ e := by
  obtain ⟨next, hinto, hstamp⟩ := project_advance hk h
  have hkept := hagain next (advance w next e).revision (advance w next e).observedAt hinto
  exact replays_of_into hk h (hstamp ▸ hkept)

end Rules

/-! ### Evidence about one record -/

/-- One record of the world, which may be missing. -/
structure Cell (α : Type) where
  get : World → Option α
  set : World → α → World
  get_set : ∀ w a, get (set w a) = some a
  set_set : ∀ w a b, set (set w a) b = set w b
  get_stamp : ∀ w revision time, get (w.stamp revision time) = get w
  set_stamp : ∀ w revision time a, set (w.stamp revision time) a = (set w a).stamp revision time

def nodeCell (id : String) : Cell Node where
  get w := w.nodes[id]?
  set w n := w.setNode id n
  get_set w n := get_insert_self
  set_set w n n' := by simp only [World.setNode, Table.insert_insert]
  get_stamp _ _ _ := rfl
  set_stamp _ _ _ _ := rfl

def allocationCell (id : String) : Cell Allocation where
  get w := w.allocations[id]?
  set w a := w.setAllocation id a
  get_set w a := get_insert_self
  set_set w a a' := by simp only [World.setAllocation, Table.insert_insert]
  get_stamp _ _ _ := rfl
  set_stamp _ _ _ _ := rfl

def volumeCell (name : String) : Cell Volume where
  get w := w.volumes[name]?
  set w v := w.setVolume name v
  get_set w v := get_insert_self
  set_set w v v' := by simp only [World.setVolume, Table.insert_insert]
  get_stamp _ _ _ := rfl
  set_stamp _ _ _ _ := rfl

def queueCell (name : String) : Cell Queue where
  get w := w.queues[name]?
  set w q := { w with queues := w.queues.insert name q }
  get_set w q := get_insert_self
  set_set w q q' := by simp only [Table.insert_insert]
  get_stamp _ _ _ := rfl
  set_stamp _ _ _ _ := rfl

section Cells

variable {α : Type} {cell : Cell α} {w w₁ : World} {e : Evidence} {guard : α → Prop} {f : α → α}

lemma Cell.set_revision (cell : Cell α) (w : World) (a : α) :
    (cell.set w a).revision = w.revision := by
  have hstamp := cell.set_stamp w w.revision w.observedAt a
  exact (congrArg World.revision hstamp).trans rfl

lemma Cell.set_observedAt (cell : Cell α) (w : World) (a : α) :
    (cell.set w a).observedAt = w.observedAt := by
  have hstamp := cell.set_stamp w w.revision w.observedAt a
  exact (congrArg World.observedAt hstamp).trans rfl

/-- The evidence updates one record, if it is there and passes the guard. -/
def Writes (cell : Cell α) (e : Evidence) (guard : α → Prop) (f : α → α) : Prop :=
  ∀ w w', projectInto w e = .ok w' ↔ ∃ a, cell.get w = some a ∧ guard a ∧ cell.set w (f a) = w'

/-- **The rule for one record**: the evidence repeats exactly if the record it left passes
the guard and is left as it is. -/
lemma Writes.replays (hwrites : Writes cell e guard f) (hk : observesNothing e.kind = false)
    (h : project w e = .ok w₁) :
    ∃ a, cell.get w = some a ∧ guard a ∧ (Replays w₁ e ↔ guard (f a) ∧ f (f a) = f a) := by
  have htime := project_time hk h
  obtain ⟨_, hinto, rfl⟩ := project_advance hk h
  obtain ⟨a, hget, hguard, rfl⟩ := (hwrites w _).mp hinto
  refine ⟨a, hget, hguard, ?_⟩
  obtain ⟨revision, time, hstamp⟩ : ∃ revision time, advance w (cell.set w (f a)) e =
      (cell.set w (f a)).stamp revision time := ⟨_, _, rfl⟩
  have hthere : cell.get (advance w (cell.set w (f a)) e) = some (f a) := by
    rw [hstamp, cell.get_stamp, cell.get_set]
  have hagain : ∀ w', projectInto (advance w (cell.set w (f a)) e) e = .ok w' ↔
      guard (f a) ∧ cell.set (advance w (cell.set w (f a)) e) (f (f a)) = w' := by
    intro w'
    rw [hwrites, hthere]
    simp only [Option.some.injEq, exists_eq_left']
  rw [replays_iff hk htime _ hagain (cell.set_revision _ _) (cell.set_observedAt _ _), hstamp,
    cell.set_stamp, cell.set_set]
  refine and_congr_right fun _ => ⟨fun hsame => ?_, fun hsame => by rw [hsame]⟩
  have hrecord := congrArg cell.get hsame
  rw [cell.get_stamp, cell.get_stamp, cell.get_set, cell.get_set] at hrecord
  exact Option.some.inj hrecord

/-- An update that keeps its guard and repeats itself. -/
lemma Writes.repeats (hwrites : Writes cell e guard f) (hk : observesNothing e.kind = false)
    (hguard : ∀ a, guard a → guard (f a)) (hf : ∀ a, guard a → f (f a) = f a)
    (h : project w e = .ok w₁) : Replays w₁ e := by
  obtain ⟨a, -, hpassed, hiff⟩ := hwrites.replays hk h
  exact hiff.mpr ⟨hguard a hpassed, hf a hpassed⟩

end Cells

/-! ### Evidence about nodes -/

section Nodes

variable {w w₁ : World} {e : Evidence}

/-- Evidence that writes fields of a node. -/
lemma replays_node (hk : e.kind = .imagePresent ∨ e.kind = .imagesCollected ∨
    e.kind = .policyApplied ∨ e.kind = .zonePublished ∨ e.kind = .nodeCordoned ∨
    e.kind = .nodeUncordoned ∨ e.kind = .nodeReachable ∨ e.kind = .nodeUnreachable)
    (h : project w e = .ok w₁) : Replays w₁ e := by
  refine replays_again (by rcases hk with hk | hk | hk | hk | hk | hk | hk | hk <;> rw [hk] <;> rfl)
    h fun next revision time hinto => ?_
  rcases hk with hk | hk | hk | hk | hk | hk | hk | hk
  all_goals simp only [projectInto, hk, projectImagePresent, projectImagesCollected,
    projectPolicyApplied, projectZonePublished, projectNodeCordoned, projectNodeUncordoned,
    projectNodeReachability, knownNode, require_bind_ok, refuseIf_bind_ok, pure_ok] at hinto ⊢
  · obtain ⟨n, hget, hnamed, rfl⟩ := hinto
    exact ⟨_, get_insert_self, hnamed, by simp only [World.stamp, World.setNode, Table.insert_insert]⟩
  all_goals
    obtain ⟨n, hget, rfl⟩ := hinto
    exact ⟨_, get_insert_self, by
      simp only [World.stamp, World.setNode, Table.insert_insert, Table.foldl_erase_again]⟩

/-- A newer measurement of the provider is on record. -/
def superseded (e : Evidence) (n : Node) : Bool :=
  match n.providers[e.target]? with
  | some existing => decide (existing.observedAt ≠ 0) && decide (e.observedAt < existing.observedAt)
  | none => false

/-- The measurement of a provider, unless it is superseded. -/
def measured (e : Evidence) (n : Node) : Node :=
  let reach : ProviderReach :=
    { reachable := decide (e.observe "reachable" = "true"), observedAt := e.observedAt,
      expiresAt := e.expiresAt, detail := e.observe "detail" }
  if superseded e n then n else { n with providers := n.providers.insert e.target reach }

lemma measured_measured (e : Evidence) (n : Node) : measured e (measured e n) = measured e n := by
  cases hold : superseded e n with
  | true =>
    have hkept : measured e n = n := if_pos hold
    rw [hkept, hkept]
  | false =>
    have hnew : measured e n = { n with providers := _ } := if_neg (ne_true_of_eq_false hold)
    rw [hnew, measured, superseded]
    simp only [get_insert_self, lt_irrefl, decide_false, Bool.and_false,
      Bool.false_eq_true, if_false, Table.insert_insert]

lemma replays_providerReachable (hk : e.kind = .providerReachable) (h : project w e = .ok w₁) :
    Replays w₁ e := by
  have hwrites : Writes (nodeCell (e.observe "node")) e (fun _ => e.target ≠ "") (measured e) := by
    intro w w'
    simp only [projectInto, hk, projectProviderReachable, knownNode, require_bind_ok,
      refuseIf_bind_ok]
    refine exists_congr fun n => and_congr_right fun hget => and_congr_right fun _ => ?_
    change (if superseded e n = true then _ else _) = _ ↔
      w.setNode (e.observe "node") (if superseded e n = true then _ else _) = _
    cases superseded e n with
    | true => rw [if_pos rfl, if_pos rfl, pure_ok, World.setNode_get hget]
    | false => rw [if_neg Bool.false_ne_true, if_neg Bool.false_ne_true, pure_ok]
  exact hwrites.repeats (by rw [hk]; rfl) (fun _ h => h) (fun n _ => measured_measured e n) h

end Nodes

/-! ### Evidence about allocations -/

section Allocations

variable {w w₁ : World} {e : Evidence}

/-- Evidence that writes fields of an allocation. -/
lemma replays_allocation (hk : e.kind = .secretMounted ∨ e.kind = .networkAttached ∨
    e.kind = .allocationRunning ∨ e.kind = .agentDraining) (h : project w e = .ok w₁) :
    Replays w₁ e := by
  refine replays_again (by rcases hk with hk | hk | hk | hk <;> rw [hk] <;> rfl)
    h fun next revision time hinto => ?_
  rcases hk with hk | hk | hk | hk
  all_goals simp only [projectInto, hk, projectSecretMounted, projectNetworkAttached,
    projectAllocationRunning, projectAgentDraining, knownAllocation, require_bind_ok,
    refuseIf_bind_ok, pure_ok] at hinto ⊢
  · obtain ⟨a, hget, hnamed, rfl⟩ := hinto
    exact ⟨_, get_insert_self, hnamed, by
      simp only [World.stamp, World.setAllocation, Table.insert_insert]⟩
  · obtain ⟨a, hget, hnamed, rfl⟩ := hinto
    exact ⟨_, get_insert_self, hnamed, by
      simp only [World.stamp, World.setAllocation, Table.insert_insert]⟩
  · obtain ⟨a, hget, rfl⟩ := hinto
    exact ⟨_, get_insert_self, by simp only [World.stamp, World.setAllocation, Table.insert_insert]⟩
  · obtain ⟨a, hget, rfl⟩ := hinto
    refine ⟨_, get_insert_self, ?_⟩
    simp only [World.stamp, World.setAllocation, Table.insert_insert]
    cases e.observed["task"]? <;> rfl

lemma replays_toolsGranted (hk : e.kind = .toolsGranted) (h : project w e = .ok w₁) :
    Replays w₁ e := by
  refine replays_again (by rw [hk]; rfl) h fun next revision time hinto => ?_
  simp only [projectInto, hk, projectToolsGranted, knownAllocation, require_bind_ok,
    refuseIf_bind_ok, not_not] at hinto ⊢
  obtain ⟨a, hget, hphase, hgranted⟩ := hinto
  cases hpanics : makeslicePanics (e.observedInt "count") 40 with
  | true =>
    simp only [hpanics, if_true, bind_ok, crash_ne_ok, false_and, exists_false] at hgranted
  | false =>
    rw [hpanics, if_neg Bool.false_ne_true] at hgranted
    obtain rfl := pure_ok.mp hgranted
    exact ⟨_, get_insert_self, hphase, by
      simp only [World.stamp, World.setAllocation, Table.insert_insert]
      rfl⟩

/-- The spend of an agent, unless it has been reported higher. -/
def charged (e : Evidence) (a : Allocation) : Allocation :=
  let spent := e.observedBudget
  if spent.tokens < a.spent.tokens ∨ spent.costMillis < a.spent.costMillis then a
  else
    let a := { a with spent := spent }
    if a.exhausted then { a with ready := false } else a

lemma charged_charged (e : Evidence) (a : Allocation) : charged e (charged e a) = charged e a := by
  by_cases hlow : e.observedBudget.tokens < a.spent.tokens ∨
      e.observedBudget.costMillis < a.spent.costMillis
  · have hkept : charged e a = a := if_pos hlow
    rw [hkept, hkept]
  · -- the reading on record is the reported one now, which is not lower than itself
    have hagain : ∀ a' : Allocation, a'.spent = e.observedBudget →
        charged e a' = if a'.exhausted then { a' with ready := false } else a' := by
      intro a' hspent
      have hsame : { a' with spent := e.observedBudget } = a' := by rw [← hspent]
      rw [charged, if_neg, hsame]
      rw [hspent]
      exact not_or.mpr ⟨Int64.lt_irrefl, Int64.lt_irrefl⟩
    have hnew : charged e a = if ({ a with spent := e.observedBudget } : Allocation).exhausted then
        { a with spent := e.observedBudget, ready := false }
      else { a with spent := e.observedBudget } := if_neg hlow
    rw [hnew]
    split_ifs with hexhausted
    · rw [hagain _ rfl]
      exact if_pos hexhausted
    · rw [hagain _ rfl]
      exact if_neg hexhausted

lemma replays_agentSpent (hk : e.kind = .agentSpent) (h : project w e = .ok w₁) :
    Replays w₁ e := by
  have hwrites : Writes (allocationCell e.target) e (fun _ => True) (charged e) := by
    intro w w'
    simp only [projectInto, hk, projectAgentSpent, knownAllocation, require_bind_ok, true_and]
    refine exists_congr fun a => and_congr_right fun hget => ?_
    change _ ↔ w.setAllocation e.target (charged e a) = w'
    rw [charged]
    by_cases hlow : e.observedBudget.tokens < a.spent.tokens ∨
      e.observedBudget.costMillis < a.spent.costMillis
    · rw [if_pos hlow, if_pos hlow, pure_ok, World.setAllocation_get hget]
    · rw [if_neg hlow, if_neg hlow, pure_ok]
  exact hwrites.repeats (by rw [hk]; rfl) (fun _ h => h) (fun a _ => charged_charged e a) h

end Allocations

/-! ### Evidence about volumes -/

section Volumes

variable {w w₁ : World} {e : Evidence}

lemma handoffAfterSnapshot_again (snapshot checksum : String) (handoff : Option VolumeHandoff) :
    handoffAfterSnapshot snapshot checksum (handoffAfterSnapshot snapshot checksum handoff) =
      handoffAfterSnapshot snapshot checksum handoff := by
  cases handoff with
  | none => rfl
  | some handoff =>
    by_cases hphase : handoff.phase = .quiesced <;> simp [handoffAfterSnapshot, hphase]

lemma replays_volumeSnapshotted (hk : e.kind = .volumeSnapshotted) (h : project w e = .ok w₁) :
    Replays w₁ e := by
  refine replays_again (by rw [hk]; rfl) h fun next revision time hinto => ?_
  simp only [projectInto, hk, projectVolumeSnapshotted, knownVolume, require_bind_ok,
    refuseIf_bind_ok, pure_ok] at hinto ⊢
  obtain ⟨v, hget, hnamed, hsame, rfl⟩ := hinto
  refine ⟨_, get_insert_self, hnamed, ?_, ?_⟩
  · simp only [get_insert_self, ne_eq, not_true_eq_false, and_false, not_false_eq_true]
  · simp only [World.stamp, World.setVolume, get_insert_self, Option.isSome_some, if_true,
      Table.insert_insert, handoffAfterSnapshot_again]

/-- Evidence that writes fields of a volume. -/
lemma replays_volume (hk : e.kind = .volumeBackedUp ∨ e.kind = .databaseBackedUp ∨
    e.kind = .volumeRestored) (h : project w e = .ok w₁) : Replays w₁ e := by
  refine replays_again (by rcases hk with hk | hk | hk <;> rw [hk] <;> rfl)
    h fun next revision time hinto => ?_
  rcases hk with hk | hk | hk
  all_goals simp only [projectInto, hk, projectVolumeBackedUp, projectDatabaseBackedUp,
    projectVolumeRestored, knownVolume, require_bind_ok, refuseIf_bind_ok, pure_ok] at hinto ⊢
  · obtain ⟨v, hget, hnamed, recorded, hrecorded, hsum, rfl⟩ := hinto
    exact ⟨_, get_insert_self, hnamed, recorded, hrecorded, hsum, by
      simp only [World.stamp, World.setVolume, Table.insert_insert]⟩
  · obtain ⟨v, hget, hnamed, rfl⟩ := hinto
    exact ⟨_, get_insert_self, hnamed, by
      simp only [World.stamp, World.setVolume, Table.insert_insert, get_insert_self,
        Option.isSome_some, if_true]⟩
  · obtain ⟨v, hget, hnamed, hthere, rfl⟩ := hinto
    exact ⟨_, get_insert_self, hnamed, hthere, by
      simp only [World.stamp, World.setVolume, Table.insert_insert]⟩

/-- A transfer that has been recorded is past the phase it asks for, and a volume that has been
adopted is not being moved. -/
lemma not_replays_handoff (hk : e.kind = .volumeTransferred ∨ e.kind = .volumeAdopted)
    (h : project w e = .ok w₁) : ¬ Replays w₁ e := by
  have hkind : observesNothing e.kind = false := by rcases hk with hk | hk <;> rw [hk] <;> rfl
  rintro ⟨w', hagain, -⟩
  obtain ⟨next, hinto, rfl⟩ := project_advance hkind h
  obtain ⟨next', hinto', -⟩ := project_advance hkind hagain
  rcases hk with hk | hk
  all_goals simp only [projectInto, hk, projectVolumeTransferred, projectVolumeAdopted, knownVolume,
    require_bind_ok, refuseIf_bind_ok, pure_ok, not_not] at hinto hinto'
  · obtain ⟨v, -, handoff, -, -, -, -, rfl⟩ := hinto
    obtain ⟨v', hget, handoff', hhandoff, hphase, -⟩ := hinto'
    cases get_insert_self.symm.trans hget
    cases hhandoff
    cases hphase
  · obtain ⟨v, -, handoff, -, -, -, rfl⟩ := hinto
    obtain ⟨v', hget, handoff', hhandoff, -⟩ := hinto'
    cases get_insert_self.symm.trans hget
    cases hhandoff

lemma replays_backupVerified (hk : e.kind = .backupVerified) (h : project w e = .ok w₁) :
    Replays w₁ e := by
  refine replays_again (by rw [hk]; rfl) h fun next revision time hinto => ?_
  simp only [projectInto, hk, projectBackupVerified, knownVolume, require_bind_ok,
    refuseIf_bind_ok] at hinto ⊢
  obtain ⟨v, hget, hnamed, hverified⟩ := hinto
  split_ifs at hverified ⊢
  · cases hverified
    exact ⟨v, hget, hnamed, rfl⟩
  -- the time of the verification is that of the evidence, if it has one
  all_goals
    obtain ⟨hknown, hset⟩ := refuseIf_bind_ok.mp hverified
    cases hset
    refine ⟨_, get_insert_self, hnamed, refuseIf_bind_ok.mpr ⟨hknown, ?_⟩⟩
    simp only [World.stamp, World.setVolume, Table.insert_insert]
    rfl

end Volumes

/-! ### Measurements of queues -/

lemma replays_queueObserved {w w₁ : World} {e : Evidence} (hk : e.kind = .queueObserved)
    (h : project w e = .ok w₁) : Replays w₁ e := by
  have hwrites : Writes (queueCell e.target) e (fun _ => e.target ≠ "")
      fun q => { q with
        depth := e.observedInt "depth", inFlight := e.observedInt "in_flight"
        observedAt := e.observedAt } := by
    intro w w'
    simp only [projectInto, hk, projectQueueObserved, refuseIf_bind_ok, require_bind_ok, pure_ok]
    constructor
    · rintro ⟨hnamed, q, hget, hset⟩
      exact ⟨q, hget, hnamed, hset⟩
    · rintro ⟨q, hget, hnamed, hset⟩
      exact ⟨hnamed, q, hget, hset⟩
  exact hwrites.repeats (by rw [hk]; rfl) (fun _ h => h) (fun _ _ => rfl) h

end A4s
