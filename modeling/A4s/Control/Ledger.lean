/-
The ledger: what plans and observations are about.

Above the records of a world lies a small state: which allocations there are, of
which workload, replica index and phase, and which allocation owns each volume.
The kernel plans over a simulated world and the projection follows what executors
report. Both are refinements of steps on the ledger.

* `Ledger`, `World.ledger`: the abstract state and the view a world gives of it;
* `Action.intent`: what an action is meant to do; `simulate_ledger`: the kernel's
  simulation does it;
* `Evidence.meaning`: what a report says has happened; `project_ledger`: **the
  projection follows the report**.
-/
import Mathlib.Logic.Function.Basic
import A4s.Control.Simulation

namespace A4s

open Go

/-! ### The abstract state -/

/-- What a plan knows of one allocation. -/
structure Slot where
  workload : String
  replica : Int64
  phase : AllocationPhase
  deriving DecidableEq

/-- The allocations there are, and the owner of every volume. -/
@[ext] structure Ledger where
  slots : String → Option Slot
  owners : String → Option String

namespace Ledger

/-- An allocation is recorded under an id. -/
def place (l : Ledger) (id : String) (s : Slot) : Ledger :=
  { l with slots := Function.update l.slots id (some s) }

/-- An allocation, if there is one, enters a phase. -/
def enter (l : Ledger) (id : String) (phase : AllocationPhase) : Ledger :=
  { l with slots := Function.update l.slots id ((l.slots id).map ({ · with phase := phase })) }

/-- An allocation is forgotten. -/
def forget (l : Ledger) (id : String) : Ledger :=
  { l with slots := Function.update l.slots id none }

/-- A volume has an owner. -/
def own (l : Ledger) (name owner : String) : Ledger :=
  { l with owners := Function.update l.owners name (some owner) }

/-- A volume exists; one that is new has no owner. -/
def provide (l : Ledger) (name : String) : Ledger := l.own name ((l.owners name).getD "")

/-- A volume, if there is one, has no owner any more. -/
def release (l : Ledger) (name : String) : Ledger :=
  { l with owners := Function.update l.owners name ((l.owners name).map fun _ => "") }

variable {l : Ledger} {id name owner : String} {s : Slot}

lemma place_self (h : l.slots id = some s) : l.place id s = l := by
  ext1
  · exact Function.update_eq_self_iff.mpr h.symm
  · rfl

lemma own_self (h : l.owners name = some owner) : l.own name owner = l := by
  ext1
  · rfl
  · exact Function.update_eq_self_iff.mpr h.symm

lemma place_enter {phase : AllocationPhase} (h : l.slots id = some s) :
    l.place id { s with phase := phase } = l.enter id phase := by
  rw [place, enter, h]
  rfl

lemma own_release (h : l.owners name = some owner) : l.own name "" = l.release name := by
  rw [own, release, h]
  rfl

lemma release_of_absent (h : l.owners name = none) : l.release name = l := by
  ext1
  · rfl
  · exact Function.update_eq_self_iff.mpr (by rw [h]; rfl)

lemma forget_of_absent (h : l.slots id = none) : l.forget id = l := by
  ext1
  · exact Function.update_eq_self_iff.mpr h.symm
  · rfl

lemma provide_of_present (h : (l.owners name).isSome) : l.provide name = l := by
  obtain ⟨owner, howner⟩ := Option.isSome_iff_exists.mp h
  rw [provide, howner]
  exact own_self howner

lemma provide_of_absent (h : l.owners name = none) : l.provide name = l.own name "" := by
  rw [provide, h]
  rfl

end Ledger

/-! ### The view a world gives -/

def Allocation.slot (a : Allocation) : Slot := ⟨a.workload, a.replica, a.phase⟩

def World.ledger (w : World) : Ledger where
  slots id := w.allocations[id]?.map Allocation.slot
  owners name := w.volumes[name]?.map (·.owner)

section View

variable {w w' : World} {id name : String} {a : Allocation} {v : Volume}

lemma ledger_congr (ha : w'.allocations = w.allocations) (hv : w'.volumes = w.volumes) :
    w'.ledger = w.ledger := by
  rw [World.ledger, World.ledger, ha, hv]

lemma slots_of_get (h : w.allocations[id]? = some a) : w.ledger.slots id = some a.slot := by
  simp [World.ledger, h]

lemma slots_of_absent (h : w.allocations[id]? = none) : w.ledger.slots id = none := by
  simp [World.ledger, h]

lemma owners_of_get (h : w.volumes[name]? = some v) : w.ledger.owners name = some v.owner := by
  simp [World.ledger, h]

lemma owners_of_absent (h : w.volumes[name]? = none) : w.ledger.owners name = none := by
  simp [World.ledger, h]

/-- A world that differs by one allocation record. -/
lemma ledger_insert (ha : w'.allocations = w.allocations.insert id a)
    (hv : w'.volumes = w.volumes) : w'.ledger = w.ledger.place id a.slot := by
  ext1
  · funext j
    simp only [World.ledger, Ledger.place, ha, get_insert, Function.update_apply]
    split_ifs <;> simp
  · simp only [World.ledger, Ledger.place, hv]

/-- A world that differs by one allocation record, whose slot is the same. -/
lemma ledger_insert_same {a' : Allocation} (hget : w.allocations[id]? = some a)
    (ha : w'.allocations = w.allocations.insert id a') (hv : w'.volumes = w.volumes)
    (hslot : a'.slot = a.slot) : w'.ledger = w.ledger := by
  rw [ledger_insert ha hv, hslot]
  exact Ledger.place_self (slots_of_get hget)

/-- A world that differs by one volume record. -/
lemma ledger_insert_volume (ha : w'.allocations = w.allocations)
    (hv : w'.volumes = w.volumes.insert name v) : w'.ledger = w.ledger.own name v.owner := by
  ext1
  · simp only [World.ledger, Ledger.own, ha]
  · funext j
    simp only [World.ledger, Ledger.own, hv, get_insert, Function.update_apply]
    split_ifs <;> simp

/-- A world that differs by one volume record, and by one allocation record whose
slot is the same. -/
lemma ledger_insert_both {a' : Allocation} (hget : w.allocations[id]? = some a)
    (ha : w'.allocations = w.allocations.insert id a')
    (hv : w'.volumes = w.volumes.insert name v) (hslot : a'.slot = a.slot) :
    w'.ledger = w.ledger.own name v.owner := by
  have hmid : World.ledger { w with volumes := w'.volumes } = w.ledger.own name v.owner :=
    ledger_insert_volume rfl hv
  rw [← hmid]
  exact ledger_insert_same hget ha rfl hslot

/-- A world from which one allocation record is gone. -/
lemma ledger_erase (ha : w'.allocations = w.allocations.erase id)
    (hv : w'.volumes = w.volumes) : w'.ledger = w.ledger.forget id := by
  ext1
  · funext j
    simp only [World.ledger, Ledger.forget, ha, get_erase, Function.update_apply]
    split_ifs <;> simp
  · simp only [World.ledger, Ledger.forget, hv]

end View

/-! ### Plans -/

/-- What an action is meant to do. -/
def Action.intent (a : Action) (l : Ledger) : Ledger :=
  match a.kind, a.volume with
  | .createAllocation, _ => l.place a.target ⟨a.workload, a.replica, .created⟩
  | .startAllocation, _ => l.enter a.target .running
  | .stopAllocation, _ => l.enter a.target .stopped
  | .deleteAllocation, _ => l.forget a.target
  | .createVolume, some ref => l.provide ref.name
  | .attachVolume, some ref => l.own ref.name a.target
  | .detachVolume, some ref => l.release ref.name
  | _, _ => l

section Plans

variable {w w' : World} {a : Action}

/-- **The simulation carries out the plan**: what the kernel simulates for an
action is what the action is meant to do. -/
theorem simulate_ledger (h : simulateAction w a = .ok w') : w'.ledger = a.intent w.ledger := by
  cases (simulate_effect h).1 with
  | quiet hk ha hv =>
    have hsame : w'.ledger = w.ledger := by
      ext1
      · simp only [World.ledger, ha]
      · funext name
        exact hv name
    rw [hsame, Action.intent]
    generalize a.kind = kind at hk
    cases kind <;> simp_all [ActionKind.quiet]
  | allocation x x' hk hget hsame hphase ha hv =>
    have hslot : x'.slot = { x.slot with phase := a.kind.phaseAfter x.phase } := by
      simp only [Allocation.slot, hsame.workload, hsame.replica, hphase]
    have hplace : w.ledger.place a.target x.slot = w.ledger :=
      Ledger.place_self (slots_of_get hget)
    rw [ledger_insert ha hv, hslot, Action.intent]
    -- start and stop move the phase, the others leave the slot as it was
    generalize a.kind = kind at hk
    cases kind <;> simp only [ActionKind.updatesAllocation, Bool.false_eq_true] at hk
    case startAllocation | stopAllocation => exact Ledger.place_enter (slots_of_get hget)
    all_goals exact hplace
  | created hk ha hv =>
    rw [ledger_insert ha hv, Action.intent, hk]
    rfl
  | deleted hk ha hv =>
    rw [ledger_erase ha hv, Action.intent, hk]
  | volumeCreated ref hk href ha hv =>
    have hintent : a.intent w.ledger = w.ledger.provide ref.name := by
      simp only [Action.intent, hk, href]
    rw [hintent]
    rcases hv with ⟨hold, hv⟩ | ⟨hnew, hv⟩
    · rw [ledger_congr ha hv]
      exact (Ledger.provide_of_present (by simpa [World.ledger] using hold)).symm
    · rw [ledger_insert_volume ha hv, Ledger.provide_of_absent (owners_of_absent hnew)]
  | attached ref v x generation hk href hget howner ha hv =>
    rw [ledger_insert_both hget ha hv rfl, howner, Action.intent, hk, href]
  | absent ref hk href hnone ha hv =>
    rw [ledger_congr ha hv, Action.intent, hk, href]
    exact (Ledger.release_of_absent (owners_of_absent hnone)).symm
  | detached ref v v' hk href hget howner ha hv =>
    have hintent : a.intent w.ledger = w.ledger.release ref.name := by
      simp only [Action.intent, hk, href]
    rw [hintent, ← Ledger.own_release (owners_of_get hget), ← howner]
    rcases ha with ⟨-, ha⟩ | ⟨x, hown, ha⟩
    · exact ledger_insert_volume ha hv
    · exact ledger_insert_both hown ha hv rfl

end Plans

/-! ### Reports -/

/-- What a report says has happened. A creation that repeats is no news, and a
release counts only from the owner. -/
def Evidence.meaning (e : Evidence) (l : Ledger) : Ledger :=
  match e.kind with
  | .allocationCreated =>
    if (l.slots e.target).isSome then l
    else l.place e.target ⟨e.observe "workload", e.observedInt "replica", .created⟩
  | .allocationRunning => l.enter e.target .running
  | .allocationStopped => l.enter e.target .stopped
  | .allocationFailed => l.enter e.target .stopped
  | .allocationDeleted => l.forget e.target
  | .volumeCreated => l.provide e.target
  | .volumeAttached => l.own e.target (e.observe "allocation")
  | .volumeDetached =>
    match l.owners e.target with
    | none => l
    | some owner =>
      if owner ≠ "" ∧ e.observe "allocation" ≠ "" ∧ owner ≠ e.observe "allocation" then l
      else l.release e.target
  | _ => l

section Reports

variable {w w' : World} {e : Evidence}

/-- Evidence that writes nothing located means nothing. -/
lemma Idle.meaning (h : Idle w e) : e.meaning w.ledger = w.ledger := by
  cases hk : e.kind <;> simp only [Idle, Evidence.meaning, hk] at h ⊢
  case allocationCreated => exact if_pos (by simpa [World.ledger] using h)
  case allocationDeleted => exact Ledger.forget_of_absent (slots_of_absent h)
  case volumeCreated => exact Ledger.provide_of_present (by simpa [World.ledger] using h)
  case volumeDetached =>
    cases hv : w.volumes[e.target]? with
    | none => rw [owners_of_absent hv]
    | some v =>
      rw [owners_of_get hv]
      exact if_pos (h v hv)

/-- An update of an allocation moves its phase and nothing else of its slot. -/
lemma Updates.meaning {a a' : Allocation} (hk : e.kind.updatesAllocation = true)
    (hget : w.allocations[e.target]? = some a) (h : Updates e.kind a a') :
    w.ledger.place e.target a'.slot = e.meaning w.ledger := by
  have hslot : a'.slot = { a.slot with phase := phaseAfter e.kind a.phase } := by
    simp only [Allocation.slot, h.identity.workload, h.identity.replica, h.phase]
  have hplace : w.ledger.place e.target a.slot = w.ledger := Ledger.place_self (slots_of_get hget)
  rw [hslot]
  unfold Evidence.meaning
  -- three kinds move the phase, the others leave the slot as it was
  generalize e.kind = kind at hk
  cases kind <;> simp only [EvidenceKind.updatesAllocation, Bool.false_eq_true] at hk
  case allocationRunning | allocationStopped | allocationFailed =>
    exact Ledger.place_enter (slots_of_get hget)
  all_goals exact hplace

/-- **The projection follows the report**: the ledger of the projected world is
what the evidence says of the ledger before it. -/
theorem project_ledger (h : project w e = .ok w') : w'.ledger = e.meaning w.ledger := by
  cases project_effect h with
  | unchanged hidle ha hv => rw [hidle.meaning, ledger_congr ha hv]
  | allocation a a' hk hget hup ha hv => rw [ledger_insert ha hv, hup.meaning hk hget]
  | created node resources hk hnew hnode hres ha hv =>
    rw [ledger_insert ha hv, Evidence.meaning, hk, slots_of_absent hnew]
    rfl
  | deleted a hk hget ha hv =>
    rw [ledger_erase ha hv, Evidence.meaning, hk]
  | volume v v' hk hget hname howner ha hv =>
    rw [ledger_insert_volume ha hv, howner, Ledger.own_self (owners_of_get hget)]
    generalize hkind : e.kind = kind at hk
    cases kind <;> simp_all [Evidence.meaning, EvidenceKind.updatesVolume]
  | volumeCreated v hk hnew hname hnode howner ha hv =>
    rw [ledger_insert_volume ha hv, howner, Evidence.meaning, hk,
      ← Ledger.provide_of_absent (owners_of_absent hnew)]
  | attached v v' a hk hget hown howner ha hv =>
    rw [ledger_insert_both hown ha hv rfl, howner, Evidence.meaning, hk]
  | detached v v' hk hget hmay hgen howner ha hv =>
    have hheld : ¬(v.owner ≠ "" ∧ e.observe "allocation" ≠ "" ∧
        v.owner ≠ e.observe "allocation") := by tauto
    have hmeaning : e.meaning w.ledger = w.ledger.own e.target v'.owner := by
      rw [Evidence.meaning, hk, owners_of_get hget, howner, Ledger.own_release (owners_of_get hget)]
      exact if_neg hheld
    rw [hmeaning]
    rcases ha with ⟨-, ha⟩ | ⟨a, hown, ha⟩
    · exact ledger_insert_volume ha hv
    · exact ledger_insert_both hown ha hv rfl
  | node id n n' hk hget hid ha hv =>
    rw [ledger_congr ha hv]
    generalize hkind : e.kind = kind at hk
    cases kind <;> simp_all [Evidence.meaning, EvidenceKind.updatesTargetNode,
      EvidenceKind.updatesObservedNode]
  | decision hk ha hv =>
    rw [ledger_congr ha hv]
    generalize hkind : e.kind = kind at hk
    cases kind <;> simp_all [Evidence.meaning, EvidenceKind.decides]

end Reports

/-! ### Which allocations there are -/

/-- The ledger has an allocation under the id. -/
def Ledger.has (l : Ledger) (id : String) : Bool := (l.slots id).isSome

lemma ledger_has (w : World) (id : String) : w.ledger.has id = w.allocations[id]?.isSome :=
  Option.isSome_map

section Has

variable (l : Ledger) (i id : String)

@[simp] lemma place_has (s : Slot) : (l.place i s).has id = (decide (id = i) || l.has id) := by
  by_cases h : id = i <;> simp [Ledger.has, Ledger.place, h]

@[simp] lemma enter_has (phase : AllocationPhase) : (l.enter i phase).has id = l.has id := by
  by_cases h : id = i <;> simp [Ledger.has, Ledger.enter, h]

@[simp] lemma forget_has : (l.forget i).has id = (!decide (id = i) && l.has id) := by
  by_cases h : id = i <;> simp [Ledger.has, Ledger.forget, h]

/-- Actions create and delete the allocations they target. -/
lemma intent_has (a : Action) : (a.intent l).has id =
    match a.kind with
    | .createAllocation => decide (id = a.target) || l.has id
    | .deleteAllocation => !decide (id = a.target) && l.has id
    | _ => l.has id := by
  unfold Action.intent
  cases a.kind <;> simp only [place_has, enter_has, forget_has]
  -- the volume actions write owners only
  all_goals cases a.volume <;> rfl

/-- Reports tell of creations and deletions of the allocations they are about. -/
lemma meaning_has (e : Evidence) : (e.meaning l).has id =
    match e.kind with
    | .allocationCreated => decide (id = e.target) || l.has id
    | .allocationDeleted => !decide (id = e.target) && l.has id
    | _ => l.has id := by
  unfold Evidence.meaning
  cases e.kind <;> simp only [enter_has, forget_has]
  case allocationCreated =>
    split_ifs with hthere
    · by_cases h : id = e.target
      · subst h
        simp [Ledger.has, hthere]
      · simp [h]
    · rw [place_has]
  case volumeCreated | volumeAttached => rfl
  case volumeDetached =>
    split
    · rfl
    · split_ifs <;> rfl

end Has

end A4s
