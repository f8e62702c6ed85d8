/-
What leases cover (`LeaseTargets` of `control/lease.go`).

A proposal claims the targets of five kinds of actions and nothing else. What its actions
mutate, in the world each one is simulated in, is a list of allocations, volumes and routes.

* `Action.mutates`: the records `simulateAction` writes; `simulate_unchanged` says that it
  writes no others, and `admitted_unchanged` the same for an accepted proposal.
* `Action.claimed`: the actions whose target is leased.
* `mutations_disjoint_iff`: **two leases exclude each other exactly as far as they claim.**
-/
import A4s.Control.Execution
import A4s.Control.Lease
import A4s.Server.Calls

namespace A4s

open Go

/-! ### What actions mutate -/

/-- A record of the world that a proposal may mutate. -/
inductive WorldRecord where
  | allocation (id : String)
  | volume (name : String)
  | route (host : String)
  deriving DecidableEq

/-- The record is the same in both worlds. -/
def Unchanged (w w' : World) : WorldRecord → Prop
  | .allocation id => w'.allocations[id]? = w.allocations[id]?
  | .volume name => w'.volumes[name]? = w.volumes[name]?
  | .route host => w'.routes[host]? = w.routes[host]?

/-- The volume an action refers to. -/
def Action.volumes (a : Action) : List WorldRecord :=
  a.volume.toList.map fun ref => .volume ref.name

/-- The allocation that owns the volume an action refers to, if the world knows it. -/
def Action.owner (w : World) (a : Action) : List WorldRecord :=
  match a.volume with
  | none => []
  | some ref =>
    match w.volumes[ref.name]? with
    | none => []
    | some volume =>
      if w.allocations[volume.owner]?.isSome then [.allocation volume.owner] else []

/-- The records an action mutates in the world it is simulated in. -/
def Action.mutates (w : World) (a : Action) : List WorldRecord :=
  match a.kind with
  | .createAllocation | .startAllocation | .stopAllocation | .deleteAllocation
  | .mountSecret | .attachNetwork | .grantTools | .drainAllocation => [.allocation a.target]
  | .createVolume | .snapshotVolume | .quiesceVolume | .transferVolume | .adoptVolume
  | .databaseBackup | .backupSnapshot | .restoreSnapshot => a.volumes
  | .pruneSnapshots => if a.dryRun then [] else a.volumes
  | .attachVolume => .allocation a.target :: a.volumes
  | .detachVolume => a.owner w ++ a.volumes
  | .publishRoute => [.route a.target]
  | _ => []

section Frame

variable {w w' : World} {a : Action} {r : WorldRecord}

lemma Unchanged.refl (w : World) (r : WorldRecord) : Unchanged w w r := by
  cases r <;> rfl

lemma Unchanged.trans {w'' : World} (h : Unchanged w w' r) (h' : Unchanged w' w'' r) :
    Unchanged w w'' r := by
  cases r <;> exact Eq.trans h' h

lemma unchanged_setAllocation {id : String} (x : Allocation) (h : r ≠ .allocation id) :
    Unchanged w (w.setAllocation id x) r := by
  cases r with
  | allocation j => exact get_insert_of_ne fun hj => h (by rw [hj])
  | volume | route => rfl

lemma unchanged_erase {id : String} (h : r ≠ .allocation id) :
    Unchanged w { w with allocations := w.allocations.erase id } r := by
  cases r with
  | allocation j => exact get_erase_of_ne fun hj => h (by rw [hj])
  | volume | route => rfl

lemma unchanged_setVolume {name : String} (v : Volume) (h : r ≠ .volume name) :
    Unchanged w (w.setVolume name v) r := by
  cases r with
  | volume j => exact get_insert_of_ne fun hj => h (by rw [hj])
  | allocation | route => rfl

lemma unchanged_setNode (name : String) (n : Node) : Unchanged w (w.setNode name n) r := by
  cases r <;> rfl

lemma ne_volume {ref : VolumeRef} (href : a.volume = some ref) (hr : r ∉ a.volumes) :
    r ≠ .volume ref.name := by
  simpa only [Action.volumes, href, Option.toList_some, List.map_singleton,
    List.mem_singleton] using hr

lemma mutates_of_rewritesVolume (h : a.rewritesVolume = true) : a.mutates w = a.volumes := by
  unfold Action.rewritesVolume at h
  unfold Action.mutates
  split at h <;> simp_all

lemma mutates_of_updatesAllocation (h : a.kind.updatesAllocation = true) :
    a.mutates w = [.allocation a.target] := by
  unfold ActionKind.updatesAllocation at h
  unfold Action.mutates
  split at h <;> simp_all

/-- **An action mutates no other record.** -/
theorem simulate_unchanged (h : simulateAction w a = .ok w') (hr : r ∉ a.mutates w) :
    Unchanged w w' r := by
  cases simulate_write h with
  | nothing | known | absent => exact .refl w r
  | node name n n' => exact unchanged_setNode name n'
  | route route hk =>
    simp only [Action.mutates, hk, List.mem_singleton] at hr
    cases r with
    | route j => exact get_insert_of_ne fun hj => hr (by rw [hj])
    | allocation | volume => rfl
  | volume ref v v' hk href =>
    rw [mutates_of_rewritesVolume hk] at hr
    exact unchanged_setVolume _ (ne_volume href hr)
  | fresh ref hk href =>
    simp only [Action.mutates, hk] at hr
    exact unchanged_setVolume _ (ne_volume href hr)
  | allocation x x' hk =>
    rw [mutates_of_updatesAllocation hk, List.mem_singleton] at hr
    exact unchanged_setAllocation _ hr
  | created n n' hk =>
    simp only [Action.mutates, hk, List.mem_singleton] at hr
    exact (unchanged_setAllocation _ hr).trans (unchanged_setNode a.node _)
  | deleted w₁ hk hnode =>
    simp only [Action.mutates, hk, List.mem_singleton] at hr
    rcases hnode with rfl | ⟨name, n, n', -, rfl, -⟩
    · exact unchanged_erase hr
    · exact (unchanged_setNode name n').trans (unchanged_erase hr)
  | attached ref v v' x generation hk href =>
    simp only [Action.mutates, hk, List.mem_cons, not_or] at hr
    exact (unchanged_setVolume _ (ne_volume href hr.2)).trans (unchanged_setAllocation _ hr.1)
  | detached ref v v' w₁ hk href hget howner hmove hown =>
    simp only [Action.mutates, hk, List.mem_append, not_or, Action.owner, href, hget] at hr
    refine Unchanged.trans ?_ (unchanged_setVolume _ (ne_volume href hr.2))
    rcases hown with ⟨-, rfl⟩ | ⟨x, hx, rfl⟩
    · exact .refl w₁ r
    · refine unchanged_setAllocation _ ?_
      simpa [hx] using hr.1

end Frame

/-! ### What proposals mutate -/

/-- The actions with the worlds they are simulated in, as far as the simulation goes. -/
def trail (w : World) : List Action → List (Action × World)
  | [] => []
  | a :: rest => (a, w) ::
      match simulateAction w a with
      | .ok next => trail next rest
      | .error _ => []

/-- The records a proposal mutates. -/
def mutations (w : World) (actions : List Action) : List WorldRecord :=
  (trail w actions).flatMap fun (a, sim) => a.mutates sim

section Trail

variable {w w' : World} {actions : List Action} {a : Action} {sim : World} {r : WorldRecord}

lemma mem_mutations : r ∈ mutations w actions ↔
    ∃ a sim, (a, sim) ∈ trail w actions ∧ r ∈ a.mutates sim := by
  simp [mutations, List.mem_flatMap]

lemma mem_of_mem_trail (h : (a, sim) ∈ trail w actions) : a ∈ actions := by
  induction actions generalizing w with
  | nil => exact absurd h List.not_mem_nil
  | cons b rest ih =>
    rw [trail] at h
    rcases List.mem_cons.mp h with h | h
    · cases h
      exact List.mem_cons_self
    · split at h
      · exact List.mem_cons_of_mem _ (ih h)
      · exact absurd h List.not_mem_nil

/-- **An accepted proposal mutates no other record** in the world the kernel simulates. -/
theorem admitted_unchanged {host : Host} {grants : Grants} {goal : Goal}
    (h : Admitted host grants goal w actions w') (hr : r ∉ mutations w actions) :
    Unchanged w w' r := by
  induction h with
  | nil sim => exact .refl sim r
  | cons hgrant hvalid hsim hrest ih =>
    rw [mutations, trail, hsim, List.flatMap_cons, List.mem_append, not_or] at hr
    exact (simulate_unchanged hsim hr.1).trans (ih hr.2)

end Trail

/-! ### What leases claim -/

/-- The target of the action is leased. -/
def Action.claimed (a : Action) : Bool :=
  decide (a.kind ∈ [ActionKind.createAllocation, .startAllocation, .stopAllocation,
    .deleteAllocation, .publishRoute]) && decide (a.target ≠ "")

/-- The name of a record. -/
def WorldRecord.name : WorldRecord → String
  | .allocation id => id
  | .volume name => name
  | .route host => host

lemma mem_leaseTargets {p : Proposal} {target : String} :
    target ∈ Calls.leaseTargets p ↔ ∃ a ∈ p.actions, a.claimed = true ∧ a.target = target := by
  rw [Calls.leaseTargets, List.mem_insertionSort, List.mem_dedup, List.mem_map]
  simp only [List.mem_filter, Action.claimed, and_assoc]

/-- An action that claims its target mutates nothing else. -/
lemma name_of_claimed {w : World} {a : Action} {r : WorldRecord} (h : a.claimed = true)
    (hr : r ∈ a.mutates w) : r.name = a.target := by
  rw [Action.claimed, Bool.and_eq_true, decide_eq_true_iff] at h
  have hk := h.1
  simp only [List.mem_cons, List.not_mem_nil, or_false] at hk
  rcases hk with hk | hk | hk | hk | hk <;>
    simp only [Action.mutates, hk, List.mem_singleton] at hr <;>
    rw [hr] <;> rfl

/-- The proposal holds every target it claims. -/
def HoldsLeases (m : LeaseManager) (now : Time) (p : Proposal) : Prop :=
  ∀ target ∈ Calls.leaseTargets p, ∃ l, m.holder now target = some l ∧
    l.holder = ⟨p.goalID, p.id⟩

/-- **Leases exclude each other exactly as far as they claim**: of two different proposals that
hold their leases at one time, the records mutated are disjoint if and only if no action of one
of them that claims nothing mutates a record that an action of the other mutates. -/
theorem mutations_disjoint_iff {m : LeaseManager} {now : Time} {p q : Proposal} {w w' : World}
    (hp : HoldsLeases m now p) (hq : HoldsLeases m now q)
    (hne : (⟨p.goalID, p.id⟩ : Holder) ≠ ⟨q.goalID, q.id⟩) :
    (mutations w p.actions).Disjoint (mutations w' q.actions) ↔
      ∀ a sim b sim', (a, sim) ∈ trail w p.actions → (b, sim') ∈ trail w' q.actions →
        a.claimed = false ∨ b.claimed = false → (a.mutates sim).Disjoint (b.mutates sim') := by
  constructor
  · intro hdisjoint a sim b sim' ha hb _ r hr hr'
    exact hdisjoint (mem_mutations.mpr ⟨a, sim, ha, hr⟩) (mem_mutations.mpr ⟨b, sim', hb, hr'⟩)
  · intro hunclaimed r hr hr'
    obtain ⟨a, sim, ha, hra⟩ := mem_mutations.mp hr
    obtain ⟨b, sim', hb, hrb⟩ := mem_mutations.mp hr'
    by_cases hclaimed : a.claimed = true ∧ b.claimed = true
    · -- the record has one name, and the table one lease for it
      obtain ⟨ha', hb'⟩ := hclaimed
      have hname := name_of_claimed ha' hra
      obtain ⟨l, hl, hlp⟩ := hp r.name
        (mem_leaseTargets.mpr ⟨a, mem_of_mem_trail ha, ha', hname.symm⟩)
      obtain ⟨l', hl', hlq⟩ := hq r.name
        (mem_leaseTargets.mpr ⟨b, mem_of_mem_trail hb, hb', (name_of_claimed hb' hrb).symm⟩)
      rw [hl] at hl'
      cases hl'
      exact hne (hlp.symm.trans hlq)
    · refine hunclaimed a sim b sim' ha hb ?_ hra hrb
      rwa [← Bool.not_eq_true, ← Bool.not_eq_true, ← not_and_or]

/-! ### A snapshot of a volume that is being attached -/

namespace Coverage

def image : String := "db@sha256:0"

def node : Node :=
  { id := "n1", capacity := ⟨1000, 1000⟩, healthy := true
    images := Table.ofEntries [(image, true)] }

def data : VolumeRef := { name := "data" }

def goal : Goal :=
  { id := "db", workload :=
      { name := "db", image := image, replicas := 1, resources := ⟨100, 100⟩
        volumes := [data] } }

def world : World :=
  { nodes := Table.ofEntries [("n1", node)]
    volumes := Table.ofEntries [("data", { name := "data", node := "n1" })] }

def create : Action :=
  { id := "create", kind := .createAllocation, target := "db-0", workload := "db", node := "n1"
    image := image, resources := ⟨100, 100⟩ }

def attach : Action :=
  { id := "attach", kind := .attachVolume, target := "db-0", volume := some data }

def snapshot : Action :=
  { id := "snapshot", kind := .snapshotVolume, target := "data", volume := some data }

/-- Places the workload and gives it its volume. -/
def place : Proposal :=
  { id := "placement-agent-r0", agentID := "placement-agent", goalID := "db", basedOnRevision := 0
    actions := [create, attach] }

/-- Copies the volume, which nobody owns. -/
def copy : Proposal :=
  { id := "storage-agent-r0", agentID := "storage-agent", goalID := "db", basedOnRevision := 0
    actions := [snapshot] }

def now : Time := unixEpoch + 1000

def placed : Result String × LeaseManager :=
  ({} : LeaseManager).acquire quietHost now place.goalID place.id (Calls.leaseTargets place)

/-- The second proposal acquires its leases after the first. -/
def copied : Result String × LeaseManager :=
  placed.2.acquire quietHost now copy.goalID copy.id (Calls.leaseTargets copy)

lemma holds_place : HoldsLeases copied.2 now place := by
  have htargets : Calls.leaseTargets place = ["db-0"] := by decide +kernel
  have hholder : (copied.2.holder now "db-0").map Lease.holder = some ⟨place.goalID, place.id⟩ := by
    decide +kernel
  intro target htarget
  rw [htargets, List.mem_singleton] at htarget
  rw [htarget]
  exact Option.map_eq_some_iff.mp hholder

lemma holds_copy : HoldsLeases copied.2 now copy := by
  have htargets : Calls.leaseTargets copy = [] := by decide +kernel
  intro target htarget
  rw [htargets] at htarget
  exact absurd htarget List.not_mem_nil

end Coverage

open Coverage

/-- A proposal that attaches a volume and one that copies it are accepted, hold their leases at
one time, and both change the volume. -/
theorem volumes_unleased :
    authorize quietHost ⟨defaultPolicy⟩ { id := "placement-agent" } goal world place = .ok () ∧
      authorize quietHost ⟨defaultPolicy⟩ { id := "storage-agent" } goal world copy = .ok () ∧
      placed.1 = .ok (leaseID place.id now) ∧
      copied.1 = .ok (leaseID copy.id now) ∧
      HoldsLeases copied.2 now place ∧
      HoldsLeases copied.2 now copy ∧
      ¬(mutations world place.actions).Disjoint (mutations world copy.actions) ∧
      ((place.actions.foldlM simulateAction world).toOption.map fun sim =>
        sim.volumes["data"]?.map Volume.owner) = some (some "db-0") ∧
      ((copy.actions.foldlM simulateAction world).toOption.map fun sim =>
        sim.volumes["data"]?.map Volume.lastSnapshot) = some (some "simulated") := by
  refine ⟨by decide +kernel, by decide +kernel, by decide +kernel, by decide +kernel,
    holds_place, holds_copy, fun hdisjoint => ?_, by decide +kernel,
    by decide +kernel⟩
  have hplace : WorldRecord.volume "data" ∈ mutations world place.actions := by
    decide +kernel
  have hcopy : WorldRecord.volume "data" ∈ mutations world copy.actions := by
    decide +kernel
  exact hdisjoint hplace hcopy

theorem mutations_disjoint_iff_copied :
    HoldsLeases copied.2 now place ∧
      HoldsLeases copied.2 now copy ∧
      ((mutations world place.actions).Disjoint (mutations world copy.actions) ↔
        ∀ a sim b sim', (a, sim) ∈ trail world place.actions →
          (b, sim') ∈ trail world copy.actions →
          a.claimed = false ∨ b.claimed = false →
          (a.mutates sim).Disjoint (b.mutates sim')) :=
  ⟨holds_place, holds_copy, mutations_disjoint_iff holds_place holds_copy (by decide)⟩

/-- Copying the volume leaves the allocations alone. -/
theorem admitted_unchanged_copy : ∃ sim, simulateAction world snapshot = .ok sim ∧
    Unchanged world sim (.allocation "db-0") := by
  have hwalk : Admitted quietHost [(.snapshotVolume, true)] goal world [snapshot] _ :=
    .cons rfl (by decide) rfl (.nil _)
  exact ⟨_, rfl, admitted_unchanged hwalk (by decide)⟩

end A4s
