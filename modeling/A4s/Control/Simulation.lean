/-
What the kernel's simulation of one action can do.

`simulateAction` is a switch over the action kinds. `SimWrite` says once which records
a simulation that succeeded wrote, and with what; invariants of the kernel's walk are
derived from it, not from the switch. `SimEffect` is what it comes to for allocations and
the owners of volumes, and `SameFrame` what validators read besides.

* `simulate_write`: **the inversion of the simulation**.
* `simulate_effect`: what was written to allocations and volumes, and what was not written.
-/
import A4s.Control.Effect
import A4s.Control.Kernel

namespace A4s

open Go

/-! ### Kinds by what they write -/

/-- Actions that update the allocation they target. -/
def ActionKind.updatesAllocation : ActionKind → Bool
  | .mountSecret | .attachNetwork | .startAllocation | .stopAllocation | .grantTools
  | .drainAllocation => true
  | _ => false

/-- Actions that leave the allocations and the owners of volumes alone. -/
def ActionKind.quiet : ActionKind → Bool
  | .pullImage | .cordonNode | .uncordonNode | .snapshotVolume | .quiesceVolume
  | .transferVolume | .adoptVolume | .databaseBackup | .verifyBackup | .applyPolicy
  | .publishZone | .collectImages | .pruneSnapshots | .backupSnapshot | .restoreSnapshot
  | .publishRoute => true
  | _ => false

/-- The phase of an allocation after an action on it. -/
def ActionKind.phaseAfter (kind : ActionKind) (phase : AllocationPhase) : AllocationPhase :=
  match kind with
  | .startAllocation => .running
  | .stopAllocation => .stopped
  | _ => phase

/-! ### Effects -/

/-- What no simulation writes. -/
structure SameFrame (w w' : World) : Prop where
  queues : w'.queues = w.queues
  approvals : w'.approvals = w.approvals
  observedAt : w'.observedAt = w.observedAt
  nodes : ∀ id : String, w'.nodes[id]?.isSome = w.nodes[id]?.isSome

/-- What a successful simulation did. -/
inductive SimEffect (w : World) (a : Action) (w' : World) : Prop
  /-- allocations and the owners of volumes are as before -/
  | quiet (hk : a.kind.quiet = true) (ha : w'.allocations = w.allocations)
      (hv : ∀ name : String, w'.volumes[name]?.map Volume.owner = w.volumes[name]?.map Volume.owner)
  /-- the targeted allocation was updated -/
  | allocation (x x' : Allocation) (hk : a.kind.updatesAllocation = true)
      (hget : w.allocations[a.target]? = some x) (hsame : SameIdentity x x')
      (hphase : x'.phase = a.kind.phaseAfter x.phase)
      (ha : w'.allocations = w.allocations.insert a.target x') (hv : w'.volumes = w.volumes)
  /-- an allocation was created as the action says -/
  | created (hk : a.kind = .createAllocation)
      (ha : w'.allocations = w.allocations.insert a.target
        { id := a.target, workload := a.workload, replica := a.replica, node := a.node,
          image := a.image, resources := a.resources, phase := .created, budget := a.budget })
      (hv : w'.volumes = w.volumes)
  /-- the targeted allocation was forgotten -/
  | deleted (hk : a.kind = .deleteAllocation)
      (ha : w'.allocations = w.allocations.erase a.target) (hv : w'.volumes = w.volumes)
  /-- the volume exists; a new one has no owner -/
  | volumeCreated (ref : VolumeRef) (hk : a.kind = .createVolume) (href : a.volume = some ref)
      (ha : w'.allocations = w.allocations)
      (hv : (w.volumes[ref.name]?.isSome ∧ w'.volumes = w.volumes) ∨
        (w.volumes[ref.name]? = none ∧
          w'.volumes = w.volumes.insert ref.name { name := ref.name, node := a.node }))
  /-- the volume was attached to the targeted allocation -/
  | attached (ref : VolumeRef) (v : Volume) (x : Allocation) (generation : UInt64)
      (hk : a.kind = .attachVolume) (href : a.volume = some ref)
      (hget : w.allocations[a.target]? = some x) (howner : v.owner = a.target)
      (ha : w'.allocations = w.allocations.insert a.target
        { x with volumes := x.volumes.insert ref.name generation })
      (hv : w'.volumes = w.volumes.insert ref.name v)
  /-- there was no such volume to release -/
  | absent (ref : VolumeRef) (hk : a.kind = .detachVolume) (href : a.volume = some ref)
      (hnone : w.volumes[ref.name]? = none) (ha : w'.allocations = w.allocations)
      (hv : w'.volumes = w.volumes)
  /-- the volume was released by its owner -/
  | detached (ref : VolumeRef) (v v' : Volume) (hk : a.kind = .detachVolume)
      (href : a.volume = some ref) (hget : w.volumes[ref.name]? = some v)
      (howner : v'.owner = "")
      (ha : (w.allocations[v.owner]? = none ∧ w'.allocations = w.allocations) ∨
        ∃ x, w.allocations[v.owner]? = some x ∧ w'.allocations = w.allocations.insert v.owner
          { x with volumes := x.volumes.erase ref.name })
      (hv : w'.volumes = w.volumes.insert ref.name v')

/-- Actions that rewrite what is known of a volume; a dry run only looks. -/
def Action.rewritesVolume (a : Action) : Bool :=
  match a.kind with
  | .snapshotVolume | .quiesceVolume | .transferVolume | .adoptVolume | .databaseBackup
  | .backupSnapshot | .restoreSnapshot => true
  | .pruneSnapshots => !a.dryRun
  | _ => false

/-- Which records a successful simulation wrote. -/
inductive SimWrite (w : World) (a : Action) : World → Prop
  | nothing (hk : a.kind.quiet = true) : SimWrite w a w
  /-- a node, in the domain it was in -/
  | node (name : String) (n n' : Node) (hk : a.kind.quiet = true)
      (hget : w.nodes[name]? = some n) (hdomain : n'.failureDomain = n.failureDomain) :
      SimWrite w a (w.setNode name n')
  | route (route : Route) (hk : a.kind = .publishRoute) :
      SimWrite w a { w with routes := w.routes.insert a.target route }
  /-- a volume, of the same owner; only two kinds begin or end its move -/
  | volume (ref : VolumeRef) (v v' : Volume) (hk : a.rewritesVolume = true)
      (href : a.volume = some ref) (hget : w.volumes[ref.name]? = some v)
      (howner : v'.owner = v.owner)
      (hmove : a.kind ≠ .quiesceVolume → a.kind ≠ .adoptVolume →
        v'.handoff.isSome = v.handoff.isSome) :
      SimWrite w a (w.setVolume ref.name v')
  /-- the volume to create was there -/
  | known (ref : VolumeRef) (hk : a.kind = .createVolume) (href : a.volume = some ref)
      (hold : w.volumes[ref.name]?.isSome) : SimWrite w a w
  | fresh (ref : VolumeRef) (hk : a.kind = .createVolume) (href : a.volume = some ref)
      (hnone : w.volumes[ref.name]? = none) :
      SimWrite w a (w.setVolume ref.name { name := ref.name, node := a.node })
  /-- the targeted allocation -/
  | allocation (x x' : Allocation) (hk : a.kind.updatesAllocation = true)
      (hget : w.allocations[a.target]? = some x) (hsame : SameIdentity x x')
      (hphase : x'.phase = a.kind.phaseAfter x.phase) :
      SimWrite w a (w.setAllocation a.target x')
  /-- a new allocation, and the load of its node -/
  | created (n n' : Node) (hk : a.kind = .createAllocation)
      (hget : w.nodes[a.node]? = some n) (hdomain : n'.failureDomain = n.failureDomain) :
      SimWrite w a ((w.setAllocation a.target
        { id := a.target, workload := a.workload, replica := a.replica, node := a.node,
          image := a.image, resources := a.resources, phase := .created,
          budget := a.budget }).setNode a.node n')
  /-- the load of a node, if it is known, and the allocation that is gone -/
  | deleted (w₁ : World) (hk : a.kind = .deleteAllocation)
      (hnode : w₁ = w ∨ ∃ name n n', w.nodes[name]? = some n ∧ w₁ = w.setNode name n' ∧
        n'.failureDomain = n.failureDomain) :
      SimWrite w a { w₁ with allocations := w₁.allocations.erase a.target }
  /-- a volume and the allocation that owns it now -/
  | attached (ref : VolumeRef) (v v' : Volume) (x : Allocation) (generation : UInt64)
      (hk : a.kind = .attachVolume) (href : a.volume = some ref)
      (hvolume : w.volumes[ref.name]? = some v) (hget : w.allocations[a.target]? = some x)
      (howner : v'.owner = a.target) (hmove : v'.handoff = v.handoff) :
      SimWrite w a ((w.setVolume ref.name v').setAllocation a.target
        { x with volumes := x.volumes.insert ref.name generation })
  /-- there was no such volume to release -/
  | absent (ref : VolumeRef) (hk : a.kind = .detachVolume) (href : a.volume = some ref)
      (hnone : w.volumes[ref.name]? = none) : SimWrite w a w
  /-- the allocation that owned a volume, if it is known, and the volume -/
  | detached (ref : VolumeRef) (v v' : Volume) (w₁ : World) (hk : a.kind = .detachVolume)
      (href : a.volume = some ref) (hget : w.volumes[ref.name]? = some v)
      (howner : v'.owner = "") (hmove : v'.handoff = v.handoff)
      (hown : (w.allocations[v.owner]? = none ∧ w₁ = w) ∨
        ∃ x, w.allocations[v.owner]? = some x ∧
          w₁ = w.setAllocation v.owner { x with volumes := x.volumes.erase ref.name }) :
      SimWrite w a (w₁.setVolume ref.name v')

section Inversion

variable {w w' : World} {a : Action}

lemma volumeSnapshot_eq_ok {text : String} {ref : VolumeRef} :
    volumeSnapshot a text = .ok ref ↔ a.volume = some ref ∧ a.snapshot ≠ "" := by
  simp only [volumeSnapshot, require_bind_ok, refuseIf_bind_ok, pure_ok]
  constructor
  · rintro ⟨_, href, hne, rfl⟩
    exact ⟨href, hne⟩
  · rintro ⟨href, hne⟩
    exact ⟨ref, href, hne, rfl⟩

lemma quiet_of_rewritesVolume (h : a.rewritesVolume = true) : a.kind.quiet = true := by
  unfold Action.rewritesVolume at h
  split at h <;> simp_all [ActionKind.quiet]

lemma simWrite_updateNode {name : String} {f : Node → Node} (h : updateNode w name f = .ok w')
    (hk : a.kind.quiet = true) (hf : ∀ n, (f n).failureDomain = n.failureDomain) :
    SimWrite w a w' := by
  simp only [updateNode, existingNode, require_bind_ok, pure_ok] at h
  obtain ⟨n, hget, rfl⟩ := h
  exact .node name n (f n) hk hget (hf n)

lemma simWrite_updateVolume {ref : VolumeRef} {f : Volume → Volume} (href : a.volume = some ref)
    (hk : a.rewritesVolume = true) (howner : ∀ v, (f v).owner = v.owner)
    (hmove : a.kind ≠ .quiesceVolume → a.kind ≠ .adoptVolume →
      ∀ v, (f v).handoff.isSome = v.handoff.isSome) :
    SimWrite w a (updateVolume w ref.name f) := by
  unfold updateVolume
  split
  · rename_i v hget
    exact .volume ref v (f v) hk href hget (howner v) fun hq ha => hmove hq ha v
  · exact .nothing (quiet_of_rewritesVolume hk)

lemma simWrite_updateAllocation {f : Allocation → Allocation}
    (h : updateAllocation w a f = .ok w') (hk : a.kind.updatesAllocation = true)
    (hsame : ∀ x, SameIdentity x (f x)) (hphase : ∀ x, (f x).phase = a.kind.phaseAfter x.phase) :
    SimWrite w a w' := by
  simp only [updateAllocation, existingAllocation, require_bind_ok, pure_ok] at h
  obtain ⟨x, hget, rfl⟩ := h
  exact .allocation x (f x) hk hget (hsame x) (hphase x)

lemma simWrite_createAllocation (hk : a.kind = .createAllocation)
    (h : simulateCreateAllocation w a = .ok w') : SimWrite w a w' := by
  simp only [simulateCreateAllocation, existingNode, require_bind_ok, pure_ok] at h
  obtain ⟨n, hget, rfl⟩ := h
  exact .created n _ hk hget rfl

lemma simWrite_attachVolume (hk : a.kind = .attachVolume)
    (h : simulateAttachVolume w a = .ok w') : SimWrite w a w' := by
  simp only [simulateAttachVolume, volumeRef, existingVolume, existingAllocation,
    require_bind_ok, pure_ok] at h
  obtain ⟨ref, href, v, hvolume, x, hget, rfl⟩ := h
  refine .attached ref v _ x _ hk href hvolume hget ?_ ?_
  · split_ifs with hne
    · rfl
    · exact not_not.mp hne
  · split_ifs <;> rfl

lemma simWrite_detachVolume (hk : a.kind = .detachVolume)
    (h : simulateDetachVolume w a = .ok w') : SimWrite w a w' := by
  simp only [simulateDetachVolume, volumeRef, require_bind_ok] at h
  obtain ⟨ref, href, h⟩ := h
  split at h
  · rename_i hnone
    cases h
    exact .absent ref hk href hnone
  · rename_i v hget
    cases h
    refine .detached ref v _ _ hk href hget rfl rfl ?_
    cases hown : w.allocations[v.owner]? with
    | none => exact .inl ⟨rfl, rfl⟩
    | some x => exact .inr ⟨x, rfl, rfl⟩

lemma simWrite_deleteAllocation (hk : a.kind = .deleteAllocation)
    (h : simulateDeleteAllocation w a = .ok w') : SimWrite w a w' := by
  simp only [simulateDeleteAllocation, existingAllocation, require_bind_ok, pure_ok] at h
  obtain ⟨x, -, rfl⟩ := h
  refine .deleted _ hk ?_
  split
  · rename_i n hget
    exact .inr ⟨x.node, n, _, hget, rfl, rfl⟩
  · exact .inl rfl

/-- **The inversion of the simulation**: an action that could be simulated wrote the records
of its kind. -/
theorem simulate_write (h : simulateAction w a = .ok w') : SimWrite w a w' := by
  unfold simulateAction at h
  split at h <;> rename_i hk
  case h_1 | h_5 | h_6 => exact simWrite_updateNode h (by rw [hk]; rfl) fun _ => rfl
  case h_2 => exact simWrite_createAllocation hk h
  case h_3 =>
    simp only [volumeRef, require_bind_ok, pure_ok] at h
    obtain ⟨ref, href, rfl⟩ := h
    split_ifs with hold
    · exact .known ref hk href hold
    · exact .fresh ref hk href (by simpa using hold)
  case h_4 => exact simWrite_attachVolume hk h
  case h_7 => exact simWrite_detachVolume hk h
  case h_8 =>
    simp only [volumeRef, require_bind_ok, pure_ok] at h
    obtain ⟨ref, href, rfl⟩ := h
    exact simWrite_updateVolume href (by rw [Action.rewritesVolume, hk]) (fun _ => rfl)
      fun _ _ _ => rfl
  case h_9 =>
    simp only [volumeRef, require_bind_ok, pure_ok] at h
    obtain ⟨ref, href, rfl⟩ := h
    exact simWrite_updateVolume href (by rw [Action.rewritesVolume, hk]) (fun _ => rfl)
      fun hquiesce => absurd hk hquiesce
  case h_10 =>
    simp only [volumeRef, require_bind_ok, pure_ok] at h
    obtain ⟨ref, href, rfl⟩ := h
    exact simWrite_updateVolume href (by rw [Action.rewritesVolume, hk]) (fun _ => rfl)
      fun _ _ _ => Option.isSome_map
  case h_11 =>
    simp only [volumeRef, require_bind_ok, pure_ok] at h
    obtain ⟨ref, href, rfl⟩ := h
    exact simWrite_updateVolume href (by rw [Action.rewritesVolume, hk])
      (fun v => by cases v.handoff <;> rfl) fun _ hadopt => absurd hk hadopt
  case h_12 | h_18 | h_19 =>
    obtain ⟨ref, hsnapshot, h⟩ := bind_ok.mp h
    cases h
    exact simWrite_updateVolume (volumeSnapshot_eq_ok.mp hsnapshot).1
      (by rw [Action.rewritesVolume, hk]) (fun _ => rfl) fun _ _ _ => rfl
  case h_13 =>
    obtain ⟨ref, -, h⟩ := bind_ok.mp h
    cases h
    exact .nothing (by rw [hk]; rfl)
  case h_14 | h_15 | h_16 =>
    cases h
    exact .nothing (by rw [hk]; rfl)
  case h_17 =>
    simp only [volumeRef, require_bind_ok, pure_ok] at h
    obtain ⟨ref, href, rfl⟩ := h
    split_ifs with hdry
    · exact .nothing (by rw [hk]; rfl)
    · exact simWrite_updateVolume href (by rw [Action.rewritesVolume, hk]; simpa using hdry)
        (fun v => by rw [foldl_dropSnapshot]) fun _ _ v => by rw [foldl_dropSnapshot]
  case h_20 =>
    simp only [existingAllocation, require_bind_ok, pure_ok] at h
    obtain ⟨x, hget, secret, -, rfl⟩ := h
    exact .allocation x _ (by rw [hk]; rfl) hget ⟨rfl, rfl, rfl, rfl, rfl, rfl, rfl, rfl⟩
      (by rw [hk]; rfl)
  case h_21 | h_22 | h_23 | h_25 | h_26 =>
    exact simWrite_updateAllocation h (by rw [hk]; rfl)
      (fun x => ⟨rfl, rfl, rfl, rfl, rfl, rfl, rfl, rfl⟩) fun x => by rw [hk]; rfl
  case h_24 => exact simWrite_deleteAllocation hk h
  case h_27 =>
    cases h
    exact .route _ hk
  case h_28 | h_29 => exact absurd h fail_ne_ok

/-- A simulation and its frame. -/
def Simulates (w : World) (a : Action) (w' : World) : Prop := SimEffect w a w' ∧ SameFrame w w'

/-- **What a simulation did** to allocations and the owners of volumes, and that it left the
rest alone. -/
theorem simulate_effect (h : simulateAction w a = .ok w') : Simulates w a w' := by
  cases simulate_write h with
  | nothing hk => exact ⟨.quiet hk rfl fun _ => rfl, rfl, rfl, rfl, fun _ => rfl⟩
  | node name n n' hk hget =>
    exact ⟨.quiet hk rfl fun _ => rfl, rfl, rfl, rfl, Table.isSome_insert hget _⟩
  | route route hk =>
    exact ⟨.quiet (by rw [hk]; rfl) rfl fun _ => rfl, rfl, rfl, rfl, fun _ => rfl⟩
  | volume ref v v' hk href hget howner =>
    exact ⟨.quiet (quiet_of_rewritesVolume hk) rfl (Table.map_get_insert hget howner),
      rfl, rfl, rfl, fun _ => rfl⟩
  | known ref hk href hold =>
    exact ⟨.volumeCreated ref hk href rfl (.inl ⟨hold, rfl⟩), rfl, rfl, rfl, fun _ => rfl⟩
  | fresh ref hk href hnone =>
    exact ⟨.volumeCreated ref hk href rfl (.inr ⟨hnone, rfl⟩), rfl, rfl, rfl, fun _ => rfl⟩
  | allocation x x' hk hget hsame hphase =>
    exact ⟨.allocation x x' hk hget hsame hphase rfl rfl, rfl, rfl, rfl, fun _ => rfl⟩
  | created n n' hk hget =>
    exact ⟨.created hk rfl rfl, rfl, rfl, rfl, Table.isSome_insert hget _⟩
  | deleted w₁ hk hnode =>
    rcases hnode with rfl | ⟨name, n, n', hget, rfl, -⟩
    · exact ⟨.deleted hk rfl rfl, rfl, rfl, rfl, fun _ => rfl⟩
    · exact ⟨.deleted hk rfl rfl, rfl, rfl, rfl, Table.isSome_insert hget _⟩
  | attached ref v v' x generation hk href hvolume hget howner =>
    exact ⟨.attached ref v' x generation hk href hget howner rfl rfl, rfl, rfl, rfl,
      fun _ => rfl⟩
  | absent ref hk href hnone =>
    exact ⟨.absent ref hk href hnone rfl rfl, rfl, rfl, rfl, fun _ => rfl⟩
  | detached ref v v' w₁ hk href hget howner hmove hown =>
    rcases hown with ⟨hnone, rfl⟩ | ⟨x, hx, rfl⟩
    · exact ⟨.detached ref v v' hk href hget howner (.inl ⟨hnone, rfl⟩) rfl,
        rfl, rfl, rfl, fun _ => rfl⟩
    · exact ⟨.detached ref v v' hk href hget howner (.inr ⟨x, hx, rfl⟩) rfl,
        rfl, rfl, rfl, fun _ => rfl⟩

end Inversion

end A4s
