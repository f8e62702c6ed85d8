/-
What a plan and its execution have to agree on.

The kernel checks a plan in a world it advances by `simulateAction`. The data plane then
carries the plan out, and the projection applies what it reports. `Agrees` says of one
action that the two, written apart, lead to the same allocations, node totals and volumes.

* `SameOutcome`: the agreement of two worlds reached from one.
* `Steady`: a world in which nothing of it has changed; two such worlds agree.
* `sameOutcome_volume_iff`: agreement after both replaced one volume.
* `agrees_iff`, `agrees_iff_same`: agreement about an action, from what the simulation, the
  data plane and the projection return for it.
-/
import A4s.Control.Execution

namespace A4s

open Go

/-! ### Agreement -/

/-- What the kernel and the data plane have to agree on about an allocation. -/
def Allocation.outcome (x : Allocation) :
    AllocationPhase × Resources × Budget × Bool × Table UInt64 :=
  (x.phase, x.resources, x.budget, x.draining, x.volumes)

/-- What they have to agree on about a node. -/
def Node.outcome (n : Node) : Resources × Budget := (n.used, n.budgetUsed)

/-- What they have to agree on about a volume, its snapshot order apart. -/
def Volume.outcome (v : Volume) : String × UInt64 × String × Option HandoffPhase × Table String :=
  (v.owner, v.generation, v.node, v.handoff.map (·.phase), v.backups)

/-- Snapshot orders that come from one are the same, or the same but for the name of
a snapshot newly taken. -/
def SameOrder (old xs ys : List String) : Prop :=
  xs = ys ∨ ∃ x y, xs = old ++ [x] ∧ ys = old ++ [y]

/-- The simulated world and the projected one, both reached from `w`, agree. -/
structure SameOutcome (w sim next : World) : Prop where
  allocations : ∀ id : String,
    sim.allocations[id]?.map Allocation.outcome = next.allocations[id]?.map Allocation.outcome
  nodes : ∀ id : String, sim.nodes[id]?.map Node.outcome = next.nodes[id]?.map Node.outcome
  volumes : ∀ name : String,
    sim.volumes[name]?.map Volume.outcome = next.volumes[name]?.map Volume.outcome
  orders : ∀ (name : String) (v v' : Volume), sim.volumes[name]? = some v →
    next.volumes[name]? = some v' →
    SameOrder ((w.volumes[name]?.map Volume.snapshotOrder).getD []) v.snapshotOrder
      v'.snapshotOrder

/-- Both interpreters carry the action out, and their worlds agree. -/
def Agrees (host : Host) (w : World) (a : Action) : Prop :=
  ∃ sim e next, simulateAction w a = .ok sim ∧ MemoryExecutor.execute host w a = .ok e ∧
    project w e = .ok next ∧ SameOutcome w sim next

/-! ### Outcomes -/

section Outcome

variable {w sim next : World}

lemma SameOrder.refl (old xs : List String) : SameOrder old xs xs := .inl rfl

/-- Worlds with the same tables agree. -/
lemma SameOutcome.of_eq (ha : sim.allocations = next.allocations) (hn : sim.nodes = next.nodes)
    (hv : sim.volumes = next.volumes) : SameOutcome w sim next := by
  refine ⟨fun id => by rw [ha], fun id => by rw [hn], fun name => by rw [hv], ?_⟩
  intro name v v' hget hget'
  rw [hv, hget'] at hget
  cases hget
  exact .refl _ _

/-- Nothing the two have to agree on has changed. -/
structure Steady (w w' : World) : Prop where
  allocations : ∀ id : String,
    w'.allocations[id]?.map Allocation.outcome = w.allocations[id]?.map Allocation.outcome
  nodes : ∀ id : String, w'.nodes[id]?.map Node.outcome = w.nodes[id]?.map Node.outcome
  volumes : ∀ name : String, w'.volumes[name]?.map (fun v => (v.outcome, v.snapshotOrder)) =
    w.volumes[name]?.map fun v => (v.outcome, v.snapshotOrder)

lemma Steady.same (h : Steady w sim) (h' : Steady w next) : SameOutcome w sim next := by
  have hvolumes : ∀ name : String, sim.volumes[name]?.map (fun v => (v.outcome, v.snapshotOrder)) =
      next.volumes[name]?.map fun v => (v.outcome, v.snapshotOrder) :=
    fun name => (h.volumes name).trans (h'.volumes name).symm
  refine ⟨fun id => (h.allocations id).trans (h'.allocations id).symm,
    fun id => (h.nodes id).trans (h'.nodes id).symm, fun name => ?_, ?_⟩
  · have hboth := congrArg (Option.map Prod.fst) (hvolumes name)
    rwa [Option.map_map, Option.map_map] at hboth
  · intro name v v' hget hget'
    have hboth := hvolumes name
    rw [hget, hget', Option.map_some, Option.map_some, Option.some.injEq, Prod.mk.injEq] at hboth
    exact .inl hboth.2

lemma Steady.of_eq (ha : next.allocations = w.allocations) (hn : next.nodes = w.nodes)
    (hv : next.volumes = w.volumes) : Steady w next :=
  ⟨fun id => by rw [ha], fun id => by rw [hn], fun name => by rw [hv]⟩

lemma Steady.node {id : String} {n n' : Node} (hget : w.nodes[id]? = some n)
    (hsame : n'.outcome = n.outcome) : Steady w (w.setNode id n') :=
  ⟨fun _ => rfl, Table.map_get_insert hget hsame, fun _ => rfl⟩

lemma Steady.allocation {id : String} {x x' : Allocation} (hget : w.allocations[id]? = some x)
    (hsame : x'.outcome = x.outcome) : Steady w (w.setAllocation id x') :=
  ⟨Table.map_get_insert hget hsame, fun _ => rfl, fun _ => rfl⟩

lemma Steady.volume {name : String} {v v' : Volume} (hget : w.volumes[name]? = some v)
    (hsame : v'.outcome = v.outcome) (horder : v'.snapshotOrder = v.snapshotOrder) :
    Steady w (w.setVolume name v') :=
  ⟨fun _ => rfl, fun _ => rfl, Table.map_get_insert hget (Prod.ext hsame horder)⟩

/-- Both have replaced one allocation. -/
lemma SameOutcome.allocation {id : String} {x x' : Allocation} (hsame : x.outcome = x'.outcome) :
    SameOutcome w (w.setAllocation id x) (w.setAllocation id x') := by
  refine ⟨fun j => ?_, fun _ => rfl, fun _ => rfl, fun name v v' hget hget' => ?_⟩
  · simp only [World.setAllocation, get_insert]
    split_ifs
    · exact congrArg some hsame
    · rfl
  · exact .inl (by rw [Option.some.inj (hget.symm.trans hget')])

/-- Both have replaced one volume. -/
lemma sameOutcome_volume_iff {name : String} {u v v' : Volume} (hget : w.volumes[name]? = some u) :
    SameOutcome w (w.setVolume name v) (w.setVolume name v') ↔
      v.outcome = v'.outcome ∧ SameOrder u.snapshotOrder v.snapshotOrder v'.snapshotOrder := by
  constructor
  · intro h
    have hvolume := h.volumes name
    have horder := h.orders name v v' (get_insert_self) (get_insert_self)
    simp only [World.setVolume, get_insert_self, Option.map_some, Option.some.injEq]
      at hvolume
    rw [hget] at horder
    exact ⟨hvolume, horder⟩
  · rintro ⟨hvolume, horder⟩
    refine ⟨fun _ => rfl, fun _ => rfl, fun j => ?_, fun j u₁ u₂ h₁ h₂ => ?_⟩
    · simp only [World.setVolume, get_insert]
      split_ifs
      · exact congrArg some hvolume
      · rfl
    · simp only [World.setVolume, get_insert] at h₁ h₂
      split_ifs at h₁ h₂ with hj
      · cases h₁
        cases h₂
        rw [hj, hget]
        exact horder
      · rw [h₁] at h₂
        cases h₂
        exact .refl _ _

/-- An order that did not grow has to be the same. -/
lemma sameOrder_iff {old xs ys : List String} (h : xs.length ≤ old.length) :
    SameOrder old xs ys ↔ xs = ys := by
  refine ⟨?_, .inl⟩
  rintro (heq | ⟨x, y, hx, -⟩)
  · exact heq
  · rw [hx, List.length_append, List.length_singleton] at h
    omega

lemma updateVolume_of_get {name : String} {v : Volume} (hget : w.volumes[name]? = some v)
    (f : Volume → Volume) : updateVolume w name f = w.setVolume name (f v) := by
  rw [updateVolume, hget]

end Outcome

section Reduce

variable {host : Host} {goal : Goal} {w sim : World} {a : Action} {e : Evidence}

/-- The projection accepts the report under a condition and leads to `next`. -/
lemma agrees_iff (c : Prop) (next : World) (hsim : simulateAction w a = .ok sim)
    (hexec : MemoryExecutor.execute host w a = .ok e)
    (hinto : ∀ w', projectInto w e = .ok w' ↔ c ∧ next = w') :
    Agrees host w a ↔ c ∧ SameOutcome w sim next := by
  have hproject : ∀ p, project w e = .ok p ↔
      c ∧ (if observesNothing e.kind then next else advance w next e) = p := by
    intro p
    rw [project, bind_ok]
    constructor
    · rintro ⟨_, hnext, hp⟩
      obtain ⟨hc, rfl⟩ := (hinto _).mp hnext
      exact ⟨hc, pure_ok.mp hp⟩
    · rintro ⟨hc, hp⟩
      exact ⟨next, (hinto next).mpr ⟨hc, rfl⟩, pure_ok.mpr hp⟩
  -- revision and time are no part of the outcome
  have hadvance : SameOutcome w sim (if observesNothing e.kind then next else advance w next e) ↔
      SameOutcome w sim next := by
    split_ifs
    · exact Iff.rfl
    · exact ⟨fun h => ⟨h.1, h.2, h.3, h.4⟩, fun h => ⟨h.1, h.2, h.3, h.4⟩⟩
  constructor
  · rintro ⟨sim', e', p, hsim', hexec', hp, hsame⟩
    rw [hsim] at hsim'
    rw [hexec] at hexec'
    cases hsim'
    cases hexec'
    obtain ⟨hc, rfl⟩ := (hproject p).mp hp
    exact ⟨hc, hadvance.mp hsame⟩
  · rintro ⟨hc, hsame⟩
    exact ⟨sim, e, _, hsim, hexec, (hproject _).mpr ⟨hc, rfl⟩, hadvance.mpr hsame⟩


/-- The projection accepts the report in any case. -/
lemma agrees_iff_same {next : World} (hsim : simulateAction w a = .ok sim)
    (hexec : MemoryExecutor.execute host w a = .ok e) (hinto : projectInto w e = .ok next) :
    Agrees host w a ↔ SameOutcome w sim next := by
  have hiff := agrees_iff True next hsim hexec fun w' => by rw [hinto, Except.ok.injEq, true_and]
  rwa [true_and] at hiff

lemma agrees_of {next : World} (hsim : simulateAction w a = .ok sim)
    (hexec : MemoryExecutor.execute host w a = .ok e) (hinto : projectInto w e = .ok next)
    (hsame : SameOutcome w sim next) : Agrees host w a :=
  (agrees_iff_same hsim hexec hinto).mpr hsame

end Reduce

end A4s
