/-
Moving a volume to another node.

A move has four phases. The volume is quiesced and a target is named, a snapshot is
taken, the target reports the checksum of what it received, and the target adopts the
volume. The kernel keeps writers away while a move is under way, the projection keeps the
phases in order; neither alone gives the protocol.

* `Moves`: what one piece of evidence does to a move, from the projection.
* `Trail`: the evidence a move in progress has behind it, back to its quiesce.
* `Protocol`: runs in which every step is an action of an accepted proposal, followed by
  the projection of its evidence; `Protocol.calm`: no volume is attached in them while it
  is being moved.
* `handoff_protocol`: **a volume changes its node only at the end of a complete move**.
-/
import A4s.Go.Run
import A4s.Control.Execution

namespace A4s

open Go

/-! ### What evidence does to a move -/

/-- Evidence of a kind about a volume. -/
def Evidence.tells (e : Evidence) (kind : EvidenceKind) (name : String) : Prop :=
  e.kind = kind ∧ e.target = name

instance (e : Evidence) (kind : EvidenceKind) (name : String) : Decidable (e.tells kind name) :=
  inferInstanceAs (Decidable (_ ∧ _))

/-- No volume is attached while it is being moved. -/
def Calm (w : World) (e : Evidence) : Prop :=
  e.kind = .volumeAttached → ∀ v, w.volumes[e.target]? = some v → v.handoff = none

/-- What a piece of evidence does to the record `v` of a volume, as far as moving it is
concerned. -/
inductive Moves (e : Evidence) (name : String) (v v' : Volume) : Prop
  | kept (hhandoff : v'.handoff = v.handoff) (hnode : v'.node = v.node)
      (howner : v'.owner = v.owner ∨ v'.owner = "" ∨ e.tells .volumeAttached name)
      (hquiesce : ¬e.tells .volumeQuiesced name) (hadopt : ¬e.tells .volumeAdopted name)
  | quiesced (hk : e.tells .volumeQuiesced name) (hfree : v.owner = "")
      (hnow : v' = { v with
        handoff := some { from_ := v.node, to_ := e.observe "to", phase := .quiesced } })
  | snapshotted (h : VolumeHandoff) (hk : e.tells .volumeSnapshotted name)
      (hbefore : v.handoff = some h) (hwas : h.phase = .quiesced) (hnode : v'.node = v.node)
      (howner : v'.owner = v.owner)
      (hnow : v'.handoff = some { h with
        phase := .snapshotted, snapshot := e.observe "snapshot"
        checksum := e.observe "checksum" })
  | transferred (h : VolumeHandoff) (hk : e.tells .volumeTransferred name)
      (hbefore : v.handoff = some h) (hwas : h.phase = .snapshotted)
      (hsame : e.observe "checksum" = h.checksum)
      (hnow : v' = { v with handoff := some { h with phase := .transferred } })
  | adopted (h : VolumeHandoff) (hk : e.tells .volumeAdopted name)
      (hbefore : v.handoff = some h) (hwas : h.phase = .transferred)
      (hthere : e.observe "node" = h.to_)
      (hnow : v' = { v with node := h.to_, generation := v.generation + 1, handoff := none })

section Projection

variable {name : String}

variable {w w' next : World} {e : Evidence}

/-- The projection is its switch, up to revision and time. -/
lemma project_into (h : project w e = .ok w') :
    ∃ next, projectInto w e = .ok next ∧ w'.volumes = next.volumes := by
  obtain ⟨next, hinto, hnext⟩ := bind_ok.mp h
  refine ⟨next, hinto, ?_⟩
  cases hnext
  split_ifs <;> rfl

/-- Evidence writes no volume but its target. -/
lemma project_volume_other (h : project w e = .ok w') (hname : name ≠ e.target) :
    w'.volumes[name]? = w.volumes[name]? := by
  refine (project_effect h).volume_frame fun hmem => hname ?_
  unfold volumesNamed at hmem
  split at hmem
  case h_4 =>
    split_ifs at hmem
    · exact List.mem_singleton.mp hmem
    · cases hmem
  all_goals exact List.mem_singleton.mp hmem

/-- A volume that comes into being is not being moved. -/
lemma project_appears {v' : Volume} (h : project w e = .ok w')
    (hnew : w.volumes[name]? = none) (hget : w'.volumes[name]? = some v') :
    v'.handoff = none := by
  by_cases hname : name = e.target
  swap
  · rw [project_volume_other h hname, hnew] at hget
    cases hget
  subst hname
  cases project_effect h with
  | unchanged | allocation | created | deleted | node | decision =>
    rw [‹w'.volumes = w.volumes›, hnew] at hget
    cases hget
  | volume | attached | detached =>
    exact absurd (hnew.symm.trans ‹w.volumes[e.target]? = some _›) (by simp)
  | volumeCreated v _ _ _ _ _ _ hv _ _ _ hrest =>
    rw [hv, get_insert_self] at hget
    cases hget
    exact hrest

/-- Evidence that is not about moving a volume keeps its node and its move. -/
lemma Effect.keeps_move {v : Volume} (h : Effect w e w') (hk : e.kind.moves = false)
    (hget : w.volumes[e.target]? = some v) :
    ∃ v', w'.volumes[e.target]? = some v' ∧ v'.handoff = v.handoff ∧ v'.node = v.node ∧
      (v'.owner = v.owner ∨ v'.owner = "" ∨ e.kind = .volumeAttached) := by
  have hkind : e.kind ≠ .volumeAdopted := by
    intro hadopted
    rw [hadopted] at hk
    cases hk
  cases h with
  | unchanged | allocation | created | deleted | node | decision =>
    exact ⟨v, by rw [‹w'.volumes = w.volumes›, hget], rfl, rfl, .inl rfl⟩
  | volume v₀ v₁ _ hbefore _ howner _ hv _ _ hup =>
    cases hbefore.symm.trans hget
    exact ⟨v₁, by rw [hv, get_insert_self], hup.handoff hk, hup.node hkind, .inl howner⟩
  | attached v₀ v₁ _ hattached hbefore _ _ _ hv _ _ _ _ hheld =>
    cases hbefore.symm.trans hget
    refine ⟨v₁, by rw [hv, get_insert_self], ?_, ?_, .inr (.inr hattached)⟩ <;>
      · rw [hheld]
        split_ifs <;> rfl
  | detached v₀ v₁ _ hbefore _ _ hfree _ hv _ _ hfreed =>
    cases hbefore.symm.trans hget
    exact ⟨v₁, by rw [hv, get_insert_self], by rw [hfreed], by rw [hfreed],
      .inr (.inl hfree)⟩
  | volumeCreated v₁ _ hnew => exact absurd (hnew.symm.trans hget) (by simp)

lemma EvidenceKind.moves_cases {kind : EvidenceKind} (h : kind.moves = true) :
    kind = .volumeQuiesced ∨ kind = .volumeSnapshotted ∨ kind = .volumeTransferred ∨
      kind = .volumeAdopted := by
  cases kind <;> simp_all [EvidenceKind.moves]

lemma Evidence.not_tells {kind kind' : EvidenceKind} (hk : e.kind = kind)
    (hne : kind ≠ kind') : ¬e.tells kind' name :=
  fun htells => hne (hk.symm.trans htells.1)

/-- A snapshot advances a quiesced move and leaves the others alone. -/
lemma snapshot_moves {v v' : Volume} (hk : e.kind = .volumeSnapshotted)
    (hnode : v'.node = v.node) (howner : v'.owner = v.owner)
    (hhandoff : v'.handoff =
      handoffAfterSnapshot (e.observe "snapshot") (e.observe "checksum") v.handoff) :
    Moves e e.target v v' := by
  by_cases hquiesced : ∃ move, v.handoff = some move ∧ move.phase = .quiesced
  · obtain ⟨move, hmove, hphase⟩ := hquiesced
    refine .snapshotted move ⟨hk, rfl⟩ hmove hphase hnode howner ?_
    rw [hhandoff, hmove, handoffAfterSnapshot, if_pos hphase]
  · refine .kept ?_ hnode (.inl howner) (e.not_tells hk (by decide)) (e.not_tells hk (by decide))
    rw [hhandoff]
    cases hmove : v.handoff with
    | none => rfl
    | some move => exact if_neg fun hphase => hquiesced ⟨move, hmove, hphase⟩

/-- The branches that are about moving the volume they name. -/
lemma project_move (hk : e.kind.moves = true) (h : project w e = .ok w') :
    ∃ v v', w.volumes[e.target]? = some v ∧ w'.volumes[e.target]? = some v' ∧
      Moves e e.target v v' := by
  obtain ⟨next, hinto, hvolumes⟩ := project_into h
  rw [hvolumes]
  rcases EvidenceKind.moves_cases hk with hk | hk | hk | hk
  all_goals
    simp only [projectInto, hk, projectVolumeQuiesced, projectVolumeSnapshotted,
      projectVolumeTransferred, projectVolumeAdopted, knownVolume, knownNode, require_bind_ok,
      refuseIf_bind_ok, pure_ok, not_not] at hinto
  · obtain ⟨v, hget, -, _, -, howner, rfl⟩ := hinto
    exact ⟨v, _, hget, get_insert_self, .quiesced ⟨hk, rfl⟩ howner rfl⟩
  · obtain ⟨v, hget, -, -, rfl⟩ := hinto
    exact ⟨v, _, hget, get_insert_self, snapshot_moves hk rfl rfl rfl⟩
  · obtain ⟨v, hget, move, hmove, hphase, -, hsum, rfl⟩ := hinto
    exact ⟨v, _, hget, get_insert_self, .transferred move ⟨hk, rfl⟩ hmove hphase hsum rfl⟩
  · obtain ⟨v, hget, move, hmove, hphase, hnode, rfl⟩ := hinto
    exact ⟨v, _, hget, get_insert_self, .adopted move ⟨hk, rfl⟩ hmove hphase hnode rfl⟩

/-- **What evidence does to a move.** -/
theorem project_moves {v : Volume} (h : project w e = .ok w') (hget : w.volumes[name]? = some v) :
    ∃ v', w'.volumes[name]? = some v' ∧ Moves e name v v' := by
  by_cases hname : name = e.target
  swap
  · -- the evidence is about another volume
    have hother : ∀ kind, ¬e.tells kind name := fun _ htells => hname htells.2.symm
    exact ⟨v, (project_volume_other h hname).trans hget,
      .kept rfl rfl (.inl rfl) (hother _) (hother _)⟩
  subst hname
  cases hmoves : e.kind.moves with
  | false =>
    obtain ⟨v', hget', hhandoff, hnode, howner⟩ := (project_effect h).keeps_move hmoves hget
    refine ⟨v', hget', .kept hhandoff hnode ?_ ?_ ?_⟩
    · exact howner.imp_right (Or.imp_right fun hattached => ⟨hattached, rfl⟩)
    · rintro ⟨hk, -⟩
      rw [hk] at hmoves
      cases hmoves
    · rintro ⟨hk, -⟩
      rw [hk] at hmoves
      cases hmoves
  | true =>
    obtain ⟨v₀, v', hbefore, hget', hmove⟩ := project_move hmoves h
    cases hbefore.symm.trans hget
    exact ⟨v', hget', hmove⟩

end Projection

/-! ### The evidence behind a move -/

/-- The history since the last quiesce of a volume, which named the target; nobody owned
the volume in any state from there on. -/
structure Since (start : World) (history before : List Evidence) (quiesce : Evidence)
    (since : List Evidence) (name target : String) : Prop where
  split : history = before ++ quiesce :: since
  quiesced : quiesce.tells .volumeQuiesced name
  target : quiesce.observe "to" = target
  last : ∀ e ∈ since, ¬e.tells .volumeQuiesced name
  unowned : ∀ done rest t v, since = done ++ rest →
    Run project start (before ++ quiesce :: done) t → t.volumes[name]? = some v → v.owner = ""

/-- What was reported about the copy that is moved, by the phase the move is in. -/
def Copied (since : List Evidence) (name checksum : String) : HandoffPhase → Prop
  | .quiesced => True
  | .snapshotted => ∃ snapshot ∈ since,
      snapshot.tells .volumeSnapshotted name ∧ snapshot.observe "checksum" = checksum
  | .transferred => ∃ done snapshot between transfer rest,
      since = done ++ snapshot :: (between ++ transfer :: rest) ∧
        snapshot.tells .volumeSnapshotted name ∧ snapshot.observe "checksum" = checksum ∧
        transfer.tells .volumeTransferred name ∧ transfer.observe "checksum" = checksum
  | .adopted => False

/-- The trail of a move in progress. -/
def Trail (start : World) (history : List Evidence) (name : String) (move : VolumeHandoff) :
    Prop :=
  ∃ before quiesce since, Since start history before quiesce since name move.to_ ∧
    Copied since name move.checksum move.phase

/-- No volume is being moved. -/
def AtRest (w : World) : Prop :=
  ∀ (name : String) (v : Volume), w.volumes[name]? = some v → v.handoff = none

/-- Every volume that is being moved is unowned and has its trail. -/
def Trailed (start : World) (history : List Evidence) (w : World) : Prop :=
  ∀ name v move, w.volumes[name]? = some v → v.handoff = some move →
    v.owner = "" ∧ Trail start history name move

section Trails

variable {start w w' : World} {history before since : List Evidence} {e quiesce : Evidence}
  {name target checksum : String}

/-- A history goes on while nobody owns the volume and it is not quiesced again. -/
lemma Since.extend {v : Volume} (h : Since start history before quiesce since name target)
    (hnot : ¬e.tells .volumeQuiesced name) (hrun : Run project start (history ++ [e]) w')
    (hget : w'.volumes[name]? = some v) (hfree : v.owner = "") :
    Since start (history ++ [e]) before quiesce (since ++ [e]) name target := by
  refine ⟨by rw [h.split]; simp, h.quiesced, h.target, ?_, ?_⟩
  · intro x hx
    rcases List.mem_append.mp hx with hx | hx
    · exact h.last x hx
    · rw [List.mem_singleton.mp hx]
      exact hnot
  · intro done rest t u hsplit hdone hu
    rcases List.eq_nil_or_concat rest with rfl | ⟨rest, x, rfl⟩
    · -- the new state
      rw [List.append_nil] at hsplit
      rw [← hsplit, ← List.cons_append, ← List.append_assoc, ← h.split] at hdone
      cases hdone.unique hrun
      cases hget.symm.trans hu
      exact hfree
    · -- a state that was there before
      rw [List.concat_eq_append, ← List.append_assoc] at hsplit
      exact h.unowned done rest t u (List.append_inj_left' hsplit rfl) hdone hu

lemma Copied.extend {phase : HandoffPhase} (h : Copied since name checksum phase)
    (e : Evidence) : Copied (since ++ [e]) name checksum phase := by
  cases phase with
  | quiesced => trivial
  | snapshotted =>
    obtain ⟨snapshot, hmem, hrest⟩ := h
    exact ⟨snapshot, List.mem_append_left _ hmem, hrest⟩
  | transferred =>
    obtain ⟨done, snapshot, between, transfer, rest, hsplit, hrest⟩ := h
    exact ⟨done, snapshot, between, transfer, rest ++ [e], by rw [hsplit]; simp, hrest⟩
  | adopted => exact h

/-- A transfer completes the copy of a snapshotted move. -/
lemma Copied.transfer (h : Copied since name checksum .snapshotted)
    (hk : e.tells .volumeTransferred name) (hsame : e.observe "checksum" = checksum) :
    Copied (since ++ [e]) name checksum .transferred := by
  obtain ⟨snapshot, hmem, htells, hsum⟩ := h
  obtain ⟨done, between, hsplit⟩ := List.append_of_mem hmem
  exact ⟨done, snapshot, between, e, [], by rw [hsplit]; simp, htells, hsum, hk, hsame⟩

/-- **One step keeps the trails**, as long as it attaches no volume that is being moved. -/
lemma Trailed.step (ht : Trailed start history w) (hrun : Run project start history w)
    (hcalm : Calm w e) (h : project w e = .ok w') : Trailed start (history ++ [e]) w' := by
  intro name v' move hget' hmove
  cases hget : w.volumes[name]? with
  | none =>
    rw [project_appears h hget hget'] at hmove
    cases hmove
  | some v =>
    obtain ⟨v₁, hget₁, hmoves⟩ := project_moves h hget
    cases hget₁.symm.trans hget'
    have hrun' := hrun.snoc h
    cases hmoves with
    | kept hhandoff hnode howner hquiesce hadopt =>
      rw [hhandoff] at hmove
      obtain ⟨hfree, before, quiesce, since, hsince, hcopied⟩ := ht name v move hget hmove
      have hfree' : v'.owner = "" := by
        rcases howner with howner | howner | ⟨hattached, htarget⟩
        · exact howner.trans hfree
        · exact howner
        · subst htarget
          rw [hcalm hattached v hget] at hmove
          cases hmove
      exact ⟨hfree', before, quiesce, since ++ [e],
        hsince.extend hquiesce hrun' hget' hfree', hcopied.extend e⟩
    | quiesced hk hfree hnow =>
      subst hnow
      cases hmove
      refine ⟨hfree, history, e, [], ⟨rfl, hk, rfl, by simp, ?_⟩, trivial⟩
      intro done rest t u hnil hdone hu
      rw [(List.append_eq_nil_iff.mp hnil.symm).1] at hdone
      cases hdone.unique hrun'
      cases hget'.symm.trans hu
      exact hfree
    | snapshotted old hk hbefore hwas hnode howner hnow =>
      cases hnow.symm.trans hmove
      obtain ⟨hfree, before, quiesce, since, hsince, -⟩ := ht name v old hget hbefore
      refine ⟨howner.trans hfree, before, quiesce, since ++ [e], ?_, ?_⟩
      · exact hsince.extend (e.not_tells hk.1 (by decide)) hrun' hget' (howner.trans hfree)
      · exact ⟨e, by simp, hk, rfl⟩
    | transferred old hk hbefore hwas hsame hnow =>
      subst hnow
      cases hmove
      obtain ⟨hfree, before, quiesce, since, hsince, hcopied⟩ := ht name v old hget hbefore
      rw [hwas] at hcopied
      exact ⟨hfree, before, quiesce, since ++ [e],
        hsince.extend (e.not_tells hk.1 (by decide)) hrun' hget' hfree,
        hcopied.transfer hk hsame⟩
    | adopted old hk hbefore hwas hthere hnow =>
      subst hnow
      cases hmove

/-- **A run keeps the trails.** -/
theorem Trailed.run (hrun : Run project start history w)
    (hcalm : Run.Throughout project Calm start history)
    (hstart : AtRest start) : Trailed start history w := by
  refine Run.invariant_history (Q := Calm) (I := Trailed start) ?_ ?_ hrun hcalm
  · intro name v move hget hmove
    rw [hstart name v hget] at hmove
    cases hmove
  · intro history t u e hhistory ht hcalm hstep
    exact ht.step hhistory hcalm hstep

end Trails

/-! ### Moves in the kernel's plan -/

/-- Whether a volume is being moved. -/
def World.moving (w : World) (name : String) : Bool :=
  (w.volumes[name]?.bind (·.handoff)).isSome

section Moving

variable {w w' : World} {e : Evidence} {a : Action} {name : String}

lemma moving_of_get {v : Volume} (hget : w.volumes[name]? = some v) :
    w.moving name = v.handoff.isSome := by
  rw [World.moving, hget, Option.bind_some]

/-- Writing a volume that keeps its move. -/
lemma moving_insert {volume : String} {v v' : Volume} (hget : w.volumes[volume]? = some v)
    (hv : w'.volumes = w.volumes.insert volume v')
    (hsame : v'.handoff.isSome = v.handoff.isSome) : w'.moving name = w.moving name := by
  by_cases hname : name = volume
  · subst hname
    rw [moving_of_get (v := v') (by rw [hv, get_insert_self]), moving_of_get hget, hsame]
  · rw [World.moving, World.moving, hv, get_insert_of_ne hname]

/-- **Evidence and moves**: a quiesce begins one, an adoption ends it. -/
lemma project_moving (h : project w e = .ok w') (name : String) :
    w'.moving name = if e.tells .volumeQuiesced name then true
      else if e.tells .volumeAdopted name then false else w.moving name := by
  cases hget : w.volumes[name]? with
  | some v =>
    obtain ⟨v', hget', hmoves⟩ := project_moves h hget
    rw [moving_of_get hget', moving_of_get hget]
    cases hmoves with
    | kept hhandoff _ _ hquiesce hadopt => rw [if_neg hquiesce, if_neg hadopt, hhandoff]
    | quiesced hk _ hnow => rw [if_pos hk, hnow, Option.isSome_some]
    | snapshotted _ hk hbefore _ _ _ hnow =>
      rw [if_neg (e.not_tells hk.1 (by decide)), if_neg (e.not_tells hk.1 (by decide)), hnow,
        hbefore, Option.isSome_some, Option.isSome_some]
    | transferred _ hk hbefore _ _ hnow =>
      rw [if_neg (e.not_tells hk.1 (by decide)), if_neg (e.not_tells hk.1 (by decide)), hnow,
        hbefore, Option.isSome_some, Option.isSome_some]
    | adopted _ hk _ _ _ hnow =>
      rw [if_neg (e.not_tells hk.1 (by decide)), if_pos hk, hnow, Option.isSome_none]
  | none =>
    have hrest : w'.moving name = false := by
      cases hget' : w'.volumes[name]? with
      | none => rw [World.moving, hget', Option.bind_none, Option.isSome_none]
      | some v' => rw [moving_of_get hget', project_appears h hget hget', Option.isSome_none]
    have hquiesce : ¬e.tells .volumeQuiesced name := by
      rintro ⟨hk, rfl⟩
      obtain ⟨v, -, hknown, -⟩ := project_move (by rw [hk]; rfl) h
      exact absurd (hget.symm.trans hknown) (by simp)
    have hbefore : w.moving name = false := by
      rw [World.moving, hget, Option.bind_none, Option.isSome_none]
    rw [hrest, if_neg hquiesce, hbefore, ite_self]

/-- The volumes after the plan's update of one of them. -/
lemma updateVolume_get (w : World) (volume name : String) (f : Volume → Volume) :
    (updateVolume w volume f).volumes[name]? =
      if name = volume then w.volumes[volume]?.map f else w.volumes[name]? := by
  unfold updateVolume
  split
  · rename_i v hget
    rw [World.setVolume, get_insert, hget, Option.map_some]
  · rename_i hget
    split_ifs with hname
    · rw [hname, hget, Option.map_none]
    · rfl

lemma updateVolume_moving (volume : String) (f : Volume → Volume) :
    (updateVolume w volume f).moving name =
      if name = volume then (w.volumes[volume]?.bind fun v => (f v).handoff).isSome
      else w.moving name := by
  rw [World.moving, updateVolume_get]
  split_ifs with hname
  · rw [Option.bind_map]
    rfl
  · rfl

/-- The action is of a kind and about a volume. -/
def Action.orders (a : Action) (kind : ActionKind) (name : String) : Prop :=
  a.kind = kind ∧ a.volume.map (·.name) = some name

instance (a : Action) (kind : ActionKind) (name : String) : Decidable (a.orders kind name) :=
  inferInstanceAs (Decidable (_ ∧ _))

lemma orders_iff {kind : ActionKind} {ref : VolumeRef} (hk : a.kind = kind)
    (href : a.volume = some ref) : a.orders kind name ↔ name = ref.name := by
  constructor
  · rintro ⟨-, hsome⟩
    rw [href] at hsome
    exact (Option.some.inj hsome).symm
  · rintro rfl
    exact ⟨hk, by rw [href]; rfl⟩

lemma quiesce_moving {host : Host} {goal : Goal} (hk : a.kind = .quiesceVolume)
    (hvalid : validateQuiesceVolume host goal w a = .ok ()) (h : simulateAction w a = .ok w') :
    w'.moving name = if a.orders .quiesceVolume name then true else w.moving name := by
  simp only [simulateAction, hk, volumeRef, require_bind_ok, pure_ok] at h
  obtain ⟨ref, href, rfl⟩ := h
  -- the validator has seen the volume
  simp only [validateQuiesceVolume, volumeRef, existingVolume, require_bind_ok] at hvalid
  obtain ⟨ref', href', v, hget, -⟩ := hvalid
  cases href.symm.trans href'
  rw [updateVolume_moving, hget]
  simp only [orders_iff hk href]
  rfl

lemma adopt_moving (hk : a.kind = .adoptVolume) (h : simulateAction w a = .ok w') :
    w'.moving name = if a.orders .adoptVolume name then false else w.moving name := by
  simp only [simulateAction, hk, volumeRef, require_bind_ok, pure_ok] at h
  obtain ⟨ref, href, rfl⟩ := h
  rw [updateVolume_moving]
  simp only [orders_iff hk href]
  split_ifs with hname
  · cases w.volumes[ref.name]? with
    | none => rfl
    | some v =>
      cases hmove : v.handoff with
      | none => simp [hmove]
      | some move => simp [hmove]
  · rfl

/-- The other actions keep the moves. -/
lemma simulate_keeps_moving (h : simulateAction w a = .ok w') (hquiesce : a.kind ≠ .quiesceVolume)
    (hadopt : a.kind ≠ .adoptVolume) : w'.moving name = w.moving name := by
  cases simulate_write h with
  | volume ref v v' hk href hget howner hmove =>
    exact moving_insert hget rfl (hmove hquiesce hadopt)
  | fresh ref hk href hnone =>
    by_cases hname : name = ref.name
    · subst hname
      rw [World.moving, World.moving, World.setVolume, get_insert_self, hnone]
      rfl
    · rw [World.moving, World.moving, World.setVolume, get_insert_of_ne hname]
  | attached ref v v' x generation hk href hvolume hget howner hmove =>
    exact moving_insert hvolume rfl (by rw [hmove])
  | detached ref v v' w₁ hk href hget howner hmove hown =>
    have hsame : w₁.volumes = w.volumes := by
      rcases hown with ⟨-, rfl⟩ | ⟨x, -, rfl⟩ <;> rfl
    refine moving_insert hget ?_ (by rw [hmove])
    rw [World.setVolume, hsame]
  | deleted w₁ hk hnode =>
    rcases hnode with rfl | ⟨_, _, _, -, rfl, -⟩
    · rfl
    · rfl
  -- the other actions write nodes, allocations and routes
  | nothing | node | route | known | allocation | created | absent => rfl

end Moving

/-! ### Runs under the kernel -/

/-- Actions are carried out in order; each is reported and the report is projected. -/
inductive Reported : World → List Action → List Evidence → World → Prop
  | nil (w : World) : Reported w [] [] w
  | cons {w w₁ w' : World} {a : Action} {e : Evidence} {rest : List Action} {es : List Evidence}
      (hreport : Reports a e) (hproject : project w e = .ok w₁) (hrest : Reported w₁ rest es w') :
      Reported w (a :: rest) (e :: es) w'

/-- Rounds of a kernel: a proposal is accepted for the world as it is, at the time of the
round, and its actions are carried out, all of them or as far as it goes. -/
inductive Protocol (k : Kernel) : World → List Evidence → World → Prop
  | nil (w : World) : Protocol k w [] w
  | round {w w₁ w' : World} {es rest : List Evidence} (host : Host) (actor : AgentDescriptor)
      (goal : Goal) (now : Time) (p : Proposal) (n : ℕ)
      (haccepted : authorize host k actor goal { w with observedAt := now } p = .ok ())
      (hexec : Reported w (p.actions.take n) es w₁) (hrest : Protocol k w₁ rest w') :
      Protocol k w (es ++ rest) w'

section Kernel

variable {name : String}

variable {host : Host} {grants : Grants} {goal : Goal} {k : Kernel}
  {sim sim₁ simEnd w w₁ w' : World} {a : Action} {actions : List Action} {e : Evidence}
  {es : List Evidence}

lemma Reported.run (h : Reported w actions es w') : Run project w es w' := by
  induction h with
  | nil w => exact .nil w
  | cons _ hproject _ ih => exact .cons hproject ih

/-- What a report tells about a volume, the action ordered. -/
lemma Reports.tells_iff {kind : EvidenceKind} {order : ActionKind}
    (h : Reports a e) (honly : ∀ k : ActionKind, kind ∈ k.reports ↔ k = order)
    (hone : ∀ k ∈ order.reports, k = kind) (hvol : order.onVolume = true) :
    e.tells kind name ↔ a.orders order name := by
  constructor
  · rintro ⟨hk, rfl⟩
    have horder : a.kind = order := (honly _).mp (hk ▸ h.kind)
    refine ⟨horder, ?_⟩
    have hsubject := h.subject
    rwa [Action.subject, horder, if_pos hvol] at hsubject
  · rintro ⟨horder, hname⟩
    refine ⟨hone _ (horder ▸ h.kind), ?_⟩
    have hsubject := h.subject
    rw [Action.subject, horder, if_pos hvol, hname] at hsubject
    exact (Option.some.inj hsubject).symm

lemma Reports.tells_quiesced (h : Reports a e) :
    e.tells .volumeQuiesced name ↔ a.orders .quiesceVolume name :=
  h.tells_iff (fun k => by cases k <;> simp [ActionKind.reports])
    (fun _ hmem => List.mem_singleton.mp hmem) rfl

lemma Reports.tells_adopted (h : Reports a e) :
    e.tells .volumeAdopted name ↔ a.orders .adoptVolume name :=
  h.tells_iff (fun k => by cases k <;> simp [ActionKind.reports])
    (fun _ hmem => List.mem_singleton.mp hmem) rfl

lemma Reports.tells_attached (h : Reports a e) :
    e.tells .volumeAttached name ↔ a.orders .attachVolume name :=
  h.tells_iff (fun k => by cases k <;> simp [ActionKind.reports])
    (fun _ hmem => List.mem_singleton.mp hmem) rfl

/-- **Plan and world move the same volumes.** -/
lemma moving_lockstep (hsame : ∀ name, sim.moving name = w.moving name)
    (hvalid : validateAction host goal sim a = .ok ()) (hsim : simulateAction sim a = .ok sim₁)
    (hreport : Reports a e) (hproject : project w e = .ok w₁) (name : String) :
    sim₁.moving name = w₁.moving name := by
  rw [project_moving hproject]
  simp only [hreport.tells_quiesced, hreport.tells_adopted, ← hsame]
  by_cases hquiesce : a.kind = .quiesceVolume
  · simp only [validateAction, hquiesce] at hvalid
    rw [quiesce_moving hquiesce hvalid hsim]
    have hnot : ¬a.orders .adoptVolume name := by
      rintro ⟨hk, -⟩
      rw [hquiesce] at hk
      cases hk
    rw [if_neg hnot]
  · rw [if_neg fun horders => hquiesce horders.1]
    by_cases hadopt : a.kind = .adoptVolume
    · rw [adopt_moving hadopt hsim]
    · rw [if_neg fun horders => hadopt horders.1]
      exact simulate_keeps_moving hsim hquiesce hadopt

/-- The kernel attaches no volume that is being moved in its plan. -/
lemma validateAttach_still (hvalid : validateAction host goal sim a = .ok ())
    (horders : a.orders .attachVolume name) : sim.moving name = false := by
  obtain ⟨hk, hname⟩ := horders
  simp only [validateAction, hk, validateAttachVolume, volumeRef, existingVolume,
    existingAllocation, require_bind_ok, refuseIf_bind_ok] at hvalid
  obtain ⟨ref, href, _, -, -, v, hget, -, -, hmatch⟩ := hvalid
  rw [href] at hname
  cases hname
  rw [moving_of_get hget]
  cases hmove : v.handoff with
  | none => rfl
  | some move =>
    rw [hmove] at hmatch
    exact absurd hmatch fail_ne_ok

/-- No step of an accepted proposal attaches a volume that is being moved. -/
lemma Admitted.calm (h : Admitted host grants goal sim actions simEnd)
    (hsame : ∀ name, sim.moving name = w.moving name) (n : ℕ)
    (hexec : Reported w (actions.take n) es w') : Run.Throughout project Calm w es := by
  induction h generalizing w n es with
  | nil sim =>
    rw [List.take_nil] at hexec
    cases hexec
    exact Run.throughout_nil _ _
  | cons _ hvalid hsim _ ih =>
    cases n with
    | zero =>
      cases hexec
      exact Run.throughout_nil _ _
    | succ n =>
      cases hexec with
      | @cons _ w₁ _ a e _ es hreport hproject hrest =>
        refine Run.throughout_cons hproject ?_ (ih ?_ n hrest)
        · intro hk v hget
          have horders := hreport.tells_attached.mp ⟨hk, rfl⟩
          have hstill := validateAttach_still hvalid horders
          rw [hsame, moving_of_get hget] at hstill
          exact Option.not_isSome_iff_eq_none.mp (by rw [hstill]; simp)
        · exact moving_lockstep hsame hvalid hsim hreport hproject

/-- **No volume is attached while it is being moved.** -/
theorem Protocol.calm (h : Protocol k w es w') : Run.Throughout project Calm w es := by
  induction h with
  | nil w => exact Run.throughout_nil _ _
  | round host actor goal now p n haccepted hexec _ ih =>
    obtain ⟨-, sim, hadmitted⟩ := authorize_admitted haccepted
    exact Run.throughout_append hexec.run (hadmitted.calm (fun _ => rfl) n hexec) ih

/-- **The handoff protocol.** In a run under the kernel that begins with no volume being
moved, a volume changes its node only when its adoption is reported by the target that the
most recent quiesce named; since that quiesce a snapshot was reported and then a transfer
with the snapshot's checksum, and nobody owned the volume in any state from the quiesce up
to the adoption. -/
theorem handoff_protocol (hstart : AtRest w) (hrun : Protocol k w es w')
    {before after : List Evidence} (hsplit : es = before ++ e :: after) {t t' : World}
    (hbefore : Run project w before t) (hproject : project t e = .ok t')
    {name : String} {v v' : Volume} (hget : t.volumes[name]? = some v)
    (hget' : t'.volumes[name]? = some v') (hmoved : v'.node ≠ v.node) :
    e.tells .volumeAdopted name ∧ e.observe "node" = v'.node ∧
      ∃ earlier quiesce done snapshot between transfer rest,
        before = earlier ++ quiesce ::
          (done ++ snapshot :: (between ++ transfer :: rest)) ∧
        quiesce.tells .volumeQuiesced name ∧ quiesce.observe "to" = v'.node ∧
        (∀ x ∈ done ++ snapshot :: (between ++ transfer :: rest),
          ¬x.tells .volumeQuiesced name) ∧
        snapshot.tells .volumeSnapshotted name ∧ transfer.tells .volumeTransferred name ∧
        transfer.observe "checksum" = snapshot.observe "checksum" ∧
        (∀ since later u x, done ++ snapshot :: (between ++ transfer :: rest) = since ++ later →
          Run project w (earlier ++ quiesce :: since) u → u.volumes[name]? = some x →
          x.owner = "") := by
  have hcalm : Run.Throughout project Calm w before := by
    have hall := hrun.calm
    rw [hsplit] at hall
    exact hall.take
  obtain ⟨v₁, hget₁, hmoves⟩ := project_moves hproject hget
  cases hget₁.symm.trans hget'
  cases hmoves with
  | kept _ hnode => exact absurd hnode hmoved
  | quiesced _ _ hnow => exact absurd (by rw [hnow]) hmoved
  | snapshotted _ _ _ _ hnode => exact absurd hnode hmoved
  | transferred _ _ _ _ _ hnow => exact absurd (by rw [hnow]) hmoved
  | adopted move hk hmove hwas hthere hnow =>
    obtain ⟨-, earlier, quiesce, since, hsince, hcopied⟩ :=
      Trailed.run hbefore hcalm hstart name v move hget hmove
    rw [hwas] at hcopied
    obtain ⟨done, snapshot, between, transfer, rest, hparts, hs, hsum, ht, htsum⟩ := hcopied
    subst hparts
    have hnode : v'.node = move.to_ := by rw [hnow]
    rw [hnode]
    exact ⟨hk, hthere, earlier, quiesce, done, snapshot, between, transfer, rest, hsince.split,
      hsince.quiesced, hsince.target, hsince.last, hs, ht, htsum.trans hsum.symm,
      hsince.unowned⟩

end Kernel

/-! ### A volume moves -/

namespace Handoff

def goal : Goal := { id := "files", workload := { name := "files" } }

/-- A volume on the first of two nodes, and the approval to move it. -/
def world : World :=
  { nodes := Table.ofEntries [("n1", { id := "n1", healthy := true }),
      ("n2", { id := "n2", healthy := true })]
    volumes := Table.ofEntries [("data", { name := "data", node := "n1" })]
    approvals := Table.ofEntries
      [("move", { id := "move", goalID := "files", scope := "move-volume", granted := true })] }

def order (kind : ActionKind) : Action :=
  { id := "step", kind := kind, node := "n2", volume := some { name := "data" } }

def proposal (w : World) (kind : ActionKind) : Proposal :=
  { id := "move", agentID := "storage-agent", goalID := "files", basedOnRevision := w.revision,
    actions := [order kind] }

def quiesce : Evidence :=
  { kind := .volumeQuiesced, target := "data", observed := Table.ofEntries [("to", "n2")] }

def snapshot : Evidence :=
  { kind := .volumeSnapshotted, target := "data"
    observed := Table.ofEntries [("snapshot", "data-simulated"), ("checksum", "simulated")] }

def transfer : Evidence :=
  { kind := .volumeTransferred, target := "data"
    observed := Table.ofEntries [("node", "n2"), ("checksum", "simulated")] }

def adopt : Evidence :=
  { kind := .volumeAdopted, target := "data", observed := Table.ofEntries [("node", "n2")] }

def after (w : World) (e : Evidence) : World := (project w e).toOption.getD {}

def quiesced : World := after world quiesce

def snapshotted : World := after quiesced snapshot

def transferred : World := after snapshotted transfer

def adopted : World := after transferred adopt

/-- The volume before it is adopted. -/
def moving : Volume :=
  { name := "data", node := "n1", lastSnapshot := "data-simulated"
    snapshots := Table.ofEntries [("data-simulated", "simulated")]
    snapshotOrder := ["data-simulated"]
    handoff := some { from_ := "n1", to_ := "n2", phase := .transferred
                      snapshot := "data-simulated", checksum := "simulated" } }

def moved : Volume := { moving with node := "n2", generation := 1, handoff := none }

/-- One order, accepted by the kernel and carried out by the in-memory data plane. -/
lemma round {w w' w'' : World} (kind : ActionKind) {e : Evidence} {es : List Evidence}
    (hauth : authorize quietHost ⟨defaultPolicy⟩ { id := "storage-agent" } goal
      { w with observedAt := 0 } (proposal w kind) = .ok ())
    (hexec : MemoryExecutor.execute quietHost w (order kind) = .ok e)
    (hproject : project w e = .ok w') (hrest : Protocol ⟨defaultPolicy⟩ w' es w'') :
    Protocol ⟨defaultPolicy⟩ w (e :: es) w'' :=
  .round quietHost { id := "storage-agent" } goal 0 (proposal w kind) 1 hauth
    (.cons (memoryExecutor_reports hexec) hproject (.nil w')) hrest

lemma quiesced_eq : project world quiesce = .ok quiesced := by decide

lemma snapshotted_eq : project quiesced snapshot = .ok snapshotted := by decide

lemma transferred_eq : project snapshotted transfer = .ok transferred := by decide

lemma adopted_eq : project transferred adopt = .ok adopted := by decide

lemma protocol :
    Protocol ⟨defaultPolicy⟩ world [quiesce, snapshot, transfer, adopt] adopted := by
  refine round .quiesceVolume (by decide) (by decide) quiesced_eq ?_
  refine round .snapshotVolume (by decide) (by decide) snapshotted_eq ?_
  refine round .transferVolume (by decide) (by decide) transferred_eq ?_
  exact round .adoptVolume (by decide) (by decide) adopted_eq (.nil _)

lemma atRest : AtRest world := by
  intro name v hget
  rw [world, get_ofEntries_cons] at hget
  split_ifs at hget
  · cases hget
    rfl
  · cases hget

end Handoff

/-- The adoption at the end of a complete move. -/
theorem handoff_protocol_complete :
    Handoff.adopt.tells .volumeAdopted "data" ∧ Handoff.adopt.observe "node" = "n2" ∧
      ∃ earlier quiesce done snapshot between transfer rest,
        [Handoff.quiesce, Handoff.snapshot, Handoff.transfer] = earlier ++ quiesce ::
          (done ++ snapshot :: (between ++ transfer :: rest)) ∧
        quiesce.tells .volumeQuiesced "data" ∧ quiesce.observe "to" = "n2" ∧
        (∀ x ∈ done ++ snapshot :: (between ++ transfer :: rest),
          ¬x.tells .volumeQuiesced "data") ∧
        snapshot.tells .volumeSnapshotted "data" ∧ transfer.tells .volumeTransferred "data" ∧
        transfer.observe "checksum" = snapshot.observe "checksum" ∧
        (∀ since later u x, done ++ snapshot :: (between ++ transfer :: rest) = since ++ later →
          Run project Handoff.world (earlier ++ quiesce :: since) u →
          u.volumes["data"]? = some x → x.owner = "") := by
  have hbefore : Handoff.transferred.volumes["data"]? = some Handoff.moving := by decide
  have hafter : Handoff.adopted.volumes["data"]? = some Handoff.moved := by decide
  exact handoff_protocol Handoff.atRest Handoff.protocol rfl
    (.cons Handoff.quiesced_eq (.cons Handoff.snapshotted_eq
      (.cons Handoff.transferred_eq (.nil _)))) Handoff.adopted_eq hbefore hafter (by decide)

end A4s
