/-
The shape of placement proposals (`PlacementAgent.Propose` of `control/agents.go`,
`Kernel.Authorize` of `control/policy.go`).

The kernel refuses a proposal with too many actions, with an action name that occurs twice, and
with a dependency that is not an earlier action, whatever the actions do. How many actions the
placement agent proposes, and what they are called, depends on what the goal declares.

* `WellShaped`: none of these checks refuses the proposal.
* `vacant`, `homes`: the replicas that are placed, and where; `propose_homes` is the loop of the
  agent.
* `perReplica`: what a replica costs in actions.
* `Label`: the names of the actions, of which `Label.text` is injective up to one exception.
* `placement_shape_iff`: **when a placement proposal is well shaped.**
-/
import A4s.Control.Admission
import A4s.Control.Placement

namespace A4s

open Go

/-! ### The checks of the kernel -/

/-- Dependencies name earlier actions; those of `completed` came before. -/
def Grounded : List String → List Action → Prop
  | _, [] => True
  | completed, a :: rest => (∀ d ∈ a.dependsOn, d ∈ completed) ∧ Grounded (a.id :: completed) rest

/-- The walk of the kernel over the actions, without a look at names and dependencies. -/
def walkActions (host : Host) (agentID : String) (grants : Grants) (goal : Goal) :
    World → List Action → Result World
  | sim, [] => .ok sim
  | sim, a :: rest => do
      refuseIf (grants.lookup a.kind ≠ some true)
        s!"agent {quote agentID} is not granted {a.kind.text}"
      wrapError s!"action {quote a.id}: " (validateAction host goal sim a)
      let sim ← wrapError s!"simulate action {quote a.id}: " (simulateAction sim a)
      walkActions host agentID grants goal sim rest

/-- `Kernel.Authorize` without the checks of the shape. -/
def authorizeContents (host : Host) (k : Kernel) (actor : AgentDescriptor) (goal : Goal) (w : World)
    (p : Proposal) : Result Unit := do
  refuseIf (p.agentID ≠ actor.id)
    s!"proposal agent {quote p.agentID} does not match authenticated actor {quote actor.id}"
  refuseIf (p.agentID = "" ∨ p.goalID ≠ goal.id) "proposal identity does not match goal"
  refuseIf (p.basedOnRevision ≠ w.revision)
    s!"stale proposal: based on revision {p.basedOnRevision}, current revision is {w.revision}"
  refuseIf (p.actions = []) "proposal contains no actions"
  let grants := k.policy.grants[p.agentID]?.getD []
  refuseIf (grants = []) s!"agent {quote p.agentID} has no capability grants"
  let _ ← walkActions host p.agentID grants goal w p.actions
  requireEvidenceChecks goal p
  checkDisruptionBudget host k w p
  checkBackoff host w p
  checkImageProvenance host k goal w p
  checkClusterBudget k w p

/-- A proposal that the kernel, with the default policy, does not refuse for its shape. -/
structure WellShaped (p : Proposal) : Prop where
  few : (p.actions.length : ℤ) ≤ defaultPolicy.maxActionsPerProposal.toInt
  distinct : (p.actions.map (·.id)).Nodup
  grounded : Grounded [] p.actions
  passes : ∀ host actor goal w, authorize host ⟨defaultPolicy⟩ actor goal w p =
    authorizeContents host ⟨defaultPolicy⟩ actor goal w p

section Shape

variable {completed completed' : List String} {actions actions' : List Action} {p : Proposal}

lemma Grounded.mono (h : Grounded completed actions) (hsub : completed ⊆ completed') :
    Grounded completed' actions := by
  induction actions generalizing completed completed' with
  | nil => trivial
  | cons a rest ih =>
    exact ⟨fun d hd => hsub (h.1 d hd), ih h.2 (List.cons_subset_cons _ hsub)⟩

/-- What comes second may depend on what came first. -/
lemma Grounded.append (h : Grounded completed actions)
    (h' : Grounded (actions.map (·.id) ++ completed) actions') :
    Grounded completed (actions ++ actions') := by
  induction actions generalizing completed with
  | nil => exact h'
  | cons a rest ih =>
    refine ⟨h.1, ih h.2 (h'.mono fun d hd => ?_)⟩
    simp only [List.map_cons, List.cons_append, List.mem_cons, List.mem_append] at hd ⊢
    tauto

/-- Actions that depend only on what came before all of them. -/
lemma Grounded.of_completed (h : ∀ a ∈ actions, a.dependsOn ⊆ completed) :
    Grounded completed actions := by
  induction actions generalizing completed with
  | nil => trivial
  | cons a rest ih =>
    refine ⟨h a List.mem_cons_self, ih fun b hb => ?_⟩
    exact fun d hd => List.mem_cons_of_mem _ (h b (List.mem_cons_of_mem _ hb) hd)

/-- Names and dependencies in order do not show in the walk. -/
lemma authorizeActions_eq_walk {host : Host} {agentID : String} {grants : Grants} {goal : Goal}
    {sim : World} (hnamed : ∀ a ∈ actions, a.id ≠ "") (hnew : ∀ a ∈ actions, a.id ∉ completed)
    (hdistinct : (actions.map (·.id)).Nodup) (hgrounded : Grounded completed actions) :
    authorizeActions host agentID grants goal sim completed actions =
      walkActions host agentID grants goal sim actions := by
  induction actions generalizing sim completed with
  | nil => rfl
  | cons a rest ih =>
    obtain ⟨hfirst, hdistinct⟩ := List.nodup_cons.mp hdistinct
    have hrest (sim : World) : authorizeActions host agentID grants goal sim (a.id :: completed)
        rest = walkActions host agentID grants goal sim rest := by
      refine ih (fun b hb => hnamed b (List.mem_cons_of_mem _ hb)) (fun b hb => ?_) hdistinct
        hgrounded.2
      rw [List.mem_cons, not_or]
      refine ⟨fun hsame => hfirst ?_, hnew b (List.mem_cons_of_mem _ hb)⟩
      exact List.mem_map.mpr ⟨b, hb, hsame⟩
    have hname : refuseIf (a.id = "" ∨ a.id ∈ completed)
        "action ids must be non-empty and unique" = .ok () :=
      refuseIf_ok.mpr (not_or.mpr ⟨hnamed a List.mem_cons_self, hnew a List.mem_cons_self⟩)
    have hdepends : (a.dependsOn.forM fun dependency => refuseIf (dependency ∉ completed)
        s!"action {quote a.id} has unsatisfied dependency {quote dependency}") = .ok () := by
      refine forM_ok.mpr fun d hd => refuseIf_ok.mpr ?_
      exact not_not.mpr (hgrounded.1 d hd)
    rw [authorizeActions, walkActions, hname, hdepends]
    simp only [hrest]
    rfl

/-- The checks of the shape pass. -/
lemma WellShaped.of_checks (hnamed : ∀ a ∈ p.actions, a.id ≠ "")
    (hfew : (p.actions.length : ℤ) ≤ defaultPolicy.maxActionsPerProposal.toInt)
    (hdistinct : (p.actions.map (·.id)).Nodup) (hgrounded : Grounded [] p.actions) :
    WellShaped p := by
  refine ⟨hfew, hdistinct, hgrounded, fun host actor goal w => ?_⟩
  have hlimit : refuseIf (defaultPolicy.maxActionsPerProposal.toInt < p.actions.length)
      s!"proposal exceeds {sprintInt defaultPolicy.maxActionsPerProposal} action limit" = .ok () :=
    refuseIf_ok.mpr (not_lt.mpr hfew)
  have hwalk (grants : Grants) : authorizeActions host p.agentID grants goal w [] p.actions =
      walkActions host p.agentID grants goal w p.actions :=
    authorizeActions_eq_walk hnamed (fun _ _ => List.not_mem_nil) hdistinct hgrounded
  simp only [authorize, authorizeContents, hlimit, hwalk]
  rfl

end Shape

namespace PlacementAgent

variable {host : Host} {goal : Goal} {w : World} {node : Node} {id : String} {replica : Int64}

/-! ### Dependencies -/

/-- A volume is attached after its creation. -/
lemma volumeActions_grounded {completed : List String} (hcreated : "create-" ++ id ∈ completed)
    (ref : VolumeRef) : Grounded completed (volumeActions goal w node id ref) := by
  unfold volumeActions
  dsimp only
  cases w.volumes[ref.name]? with
  | some volume => exact ⟨List.forall_mem_singleton.mpr hcreated, trivial⟩
  | none =>
    refine ⟨fun _ hd => absurd hd List.not_mem_nil, fun d hd => ?_, trivial⟩
    rcases List.mem_pair.mp hd with rfl | rfl
    · exact List.mem_cons_of_mem _ hcreated
    · exact List.mem_cons_self

lemma volumes_grounded {completed : List String} (hcreated : "create-" ++ id ∈ completed)
    (refs : List VolumeRef) :
    Grounded completed (refs.flatMap (volumeActions goal w node id)) := by
  induction refs generalizing completed with
  | nil => trivial
  | cons ref refs ih =>
    rw [List.flatMap_cons]
    exact (volumeActions_grounded hcreated ref).append (ih (List.mem_append_right _ hcreated))

/-- What is prepared depends on the creation, and volumes on theirs. -/
lemma preparation_grounded {completed : List String} (hcreated : "create-" ++ id ∈ completed) :
    Grounded completed (preparation goal w node id) := by
  have honly {completed : List String} (hcreated : "create-" ++ id ∈ completed)
      {actions : List Action} (h : ∀ a ∈ actions, a.dependsOn = ["create-" ++ id]) :
      Grounded completed actions := by
    refine Grounded.of_completed fun a ha => ?_
    rw [h a ha]
    exact List.forall_mem_singleton.mpr hcreated
  have hgrants : ∀ a ∈ grantActions goal node id, a.dependsOn = ["create-" ++ id] := by
    unfold grantActions
    cases goal.workload.runtime with
    | none => exact fun _ ha => absurd ha List.not_mem_nil
    | some runtime =>
      dsimp only
      split_ifs
      · exact fun _ ha => absurd ha List.not_mem_nil
      · exact List.forall_mem_singleton.mpr rfl
  have hsecrets : ∀ a ∈ goal.workload.secrets.map (secretAction goal node id),
      a.dependsOn = ["create-" ++ id] := by
    intro a ha
    obtain ⟨ref, -, rfl⟩ := List.mem_map.mp ha
    rfl
  have hnetwork : ∀ a ∈ networkActions goal node id, a.dependsOn = ["create-" ++ id] := by
    unfold networkActions
    split_ifs
    · exact fun _ ha => absurd ha List.not_mem_nil
    · exact List.forall_mem_singleton.mpr rfl
  refine Grounded.append (Grounded.append (Grounded.append (honly hcreated hgrants) ?_) ?_) ?_
  · exact volumes_grounded (List.mem_append_right _ hcreated) _
  · exact honly (List.mem_append_right _ hcreated) hsecrets
  · exact honly (List.mem_append_right _ hcreated) hnetwork

lemma blockActions_grounded (completed : List String) :
    Grounded completed (blockActions goal w node replica) := by
  have hpulls : Grounded completed (pullActions goal node (allocationID goal.workload.name
      replica)) := by
    unfold pullActions
    split_ifs
    · trivial
    · exact ⟨fun _ hd => absurd hd List.not_mem_nil, trivial⟩
  refine hpulls.append ⟨fun d hd => List.mem_append_left _ hd, ?_⟩
  refine Grounded.append (preparation_grounded List.mem_cons_self) ⟨fun d hd => ?_, trivial⟩
  rcases List.mem_cons.mp hd with rfl | hd
  · exact List.mem_append_right _ List.mem_cons_self
  · obtain ⟨a, ha, rfl⟩ := List.mem_map.mp hd
    exact List.mem_append_left _ (List.mem_map_of_mem (List.mem_of_mem_filter ha))

lemma blocksActions_grounded (blocks : List (Node × Int64)) (completed : List String) :
    Grounded completed (blocksActions goal w blocks) := by
  induction blocks generalizing completed with
  | nil => trivial
  | cons block rest ih => exact (blockActions_grounded completed).append (ih _)

/-! ### The replicas that are placed -/

/-- Indices that no live allocation of the goal's own version holds, from `first` on. -/
def vacantFrom (goal : Goal) (w : World) (first count : ℕ) : List Int64 :=
  ((List.range' first count).map Int64.ofNat).filter (· ∉ existingReplicas goal w)

/-- The replicas of a proposal: the first indices below the desired number that are vacant. -/
def vacant (host : Host) (goal : Goal) (w : World) : List Int64 :=
  (vacantFrom goal w 0 (desiredReplicas host goal w
    (Int64.ofNat (existingReplicas goal w).length)).toNatClampNeg).take maxReplicasPerProposal

/-- The nodes that are chosen for replicas, one after the other. -/
def homes (host : Host) (goal : Goal) (w : World) : List Int64 → Batch → Result (List Node)
  | [], _ => .ok []
  | replica :: rest, b => do
      let node ← chooseNode host goal w b
      let nodes ← homes host goal w rest (b.place goal w node replica)
      return node :: nodes

/-- The batch a proposal starts with. -/
def Batch.empty (goal : Goal) (w : World) : Batch :=
  { occupancy := domainOccupancy w goal.workload.name }

lemma vacantFrom_succ (first count : ℕ) : vacantFrom goal w first (count + 1) =
    if Int64.ofNat first ∈ existingReplicas goal w then vacantFrom goal w (first + 1) count
    else Int64.ofNat first :: vacantFrom goal w (first + 1) count := by
  rw [vacantFrom, List.range'_succ, List.map_cons, List.filter_cons]
  split_ifs <;> simp_all [vacantFrom]

/-- **The loop of the agent** places the vacant replicas at their homes. -/
lemma placeReplicas_homes {count first : ℕ} {b b' : Batch}
    (hroom : b.placed < maxReplicasPerProposal)
    (h : placeReplicas host goal w count (Int64.ofNat first) b = .ok b') :
    ∃ nodes, homes host goal w ((vacantFrom goal w first count).take
        (maxReplicasPerProposal - b.placed)) b = .ok nodes ∧
      b'.actions = b.actions ++ blocksActions goal w (nodes.zip
        ((vacantFrom goal w first count).take (maxReplicasPerProposal - b.placed))) := by
  induction count generalizing first b with
  | zero =>
    cases h
    refine ⟨[], ?_, ?_⟩
    · rw [vacantFrom, List.range'_zero, List.map_nil, List.filter_nil, List.take_nil]
      rfl
    · simp [blocksActions]
  | succ count ih =>
    have hnext : Int64.ofNat first + 1 = Int64.ofNat (first + 1) := (Int64.ofNat_add _ _).symm
    rw [placeReplicas, hnext] at h
    rw [vacantFrom_succ]
    split_ifs at h ⊢ with hheld
    · exact ih hroom h
    · obtain ⟨node, hnode, h⟩ := bind_ok.mp h
      have htake : maxReplicasPerProposal - b.placed =
          maxReplicasPerProposal - (b.placed + 1) + 1 := by omega
      rw [htake, List.take_succ_cons, homes, hnode]
      dsimp only at h
      split_ifs at h with hfull
      · cases h
        have hnone : maxReplicasPerProposal - (b.placed + 1) = 0 := Nat.sub_eq_zero_of_le hfull
        rw [hnone, List.take_zero]
        exact ⟨[node], rfl, by simp [blocksActions, Batch.place]⟩
      · obtain ⟨nodes, hnodes, hactions⟩ := ih (not_le.mp hfull) h
        have hplaced : (b.place goal w node (Int64.ofNat first)).placed = b.placed + 1 := rfl
        rw [hplaced] at hnodes hactions
        refine ⟨node :: nodes, ?_, ?_⟩
        · exact bind_ok.mpr ⟨node, rfl, bind_ok.mpr ⟨nodes, hnodes, rfl⟩⟩
        · rw [hactions]
          simp [blocksActions, Batch.place]

lemma length_homes {replicas : List Int64} {b : Batch} {nodes : List Node}
    (h : homes host goal w replicas b = .ok nodes) : nodes.length = replicas.length := by
  induction replicas generalizing b nodes with
  | nil =>
    cases h
    rfl
  | cons replica rest ih =>
    obtain ⟨node, -, h⟩ := bind_ok.mp h
    obtain ⟨others, hothers, h⟩ := bind_ok.mp h
    cases h
    exact congrArg Nat.succ (ih hothers)

/-- **A proposal places the vacant replicas at their homes.** -/
lemma propose_homes {p : Proposal} (h : propose host goal w = .ok p) :
    ∃ nodes, homes host goal w (vacant host goal w) (Batch.empty goal w) = .ok nodes ∧
      p.actions = blocksActions goal w (nodes.zip (vacant host goal w)) := by
  obtain ⟨b, hb, h⟩ := bind_ok.mp h
  cases h
  have hstart : placeReplicas host goal w _ (Int64.ofNat 0) (Batch.empty goal w) = .ok b := hb
  exact placeReplicas_homes Nat.two_pos hstart

/-! ### The names of the actions -/

/-- What is done for a replica. -/
inductive Part
  | pull
  | create
  | grant
  | attachVolume (volume : String)
  | mount (secret : String)
  | network
  | start
  deriving DecidableEq

def Part.stem : Part → String
  | .pull => "pull-"
  | .create => "create-"
  | .grant => "grant-tools-"
  | .attachVolume volume => "attach-volume-" ++ volume ++ "-"
  | .mount secret => "mount-" ++ secret ++ "-"
  | .network => "attach-"
  | .start => "start-"

/-- What an action is called after: a part of a replica, or a volume. -/
inductive Label
  | part (p : Part) (replica : Int64)
  | newVolume (name : String)
  deriving DecidableEq

namespace Label

variable {workload : String} {replica replica' : Int64} {l l' : Label}

/-- The name of an action. -/
def text (workload : String) : Label → String
  | .part p replica => p.stem ++ allocationID workload replica
  | .newVolume name => "create-volume-" ++ name

/-- Where an action stands in the block of its replica. -/
def rank : Label → ℕ
  | .part .pull _ => 0
  | .part .create _ => 1
  | .part .grant _ => 2
  | .newVolume _ | .part (.attachVolume _) _ => 3
  | .part (.mount _) _ => 4
  | .part .network _ => 5
  | .part .start _ => 6

/-- Replicas are counted from zero. -/
def Indexed : Label → Prop
  | .part _ replica => 0 ≤ replica.toInt
  | .newVolume _ => True

lemma stem_inj {p p' : Part} (h : p.stem = p'.stem) : p = p' := by
  have hlists := congrArg String.toList h
  cases p <;> cases p' <;> simp [Part.stem, String.toList_append] at hlists ⊢
  all_goals exact String.toList_inj.mp hlists

/-- What stands before the number of an allocation, and the number, can be read off. -/
lemma allocationID_inj {xs ys : List Char} (h : 0 ≤ replica.toInt) (h' : 0 ≤ replica'.toInt)
    (heq : xs ++ (allocationID workload replica).toList =
      ys ++ (allocationID workload replica').toList) : xs = ys ∧ replica = replica' := by
  have hsplit (xs : List Char) (replica : Int64) :
      xs ++ (allocationID workload replica).toList =
        (xs ++ workload.toList) ++ '-' :: (sprintInt replica).toList := by
    rw [allocationID, String.toList_append, String.toList_append]
    simp
  rw [hsplit, hsplit] at heq
  obtain ⟨hfront, hnumber⟩ :=
    append_sep_inj (dash_not_mem_toString h) (dash_not_mem_toString h') heq
  refine ⟨List.append_cancel_right hfront, ?_⟩
  have hscan : sscanInt (sprintInt replica) = sscanInt (sprintInt replica') :=
    congrArg sscanInt (String.toList_inj.mp hnumber)
  rw [sscanInt_sprintInt, sscanInt_sprintInt] at hscan
  exact Option.some.inj hscan

lemma part_text_inj {p p' : Part} (h : 0 ≤ replica.toInt) (h' : 0 ≤ replica'.toInt)
    (heq : (part p replica).text workload = (part p' replica').text workload) :
    part p replica = part p' replica' := by
  have hlists := congrArg String.toList heq
  rw [text, text, String.toList_append, String.toList_append] at hlists
  obtain ⟨hstem, rfl⟩ := allocationID_inj h h' hlists
  rw [stem_inj (String.toList_inj.mp hstem)]

/-- The exception: the creation of a volume may be called like that of an allocation. -/
lemma part_text_eq_newVolume {p : Part} {name : String} :
    (part p replica).text workload = (newVolume name).text workload ↔
      p = .create ∧ allocationID workload replica = "volume-" ++ name := by
  constructor
  · intro h
    have hlists := congrArg String.toList h
    cases p <;> simp [text, Part.stem, String.toList_append] at hlists
    refine ⟨rfl, String.toList_inj.mp ?_⟩
    rw [hlists, String.toList_append]
    rfl
  · rintro ⟨rfl, h⟩
    rw [text, text, h, Part.stem, ← String.append_assoc]
    rfl

/-- **Names are distinct** if what they are called after is, and no volume is called after an
allocation. -/
lemma nodup_text {labels : List Label} (hindexed : ∀ l ∈ labels, l.Indexed) :
    (labels.map (text workload)).Nodup ↔ labels.Nodup ∧ ∀ replica name,
      part .create replica ∈ labels → newVolume name ∈ labels →
        allocationID workload replica ≠ "volume-" ++ name := by
  constructor
  · intro h
    refine ⟨h.of_map, fun replica name hcreate hvolume heq => ?_⟩
    have hsame := List.inj_on_of_nodup_map h hcreate hvolume
      (part_text_eq_newVolume.mpr ⟨rfl, heq⟩)
    cases hsame
  · rintro ⟨hnodup, hclear⟩
    refine hnodup.map_on fun l hl l' hl' heq => ?_
    cases l with
    | part p replica =>
      cases l' with
      | part p' replica' => exact part_text_inj (hindexed _ hl) (hindexed _ hl') heq
      | newVolume name =>
        obtain ⟨rfl, hcalled⟩ := part_text_eq_newVolume.mp heq
        exact absurd hcalled (hclear _ _ hl hl')
    | newVolume name =>
      cases l' with
      | part p' replica' =>
        obtain ⟨rfl, hcalled⟩ := part_text_eq_newVolume.mp heq.symm
        exact absurd hcalled (hclear _ _ hl' hl)
      | newVolume name' =>
        have hlists := congrArg String.toList heq
        simp only [text, String.toList_append] at hlists
        rw [String.toList_inj.mp (List.append_cancel_left hlists)]

end Label

/-! ### The names of a proposal -/

/-- What the actions for a volume are called after. -/
def volumeLabels (w : World) (replica : Int64) (ref : VolumeRef) : List Label :=
  match w.volumes[ref.name]? with
  | some _ => [.part (.attachVolume ref.name) replica]
  | none => [.newVolume ref.name, .part (.attachVolume ref.name) replica]

/-- What the actions of a replica are called after. -/
def blockLabels (goal : Goal) (w : World) (node : Node) (replica : Int64) : List Label :=
  (if node.hasImage goal.workload.image then [] else [.part .pull replica]) ++
    (.part .create replica ::
      ((if (goal.workload.runtime.map (·.tools)).getD [] = [] then []
          else [.part .grant replica]) ++
        (goal.workload.volumes.flatMap (volumeLabels w replica) ++
          (goal.workload.secrets.map (fun ref => .part (.mount ref.name) replica) ++
            ((if goal.workload.port ≤ 0 then [] else [.part .network replica]) ++
              [.part .start replica])))))

lemma blockActions_ids : (blockActions goal w node replica).map (·.id) =
    (blockLabels goal w node replica).map (Label.text goal.workload.name) := by
  have hvolumes (ref : VolumeRef) :
      (volumeActions goal w node (allocationID goal.workload.name replica) ref).map (·.id) =
        (volumeLabels w replica ref).map (Label.text goal.workload.name) := by
    unfold volumeActions volumeLabels
    cases w.volumes[ref.name]? <;> rfl
  have hgrants : (grantActions goal node (allocationID goal.workload.name replica)).map (·.id) =
      (if (goal.workload.runtime.map (·.tools)).getD [] = [] then []
        else [Label.part .grant replica]).map (Label.text goal.workload.name) := by
    unfold grantActions
    cases goal.workload.runtime with
    | none => rfl
    | some runtime =>
      dsimp only [Option.map_some, Option.getD_some]
      split_ifs <;> rfl
  have hpulls : (pullActions goal node (allocationID goal.workload.name replica)).map (·.id) =
      (if node.hasImage goal.workload.image then [] else [Label.part .pull replica]).map
        (Label.text goal.workload.name) := by
    unfold pullActions
    split_ifs <;> rfl
  have hnetwork : (networkActions goal node (allocationID goal.workload.name replica)).map
      (·.id) = (if goal.workload.port ≤ 0 then [] else [Label.part .network replica]).map
        (Label.text goal.workload.name) := by
    unfold networkActions
    split_ifs <;> rfl
  simp only [blockActions, blockLabels, preparation, List.map_append, List.map_cons,
    List.map_flatMap, List.map_map, hvolumes, hgrants, hpulls, hnetwork, List.append_assoc]
  rfl

/-! ### How many actions -/

/-- The actions of one replica, apart from the pull of its image. -/
def perReplica (goal : Goal) (w : World) : ℕ :=
  2 + (if (goal.workload.runtime.map (·.tools)).getD [] = [] then 0 else 1) +
    (goal.workload.volumes.map fun ref => if w.volumes[ref.name]?.isSome then 1 else 2).sum +
    goal.workload.secrets.length + (if goal.workload.port ≤ 0 then 0 else 1)

lemma length_blockActions : (blockActions goal w node replica).length =
    (if node.hasImage goal.workload.image then 0 else 1) + perReplica goal w := by
  have hvolumes (ref : VolumeRef) : (volumeLabels w replica ref).length =
      if w.volumes[ref.name]?.isSome then 1 else 2 := by
    unfold volumeLabels
    cases w.volumes[ref.name]? <;> rfl
  rw [← List.length_map fun a : Action => a.id, blockActions_ids, List.length_map]
  simp only [blockLabels, List.length_append, List.length_cons, List.length_nil,
    List.length_flatMap, List.length_map, hvolumes, apply_ite List.length, zero_add, perReplica]
  omega

/-- The images that have to be pulled. -/
def pulls (goal : Goal) (nodes : List Node) : ℕ :=
  nodes.countP fun node => !node.hasImage goal.workload.image

lemma length_blocksActions {nodes : List Node} {replicas : List Int64}
    (h : nodes.length = replicas.length) :
    (blocksActions goal w (nodes.zip replicas)).length =
      pulls goal nodes + replicas.length * perReplica goal w := by
  induction nodes generalizing replicas with
  | nil =>
    cases replicas with
    | nil => simp [blocksActions, pulls]
    | cons replica rest => cases h
  | cons node nodes ih =>
    cases replicas with
    | nil => cases h
    | cons replica rest =>
      have hrest := ih (Nat.succ.inj h)
      simp only [blocksActions] at hrest
      rw [List.zip_cons_cons, blocksActions, List.flatMap_cons, List.length_append, hrest,
        length_blockActions, pulls, pulls, List.countP_cons, List.length_cons, Nat.succ_mul]
      cases node.hasImage goal.workload.image <;> simp <;> omega

/-! ### Distinct names -/

lemma mem_volumeLabels {l : Label} {ref : VolumeRef} : l ∈ volumeLabels w replica ref ↔
    (w.volumes[ref.name]? = none ∧ l = .newVolume ref.name) ∨
      l = .part (.attachVolume ref.name) replica := by
  unfold volumeLabels
  cases w.volumes[ref.name]? with
  | some volume => simp
  | none => simp

lemma mem_unless {α : Type} {c : Prop} [Decidable c] {x y : α} :
    x ∈ (if c then [] else [y]) ↔ ¬c ∧ x = y := by
  split_ifs with hc
  · simp [hc]
  · simp [hc]

/-- A label of a block is of its replica, or a volume that is created. -/
lemma mem_blockLabels {l : Label} (h : l ∈ blockLabels goal w node replica) :
    (∃ p, l = .part p replica) ∨ ∃ ref ∈ goal.workload.volumes, w.volumes[ref.name]? = none ∧
      l = .newVolume ref.name := by
  simp only [blockLabels, List.mem_append, List.mem_cons, List.mem_flatMap, List.mem_map,
    mem_unless, mem_volumeLabels, List.not_mem_nil, or_false] at h
  rcases h with ⟨-, rfl⟩ | rfl | ⟨-, rfl⟩ | ⟨ref, href, hlabel⟩ | ⟨ref, -, rfl⟩ | ⟨-, rfl⟩ | rfl
  · exact .inl ⟨_, rfl⟩
  · exact .inl ⟨_, rfl⟩
  · exact .inl ⟨_, rfl⟩
  · rcases hlabel with ⟨hnew, rfl⟩ | rfl
    · exact .inr ⟨ref, href, hnew, rfl⟩
    · exact .inl ⟨_, rfl⟩
  · exact .inl ⟨_, rfl⟩
  · exact .inl ⟨_, rfl⟩
  · exact .inl ⟨_, rfl⟩

lemma newVolume_mem_blockLabels {ref : VolumeRef} (href : ref ∈ goal.workload.volumes)
    (hnew : w.volumes[ref.name]? = none) :
    .newVolume ref.name ∈ blockLabels goal w node replica := by
  simp only [blockLabels, List.mem_append, List.mem_cons, List.mem_flatMap]
  exact .inr (.inr (.inr (.inl ⟨ref, href, mem_volumeLabels.mpr (.inl ⟨hnew, rfl⟩)⟩)))

lemma create_mem_blockLabels : .part .create replica ∈ blockLabels goal w node replica :=
  List.mem_append_right _ List.mem_cons_self

lemma nodup_volumeLabels (w : World) (replica : Int64) {refs : List VolumeRef}
    (h : (refs.map (·.name)).Nodup) : (refs.flatMap (volumeLabels w replica)).Nodup := by
  induction refs with
  | nil => exact List.nodup_nil
  | cons ref refs ih =>
    obtain ⟨hfirst, hrest⟩ := List.nodup_cons.mp h
    rw [List.flatMap_cons]
    refine List.nodup_append.mpr ⟨?_, ih hrest, ?_⟩
    · unfold volumeLabels
      cases w.volumes[ref.name]? <;> simp
    · rintro l hl l' hl' rfl
      obtain ⟨other, hother, hl'⟩ := List.mem_flatMap.mp hl'
      refine hfirst (List.mem_map.mpr ⟨other, hother, ?_⟩)
      rcases mem_volumeLabels.mp hl with ⟨-, rfl⟩ | rfl
      · rcases mem_volumeLabels.mp hl' with ⟨-, hsame⟩ | hsame
        · exact (Label.newVolume.inj hsame).symm
        · cases hsame
      · rcases mem_volumeLabels.mp hl' with ⟨-, hsame⟩ | hsame
        · cases hsame
        · exact (Part.attachVolume.inj (Label.part.inj hsame).1).symm

/-- Distinct labels of a rank or more. -/
def Ranked (k : ℕ) (labels : List Label) : Prop := labels.Nodup ∧ ∀ l ∈ labels, k ≤ l.rank

/-- A piece of one rank, and what follows on it. -/
lemma Ranked.append {xs ys : List Label} {k : ℕ} (hys : Ranked (k + 1) ys) (hxs : xs.Nodup)
    (hrank : ∀ l ∈ xs, l.rank = k) : Ranked k (xs ++ ys) := by
  refine ⟨List.nodup_append.mpr ⟨hxs, hys.1, ?_⟩, List.forall_mem_append.mpr ⟨?_, ?_⟩⟩
  · rintro l hl l' hl' rfl
    exact absurd (hrank l hl) (Nat.ne_of_gt (hys.2 l hl'))
  · exact fun l hl => (hrank l hl).ge
  · exact fun l hl => Nat.le_of_succ_le (hys.2 l hl)

/-- A piece of at most one label. -/
lemma Ranked.unless {ys : List Label} {l : Label} {c : Prop} [Decidable c]
    (hys : Ranked (l.rank + 1) ys) : Ranked l.rank ((if c then [] else [l]) ++ ys) := by
  refine hys.append ?_ fun l' hl' => congrArg Label.rank (mem_unless.mp hl').2
  split_ifs
  · exact List.nodup_nil
  · exact List.nodup_singleton l

/-- **The labels of a block are distinct**: its pieces follow one another by rank. -/
lemma nodup_blockLabels (hvolumes : (goal.workload.volumes.map (·.name)).Nodup)
    (hsecrets : (goal.workload.secrets.map (·.name)).Nodup) :
    (blockLabels goal w node replica).Nodup := by
  have hmounts : (goal.workload.secrets.map fun ref =>
      Label.part (.mount ref.name) replica).Nodup := by
    have hsame : (goal.workload.secrets.map fun ref => Label.part (.mount ref.name) replica) =
        (goal.workload.secrets.map (·.name)).map fun name => Label.part (.mount name) replica := by
      rw [List.map_map]
      rfl
    rw [hsame]
    exact hsecrets.map fun x y h => Part.mount.inj (Label.part.inj h).1
  have hstart : Ranked 6 [Label.part .start replica] :=
    ⟨List.nodup_singleton _, List.forall_mem_singleton.mpr (le_refl 6)⟩
  have hnetwork := Ranked.unless (l := .part .network replica) (c := goal.workload.port ≤ 0) hstart
  have hmount : Ranked 4 _ := hnetwork.append hmounts fun l hl => by
    obtain ⟨ref, -, rfl⟩ := List.mem_map.mp hl
    rfl
  have hvolume : Ranked 3 _ := hmount.append (nodup_volumeLabels w replica hvolumes) fun l hl => by
    obtain ⟨ref, -, hl⟩ := List.mem_flatMap.mp hl
    rcases mem_volumeLabels.mp hl with ⟨-, rfl⟩ | rfl <;> rfl
  have hgrant := Ranked.unless (l := .part .grant replica)
    (c := (goal.workload.runtime.map (·.tools)).getD [] = []) hvolume
  have hcreate : Ranked 1 ([Label.part .create replica] ++ _) :=
    hgrant.append (List.nodup_singleton _) (List.forall_mem_singleton.mpr rfl)
  exact (Ranked.unless (l := .part .pull replica)
    (c := node.hasImage goal.workload.image = true) hcreate).1

/-- What the actions of several replicas are called after. -/
def blocksLabels (goal : Goal) (w : World) (blocks : List (Node × Int64)) : List Label :=
  blocks.flatMap fun block => blockLabels goal w block.1 block.2

lemma blocksActions_ids (blocks : List (Node × Int64)) :
    (blocksActions goal w blocks).map (·.id) =
      (blocksLabels goal w blocks).map (Label.text goal.workload.name) := by
  simp only [blocksActions, blocksLabels, List.map_flatMap, blockActions_ids]

/-- Several replicas share the volumes that are created, and nothing else. -/
lemma nodup_blocksLabels {blocks : List (Node × Int64)} (hreplicas : (blocks.map (·.2)).Nodup)
    (hvolumes : (goal.workload.volumes.map (·.name)).Nodup)
    (hsecrets : (goal.workload.secrets.map (·.name)).Nodup) :
    (blocksLabels goal w blocks).Nodup ↔
      (2 ≤ blocks.length → ∀ ref ∈ goal.workload.volumes, w.volumes[ref.name]? ≠ none) := by
  rw [blocksLabels, List.nodup_flatMap]
  constructor
  · rintro ⟨-, hdisjoint⟩ hmany ref href hnew
    match blocks, hmany, hdisjoint with
    | first :: second :: rest, _, hdisjoint =>
      have hfirst := (List.pairwise_cons.mp hdisjoint).1 second List.mem_cons_self
      exact hfirst (newVolume_mem_blockLabels href hnew) (newVolume_mem_blockLabels href hnew)
  · intro hknown
    refine ⟨fun _ _ => nodup_blockLabels hvolumes hsecrets, ?_⟩
    by_cases hmany : 2 ≤ blocks.length
    · refine (List.pairwise_map.mp hreplicas).imp fun {x y} hne => ?_
      intro l hx hy
      rcases mem_blockLabels hx with ⟨p, rfl⟩ | ⟨ref, href, hnew, -⟩
      · rcases mem_blockLabels hy with ⟨p', hsame⟩ | ⟨ref, -, -, hsame⟩
        · exact hne (Label.part.inj hsame).2
        · cases hsame
      · exact hknown hmany ref href hnew
    · match blocks, hmany with
      | [], _ => exact List.Pairwise.nil
      | [_], _ => exact List.pairwise_singleton _ _
      | _ :: _ :: _, hmany => exact absurd (Nat.le_add_left 2 _) hmany

/-! ### Indices -/

/-- The slots below a number. -/
lemma mem_slots_iff {n : ℕ} (hn : n ≤ 2 ^ 63) {i : Int64} :
    i ∈ (List.range' 0 n).map Int64.ofNat ↔ 0 ≤ i.toInt ∧ i.toInt < n := by
  rw [List.mem_map]
  constructor
  · rintro ⟨k, hk, rfl⟩
    obtain ⟨j, hj, rfl⟩ := List.mem_range'.mp hk
    rw [Int64.toInt_ofNat_of_lt (by omega)]
    omega
  · rintro ⟨hlow, hhigh⟩
    refine ⟨i.toInt.toNat, List.mem_range'.mpr ⟨i.toInt.toNat, by omega, by omega⟩, ?_⟩
    rw [← Int64.toInt_inj, Int64.toInt_ofNat_of_lt (by omega), Int.toNat_of_nonneg hlow]

lemma nodup_slots_below {n : ℕ} (hn : n ≤ 2 ^ 63) :
    ((List.range' 0 n).map Int64.ofNat).Nodup := by
  refine List.Nodup.map_on (fun x hx y hy h => ?_) List.nodup_range'
  have hbelow : ∀ k ∈ List.range' 0 n, k < 2 ^ 63 := fun k hk => by
    obtain ⟨j, hj, rfl⟩ := List.mem_range'.mp hk
    omega
  have hints := congrArg Int64.toInt h
  rw [Int64.toInt_ofNat_of_lt (hbelow x hx), Int64.toInt_ofNat_of_lt (hbelow y hy)] at hints
  exact Int.ofNat_inj.mp hints

lemma vacant_indexed (h : replica ∈ vacant host goal w) : 0 ≤ replica.toInt := by
  obtain ⟨hmem, -⟩ := List.mem_filter.mp (List.mem_of_mem_take h)
  exact ((mem_slots_iff (Int64.toNatClampNeg_lt _).le).mp hmem).1

lemma nodup_vacant (host : Host) (goal : Goal) (w : World) : (vacant host goal w).Nodup := by
  refine List.Nodup.sublist (List.take_sublist _ _) (List.Nodup.filter _ ?_)
  exact nodup_slots_below (Int64.toNatClampNeg_lt _).le

lemma length_vacant_le (host : Host) (goal : Goal) (w : World) :
    (vacant host goal w).length ≤ 2 := List.length_take_le _ _

/-! ### When a proposal is well shaped -/

/-- The condition: there are few enough actions, not counting a pull unless they are just as many
as the kernel allows; a volume that two replicas need is there already; and the name of no new
volume makes that of an allocation. -/
structure Modest (host : Host) (goal : Goal) (w : World) : Prop where
  few : ((vacant host goal w).length * perReplica goal w : ℤ) <
      defaultPolicy.maxActionsPerProposal.toInt ∨
    ((vacant host goal w).length * perReplica goal w : ℤ) =
      defaultPolicy.maxActionsPerProposal.toInt ∧
      ∀ nodes, homes host goal w (vacant host goal w) (Batch.empty goal w) = .ok nodes →
        ∀ node ∈ nodes, node.hasImage goal.workload.image = true
  known : (vacant host goal w).length = 2 →
    ∀ ref ∈ goal.workload.volumes, w.volumes[ref.name]? ≠ none
  clear : ∀ replica ∈ vacant host goal w, ∀ ref ∈ goal.workload.volumes,
    w.volumes[ref.name]? = none →
      allocationID goal.workload.name replica ≠ "volume-" ++ ref.name

lemma pulls_eq_zero {nodes : List Node} :
    pulls goal nodes = 0 ↔ ∀ node ∈ nodes, node.hasImage goal.workload.image = true := by
  simp [pulls, List.countP_eq_zero]

/-- There are few actions as the condition says. -/
lemma few_iff {nodes : List Node}
    (hnodes : homes host goal w (vacant host goal w) (Batch.empty goal w) = .ok nodes) :
    ((blocksActions goal w (nodes.zip (vacant host goal w))).length : ℤ) ≤
        defaultPolicy.maxActionsPerProposal.toInt ↔
      ((vacant host goal w).length * perReplica goal w : ℤ) <
          defaultPolicy.maxActionsPerProposal.toInt ∨
        ((vacant host goal w).length * perReplica goal w : ℤ) =
          defaultPolicy.maxActionsPerProposal.toInt ∧
          ∀ nodes, homes host goal w (vacant host goal w) (Batch.empty goal w) = .ok nodes →
            ∀ node ∈ nodes, node.hasImage goal.workload.image = true := by
  have hlength := length_homes hnodes
  have hlimit : defaultPolicy.maxActionsPerProposal.toInt = 8 := rfl
  have hpulls : pulls goal nodes ≤ (vacant host goal w).length := hlength ▸ List.countP_le_length
  have himages : (∀ nodes, homes host goal w (vacant host goal w) (Batch.empty goal w) = .ok nodes →
      ∀ node ∈ nodes, node.hasImage goal.workload.image = true) ↔ pulls goal nodes = 0 := by
    rw [pulls_eq_zero]
    refine ⟨fun h => h nodes hnodes, fun h nodes' hnodes' => ?_⟩
    cases hnodes.symm.trans hnodes'
    exact h
  rw [length_blocksActions hlength, himages, hlimit]
  -- one replica or two, and a pull for each of them at most
  have htwo := length_vacant_le host goal w
  generalize perReplica goal w = cost at *
  generalize pulls goal nodes = pulled at *
  interval_cases (vacant host goal w).length <;> push_cast <;> omega

lemma blocksActions_named {blocks : List (Node × Int64)} {a : Action}
    (h : a ∈ blocksActions goal w blocks) : a.id ≠ "" := by
  have hmem : a.id ∈ (blocksActions goal w blocks).map (·.id) := List.mem_map_of_mem h
  rw [blocksActions_ids] at hmem
  obtain ⟨l, -, hl⟩ := List.mem_map.mp hmem
  intro hempty
  have hlists := congrArg String.toList (hl.trans hempty)
  cases l with
  | part p replica => simp [Label.text, allocationID, String.toList_append] at hlists
  | newVolume name => simp [Label.text, String.toList_append] at hlists

/-- Names are distinct as the condition says. -/
lemma distinct_iff {nodes : List Node}
    (hnodes : homes host goal w (vacant host goal w) (Batch.empty goal w) = .ok nodes)
    (hvolumes : (goal.workload.volumes.map (·.name)).Nodup)
    (hsecrets : (goal.workload.secrets.map (·.name)).Nodup) :
    ((blocksActions goal w (nodes.zip (vacant host goal w))).map (·.id)).Nodup ↔
      ((vacant host goal w).length = 2 →
        ∀ ref ∈ goal.workload.volumes, w.volumes[ref.name]? ≠ none) ∧
      ∀ replica ∈ vacant host goal w, ∀ ref ∈ goal.workload.volumes,
        w.volumes[ref.name]? = none →
          allocationID goal.workload.name replica ≠ "volume-" ++ ref.name := by
  have hlength := length_homes hnodes
  have htwo := length_vacant_le host goal w
  have hreplicas : (nodes.zip (vacant host goal w)).map (·.2) = vacant host goal w :=
    List.map_snd_zip hlength.ge
  have hblocks : (nodes.zip (vacant host goal w)).length = (vacant host goal w).length := by
    rw [List.length_zip, hlength, min_self]
  have hmember {block : Node × Int64} (h : block ∈ nodes.zip (vacant host goal w)) :
      block.2 ∈ vacant host goal w := (List.of_mem_zip h).2
  have hindexed : ∀ l ∈ blocksLabels goal w (nodes.zip (vacant host goal w)), l.Indexed := by
    intro l hl
    obtain ⟨block, hblock, hl⟩ := List.mem_flatMap.mp hl
    rcases mem_blockLabels hl with ⟨p, rfl⟩ | ⟨ref, -, -, rfl⟩
    · exact vacant_indexed (hmember hblock)
    · exact trivial
  have hnodup : ((nodes.zip (vacant host goal w)).map (·.2)).Nodup := by
    rw [hreplicas]
    exact nodup_vacant host goal w
  rw [blocksActions_ids, Label.nodup_text hindexed, nodup_blocksLabels hnodup hvolumes hsecrets,
    hblocks]
  refine and_congr ⟨fun h hsame => h hsame.ge, fun h hmany => h (le_antisymm htwo hmany)⟩ ?_
  constructor
  · intro h replica hreplica ref href hnew
    rw [← hreplicas] at hreplica
    obtain ⟨block, hblock, rfl⟩ := List.mem_map.mp hreplica
    exact h block.2 ref.name (List.mem_flatMap.mpr ⟨block, hblock, create_mem_blockLabels⟩)
      (List.mem_flatMap.mpr ⟨block, hblock, newVolume_mem_blockLabels href hnew⟩)
  · intro h replica name hcreate hvolume
    obtain ⟨block, hblock, hcreate⟩ := List.mem_flatMap.mp hcreate
    obtain ⟨other, -, hvolume⟩ := List.mem_flatMap.mp hvolume
    rcases mem_blockLabels hcreate with ⟨p, hsame⟩ | ⟨ref, -, -, hsame⟩
    · rcases mem_blockLabels hvolume with ⟨p', hother⟩ | ⟨ref, href, hnew, hother⟩
      · cases hother
      · cases hother
        exact (Label.part.inj hsame).2 ▸ h block.2 (hmember hblock) ref href hnew
    · cases hsame

end PlacementAgent

/-- The names of what is mounted are distinct. -/
lemma checkMounts_nodup {ρ : Type} {kind : String} {name mountPath : ρ → String}
    {check : ρ → Result Unit} {names paths : List String} {refs : List ρ}
    (h : checkMounts kind name mountPath check names paths refs = .ok ()) :
    (refs.map name).Nodup ∧ ∀ ref ∈ refs, name ref ∉ names := by
  induction refs generalizing names paths with
  | nil => exact ⟨List.nodup_nil, fun _ h => absurd h List.not_mem_nil⟩
  | cons ref refs ih =>
    obtain ⟨_, -, h⟩ := bind_ok.mp h
    obtain ⟨_, hmount, h⟩ := bind_ok.mp h
    simp only [checkMount, refuseIf_bind_ok] at hmount
    obtain ⟨-, -, hnew, -⟩ := hmount
    obtain ⟨hnodup, hothers⟩ := ih h
    refine ⟨List.nodup_cons.mpr ⟨?_, hnodup⟩, List.forall_mem_cons.mpr ⟨hnew, ?_⟩⟩
    · rintro hmem
      obtain ⟨other, hother, hsame⟩ := List.mem_map.mp hmem
      exact hothers other hother (hsame ▸ List.mem_cons_self)
    · exact fun other hother hmem => hothers other hother (List.mem_cons_of_mem _ hmem)

lemma validateVolumes_nodup {spec : WorkloadSpec} (h : validateVolumes spec = .ok ()) :
    (spec.volumes.map (·.name)).Nodup := by
  unfold validateVolumes at h
  split_ifs at h with hnone
  · rw [hnone]
    exact List.nodup_nil
  · rw [refuseIf_bind_ok] at h
    exact (checkMounts_nodup h.2).1

/-- **When a placement proposal is well shaped**, for every goal that was accepted and every
world. -/
theorem placement_shape_iff {order : Ranging} {host : Host} {goal : Goal} {admitted w : World}
    {p : Proposal} (haccepted : normalizeAndValidate order goal admitted = .ok ())
    (hproposed : PlacementAgent.propose host goal w = .ok p) :
    WellShaped p ↔ PlacementAgent.Modest host goal w := by
  obtain ⟨hadmissible, -, -⟩ := normalizeAndValidate_ok_iff.mp haccepted
  have hvolumes := validateVolumes_nodup hadmissible.volumes
  have hsecrets := (checkMounts_nodup hadmissible.secrets).1
  obtain ⟨nodes, hnodes, hactions⟩ := PlacementAgent.propose_homes hproposed
  have hfew := PlacementAgent.few_iff hnodes
  have hdistinct := PlacementAgent.distinct_iff hnodes hvolumes hsecrets
  rw [← hactions] at hfew hdistinct
  constructor
  · intro h
    exact ⟨hfew.mp h.few, (hdistinct.mp h.distinct).1, (hdistinct.mp h.distinct).2⟩
  · intro h
    refine .of_checks (fun a ha => ?_) (hfew.mpr h.few) (hdistinct.mpr ⟨h.known, h.clear⟩) ?_
    · rw [hactions] at ha
      exact PlacementAgent.blocksActions_named ha
    · rw [hactions]
      exact PlacementAgent.blocksActions_grounded _ []

namespace Shaped

/-- The maps in the order of their keys. -/
def listed : Ranging :=
  { queues := fun t => t.toList, nodes := fun t => t.toList, approvals := fun t => t.toList
    ranges_queues := Table.ranges_toList, ranges_nodes := Table.ranges_toList
    ranges_approvals := Table.ranges_toList }

/-- One node, which does not hold the image. -/
def world : World :=
  { nodes := Table.ofEntries
      [("n1", { id := "n1", healthy := true
                capacity := { cpuMillis := 4000, memoryMB := 4096 } })] }

/-- A workload of one replica. -/
def web : Goal :=
  { apiVersion := apiVersion, id := "web", objective := "keep it running"
    workload := { name := "web", image := "app@sha256:" ++ String.ofList (List.replicate 64 '0')
                  replicas := 1, port := 8080, resources := { cpuMillis := 100, memoryMB := 64 } } }

/-- The workload with two replicas and a secret. -/
def twins : Goal :=
  { web with workload := { web.workload with
      replicas := 2
      secrets := [{ name := "token", version := "1", mountPath := "/run/token" }] } }

/-- A workload whose volume is called after its allocation. -/
def database : Goal :=
  { web with workload := { web.workload with
      name := "volume-db"
      volumes := [{ name := "db-0", mountPath := "/data" }] } }

/-- How many actions are proposed for a goal, whether their names are distinct, and what the
kernel says to them. -/
def verdict (goal : Goal) : Option (ℕ × Bool × Result Unit) :=
  (PlacementAgent.propose quietHost goal world).toOption.map fun p =>
    (p.actions.length, decide (p.actions.map (·.id)).Nodup,
      authorize quietHost ⟨defaultPolicy⟩ PlacementAgent.descriptor goal world p)

lemma shape_of_verdict {goal : Goal} {count : ℕ} {distinct : Bool} {answer : Result Unit}
    {p : Proposal} (h : verdict goal = some (count, distinct, answer))
    (hp : PlacementAgent.propose quietHost goal world = .ok p) :
    p.actions.length = count ∧ decide (p.actions.map (·.id)).Nodup = distinct := by
  rw [verdict, hp] at h
  obtain ⟨hcount, hrest⟩ := Prod.mk.inj (Option.some.inj h)
  exact ⟨hcount, (Prod.mk.inj hrest).1⟩

end Shaped

open Shaped

/-- The proposal for one replica is well shaped as the condition says, and accepted. -/
theorem placement_shape_iff_web :
    verdict web = some (4, true, .ok ()) ∧
      ∃ p, PlacementAgent.propose quietHost web world = .ok p ∧
        (WellShaped p ↔ PlacementAgent.Modest quietHost web world) := by
  have haccepted : normalizeAndValidate listed web world = .ok () := by
    decide +kernel
  obtain ⟨p, hp⟩ := ok_of_isSome (show (PlacementAgent.propose quietHost web
    world).toOption.isSome = true by decide +kernel)
  exact ⟨by decide +kernel, p, hp, placement_shape_iff haccepted hp⟩

/-- Two replicas with a secret make ten actions, and a workload whose volume is called after its
allocation two actions of one name. Both goals are accepted, and the kernel refuses both
proposals for their shape. -/
theorem placement_misshapen :
    (normalizeAndValidate listed twins world = .ok () ∧
      verdict twins = some (10, true, fail "proposal exceeds 8 action limit")) ∧
    (normalizeAndValidate listed database world = .ok () ∧
      verdict database = some (6, false, fail "action ids must be non-empty and unique")) ∧
    ∀ p, PlacementAgent.propose quietHost twins world = .ok p ∨
      PlacementAgent.propose quietHost database world = .ok p → ¬WellShaped p := by
  have htwins : verdict twins =
      some (10, true, fail "proposal exceeds 8 action limit") := by decide +kernel
  have hdatabase : verdict database =
      some (6, false, fail "action ids must be non-empty and unique") := by decide +kernel
  refine ⟨⟨by decide +kernel, htwins⟩, ⟨by decide +kernel, hdatabase⟩, ?_⟩
  rintro p (hp | hp) hshaped
  · have hfew := hshaped.few
    rw [(shape_of_verdict htwins hp).1] at hfew
    exact absurd hfew (by decide)
  · exact of_decide_eq_false (shape_of_verdict hdatabase hp).2 hshaped.distinct

end A4s
