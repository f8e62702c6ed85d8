/-
What a container is created with.

The mounts of a container are fixed when it is created, from what the node holds for
the allocation at that moment. A placement proposal creates the container first and
attaches volumes and mounts secrets afterwards.

* `NodeState.offer`: the mounts of the container an allocation has, or would get now.
* `perform_undisturbed`: a placement action changes nobody's offer, if those that
  need an allocation find its container.
* `Carries.undisturbed`: neither does a whole proposal.
* `started_with_mounts_iff`: **a placed workload starts with its volumes and secrets**
  exactly when the node held all of them for it before the proposal.
* `covers_unknown`: on a node that meets the allocation for the first time, that is
  when the goal declares none.
-/
import A4s.Control.Placement
import A4s.Node.Runtime

namespace A4s.Daemon

open Go

/-! ### Offers -/

/-- The mounts of the container an allocation has, or would be given now. -/
def NodeState.offer (d : NodeState) (id : String) :
    List VolumeMountSpec × List SecretMountSpec :=
  match d.containers[id]? with
  | some container => (container.spec.volumeMounts, container.spec.secretMounts)
  | none => (d.volumeMountsFor id, d.secretMountsFor id)

section Offer

variable {d d' : NodeState} {id : String}

lemma offer_of_container {container : Container} (h : d.containers[id]? = some container) :
    d.offer id = (container.spec.volumeMounts, container.spec.secretMounts) := by
  rw [NodeState.offer, h]

lemma offer_of_absent (h : d.containers[id]? = none) :
    d.offer id = (d.volumeMountsFor id, d.secretMountsFor id) := by
  rw [NodeState.offer, h]

/-- A container keeps its offer whatever the node learns. -/
lemma offer_congr (hcontainer : d'.containers[id]? = d.containers[id]?)
    (hheld : d.containers[id]?.isSome ∨
      d'.volumeMountsFor id = d.volumeMountsFor id ∧ d'.secretMountsFor id = d.secretMountsFor id) :
    d'.offer id = d.offer id := by
  cases hget : d.containers[id]? with
  | some container =>
    rw [offer_of_container hget, offer_of_container (hcontainer.trans hget)]
  | none =>
    rw [hget] at hheld
    obtain ⟨hvolumes, hsecrets⟩ := hheld.resolve_left nofun
    rw [offer_of_absent hget, offer_of_absent (hcontainer.trans hget), hvolumes, hsecrets]

end Offer

/-- No allocation's offer changed, and no container went away. -/
structure Undisturbed (d d' : NodeState) : Prop where
  offer : ∀ id : String, id ≠ "" → d'.offer id = d.offer id
  containers : ∀ id : String, d.containers[id]?.isSome → d'.containers[id]?.isSome

lemma Undisturbed.refl (d : NodeState) : Undisturbed d d := ⟨fun _ _ => rfl, fun _ h => h⟩

lemma Undisturbed.trans {d d₁ d' : NodeState} (h : Undisturbed d d₁) (h' : Undisturbed d₁ d') :
    Undisturbed d d' :=
  ⟨fun id hid => (h'.offer id hid).trans (h.offer id hid),
    fun id hsome => h'.containers id (h.containers id hsome)⟩

/-- Steps that leave the containers alone: what is held may change for an allocation
that has its container. -/
lemma Undisturbed.of_held {d d' : NodeState} (hsame : d'.containers = d.containers)
    (hheld : ∀ id : String, id ≠ "" → d.containers[id]?.isSome ∨
      d'.volumeMountsFor id = d.volumeMountsFor id ∧
        d'.secretMountsFor id = d.secretMountsFor id) : Undisturbed d d' := by
  refine ⟨fun id hid => offer_congr (by rw [hsame]) (hheld id hid), fun id hsome => ?_⟩
  rw [hsame]
  exact hsome

/-! ### What the capabilities change -/

section Capabilities

variable {m : Machine} {a : Action}

lemma desiredPut_frame {t t' : DesiredState} {key : String} {entry : DesiredAllocation} {u : Unit}
    (h : Proc.Returns (DesiredState.put m key entry) t u t') {id : String} (hother : id ≠ key) :
    t'[id]? = t[id]? := by
  simp only [DesiredState.put, returns_bind, returns_modify, returns_lift] at h
  obtain ⟨_, _, rfl, -, rfl⟩ := h
  exact get_insert_of_ne hother

/-- Intent is recorded for the allocation the action targets. -/
lemma recordDesired_frame {t t' : DesiredState} {u : Unit}
    (h : Proc.Returns (recordDesired m a) t u t') {id : String} (hother : id ≠ a.target) :
    t'[id]? = t[id]? := by
  unfold recordDesired at h
  split at h
  case h_1 =>
    simp only [DesiredState.record, returns_bind, returns_guard, returns_read] at h
    obtain ⟨_, _, ⟨-, rfl⟩, _, _, ⟨rfl, rfl⟩, h⟩ := h
    exact desiredPut_frame h hother
  case h_2 =>
    split at h
    · rw [(returns_pure.mp h).2]
    · simp only [DesiredState.addVolume, returns_bind, returns_read] at h
      obtain ⟨_, _, ⟨rfl, rfl⟩, h⟩ := h
      split at h
      · rw [(returns_pure.mp h).2]
      · split_ifs at h
        · rw [(returns_pure.mp h).2]
        · exact desiredPut_frame h hother
  case h_3 | h_4 =>
    simp only [DesiredState.setRunning, returns_bind, returns_read] at h
    obtain ⟨_, _, ⟨rfl, rfl⟩, h⟩ := h
    split at h
    · rw [(returns_pure.mp h).2]
    · exact desiredPut_frame h hother
  case h_5 =>
    simp only [DesiredState.forget, returns_bind, returns_read, returns_when,
      returns_modify, returns_lift] at h
    obtain ⟨_, _, ⟨rfl, rfl⟩, h⟩ := h
    rcases h with ⟨-, _, _, rfl, -, rfl⟩ | ⟨-, rfl⟩
    · rw [get_erase, if_neg hother]
    · rfl
  case h_6 => rw [(returns_pure.mp h).2]

/-- The container is created with what is held for the allocation at this moment. -/
lemma createAllocation_undisturbed {d d' : NodeState} {e : Evidence}
    (h : Proc.Returns (createAllocation m a) d e d') :
    Undisturbed d d' ∧ d'.containers[a.target]?.isSome := by
  simp only [createAllocation, createContainer, returns_bind, returns_guard,
    returns_read, returns_wrapped, returns_lift, returns_pure] at h
  obtain ⟨_, _, ⟨-, rfl⟩, _, _, ⟨-, rfl⟩, _, _, ⟨rfl, rfl⟩, _, _,
    ⟨_, _, ⟨-, rfl⟩, _, _, ⟨rfl, rfl⟩, h⟩, -, rfl⟩ := h
  cases hget : d.containers[a.target]? with
  | some container =>
    simp only [NodeState.specFor, hget, returns_bind, returns_pure] at h
    obtain ⟨_, _, hguard, -, rfl⟩ := h
    obtain ⟨-, rfl⟩ := returns_guard.mp hguard
    exact ⟨Undisturbed.refl d, by rw [hget]; rfl⟩
  | none =>
    simp only [NodeState.specFor, hget, returns_bind, returns_lift,
      returns_modify, returns_pure] at h
    obtain ⟨_, _, ⟨-, rfl⟩, _, _, ⟨-, rfl⟩, _, _, rfl, -, rfl⟩ := h
    refine ⟨⟨fun id _ => ?_, fun id hsome => ?_⟩, ?_⟩
    · by_cases hid : id = a.target
      · subst hid
        rw [offer_of_container (get_insert_self), offer_of_absent hget]
      · exact offer_congr (get_insert_of_ne hid) (.inr ⟨rfl, rfl⟩)
    · rw [get_insert]
      split_ifs
      · rfl
      · exact hsome
    · rw [get_insert_self]
      rfl

end Capabilities

/-! ### Placement actions -/

/-- The parts of the node that mounts are read from. -/
def NodeState.holdings (d : NodeState) :
    Table Container × Volumes × Option Secrets × DesiredState :=
  (d.containers, d.volumes, d.secrets, d.desired)

lemma Undisturbed.of_holdings {d d' : NodeState} (h : d'.holdings = d.holdings) :
    Undisturbed d d' := by
  simp only [NodeState.holdings, Prod.mk.injEq] at h
  obtain ⟨hcontainers, hvolumes, hsecrets, hdesired⟩ := h
  refine Undisturbed.of_held hcontainers fun id _ => .inr ⟨?_, ?_⟩
  · rw [NodeState.volumeMountsFor, NodeState.volumeMountsFor, hvolumes, hdesired]
  · rw [NodeState.secretMountsFor, NodeState.secretMountsFor, hsecrets]

section Placement

variable {wire : Wire} {config : Config} {c : Capabilities} {m : Machine} {a : Action}

/-- A capability carries a placement action out. -/
lemma execute_undisturbed (hplaces : a.kind.places = true) {d d' : NodeState} {e : Evidence}
    (hthere : a.kind.prepares = true → d.containers[a.target]?.isSome)
    (h : Proc.Returns (CompositeRuntime.execute c m a) d e d') :
    Undisturbed d d' ∧ (a.kind = .createAllocation → d'.containers[a.target]?.isSome) := by
  -- an allocation other than the targeted one, or one that has its container
  have hcases : a.kind.prepares = true → ∀ id : String,
      d.containers[id]?.isSome ∨ id ≠ a.target := by
    intro hprepares id
    by_cases hid : id = a.target
    · exact .inl (hid ▸ hthere hprepares)
    · exact .inr hid
  cases hk : a.kind <;> simp only [hk, ActionKind.places, Bool.false_eq_true] at hplaces
  all_goals simp only [CompositeRuntime.execute, hk, reduceCtorEq, false_imp_iff, and_true] at h ⊢
  case pullImage | attachNetwork | startAllocation =>
    obtain ⟨-, rfl⟩ := returns_lift.mp h
    exact Undisturbed.refl d
  case createAllocation =>
    simp only [returns_bind, returns_pure] at h
    obtain ⟨_, d₁, hcreate, _, _, hreserve, -, rfl⟩ := h
    obtain ⟨hcreated, hsome⟩ := createAllocation_undisturbed hcreate
    have hkept := (reserveAgent_keeps (f := NodeState.holdings) a fun _ _ => rfl).returns hreserve
    have hreserved := Undisturbed.of_holdings hkept
    exact ⟨hcreated.trans hreserved, fun _ => hreserved.containers _ hsome⟩
  case grantTools =>
    have hkept := (onAgents_keeps (f := NodeState.holdings) (Agents.grant a)
      fun _ _ => rfl).returns h
    exact Undisturbed.of_holdings hkept
  case createVolume =>
    simp only [returns_bind, onVolumes, returns_onField, volumeOf, returns_lift] at h
    obtain ⟨ref, _, ⟨-, rfl⟩, v, hcreate, rfl⟩ := h
    refine Undisturbed.of_held rfl fun id hid => .inr ⟨?_, rfl⟩
    exact (Volumes.create_spec hcreate).2 hid _
  case attachVolume =>
    simp only [returns_bind, onVolumes, returns_onField, volumeOf, returns_lift] at h
    obtain ⟨ref, _, ⟨-, rfl⟩, v, hattach, rfl⟩ := h
    refine Undisturbed.of_held rfl fun id hid => ?_
    refine (hcases (by rw [hk]; rfl) id).imp_right fun hother => ⟨?_, rfl⟩
    exact (Volumes.attach_spec hattach).2 hid hother _
  case mountSecret =>
    obtain ⟨s, s', hs, hmount, rfl⟩ := returns_onSecrets h
    refine Undisturbed.of_held rfl fun id _ => ?_
    refine (hcases (by rw [hk]; rfl) id).imp_right fun hother => ⟨rfl, ?_⟩
    simp only [NodeState.secretMountsFor, hs, Secrets.specs, (Secrets.execute_spec hmount).2 hother]

/-- **A placement action changes nobody's offer**, if it finds the container of the
allocation it needs. -/
theorem perform_undisturbed (hplaces : a.kind.places = true) {d d' : NodeState}
    {r : Evidence × Option AttestedEvidence}
    (hthere : a.kind.prepares = true → d.containers[a.target]?.isSome)
    (h : Proc.Returns (perform wire config c m a) d r d') :
    Undisturbed d d' ∧ (a.kind = .createAllocation → d'.containers[a.target]?.isSome) := by
  simp only [perform, returns_bind, returns_lift, onDesired, returns_onField, returns_pure] at h
  obtain ⟨e, d₁, hexecute, _, _, ⟨-, rfl⟩, _, _, ⟨t, hrecord, rfl⟩, -, rfl⟩ := h
  obtain ⟨hundisturbed, hcreated⟩ := execute_undisturbed hplaces hthere hexecute
  refine ⟨hundisturbed.trans (Undisturbed.of_held rfl fun id _ => ?_), hcreated⟩
  -- intent is recorded for the target alone, which has its container by now
  by_cases hid : id = a.target
  · subst hid
    by_cases hprepares : a.kind.prepares = true
    · exact .inl (hundisturbed.containers _ (hthere hprepares))
    by_cases hcreate : a.kind = .createAllocation
    · exact .inl (hcreated hcreate)
    have hidle : t = d₁.desired := by
      cases hk : a.kind <;> simp_all [ActionKind.places, ActionKind.prepares, recordDesired]
    rw [hidle]
    exact .inr ⟨rfl, rfl⟩
  · refine .inr ⟨?_, rfl⟩
    simp only [NodeState.volumeMountsFor, recordDesired_frame hrecord hid]

end Placement

/-! ### Proposals on a node -/

section Run

variable {wire : Wire} {config : Config}

/-- The node accepted an envelope with the action, carried it out and returned. -/
def CarriesOut (wire : Wire) (config : Config) (a : Action) (d d' : NodeState) : Prop :=
  ∃ (c : Capabilities) (m : Machine) (signed : SignedAction) (work : ActionEnvelope)
    (r : DispatchResult),
    verify wire signed config.keys config.nodeID m.now = .ok work ∧ work.action = a ∧
      d.ledger[work.idempotencyKey]? = none ∧
      Proc.Returns (dispatch wire config c m signed) d r d'

/-- The node carried actions out, in order and without an error. -/
inductive Carries (wire : Wire) (config : Config) : NodeState → List Action → NodeState → Prop
  | nil (d : NodeState) : Carries wire config d [] d
  | cons {d d₁ d' : NodeState} {a : Action} {rest : List Action}
      (hfirst : CarriesOut wire config a d d₁) (hrest : Carries wire config d₁ rest d') :
      Carries wire config d (a :: rest) d'

lemma Carries.split {before rest : List Action} {d d' : NodeState}
    (h : Carries wire config d (before ++ rest) d') :
    ∃ d₁, Carries wire config d before d₁ ∧ Carries wire config d₁ rest d' := by
  induction before generalizing d with
  | nil => exact ⟨d, .nil d, h⟩
  | cons a before ih =>
    cases h with
    | cons hfirst hrun =>
      obtain ⟨d₁, hbefore, hrest⟩ := ih hrun
      exact ⟨d₁, .cons hfirst hbefore, hrest⟩

lemma Carries.snoc {before : List Action} {a : Action} {d d₁ d' : NodeState}
    (h : Carries wire config d before d₁) (hlast : CarriesOut wire config a d₁ d') :
    Carries wire config d (before ++ [a]) d' := by
  induction h with
  | nil d => exact .cons hlast (.nil d')
  | cons hfirst _ ih => exact .cons hfirst (ih hlast)

lemma CarriesOut.undisturbed {a : Action} {d d' : NodeState} (h : CarriesOut wire config a d d')
    (hplaces : a.kind.places = true)
    (hthere : a.kind.prepares = true → d.containers[a.target]?.isSome) :
    Undisturbed d d' ∧ (a.kind = .createAllocation → d'.containers[a.target]?.isSome) := by
  obtain ⟨c, m, signed, work, r, hverify, rfl, hnew, hreturns⟩ := h
  have hprobe : work.action.kind ≠ .probeReadiness := by
    intro hk
    rw [hk] at hplaces
    cases hplaces
  obtain ⟨-, d₁, hperform, rfl⟩ := dispatch_first hverify hprobe hnew hreturns
  obtain ⟨hundisturbed, hcreated⟩ := perform_undisturbed hplaces hthere hperform
  -- leases and answers are not read by any container
  have hnote : (noteLease work d₁).holdings = d₁.holdings := by
    unfold noteLease
    split_ifs <;> rfl
  have hstored := Undisturbed.of_holdings hnote
  exact ⟨hundisturbed.trans ⟨hstored.offer, hstored.containers⟩,
    fun hk => hstored.containers _ (hcreated hk)⟩

/-- **A placement proposal changes nobody's offer**, and what it has created by any
point is there. -/
theorem Carries.undisturbed {created : List String} {actions rest : List Action} {d d' : NodeState}
    (h : Carries wire config d actions d') (hprepared : Prepared created (actions ++ rest))
    (hthere : ∀ id ∈ created, d.containers[id]?.isSome) :
    Undisturbed d d' ∧ ∃ created', Prepared created' rest ∧
      ∀ id ∈ created', d'.containers[id]?.isSome := by
  induction h generalizing created with
  | nil d => exact ⟨Undisturbed.refl d, created, hprepared, hthere⟩
  | @cons d d₁ d' a actions hfirst _ ih =>
    obtain ⟨hplaces, hneeds, hprepared⟩ := hprepared
    obtain ⟨hundisturbed, hcreated⟩ :=
      hfirst.undisturbed hplaces fun hprepares => hthere _ (hneeds hprepares)
    have hthere₁ : ∀ id ∈ created, d₁.containers[id]?.isSome :=
      fun id hid => hundisturbed.containers id (hthere id hid)
    obtain ⟨hrest, created', hprepared', hthere'⟩ := ih hprepared (by
      split_ifs with hk
      · exact List.forall_mem_cons.mpr ⟨hcreated hk, hthere₁⟩
      · exact hthere₁)
    exact ⟨hundisturbed.trans hrest, created', hprepared', hthere'⟩

end Run

/-! ### Started with everything the goal declares -/

/-- A bind mount at the declared path of every volume and every secret. -/
def Covers (goal : Goal) (mounts : List VolumeMountSpec × List SecretMountSpec) : Prop :=
  (∀ ref ∈ goal.workload.volumes, ∃ mount ∈ mounts.1, mount.destination = ref.mountPath) ∧
    ∀ ref ∈ goal.workload.secrets, ∃ mount ∈ mounts.2, mount.destination = ref.mountPath

/-- The allocation's container was created with every mount the goal declares. -/
def Mounted (goal : Goal) (d : NodeState) (id : String) : Prop :=
  ∃ container, d.containers[id]? = some container ∧
    Covers goal (container.spec.volumeMounts, container.spec.secretMounts)

/-- **A placed workload starts with its volumes and secrets** exactly when the node held
all of them for it before the proposal. -/
theorem started_with_mounts_iff {host : Host} {goal : Goal} {w : World} {p : Proposal} {wire : Wire}
    {config : Config} {d d' : NodeState} (hproposed : PlacementAgent.propose host goal w = .ok p)
    (hrun : Carries wire config d (p.actions.filter fun a => decide (a.node = config.nodeID)) d') :
    (∀ before a rest d₁,
        (p.actions.filter fun a => decide (a.node = config.nodeID)) = before ++ a :: rest →
        a.kind = .startAllocation → Carries wire config d before d₁ →
        Carries wire config d₁ (a :: rest) d' → Mounted goal d₁ a.target) ↔
      ∀ a ∈ p.actions, a.kind = .createAllocation → a.node = config.nodeID →
        Covers goal (d.offer a.target) := by
  have hprepared := PlacementAgent.propose_prepared hproposed config.nodeID
  constructor
  · intro hstarted a ha hk hnode
    obtain ⟨hne, -, s, hs, hkind, htarget, hsnode⟩ :=
      PlacementAgent.propose_pairs hproposed ha (.inl hk)
    have hlocal : s ∈ p.actions.filter fun a => decide (a.node = config.nodeID) :=
      List.mem_filter.mpr ⟨hs, decide_eq_true (hsnode.trans hnode)⟩
    obtain ⟨before, rest, hsplit⟩ := List.append_of_mem hlocal
    rw [hsplit] at hrun hprepared
    obtain ⟨d₁, hbefore, hafter⟩ := hrun.split
    obtain ⟨container, hget, hcovers⟩ := hstarted before s rest d₁ hsplit hkind hbefore hafter
    obtain ⟨hundisturbed, -⟩ := hbefore.undisturbed hprepared nofun
    rw [htarget] at hget
    rw [← hundisturbed.offer _ hne, offer_of_container hget]
    exact hcovers
  · intro hheld before a rest d₁ hsplit hk hbefore _
    have hlocal : a ∈ p.actions.filter fun a => decide (a.node = config.nodeID) := by
      rw [hsplit]
      simp
    obtain ⟨ha, hnode⟩ := List.mem_filter.mp hlocal
    obtain ⟨hne, ⟨s, hs, hkind, htarget, hsnode⟩, -⟩ :=
      PlacementAgent.propose_pairs hproposed ha (.inr hk)
    rw [hsplit] at hprepared
    obtain ⟨hundisturbed, created, ⟨-, hneeds, -⟩, hthere⟩ := hbefore.undisturbed hprepared nofun
    obtain ⟨container, hget⟩ := Option.isSome_iff_exists.mp
      (hthere _ (hneeds (by rw [hk]; rfl)))
    refine ⟨container, hget, ?_⟩
    rw [← offer_of_container hget, hundisturbed.offer _ hne, ← htarget]
    exact hheld s hs hkind (hsnode.trans (of_decide_eq_true hnode))

/-- **A node that knows nothing of an allocation offers it nothing**: then only workloads
without volumes and secrets start with all they declare. -/
theorem covers_unknown {goal : Goal} {d : NodeState} {id : String}
    (hcontainer : d.containers[id]? = none) (hdesired : d.desired[id]? = none)
    (hsecrets : ∀ s, d.secrets = some s → s.mounts[id]? = none) :
    Covers goal (d.offer id) ↔ goal.workload.volumes = [] ∧ goal.workload.secrets = [] := by
  have hvolumeMounts : d.volumeMountsFor id = [] := by
    rw [NodeState.volumeMountsFor, hdesired]
    rfl
  have hsecretMounts : d.secretMountsFor id = [] := by
    unfold NodeState.secretMountsFor
    cases hs : d.secrets with
    | none => rfl
    | some s =>
      simp only [Secrets.specs, Secrets.mountsOf, hsecrets s hs]
      rfl
  rw [offer_of_absent hcontainer, hvolumeMounts, hsecretMounts]
  simp only [Covers, List.not_mem_nil, false_and, exists_false, List.eq_nil_iff_forall_not_mem]

/-! ### A database that starts without its volume -/

namespace Mounts

/-- A workload with one volume and one secret. -/
def goal : Goal :=
  { id := "db"
    workload :=
      { name := "db", image := "db@sha256:d", replicas := 1, resources := ⟨10, 16⟩
        volumes := [{ name := "data", mountPath := "/var/lib/db" }]
        secrets := [{ name := "password", version := "v1", mountPath := "/run/password" }] } }

def world : World :=
  { nodes := Table.ofEntries [("n1",
      { id := "n1", healthy := true, capacity := ⟨100, 100⟩
        images := Table.ofEntries [("db@sha256:d", true)] })] }

/-- What the placement agent proposes. -/
def proposal : Proposal :=
  (PlacementAgent.propose quietHost goal world).toOption.getD
    { id := "", agentID := "", goalID := "", basedOnRevision := 0, actions := [] }

lemma proposed : PlacementAgent.propose quietHost goal world = .ok proposal := by
  decide

/-- One envelope for each action. -/
def envelope (a : Action) : ActionEnvelope :=
  { version := 1, id := a.id, nodeID := "n1", goalID := "db", proposalID := proposal.id
    worldRevision := 0, leaseID := "l", idempotencyKey := a.id, issuedAt := 90 * second
    expiresAt := 120 * second, action := a }

def wire : Wire := scriptWire (proposal.actions.map envelope)

def config : Config :=
  { nodeID := "n1", keys := Table.ofEntries [("key", List.replicate 32 0)], identityKey := [] }

def capabilities : Capabilities := bareCapabilities false

/-- A broker that has every secret. -/
def machine : Machine := { quietMachine with fetch := fun _ => .ok [1] }

/-- A node that has done nothing yet. -/
def start : NodeState :=
  { volumes := { root := "/volumes" }, secrets := some { root := "/run/secrets" } }

def message (n : ℕ) : SignedAction :=
  { envelopeBytes := [UInt8.ofNat n], keyID := "key", signature := "" }

/-- The node after the first messages. -/
def after : ℕ → NodeState
  | 0 => start
  | n + 1 => (dispatch wire config capabilities machine (message n) (after n)).2

/-- The next message is accepted, new, and answered without an error. -/
def carried (n : ℕ) : Bool :=
  match proposal.actions[n]? with
  | none => false
  | some a =>
    decide (verify wire (message n) config.keys config.nodeID machine.now =
        .ok (envelope a)) &&
      (after n).ledger[a.id]?.isNone &&
      (dispatch wire config capabilities machine (message n) (after n)).1.isOk

lemma carriesOut_of_carried {n : ℕ} (h : carried n = true) :
    ∃ a, proposal.actions[n]? = some a ∧ CarriesOut wire config a (after n) (after (n + 1)) := by
  unfold carried at h
  split at h
  · cases h
  · rename_i a ha
    simp only [Bool.and_eq_true, decide_eq_true_eq, Option.isNone_iff_eq_none] at h
    obtain ⟨⟨hverify, hnew⟩, hok⟩ := h
    cases hr : (dispatch wire config capabilities machine (message n) (after n)).1 with
    | error e =>
      rw [hr] at hok
      cases hok
    | ok r =>
      exact ⟨a, ha, capabilities, machine, message n, envelope a, r, hverify, rfl, hnew,
        Prod.ext hr rfl⟩

lemma carries_take {n : ℕ} (h : ∀ i < n, carried i = true) :
    Carries wire config start (proposal.actions.take n) (after n) := by
  induction n with
  | zero =>
    rw [List.take_zero]
    exact .nil start
  | succ n ih =>
    have hearlier := ih fun i hi => h i (by omega)
    obtain ⟨a, ha, hlast⟩ := carriesOut_of_carried (h n (by omega))
    rw [List.take_add_one, ha]
    exact hearlier.snoc hlast

lemma carried_all : ∀ i < 5, carried i = true := by
  decide

/-- The last action starts the database. -/
def last : Action := PlacementAgent.startAction goal world { id := "n1" } "db-0"

/-- The node's part of the proposal is all of it. -/
lemma local_actions : (proposal.actions.filter fun a => decide (a.node = config.nodeID)) =
    proposal.actions.take 4 ++ [last] := by
  decide

lemma carries_before : Carries wire config start (proposal.actions.take 4) (after 4) :=
  carries_take fun i hi => carried_all i (by omega)

lemma carries_last : Carries wire config (after 4) [last] (after 5) := by
  obtain ⟨a, ha, hlast⟩ := carriesOut_of_carried (carried_all 4 (by omega))
  have hget : proposal.actions[4]? = some last := by decide
  cases ha.symm.trans hget
  exact .cons hlast (.nil _)

/-- The container that is started. -/
lemma unmounted : (after 4).containers["db-0"]?.map (fun container =>
    (container.spec.volumeMounts, container.spec.secretMounts)) = some ([], []) := by
  decide

end Mounts

open Mounts

/-- The placement agent proposes a database with a volume and a secret, a node carries
the proposal out without an error, and the container it starts has neither. -/
theorem started_without_mounts :
    PlacementAgent.propose quietHost goal world = .ok proposal ∧
      goal.workload.volumes = [{ name := "data", mountPath := "/var/lib/db" }] ∧
      goal.workload.secrets =
        [{ name := "password", version := "v1", mountPath := "/run/password" }] ∧
      (proposal.actions.filter fun a => decide (a.node = config.nodeID)) =
        proposal.actions.take 4 ++ [last] ∧
      last.kind = .startAllocation ∧ last.target = "db-0" ∧
      Carries wire config start (proposal.actions.take 4) (after 4) ∧
      Carries wire config (after 4) [last] (after 5) ∧
      (after 4).containers["db-0"]?.map (fun container =>
        (container.spec.volumeMounts, container.spec.secretMounts)) = some ([], []) :=
  ⟨proposed, rfl, rfl, local_actions, rfl, rfl, carries_before, carries_last, unmounted⟩

/-- The node of that run held nothing for the database before the proposal. -/
theorem started_with_mounts_iff_database :
    ¬∀ a ∈ proposal.actions, a.kind = .createAllocation →
      a.node = config.nodeID → Covers goal (start.offer a.target) := by
  have hrun : Carries wire config start
      (proposal.actions.filter fun a => decide (a.node = config.nodeID))
      (after 5) := by
    rw [local_actions]
    cases carries_last with
    | cons hlast hnil =>
      cases hnil
      exact carries_before.snoc hlast
  intro hheld
  have hmounted := (started_with_mounts_iff proposed hrun).mpr hheld _ _ _ _
    local_actions rfl carries_before carries_last
  obtain ⟨container, hget, hcovers⟩ := hmounted
  have hnone := unmounted
  rw [show "db-0" = last.target from rfl, hget] at hnone
  simp only [Option.map_some, Option.some.injEq] at hnone
  rw [hnone] at hcovers
  obtain ⟨mount, hmount, -⟩ := hcovers.1 { name := "data", mountPath := "/var/lib/db" } (by decide)
  cases hmount

end A4s.Daemon
