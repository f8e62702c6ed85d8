/-
Evidence that comes back from a node (`node/remote.go`, with the step of
`control/engine.go` that projects it).

The controller signs an envelope, sends it, and believes what is signed by the node it
addressed. Nothing compares the evidence with the action, so what a node may say is bounded
by two things: its signature covers only what it claims to have observed itself, and the
projection writes only the entries the evidence names.

* `execute`, `trustedEvidence`: the remote executor, over an arbitrary transport.
* `Attributable`: the evidence names entries of the reporting node, and no decision.
* `Confined`: approvals and everything located on another node are left alone.
* `execute_confined`: attributable evidence is confined, apart from a volume that is being
  handed to the node that reports it.
-/
import A4s.Control.Effect
import A4s.Node.Runtime

namespace A4s.Daemon

open Go

/-! ### The remote executor -/

/-- `DispatchResponse`. -/
structure DispatchResponse where
  envelopeID : String := ""
  result : Option DispatchResult := none
  error : String := ""

/-- `DefaultEnvelopeTTL`. -/
def defaultEnvelopeTTL : Duration := 60 * second

/-- `DefaultAttestationMaxAge`. -/
def defaultAttestationMaxAge : Duration := 5 * minute

structure RemoteExecutor where
  nodeID : String
  keyID : String
  privateKey : Bytes
  ttl : Duration := defaultEnvelopeTTL
  goalID : String := ""
  proposalID : String := ""
  revision : UInt64 := 0
  leaseID : String := ""
  nodeKeys : Table Bytes := ∅
  requireAttestation : Bool := false
  maxAge : Duration := 0
  sequence : UInt64 := 0

namespace RemoteExecutor

/-- `Bind`: the authorisation the following actions belong to. -/
def bind_ (goalID proposalID : String) (revision : UInt64) (leaseID : String) :
    Proc RemoteExecutor Unit :=
  Proc.modify fun x =>
    { x with goalID := goalID, proposalID := proposalID, revision := revision, leaseID := leaseID }

def attestationMaxAge (x : RemoteExecutor) : Duration :=
  if 0 < x.maxAge then x.maxAge else defaultAttestationMaxAge

/-- The envelope of an action. Its id is unique per issuance, its idempotency key is not. -/
def envelope (x : RemoteExecutor) (now : Time) (sequence : UInt64) (a : Action) :
    ActionEnvelope :=
  let ttl := if x.ttl ≤ 0 then defaultEnvelopeTTL else x.ttl
  { version := envelopeVersion
    id := s!"{x.proposalID}-{sequence}"
    nodeID := x.nodeID, goalID := x.goalID, proposalID := x.proposalID
    worldRevision := x.revision
    leaseID := if x.leaseID = "" then x.proposalID else x.leaseID
    idempotencyKey := s!"{x.proposalID}/{a.id}"
    issuedAt := now, expiresAt := now + ttl, action := a }

/-- `trustedEvidence`: evidence is believed if it is attributable to the node that was
supposed to produce it. -/
def trustedEvidence (wire : Wire) (x : RemoteExecutor) (result : DispatchResult) (a : Action)
    (now : Time) : Result Evidence :=
  if x.nodeKeys.isEmpty then do
    refuseIf (x.requireAttestation = true)
      "attestation is required but no enrolled node keys are configured"
    return result.evidence
  else match result.attested with
  | none => do
      refuseIf (x.requireAttestation = true)
        s!"node {quote x.nodeID} returned unattested evidence for action {quote a.id}"
      return result.evidence
  | some attested => do
      let e ← wrapError s!"evidence for action {quote a.id}: "
        (verifyEvidence wire attested x.nodeKeys now x.attestationMaxAge)
      refuseIf (attested.nodeID ≠ x.nodeID)
        (s!"evidence for action {quote a.id} is attested by {quote attested.nodeID}, " ++
          s!"expected {quote x.nodeID}")
      return e

/-- `Execute`: the clock is read when the envelope is issued and again when the answer is
checked. An action that the control plane settles itself never reaches the node. -/
def execute (wire : Wire) (transport : Option (SignedAction → Result DispatchResponse))
    (issued answered : Time) (a : Action) : Proc RemoteExecutor Evidence := do
  let x ← Proc.read id
  let send ← Proc.lift (require transport "remote executor has no transport")
  Proc.guard (x.goalID = "" ∨ x.proposalID = "")
    "remote executor was not bound to an authorized proposal"
  if a.kind.controlPlaneLocal then
    Proc.lift (cordonEvidence a)
  else
    Proc.modify fun x => { x with sequence := x.sequence + 1 }
    let signed ← Proc.lift (wrapError s!"sign action {quote a.id}: "
      (sign wire (x.envelope issued (x.sequence + 1) a) x.keyID x.privateKey))
    let response ← Proc.lift (wrapError s!"dispatch action {quote a.id}: " (send signed))
    Proc.guard (response.error ≠ "") s!"node rejected action {quote a.id}: {response.error}"
    let result ← Proc.lift
      (require response.result s!"node returned no result for action {quote a.id}")
    Proc.lift (x.trustedEvidence wire result a answered)

end RemoteExecutor

/-- The engine gives evidence without a time the time of its own clock. -/
def timed (now : Time) (e : Evidence) : Evidence :=
  if e.observedAt = 0 then { e with observedAt := now } else e

section Timed

variable (now : Time) (e : Evidence)

@[simp] lemma timed_kind : (timed now e).kind = e.kind := by
  rw [timed]
  split_ifs <;> rfl

@[simp] lemma timed_target : (timed now e).target = e.target := by
  rw [timed]
  split_ifs <;> rfl

@[simp] lemma timed_observe (key : String) : (timed now e).observe key = e.observe key := by
  rw [timed]
  split_ifs <;> rfl

end Timed

/-! ### What the executor lets through -/

/-- The bytes of the evidence are signed with the enrolled key of the node, and the node it
says observed it, if it says so, is that node. -/
def SignedBy (wire : Wire) (keys : Table Bytes) (nodeID : String) (e : Evidence) : Prop :=
  (∃ key bytes signature more, keys[nodeID]? = some key ∧ wire.verify key bytes signature = true ∧
    wire.decodeEvidence bytes = .ok (e, more)) ∧
  (e.observe "node" = "" ∨ e.observe "node" = nodeID)

lemma verifyEvidence_signedBy {wire : Wire} {attested : AttestedEvidence} {keys : Table Bytes}
    {now : Time} {maxAge : Duration} {e : Evidence}
    (h : verifyEvidence wire attested keys now maxAge = .ok e) :
    SignedBy wire keys attested.nodeID e := by
  obtain ⟨hauthentic, -⟩ := verifyEvidence_iff.mp h
  obtain ⟨key, signature, hkey, -, -, hverify⟩ := hauthentic.signed
  exact ⟨⟨key, _, signature, false, hkey, hverify, hauthentic.decoded⟩, hauthentic.observer⟩

lemma trustedEvidence_signedBy {wire : Wire} {x : RemoteExecutor} {result : DispatchResult}
    {a : Action} {now : Time} {e : Evidence} (hrequire : x.requireAttestation = true)
    (h : x.trustedEvidence wire result a now = .ok e) : SignedBy wire x.nodeKeys x.nodeID e := by
  rw [RemoteExecutor.trustedEvidence] at h
  split_ifs at h with hkeys
  · rw [refuseIf_bind_ok] at h
    exact absurd hrequire h.1
  · cases hattested : result.attested with
    | none =>
      simp only [hattested, refuseIf_bind_ok] at h
      exact absurd hrequire h.1
    | some attested =>
      rw [hattested] at h
      obtain ⟨e', hverify, h⟩ := bind_ok.mp h
      simp only [refuseIf_bind_ok, pure_ok, not_not, ne_eq] at h
      obtain ⟨hsigner, rfl⟩ := h
      exact hsigner ▸ verifyEvidence_signedBy (wrapError_ok.mp hverify)

/-- What is executed: the control plane settles the action, or the addressed node has signed
the answer. -/
lemma execute_returns {wire : Wire} {transport : Option (SignedAction → Result DispatchResponse)}
    {issued answered : Time} {a : Action} {x x' : RemoteExecutor} {e : Evidence}
    (hrequire : x.requireAttestation = true)
    (h : Proc.Returns (RemoteExecutor.execute wire transport issued answered a) x e x') :
    (a.kind.controlPlaneLocal = true ∧ cordonEvidence a = .ok e) ∨
      (a.kind.controlPlaneLocal = false ∧ SignedBy wire x.nodeKeys x.nodeID e) := by
  rw [RemoteExecutor.execute] at h
  simp only [returns_bind, returns_read, returns_lift, returns_guard] at h
  obtain ⟨_, _, ⟨rfl, rfl⟩, send, _, ⟨-, rfl⟩, _, _, ⟨-, rfl⟩, h⟩ := h
  cases hlocal : a.kind.controlPlaneLocal with
  | true =>
    rw [hlocal, if_pos rfl, returns_lift] at h
    exact .inl ⟨rfl, h.1⟩
  | false =>
    rw [hlocal, if_neg Bool.false_ne_true] at h
    simp only [returns_bind, returns_modify, returns_lift, returns_guard] at h
    obtain ⟨_, _, -, signed, _, -, response, _, -, _, _, -, result, _, -, htrusted, -⟩ := h
    exact .inr ⟨rfl, trustedEvidence_signedBy hrequire htrusted⟩

/-! ### Evidence about the reporting node -/

/-- The volume is on its way to the node. -/
def HandedTo (node : String) (v : Volume) : Prop := v.handoff.map (·.to_) = some node

/-- The evidence is no decision, it says who observed it, and what it names is on the
reporting node. A volume that is transferred may be on its way there; of an adoption nothing
is asked, nor of a creation, which writes no entry that exists. -/
structure Attributable (w : World) (node : String) (e : Evidence) : Prop where
  undecided : e.kind.decides = false
  observed : e.observe "node" ≠ ""
  allocations : e.kind ≠ .allocationCreated → ∀ id ∈ allocationsNamed w e, ∀ a : Allocation,
    w.allocations[id]? = some a → a.node = node
  volumes : e.kind ≠ .volumeCreated → e.kind ≠ .volumeAdopted → ∀ name ∈ volumesNamed e,
    ∀ v : Volume, w.volumes[name]? = some v →
      v.node = node ∨ (e.kind = .volumeTransferred ∧ HandedTo node v)
  nodes : e.kind.updatesTargetNode = true → e.target = node

/-- Nothing that is located on another node changes, apart from the volumes excepted, and no
approval. -/
structure Confined (node : String) (excepted : Volume → Prop) (w w' : World) : Prop where
  approvals : w'.approvals = w.approvals
  allocations : ∀ (id : String) (a : Allocation), w.allocations[id]? = some a → a.node ≠ node →
    w'.allocations[id]? = some a
  volumes : ∀ (name : String) (v : Volume), w.volumes[name]? = some v → v.node ≠ node →
    w'.volumes[name]? = some v ∨ excepted v
  nodes : ∀ id : String, id ≠ node → w'.nodes[id]? = w.nodes[id]?

section Confinement

variable {w w' : World} {e : Evidence} {node : String}

/-- A creation leaves the allocations that exist alone. -/
lemma created_allocation (h : Effect w e w') (hk : e.kind = .allocationCreated) {id : String}
    {a : Allocation} (ha : w.allocations[id]? = some a) : w'.allocations[id]? = some a := by
  cases h with
  | unchanged | volume | volumeCreated | node | decision =>
    rw [‹w'.allocations = w.allocations›, ha]
  | allocation _ _ hk' => rw [hk] at hk'; cases hk'
  | deleted _ hk' => rw [hk] at hk'; cases hk'
  | attached _ _ _ hk' => rw [hk] at hk'; cases hk'
  | detached _ _ hk' => rw [hk] at hk'; cases hk'
  | created _ _ _ hnew _ _ hins =>
    have hne : id ≠ e.target := by
      rintro rfl
      rw [hnew] at ha
      cases ha
    rw [hins, get_insert_of_ne hne, ha]

/-- A creation leaves the volumes that exist alone. -/
lemma created_volume (h : Effect w e w') (hk : e.kind = .volumeCreated) {name : String}
    {v : Volume} (hv : w.volumes[name]? = some v) : w'.volumes[name]? = some v := by
  cases h with
  | unchanged | allocation | created | deleted | node | decision =>
    rw [‹w'.volumes = w.volumes›, hv]
  | volume _ _ hk' => rw [hk] at hk'; cases hk'
  | attached _ _ _ hk' => rw [hk] at hk'; cases hk'
  | detached _ _ hk' => rw [hk] at hk'; cases hk'
  | volumeCreated _ _ hnew _ _ _ _ hins =>
    have hne : name ≠ e.target := by
      rintro rfl
      rw [hnew] at hv
      cases hv
    rw [hins, get_insert_of_ne hne, hv]

/-- A volume is adopted by the node it was handed to, or not at all. -/
lemma adopted_handedTo (h : project w e = .ok w') (hk : e.kind = .volumeAdopted)
    (hnode : e.observe "node" = node) {v : Volume} (hv : w.volumes[e.target]? = some v) :
    HandedTo node v := by
  obtain ⟨_, hinto, -⟩ := bind_ok.mp h
  simp only [projectInto, hk, projectVolumeAdopted, knownVolume, hv, require_some_bind,
    require_bind_ok, refuseIf_bind_ok, not_not, ne_eq] at hinto
  obtain ⟨handoff, hhandoff, -, hto, -⟩ := hinto
  rw [HandedTo, hhandoff, Option.map_some, ← hto, hnode]

/-- Attributable evidence of a node reaches no other, apart from a volume that is being handed
to it. -/
lemma confined_of_attributable (h : project w e = .ok w') (hown : Attributable w node e)
    (hnode : e.observe "node" = node) :
    Confined node (fun v => HandedTo node v ∧
      (e.kind = .volumeTransferred ∨ e.kind = .volumeAdopted)) w w' := by
  have heffect := project_effect h
  refine ⟨heffect.approvals_frame hown.undecided, ?_, ?_, ?_⟩
  · intro id a ha hother
    by_cases hk : e.kind = .allocationCreated
    · exact created_allocation heffect hk ha
    · by_cases hnamed : id ∈ allocationsNamed w e
      · exact absurd (hown.allocations hk id hnamed a ha) hother
      · rw [heffect.allocation_frame hnamed, ha]
  · intro name v hv hother
    by_cases hk : e.kind = .volumeCreated
    · exact .inl (created_volume heffect hk hv)
    · by_cases hnamed : name ∈ volumesNamed e
      · refine .inr ?_
        by_cases hadopted : e.kind = .volumeAdopted
        · have htarget : name = e.target := by
            simpa [volumesNamed, hadopted, EvidenceKind.updatesVolume] using hnamed
          exact ⟨adopted_handedTo h hadopted hnode (htarget ▸ hv), .inr hadopted⟩
        · obtain hhere | ⟨htransferred, hhanded⟩ := hown.volumes hk hadopted name hnamed v hv
          · exact absurd hhere hother
          · exact ⟨hhanded, .inl htransferred⟩
      · exact .inl (by rw [heffect.volume_frame hnamed, hv])
  · intro id hother
    refine heffect.node_frame fun hnamed => hother ?_
    -- a node is named by its observation, by the target, or by the allocation deleted
    rw [nodesNamed] at hnamed
    split at hnamed
    · exact (List.mem_singleton.mp hnamed).trans hnode
    · next hk =>
        obtain ⟨a, ha, rfl⟩ := Option.map_eq_some_iff.mp (Option.mem_toList.mp hnamed)
        exact hown.allocations (by rw [hk]; decide) e.target (by simp [allocationsNamed, hk]) a ha
    · rcases List.mem_append.mp hnamed with htarget | hobserved
      · split_ifs at htarget with hk
        · exact (List.mem_singleton.mp htarget).trans (hown.nodes hk)
        · cases htarget
      · split_ifs at hobserved
        · exact (List.mem_singleton.mp hobserved).trans hnode
        · cases hobserved

end Confinement

lemma Attributable.timed {w : World} {node : String} {e : Evidence} (h : Attributable w node e)
    (now : Time) : Attributable w node (timed now e) := by
  rw [Daemon.timed]
  split_ifs
  · exact ⟨h.undecided, h.observed, h.allocations, h.volumes, h.nodes⟩
  · exact h

/-- The node, and nothing but the node, is written. -/
def OnlyNode (node : String) (w w' : World) : Prop :=
  w'.approvals = w.approvals ∧ w'.allocations = w.allocations ∧ w'.volumes = w.volumes ∧
    ∀ id : String, id ≠ node → w'.nodes[id]? = w.nodes[id]?

/-- Settling a cordon writes the node the action targets. -/
lemma cordon_onlyNode {w w' : World} {a : Action} {e : Evidence} {now : Time}
    (hok : cordonEvidence a = .ok e) (h : project w (timed now e) = .ok w') :
    OnlyNode a.target w w' := by
  have hevidence : (e.kind = .nodeCordoned ∨ e.kind = .nodeUncordoned) ∧ e.target = a.target := by
    simp only [cordonEvidence, refuseIf_bind_ok, pure_ok] at hok
    obtain ⟨-, rfl⟩ := hok
    refine ⟨?_, rfl⟩
    dsimp only
    split_ifs
    · exact .inr rfl
    · exact .inl rfl
  obtain ⟨hkind, htarget⟩ := hevidence
  have heffect := project_effect h
  have hallocations : allocationsNamed w (timed now e) = [] := by
    rcases hkind with hk | hk <;>
      simp [allocationsNamed, hk, EvidenceKind.updatesAllocation]
  have hvolumes : volumesNamed (timed now e) = [] := by
    rcases hkind with hk | hk <;> simp [volumesNamed, hk, EvidenceKind.updatesVolume]
  have hnodes : nodesNamed w (timed now e) = [a.target] := by
    rcases hkind with hk | hk <;>
      simp [nodesNamed, hk, htarget, EvidenceKind.updatesTargetNode,
        EvidenceKind.updatesObservedNode]
  refine ⟨heffect.approvals_frame ?_, ?_, ?_, ?_⟩
  · rcases hkind with hk | hk <;> simp [hk, EvidenceKind.decides]
  · exact Table.ext fun id => heffect.allocation_frame (by simp [hallocations])
  · exact Table.ext fun name => heffect.volume_frame (by simp [hvolumes])
  · intro id hid
    exact heffect.node_frame (by simpa [hnodes] using hid)

/-- **What a node reports stays on the node.** With attestation required, whatever the node
answers: an action that the control plane settles writes the node it targets; any other
evidence that is accepted is signed with the key of the addressed node, and if it is
attributable, approvals and everything located elsewhere are left alone, apart from a volume
that is being handed to the node and that it reports transferred or adopted. -/
theorem execute_confined {wire : Wire} {transport : Option (SignedAction → Result DispatchResponse)}
    {issued answered now : Time} {a : Action} {x x' : RemoteExecutor} {e : Evidence} {w w' : World}
    (hrequire : x.requireAttestation = true)
    (hexecute : Proc.Returns (RemoteExecutor.execute wire transport issued answered a) x e x')
    (hproject : project w (timed now e) = .ok w') :
    (a.kind.controlPlaneLocal = true ∧ OnlyNode a.target w w') ∨
      (a.kind.controlPlaneLocal = false ∧ SignedBy wire x.nodeKeys x.nodeID e ∧
        (Attributable w x.nodeID e → Confined x.nodeID
          (fun v => HandedTo x.nodeID v ∧ (e.kind = .volumeTransferred ∨ e.kind = .volumeAdopted))
          w w')) := by
  obtain ⟨hlocal, hok⟩ | ⟨hremote, hsigned⟩ := execute_returns hrequire hexecute
  · exact .inl ⟨hlocal, cordon_onlyNode hok hproject⟩
  · refine .inr ⟨hremote, hsigned, fun hown => ?_⟩
    have hnode : (timed now e).observe "node" = x.nodeID := by
      rw [timed_observe]
      exact hsigned.2.resolve_left hown.observed
    have hconfined := confined_of_attributable hproject (hown.timed now) hnode
    rwa [timed_kind] at hconfined

/-! ### A node that reports on others -/

namespace Reporting

def moving : VolumeHandoff :=
  { from_ := "n1", to_ := "n2", phase := .transferred, snapshot := "s", checksum := "c" }

/-- The first node runs an allocation and hands a volume to the second. -/
def world : World :=
  { nodes := Table.ofEntries [("n1", { id := "n1" }), ("n2", { id := "n2" })]
    allocations := Table.ofEntries
      [("web-0", { id := "web-0", workload := "web", node := "n1", phase := .running })]
    volumes := Table.ofEntries
      [("data", { name := "data", node := "n1", handoff := some moving })] }

def adopted : Evidence :=
  { kind := .volumeAdopted, target := "data", observedAt := 100
    observed := Table.ofEntries [("node", "n2")] }

def stopped : Evidence :=
  { kind := .allocationStopped, target := "web-0", observedAt := 100
    observed := Table.ofEntries [("node", "n2")] }

def granted : Evidence :=
  { kind := .approvalGranted, target := "approval", observedAt := 100
    observed := Table.ofEntries [("node", "n2"), ("goal", "web"), ("scope", "destroy-stateful")] }

def action : Action := { id := "adopt", kind := .adoptVolume, node := "n2" }

/-- The executor of the second node, whose key is enrolled. -/
def executor : RemoteExecutor :=
  { nodeID := "n2", keyID := "controller", privateKey := List.replicate 64 0
    goalID := "move", proposalID := "plan"
    nodeKeys := Table.ofEntries [("n2", List.replicate 32 0)], requireAttestation := true }

/-- The second node signs the evidence. -/
def wire (e : Evidence) : Wire :=
  { scriptWire [] with decodeEvidence := fun _ => .ok (e, false) }

def answer (e : Evidence) (_ : SignedAction) : Result DispatchResponse :=
  let attested : AttestedEvidence := { evidenceBytes := [0], nodeID := "n2", signature := "" }
  .ok { result := some { evidence := e, attested := some attested } }

/-- The call that is answered with the evidence. -/
def call (e : Evidence) : Proc RemoteExecutor Evidence :=
  RemoteExecutor.execute (wire e) (some (answer e)) 100 101 action

lemma adopted_returns : ∃ x', Proc.Returns (call adopted) executor adopted x' := ⟨_, rfl⟩

lemma stopped_returns : ∃ x', Proc.Returns (call stopped) executor stopped x' := ⟨_, rfl⟩

lemma granted_returns : ∃ x', Proc.Returns (call granted) executor granted x' := ⟨_, rfl⟩

/-- The executor of the second node hands the report on, and its projection changes what is not
of that node. -/
def ReachesElsewhere (e : Evidence) : Prop :=
  (∃ x', Proc.Returns (call e) executor e x') ∧
    ∃ w', project world (timed 101 e) = .ok w' ∧ ¬ Confined "n2" (fun _ => False) world w'

end Reporting

open Reporting

/-- **Three reports that reach elsewhere**: the second node adopts the volume of the first, as
a handoff asks for; and it is believed as well when it stops an allocation of the first, or
grants an approval. -/
theorem reports_reach_elsewhere :
    ReachesElsewhere adopted ∧ ReachesElsewhere stopped ∧
      ReachesElsewhere granted := by
  refine ⟨⟨adopted_returns, _, rfl, fun h => ?_⟩, ⟨stopped_returns, _, rfl, fun h => ?_⟩,
    granted_returns, _, rfl, fun h => ?_⟩
  · have hdata := (h.volumes "data" _ rfl (by decide)).resolve_right id
    exact absurd hdata (by decide)
  · have hweb := h.allocations "web-0" _ rfl (by decide)
    exact absurd hweb (by decide)
  · have hsame := congrArg (fun t : Table Approval => t["approval"]?.isSome) h.approvals
    exact absurd hsame (by decide)

/-- The adoption writes the volume that was handed over, and nothing else of another node. -/
theorem execute_confined_adopted :
    ∃ w', project world (timed 101 adopted) = .ok w' ∧
      Confined "n2" (fun v => HandedTo "n2" v ∧ (adopted.kind = .volumeTransferred ∨
        adopted.kind = .volumeAdopted)) world w' := by
  have hproject : ∃ w', project world (timed 101 adopted) = .ok w' := ⟨_, rfl⟩
  obtain ⟨w', hproject⟩ := hproject
  obtain ⟨x', hreturns⟩ := adopted_returns
  have hown : Attributable world "n2" adopted :=
    { undecided := rfl
      observed := by decide
      allocations := by
        intro _ id hid
        cases hid
      volumes := fun _ hadopted => absurd rfl hadopted
      nodes := fun hk => by cases hk }
  obtain ⟨hlocal, -⟩ | ⟨-, -, hconfined⟩ := execute_confined rfl hreturns hproject
  · cases hlocal
  · exact ⟨w', hproject, hconfined hown⟩

end A4s.Daemon
