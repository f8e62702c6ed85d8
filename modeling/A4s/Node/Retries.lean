/-
Envelopes that arrive again (`Dispatcher.Dispatch` of `node/dispatcher.go`, `Execute` and
`trustedEvidence` of `node/remote.go`).

A reply may be lost after the node has acted, so the controller sends the work again, under the
same idempotency key and in a new envelope. The node answers from its ledger what it has carried
out before, with the attestation it gave then.

* `Arrival`, `Later`: envelopes that reach a node, and the states that follow on one another.
* `Executes`: a dispatch gets as far as the runtime, and the runtime returns.
* `dispatched_once`: **each key is carried out at most once**, and answered the same ever after.
* `retry_accepted_iff`: **when the controller accepts the answer to a retry.**
-/
import A4s.Node.Remote

namespace A4s.Daemon

open Go

/-! ### Envelopes that reach a node -/

/-- A signed envelope, with the machine and the capabilities that it meets. -/
structure Arrival where
  capabilities : Capabilities
  machine : Machine
  signed : SignedAction

namespace Arrival

def envelope (wire : Wire) (config : Config) (x : Arrival) : Result ActionEnvelope :=
  verify wire x.signed config.keys config.nodeID x.machine.now

def dispatch (wire : Wire) (config : Config) (x : Arrival) : Proc NodeState DispatchResult :=
  Daemon.dispatch wire config x.capabilities x.machine x.signed

def execute (x : Arrival) (a : Action) : Proc NodeState Evidence :=
  CompositeRuntime.execute x.capabilities x.machine a

end Arrival

/-- The states after a state: envelopes arrive in any number and order and end in any way, and
whatever else the daemon does leaves the ledger alone. -/
inductive Later (wire : Wire) (config : Config) (d : NodeState) : NodeState → Prop
  | now : Later wire config d d
  | dispatched (x : Arrival) {d' : NodeState} (h : Later wire config d d') :
      Later wire config d (x.dispatch wire config d').2
  | other {d' d'' : NodeState} (h : Later wire config d d') (hledger : d''.ledger = d'.ledger) :
      Later wire config d d''

section Once

variable {wire : Wire} {config : Config} {x y : Arrival} {d d' : NodeState}
  {work : ActionEnvelope} {r : DispatchResult}

/-- A dispatch leaves the answers alone that are stored. -/
lemma dispatch_keeps_stored {key : String} (h : d.ledger[key]? = some r) :
    (x.dispatch wire config d).2.ledger[key]? = some r := by
  have hpair : x.dispatch wire config d = (_, (x.dispatch wire config d).2) := rfl
  rcases dispatch_ledger_cases hpair with hkept | ⟨work, r', d₁, hfresh, -, -, hstored⟩
  · rw [hkept]
    exact h
  · have hne : key ≠ work.idempotencyKey := by
      rintro rfl
      cases hfresh.new.symm.trans h
    rw [hstored, get_insert_of_ne hne]
    exact h

/-- What is stored stays. -/
lemma Later.keeps_stored {key : String} (h : Later wire config d d')
    (hget : d.ledger[key]? = some r) : d'.ledger[key]? = some r := by
  induction h with
  | now => exact hget
  | dispatched x _ ih => exact dispatch_keeps_stored ih
  | other _ hledger ih =>
    rw [hledger]
    exact ih

/-- The dispatch gets as far as `Runtime.Execute`, which returns evidence. -/
structure Executes (wire : Wire) (config : Config) (x : Arrival) (d : NodeState)
    (work : ActionEnvelope) : Prop where
  fresh : Fresh wire config x.machine x.signed d work
  succeeds : ∃ e d₁, Proc.Returns (x.execute work.action) d e d₁

/-- The attestation of what the runtime reports, the record of the intent and the write of the
ledger succeed. -/
structure Writes (wire : Wire) (config : Config) (x : Arrival) (d : NodeState) : Prop where
  attests : ∀ work e d₁, x.envelope wire config = .ok work →
    Proc.Returns (x.execute work.action) d e d₁ →
    ∃ attested, attest wire config (attribute_ config x.machine.now e work.action) = .ok attested
  records : ∀ work e d₁, x.envelope wire config = .ok work →
    Proc.Returns (x.execute work.action) d e d₁ →
    ∃ d₂, Proc.Returns (onDesired (recordDesired x.machine work.action)) d₁ () d₂
  saves : x.machine.saveLedger = .ok ()

/-- If the writes succeed, what was executed is stored. -/
lemma Executes.stored (h : Executes wire config x d work) (hwrites : Writes wire config x d) :
    ∃ r, (x.dispatch wire config d).1 = .ok r ∧ r.envelopeDigest = workDigest wire work ∧
      (x.dispatch wire config d).2.ledger[work.idempotencyKey]? = some r := by
  obtain ⟨e, d₁, hexecute⟩ := h.succeeds
  obtain ⟨attested, hattest⟩ := hwrites.attests work e d₁ h.fresh.verified hexecute
  obtain ⟨d₂, hrecord⟩ := hwrites.records work e d₁ h.fresh.verified hexecute
  have hperform : Proc.Returns (perform wire config x.capabilities x.machine work.action) d
      (attribute_ config x.machine.now e work.action, attested) d₂ := by
    simp only [perform, returns_bind, returns_lift, returns_pure]
    exact ⟨e, d₁, hexecute, attested, d₁, ⟨hattest, rfl⟩, (), d₂, hrecord, rfl, rfl⟩
  have hdispatch : x.dispatch wire config d = _ := dispatch_of_performed h.fresh hperform
  rw [hwrites.saves] at hdispatch
  exact ⟨_, congrArg Prod.fst hdispatch, rfl, by rw [hdispatch]; exact get_insert_self⟩

/-- A key that is stored is not carried out. -/
lemma not_executes_of_stored (hget : d.ledger[work.idempotencyKey]? = some r) :
    ¬Executes wire config x d work :=
  fun h => nomatch h.fresh.new.symm.trans hget

/-- **Each idempotency key is carried out at most once.** After a dispatch in which the runtime
has succeeded, and whose answer is stored, no later dispatch under the same key gets as far as the
runtime: the same work is answered with the stored result, other work is refused, and neither
changes the node. A probe is answered without regard to the state, and leaves it as it is. -/
theorem dispatched_once (hwrites : Writes wire config x d) (hx : Executes wire config x d work) :
    (∃ r, (x.dispatch wire config d).1 = .ok r ∧
      ∀ (d' : NodeState) (y : Arrival) (again : ActionEnvelope),
        Later wire config (x.dispatch wire config d).2 d' →
        y.envelope wire config = .ok again → again.idempotencyKey = work.idempotencyKey →
        again.action.kind ≠ .probeReadiness →
        ¬Executes wire config y d' again ∧
          y.dispatch wire config d' =
            (if workDigest wire again = workDigest wire work then .ok r
              else fail
                (s!"idempotency key {quote again.idempotencyKey} was reused for a different " ++
                  "envelope"), d')) ∧
      ∀ (d' : NodeState) (y : Arrival) (again : ActionEnvelope),
        y.envelope wire config = .ok again → again.action.kind = .probeReadiness →
        y.dispatch wire config d' = (probe wire config y.machine again, d') := by
  obtain ⟨r, hanswer, hdigest, hstored⟩ := hx.stored hwrites
  refine ⟨⟨r, hanswer, fun d' y again hlater hverify hkey hprobe => ?_⟩,
    fun d' y again hverify hprobe => dispatch_of_probe hverify hprobe d'⟩
  have hget : d'.ledger[again.idempotencyKey]? = some r := by
    rw [hkey]
    exact hlater.keeps_stored hstored
  refine ⟨not_executes_of_stored hget, (dispatch_of_stored hverify hprobe hget).trans ?_⟩
  rw [hdigest]
  simp only [eq_comm (a := workDigest wire work)]

end Once

/-! ### The answer to a retry -/

/-- `Serve`: the response to one message. The envelope id, which is there for logs, is left
out. -/
def respond (wire : Wire) (config : Config) (x : Arrival) (d : NodeState) : DispatchResponse :=
  match (x.dispatch wire config d).1 with
  | .ok r => { result := some r }
  | .error (.error text) | .error (.panic text) => { error := text }

/-- The authorisation is the same, in a new envelope: the lease, the revision and the count of
envelopes may have changed. -/
def RemoteExecutor.again (x : RemoteExecutor) (revision : UInt64) (leaseID : String)
    (sequence : UInt64) : RemoteExecutor :=
  { x with revision := revision, leaseID := leaseID, sequence := sequence }

section Retry

variable {wire : Wire} {config : Config} {x : RemoteExecutor} {a : Action} {e : Evidence}
  {r : DispatchResult} {first retry : Arrival} {d d' : NodeState}

lemma attestationMaxAge_pos (x : RemoteExecutor) : 0 < x.attestationMaxAge := by
  unfold RemoteExecutor.attestationMaxAge
  split_ifs with h
  · exact h
  · decide

/-- Evidence that nobody signs, or whose signature nobody can check. -/
lemma trustedEvidence_unsigned {now : Time} (h : x.nodeKeys.isEmpty = true ∨ r.attested = none) :
    x.trustedEvidence wire r a now = .ok e ↔ x.requireAttestation = false ∧ r.evidence = e := by
  rw [RemoteExecutor.trustedEvidence]
  by_cases hkeys : x.nodeKeys.isEmpty = true
  · rw [if_pos hkeys, refuseIf_bind_ok, pure_ok, Bool.not_eq_true]
  · rw [if_neg hkeys, h.resolve_left hkeys]
    dsimp only
    rw [refuseIf_bind_ok, pure_ok, Bool.not_eq_true]

/-- Signed evidence, where there are keys to check it. -/
lemma trustedEvidence_signed {now : Time} {attested : AttestedEvidence}
    (hkeys : ¬x.nodeKeys.isEmpty = true) (hattested : r.attested = some attested) :
    x.trustedEvidence wire r a now = .ok e ↔
      (Authentic wire attested x.nodeKeys e ∧ attested.nodeID = x.nodeID) ∧
        Timely now x.attestationMaxAge e := by
  rw [RemoteExecutor.trustedEvidence, if_neg hkeys, hattested]
  dsimp only
  rw [bind_ok]
  constructor
  · rintro ⟨e', hverify, hrest⟩
    rw [refuseIf_bind_ok, pure_ok, not_not] at hrest
    obtain ⟨hnode, rfl⟩ := hrest
    obtain ⟨hauthentic, htimely⟩ := verifyEvidence_iff.mp (wrapError_ok.mp hverify)
    exact ⟨⟨hauthentic, hnode⟩, htimely⟩
  · rintro ⟨⟨hauthentic, hnode⟩, htimely⟩
    refine ⟨e, wrapError_ok.mpr (verifyEvidence_iff.mpr ⟨hauthentic, htimely⟩), ?_⟩
    rw [refuseIf_bind_ok, pure_ok, not_not]
    exact ⟨hnode, rfl⟩

/-- The time at which an answer is checked matters only for signed evidence, which may be too
old by then. -/
lemma trustedEvidence_again {lost answered : Time} (htime : lost ≤ answered)
    (hlost : x.trustedEvidence wire r a lost = .ok e) (e' : Evidence) :
    x.trustedEvidence wire r a answered = .ok e' ↔ e' = e ∧
      (x.nodeKeys.isEmpty = true ∨ r.attested = none ∨ e.observedAt = 0 ∨
        answered - e.observedAt ≤ x.attestationMaxAge) := by
  by_cases hkeys : x.nodeKeys.isEmpty = true
  · obtain ⟨hrequire, rfl⟩ := (trustedEvidence_unsigned (.inl hkeys)).mp hlost
    rw [trustedEvidence_unsigned (.inl hkeys)]
    exact ⟨fun h => ⟨h.2.symm, .inl hkeys⟩, fun h => ⟨hrequire, h.1.symm⟩⟩
  cases hattested : r.attested with
  | none =>
    obtain ⟨hrequire, rfl⟩ := (trustedEvidence_unsigned (.inr hattested)).mp hlost
    rw [trustedEvidence_unsigned (.inr hattested)]
    exact ⟨fun h => ⟨h.2.symm, .inr (.inl rfl)⟩, fun h => ⟨hrequire, h.1.symm⟩⟩
  | some attested =>
    obtain ⟨hsigned, htimely⟩ := (trustedEvidence_signed hkeys hattested).mp hlost
    rw [trustedEvidence_signed hkeys hattested]
    have hpositive := attestationMaxAge_pos x
    constructor
    · rintro ⟨hsigned', htimely'⟩
      have hsame := hsigned'.1.decoded.symm.trans hsigned.1.decoded
      cases hsame
      refine ⟨rfl, .inr (.inr ?_)⟩
      by_cases hzero : e.observedAt = 0
      · exact .inl hzero
      · exact .inr (htimely' ⟨hpositive, hzero⟩).1
    · rintro ⟨rfl, hyoung⟩
      refine ⟨hsigned, fun hdated => ⟨?_, ?_⟩⟩
      · rcases hyoung with hkeys' | hnone | hzero | hyoung
        · exact absurd hkeys' hkeys
        · cases hnone
        · exact absurd hzero hdated.2
        · exact hyoung
      · exact (htimely hdated).2.trans (Int.add_le_add_right htime _)

/-- A node attests if it has a key to sign with. -/
lemma attest_eq_none {attested : Option AttestedEvidence}
    (h : attest wire config e = .ok attested) : attested = none ↔ config.identityKey = [] := by
  rw [attest] at h
  by_cases hkey : config.identityKey = []
  · rw [if_pos hkey, pure_ok] at h
    exact iff_of_true h.symm hkey
  · rw [if_neg hkey] at h
    obtain ⟨signed, -, h⟩ := bind_ok.mp h
    rw [pure_ok] at h
    subst h
    exact iff_of_false nofun hkey

/-- What the controller makes of an answer. -/
lemma execute_of_answer {send : SignedAction → Result DispatchResponse} {signed : SignedAction}
    {issued answered : Time} (hgoal : x.goalID ≠ "") (hproposal : x.proposalID ≠ "")
    (hlocal : a.kind.controlPlaneLocal = false)
    (hsign : sign wire (x.envelope issued (x.sequence + 1) a) x.keyID x.privateKey = .ok signed)
    (hsend : send signed = .ok { result := some r }) :
    (RemoteExecutor.execute wire (some send) issued answered a x).1 =
      x.trustedEvidence wire r a answered := by
  have hbound : ¬(x.goalID = "" ∨ x.proposalID = "") := not_or.mpr ⟨hgoal, hproposal⟩
  rw [RemoteExecutor.execute, bind_of_returns (returns_read.mpr ⟨rfl, rfl⟩)]
  dsimp only [id_eq]
  rw [bind_of_returns (returns_lift.mpr ⟨require_ok.mpr rfl, rfl⟩),
    bind_of_returns (a := ()) (returns_guard.mpr ⟨hbound, rfl⟩),
    if_neg (by rw [hlocal]; exact Bool.false_ne_true),
    bind_of_returns (a := ()) (returns_modify.mpr rfl),
    bind_of_returns (returns_lift.mpr ⟨wrapError_ok.mpr hsign, rfl⟩),
    bind_of_returns (returns_lift.mpr ⟨wrapError_ok.mpr hsend, rfl⟩),
    bind_of_returns (a := ()) (returns_guard.mpr ⟨not_not.mpr rfl, rfl⟩),
    bind_of_returns (returns_lift.mpr ⟨require_ok.mpr rfl, rfl⟩)]
  rfl

/-- The control plane settles cordons itself, and the runtime knows nothing of them. -/
lemma not_local_of_executes {work : ActionEnvelope} (h : Executes wire config first d work) :
    work.action.kind.controlPlaneLocal = false := by
  obtain ⟨e, d₁, hexecute⟩ := h.succeeds
  rw [Arrival.execute, CompositeRuntime.execute] at hexecute
  cases hkind : work.action.kind
  case cordonNode | uncordonNode =>
    rw [hkind] at hexecute
    cases (returns_lift.mp hexecute).1
  all_goals rfl

/-- What was executed and answered is in the ledger, signed if the node has a key. -/
lemma stored_of_answered {work : ActionEnvelope} (h : Executes wire config first d work)
    (hanswer : (first.dispatch wire config d).1 = .ok r) :
    r.envelopeDigest = workDigest wire work ∧ (r.attested = none ↔ config.identityKey = []) ∧
      (first.dispatch wire config d).2.ledger[work.idempotencyKey]? = some r := by
  have hreturns : Proc.Returns (first.dispatch wire config) d r (first.dispatch wire config d).2 :=
    Prod.ext hanswer rfl
  obtain ⟨hdigest, d₁, hperform, hstate⟩ :=
    dispatch_first h.fresh.verified h.fresh.mutation h.fresh.new hreturns
  refine ⟨hdigest, ?_, ?_⟩
  · simp only [perform, returns_bind, returns_lift, returns_pure] at hperform
    obtain ⟨e, _, -, attested, _, ⟨hattest, rfl⟩, _, _, -, hpair, -⟩ := hperform
    obtain ⟨-, rfl⟩ := Prod.mk.inj hpair
    exact attest_eq_none hattest
  · rw [hstate]
    exact get_insert_self

/-- A new envelope of the same authorisation asks for the same work, under the same key. -/
lemma again_envelope (wire : Wire) (x : RemoteExecutor) (a : Action) (issued reissued : Time)
    (sequence sequence' revision count : UInt64) (leaseID : String) :
    ((x.again revision leaseID count).envelope reissued sequence' a).idempotencyKey =
        (x.envelope issued sequence a).idempotencyKey ∧
      ((x.again revision leaseID count).envelope reissued sequence' a).action = a ∧
      workDigest wire ((x.again revision leaseID count).envelope reissued sequence' a) =
        workDigest wire (x.envelope issued sequence a) :=
  ⟨rfl, rfl, rfl⟩

/-- **When a retry is accepted.** The node has carried the action out and stored the answer,
which would have been accepted at the time it was lost. The action is sent again, for the same
proposal and in a fresh valid envelope. The controller accepts the answer exactly if no key of
a node is enrolled, or the node signs nothing, or the attestation that was given when the action was
carried out is still young enough; and then the evidence is what it would have been. -/
theorem retry_accepted_iff {issued lost reissued answered : Time} {sequence sequence' : UInt64}
    {revision : UInt64} {leaseID : String}
    (hx : Executes wire config first d (x.envelope issued sequence a))
    (hanswer : (first.dispatch wire config d).1 = .ok r)
    (hlost : x.trustedEvidence wire r a lost = .ok e)
    (hlater : Later wire config (first.dispatch wire config d).2 d') (htime : lost ≤ answered)
    (hsign : sign wire ((x.again revision leaseID sequence').envelope reissued (sequence' + 1) a)
      x.keyID x.privateKey = .ok retry.signed)
    (hvalid : retry.envelope wire config =
      .ok ((x.again revision leaseID sequence').envelope reissued (sequence' + 1) a)) :
    ∀ e', (RemoteExecutor.execute wire
        (some fun signed => .ok (respond wire config { retry with signed := signed } d'))
        reissued answered a (x.again revision leaseID sequence')).1 = .ok e' ↔
      e' = e ∧ (x.nodeKeys.isEmpty = true ∨ config.identityKey = [] ∨ e.observedAt = 0 ∨
        answered - e.observedAt ≤ x.attestationMaxAge) := by
  intro e'
  obtain ⟨hdigest, hattested, hstored⟩ := stored_of_answered hx hanswer
  obtain ⟨-, hgoal, hproposal, -⟩ := validateEnvelope_ok (verify_valid hx.fresh.verified).1
  obtain ⟨hkey, haction, hwork⟩ := again_envelope wire x a issued reissued sequence
    (sequence' + 1) revision sequence' leaseID
  have hstored' := hlater.keeps_stored hstored
  rw [← hkey] at hstored'
  rw [← hwork] at hdigest
  have hprobe := hx.fresh.mutation
  change a.kind ≠ _ at hprobe
  rw [← haction] at hprobe
  have hdispatch : (retry.dispatch wire config d').1 = .ok r := by
    have hknown : retry.dispatch wire config d' = _ := dispatch_of_stored hvalid hprobe hstored'
    rw [hknown]
    exact if_pos hdigest
  let send (signed : SignedAction) : Result DispatchResponse :=
    .ok (respond wire config { retry with signed := signed } d')
  have hsend : send retry.signed = .ok { result := some r } := by
    change Except.ok (respond wire config retry d') = _
    rw [respond, hdispatch]
  have hlocal : a.kind.controlPlaneLocal = false := not_local_of_executes hx
  have hexecute : (RemoteExecutor.execute wire (some send) reissued answered a
      (x.again revision leaseID sequence')).1 = x.trustedEvidence wire r a answered :=
    execute_of_answer (x := x.again revision leaseID sequence') hgoal hproposal hlocal hsign hsend
  change (RemoteExecutor.execute wire (some send) reissued answered a
      (x.again revision leaseID sequence')).1 = .ok e' ↔ _
  rw [hexecute, ← hattested]
  exact trustedEvidence_again htime hlost e'

end Retry

namespace Retry

/-- The network of a replica is attached. -/
def attach : Action :=
  { id := "attach-web-0", kind := .attachNetwork, target := "web-0", workload := "web"
    node := "n1" }

def executor : RemoteExecutor :=
  { nodeID := "n1", keyID := "key", privateKey := List.replicate 64 0, goalID := "web"
    proposalID := "placement-agent-r0", leaseID := "lease-1"
    nodeKeys := Table.ofEntries [("n1", List.replicate 32 0)], requireAttestation := true }

def config : Config :=
  { nodeID := "n1", keys := Table.ofEntries [("key", List.replicate 32 0)]
    identityKey := List.replicate 64 0 }

def evidence : Evidence :=
  { kind := .networkAttached, target := "web-0", source := "node:n1", observedAt := 100 * second
    observed := (Table.ofEntries [("address", "10.42.1.2"), ("namespace", "web-0"),
      ("interface", "eth0"), ("already_attached", "false")]).insert "node" "n1" }

/-- The envelope of the first attempt, and of a retry at the given time. -/
def original : ActionEnvelope := executor.envelope (100 * second) 1 attach

def repeated (now : Time) : ActionEnvelope :=
  (executor.again 0 "lease-2" 1).envelope now 2 attach

/-- A wire that carries the two envelopes and the evidence. -/
def wire (now : Time) : Wire :=
  { scriptWire [original, repeated now] with
    encodeEnvelope := fun e => if e = original then [0] else [1]
    decodeEvidence := fun _ => .ok (evidence, false) }

/-- An envelope that arrives at the given time. -/
def arrival (position : UInt8) (now : Time) : Arrival :=
  { capabilities := bareCapabilities true, machine := { quietMachine with now := now }
    signed := { envelopeBytes := [position], keyID := "key", signature := "" } }

def start : NodeState := { volumes := { root := "/volumes" } }

def answer : DispatchResult :=
  { evidence := evidence
    attested := some { evidenceBytes := [0], nodeID := "n1", signature := "" } }

lemma fresh (now : Time) : Fresh (wire now) config (arrival 0 (100 * second)).machine
    (arrival 0 (100 * second)).signed start original where
  verified := rfl
  mutation := nofun
  new := rfl
  free := rfl

lemma answered (now : Time) :
    ((arrival 0 (100 * second)).dispatch (wire now) config start).1 = .ok answer := by
  rfl

lemma executes (now : Time) :
    Executes (wire now) config (arrival 0 (100 * second)) start original :=
  ⟨fresh now, _, _, rfl⟩

lemma writes (now : Time) : Writes (wire now) config (arrival 0 (100 * second)) start where
  attests := by
    intro work e d₁ hverify hexecute
    cases hverify.symm.trans (fresh now).verified
    cases hexecute
    exact ⟨_, rfl⟩
  records := by
    intro work e d₁ hverify hexecute
    cases hverify.symm.trans (fresh now).verified
    exact ⟨_, rfl⟩
  saves := rfl

end Retry

open Retry

/-- The second envelope is answered with the result of the first, ten minutes later too. -/
theorem dispatched_once_retry :
    (arrival 1 (700 * second)).dispatch (wire (700 * second)) config
        ((arrival 0 (100 * second)).dispatch (wire (700 * second)) config start).2 =
      (.ok answer, ((arrival 0 (100 * second)).dispatch (wire (700 * second)) config start).2) := by
  obtain ⟨⟨r, hanswer, honce⟩, -⟩ :=
    dispatched_once (writes (700 * second)) (executes (700 * second))
  cases hanswer.symm.trans (answered (700 * second))
  have hwork : workDigest (wire (700 * second)) (repeated (700 * second)) =
      workDigest (wire (700 * second)) original := rfl
  obtain ⟨-, hagain⟩ := honce _ (arrival 1 (700 * second)) (repeated (700 * second))
    .now rfl rfl nofun
  rw [if_pos hwork] at hagain
  exact hagain

namespace Retry

/-- The reply to the first envelope is lost, and the action is sent again at the given time. -/
def resent (now : Time) : Result Evidence :=
  (RemoteExecutor.execute (wire now)
    (some fun signed => .ok (respond (wire now) config { arrival 1 now with signed := signed }
      ((arrival 0 (100 * second)).dispatch (wire now) config start).2))
    now now attach (executor.again 0 "lease-2" 1)).1

end Retry

/-- A retry after two minutes is accepted. -/
theorem retry_accepted_soon : resent (220 * second) = .ok evidence := by
  have hlost : executor.trustedEvidence (wire (220 * second)) answer
      attach (100 * second) = .ok evidence := rfl
  refine (retry_accepted_iff (executes (220 * second)) (answered (220 * second)) hlost
    .now (by decide) (by rfl) (by rfl) evidence).mpr ⟨rfl, .inr (.inr (.inr (by decide)))⟩

/-- The node has attached the network and remembers it, but the reply was lost. Ten minutes later
the answer from its ledger carries the attestation of then, and is refused as too old. -/
theorem retry_refused :
    ((arrival 1 (700 * second)).dispatch (wire (700 * second)) config
        ((arrival 0 (100 * second)).dispatch (wire (700 * second)) config start).2).1 = .ok answer ∧
      executor.trustedEvidence (wire (700 * second)) answer attach (100 * second) = .ok evidence ∧
      resent (700 * second) = fail ("evidence for action \"attach-web-0\": " ++
        "attested evidence is older than ") :=
  ⟨rfl, rfl, by decide +kernel⟩

end A4s.Daemon
