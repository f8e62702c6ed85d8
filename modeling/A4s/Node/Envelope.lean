/-
Signed actions and attested evidence (`node/envelope.go`, `control/attest.go`).

The controller signs the bytes of an envelope and the node signs the bytes of its
evidence; each side checks the signature first and decodes only what it covers. Keys,
digests and the strict JSON codec are libraries (`Wire`).

* `verify_ok`: what an envelope that a node accepts is known to say.
* `verifyEvidence_iff`: what evidence the controller accepts: authentic and not too old.
-/
import A4s.Control.Projection

namespace A4s.Daemon

variable {wire : Wire} {e : ActionEnvelope}

open Go

/-- `ActionEnvelope`: the authority to carry out one action on one node. -/
structure ActionEnvelope where
  version : Int64
  id : String
  nodeID : String
  goalID : String
  proposalID : String
  worldRevision : UInt64
  leaseID : String
  idempotencyKey : String
  issuedAt : Time
  expiresAt : Time
  action : Action
  deriving DecidableEq

/-- What an envelope authorises, apart from when it was issued. -/
structure Work where
  nodeID : String
  goalID : String
  proposalID : String
  idempotencyKey : String
  action : Action
  deriving DecidableEq

/-- `SignedAction`: the bytes that were signed. -/
structure SignedAction where
  envelopeBytes : Bytes
  keyID : String
  signature : String
  deriving DecidableEq

/-- `AttestedEvidence`: the bytes of an observation under a node's signature. -/
structure AttestedEvidence where
  evidenceBytes : Bytes
  nodeID : String
  signature : String
  deriving DecidableEq

/-- The libraries under a signed message: Ed25519, the two base64 alphabets, SHA-256 in
hex, the JSON codec, and the renderings of times. A decoder refuses unknown fields
and says whether more input follows. -/
structure Wire where
  verify : Bytes → Bytes → Bytes → Bool
  sign : Bytes → Bytes → Bytes
  rawBase64 : String → Result Bytes
  stdBase64 : String → Option Bytes
  rawBase64Text : Bytes → String
  stdBase64Text : Bytes → String
  sha256Hex : Bytes → String
  encodeEnvelope : ActionEnvelope → Bytes
  decodeEnvelope : Bytes → Result (ActionEnvelope × Bool)
  encodeWork : Work → Bytes
  encodeEvidence : Evidence → Bytes
  decodeEvidence : Bytes → Result (Evidence × Bool)
  durationText : Duration → String
  rfc3339 : Time → String

/-- A wire that carries the given envelopes by their positions and checks nothing. -/
def scriptWire (envelopes : List ActionEnvelope) : Wire :=
  { verify := fun _ _ _ => true, sign := fun _ _ => [], rawBase64 := fun _ => .ok []
    stdBase64 := fun _ => some [], rawBase64Text := fun _ => "", stdBase64Text := fun _ => ""
    sha256Hex := fun _ => "", encodeEnvelope := fun _ => [0]
    decodeEnvelope := fun bytes =>
      match envelopes[(bytes.headD 0).toNat]? with
      | some e => .ok (e, false)
      | none => fail "no such message"
    encodeWork := fun _ => [0], encodeEvidence := fun _ => [0]
    decodeEvidence := fun _ => fail "no evidence", durationText := fun _ => ""
    rfc3339 := fun _ => "" }

/-- `ed25519.PublicKeySize`. -/
def publicKeySize : ℕ := 32

/-- `ed25519.PrivateKeySize`. -/
def privateKeySize : ℕ := 64

/-- `EnvelopeVersion`. -/
def envelopeVersion : Int64 := 1

/-! ### Envelopes -/

def validateEnvelope (e : ActionEnvelope) : Result Unit := do
  refuseIf (e.version ≠ envelopeVersion)
    s!"unsupported action envelope version {sprintInt e.version}"
  refuseIf (e.id = "" ∨ e.nodeID = "" ∨ e.goalID = "" ∨ e.proposalID = "" ∨ e.leaseID = "" ∨
    e.idempotencyKey = "") "action envelope identity fields are required"
  refuseIf (e.issuedAt = 0 ∨ e.expiresAt = 0 ∨ ¬e.issuedAt < e.expiresAt)
    "action envelope time window is invalid"
  refuseIf (e.action.node ≠ "" ∧ e.action.node ≠ e.nodeID) "action node and envelope node differ"

/-- `Sign`. -/
def sign (wire : Wire) (e : ActionEnvelope) (keyID : String) (privateKey : Bytes) :
    Result SignedAction := do
  validateEnvelope e
  refuseIf (keyID = "" ∨ privateKey.length ≠ privateKeySize)
    "valid signing key id and private key are required"
  let payload := wire.encodeEnvelope e
  return { envelopeBytes := payload, keyID := keyID
           signature := wire.rawBase64Text (wire.sign privateKey payload) }

/-- `Verify`: the signature is checked before the payload is interpreted. -/
def verify (wire : Wire) (signed : SignedAction) (keys : Table Bytes) (nodeID : String)
    (now : Time) : Result ActionEnvelope := do
  refuseIf (signed.envelopeBytes = []) "signed action carries no envelope"
  let publicKey := keys[signed.keyID]?.getD []
  refuseIf (publicKey.length ≠ publicKeySize) s!"unknown signing key {quote signed.keyID}"
  let signature ← wrapError "decode action signature: " (wire.rawBase64 signed.signature)
  refuseIf (wire.verify publicKey signed.envelopeBytes signature = false) "invalid action signature"
  let (envelope, more) ← wrapError "decode action envelope: "
    (wire.decodeEnvelope signed.envelopeBytes)
  refuseIf (more = true) "action envelope has trailing content"
  validateEnvelope envelope
  refuseIf (envelope.nodeID ≠ nodeID)
    s!"action targets node {quote envelope.nodeID}, dispatcher is {quote nodeID}"
  refuseIf (now < envelope.issuedAt - 30 * second) "action issue time is in the future"
  refuseIf (envelope.expiresAt ≤ now) "action envelope expired"
  refuseIf (5 * minute < envelope.expiresAt - envelope.issuedAt)
    "action envelope lifetime exceeds five minutes"
  return envelope

/-- `WorkDigest`: a retry asks for the same work. -/
def workDigest (wire : Wire) (e : ActionEnvelope) : String :=
  wire.sha256Hex (wire.encodeWork
    { nodeID := e.nodeID, goalID := e.goalID, proposalID := e.proposalID
      idempotencyKey := e.idempotencyKey, action := e.action })

/-- An envelope that a node accepts is well-formed, for this node and what the bytes say. -/
lemma verify_valid {signed : SignedAction} {keys : Table Bytes} {nodeID : String}
    {now : Time} (h : verify wire signed keys nodeID now = .ok e) :
    validateEnvelope e = .ok () ∧ e.nodeID = nodeID ∧
      ∃ more, wire.decodeEnvelope signed.envelopeBytes = .ok (e, more) := by
  simp only [verify, refuseIf_bind_ok] at h
  obtain ⟨-, -, h⟩ := h
  obtain ⟨signature, -, h⟩ := bind_ok.mp h
  simp only [refuseIf_bind_ok] at h
  obtain ⟨⟨envelope, more⟩, hdecode, h⟩ := bind_ok.mp h.2
  simp only [refuseIf_bind_ok] at h
  obtain ⟨_, hvalid, h⟩ := bind_ok.mp h.2
  simp only [refuseIf_bind_ok, pure_ok] at h
  obtain ⟨hnode, -, -, -, rfl⟩ := h
  exact ⟨hvalid, not_not.mp hnode, more, wrapError_ok.mp hdecode⟩

/-- The bytes that are signed are those of the envelope. -/
lemma sign_bytes {keyID : String} {privateKey : Bytes}
    {signed : SignedAction} (h : sign wire e keyID privateKey = .ok signed) :
    signed.envelopeBytes = wire.encodeEnvelope e := by
  rw [sign] at h
  obtain ⟨_, -, h⟩ := bind_ok.mp h
  rw [refuseIf_bind_ok, pure_ok] at h
  rw [← h.2]

/-- What a well-formed envelope is known to say. -/
lemma validateEnvelope_ok (h : validateEnvelope e = .ok ()) :
    e.nodeID ≠ "" ∧ e.goalID ≠ "" ∧ e.proposalID ≠ "" ∧
      (e.action.node = "" ∨ e.action.node = e.nodeID) := by
  simp only [validateEnvelope, refuseIf_bind_ok, refuseIf_ok, not_or, not_and, not_not] at h
  obtain ⟨-, ⟨-, hnode, hgoal, hproposal, -⟩, -, haction⟩ := h
  exact ⟨hnode, hgoal, hproposal, or_iff_not_imp_left.mpr haction⟩

/-- What an envelope that a node accepts is known to say. -/
lemma verify_ok {signed : SignedAction} {keys : Table Bytes} {nodeID : String}
    {now : Time} (h : verify wire signed keys nodeID now = .ok e) :
    e.nodeID = nodeID ∧ nodeID ≠ "" ∧ (e.action.node = "" ∨ e.action.node = nodeID) := by
  obtain ⟨hvalid, rfl, -⟩ := verify_valid h
  obtain ⟨hnode, -, -, haction⟩ := validateEnvelope_ok hvalid
  exact ⟨rfl, hnode, haction⟩

/-! ### Attested evidence -/

/-- `SignEvidence`. -/
def signEvidence (wire : Wire) (e : Evidence) (nodeID : String) (key : Bytes) :
    Result AttestedEvidence := do
  refuseIf (nodeID = "") "evidence attestation requires a node id"
  refuseIf (key.length ≠ privateKeySize) "evidence attestation requires an ed25519 private key"
  refuseIf (e.kind.text = "") "evidence attestation requires a kind"
  let payload := wire.encodeEvidence e
  return { evidenceBytes := payload, nodeID := nodeID
           signature := wire.stdBase64Text (wire.sign key payload) }

/-- `VerifyEvidence`: the signing node must be the node the evidence names. -/
def verifyEvidence (wire : Wire) (attested : AttestedEvidence) (keys : Table Bytes) (now : Time)
    (maxAge : Duration) : Result Evidence := do
  refuseIf (keys.isEmpty = true) "no enrolled node keys are configured"
  let publicKey ← require keys[attested.nodeID]? "evidence is not signed by an enrolled node"
  refuseIf (publicKey.length ≠ publicKeySize) "evidence is not signed by an enrolled node"
  let signature ← require (wire.stdBase64 attested.signature) "evidence signature is malformed"
  refuseIf (wire.verify publicKey attested.evidenceBytes signature = false)
    "evidence is not signed by an enrolled node"
  let (e, more) ← wrapError "decode attested evidence: "
    (wire.decodeEvidence attested.evidenceBytes)
  refuseIf (more = true) "attested evidence has trailing content"
  refuseIf (e.kind.text = "") "attested evidence has no kind"
  let observer := e.observe "node"
  refuseIf (observer ≠ "" ∧ observer ≠ attested.nodeID)
    s!"evidence claims node {quote observer} but was signed by {quote attested.nodeID}"
  if 0 < maxAge ∧ e.observedAt ≠ 0 then
    refuseIf (maxAge < now - e.observedAt)
      s!"attested evidence is older than {wire.durationText maxAge}"
    refuseIf (now + 30 * second < e.observedAt) "attested evidence was observed in the future"
  return e

/-- The bytes are signed with the enrolled key of the node that they are said to come from, they
are evidence and nothing more, and the node that the evidence names is their signer. -/
structure Authentic (wire : Wire) (attested : AttestedEvidence) (keys : Table Bytes)
    (e : Evidence) : Prop where
  signed : ∃ key signature, keys[attested.nodeID]? = some key ∧ key.length = publicKeySize ∧
    wire.stdBase64 attested.signature = some signature ∧
    wire.verify key attested.evidenceBytes signature = true
  decoded : wire.decodeEvidence attested.evidenceBytes = .ok (e, false)
  kind : e.kind.text ≠ ""
  observer : e.observe "node" = "" ∨ e.observe "node" = attested.nodeID

/-- The evidence is as old as it may be, at most. -/
def Timely (now : Time) (maxAge : Duration) (e : Evidence) : Prop :=
  0 < maxAge ∧ e.observedAt ≠ 0 →
    now - e.observedAt ≤ maxAge ∧ e.observedAt ≤ now + 30 * second

/-- What the controller accepts: authentic evidence, as long as it is timely. -/
lemma verifyEvidence_iff {attested : AttestedEvidence} {keys : Table Bytes}
    {now : Time} {maxAge : Duration} {e : Evidence} :
    verifyEvidence wire attested keys now maxAge = .ok e ↔
      Authentic wire attested keys e ∧ Timely now maxAge e := by
  have hlast (decoded : Evidence) : (if 0 < maxAge ∧ decoded.observedAt ≠ 0 then do
        refuseIf (maxAge < now - decoded.observedAt)
          s!"attested evidence is older than {wire.durationText maxAge}"
        refuseIf (now + 30 * second < decoded.observedAt)
          "attested evidence was observed in the future"
        return decoded
      else return decoded : Result Evidence) = .ok e ↔ decoded = e ∧ Timely now maxAge decoded := by
    by_cases hdated : 0 < maxAge ∧ decoded.observedAt ≠ 0
    · simp only [if_pos hdated, refuseIf_bind_ok, pure_ok, Timely, not_lt]
      tauto
    · simp only [if_neg hdated, pure_ok, Timely]
      tauto
  rw [verifyEvidence]
  simp only [refuseIf_bind_ok, require_bind_ok]
  constructor
  · rintro ⟨-, key, hkey, hlength, signature, hsignature, hverify, h⟩
    obtain ⟨⟨decoded, more⟩, hdecode, h⟩ := bind_ok.mp h
    simp only [refuseIf_bind_ok] at h
    obtain ⟨hmore, hkind, hnode, h⟩ := h
    obtain ⟨rfl, htimely⟩ := (hlast decoded).mp h
    refine ⟨⟨⟨key, signature, hkey, not_not.mp hlength, hsignature, ?_⟩, ?_, hkind, ?_⟩, htimely⟩
    · exact Bool.not_eq_false _ ▸ hverify
    · rw [wrapError_ok.mp hdecode, Bool.eq_false_of_not_eq_true hmore]
    · by_cases hempty : decoded.observe "node" = ""
      · exact .inl hempty
      · exact .inr (not_not.mp fun hne => hnode ⟨hempty, hne⟩)
  · rintro ⟨⟨⟨key, signature, hkey, hlength, hsignature, hverify⟩, hdecode, hkind, hnode⟩, htimely⟩
    refine ⟨?_, key, hkey, not_not.mpr hlength, signature, hsignature, ?_, ?_⟩
    · intro hempty
      rw [Std.ExtTreeMap.isEmpty_iff.mp hempty, get_empty] at hkey
      cases hkey
    · rw [hverify]
      exact Bool.true_eq_false_eq_False
    · refine bind_ok.mpr ⟨(e, false), wrapError_ok.mpr hdecode, ?_⟩
      simp only [refuseIf_bind_ok]
      refine ⟨Bool.false_ne_true, hkind, ?_, (hlast e).mpr ⟨rfl, htimely⟩⟩
      rintro ⟨hempty, hne⟩
      exact hnode.elim hempty hne

end A4s.Daemon
