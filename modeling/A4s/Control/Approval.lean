/-
Operator approvals (`control/approval.go`): the grant an operator signs, the checks it
passes before anything is recorded, and the evidence that records it.

* `validateGrant`: the shape of a decision.
* `verifyApproval`: a signature by a known operator key, the shape, and an expiry that is
  still ahead; `verifyApproval_ok` says what an accepted grant is known to satisfy.
* `ApprovalGrant.evidence`: how a grant is written to the log; `project_granted` and
  `project_revoked` say what the projection makes of decisions.
-/
import A4s.Control.Projection

namespace A4s

open Go

/-! ### Grants -/

/-- `ApprovalGrant`: what an operator signs. -/
structure ApprovalGrant where
  id : String
  goalID : String
  scope : String
  issuedBy : String
  keyID : String
  issuedAt : Time
  expiresAt : Time
  revision : UInt64 := 0
  reason : String := ""
  subject : String := ""
  rollback : String := ""
  deriving DecidableEq

/-- `SignedApproval`: the bytes that were signed. -/
structure SignedApproval where
  grantBytes : Bytes
  keyID : String
  signature : String
  deriving DecidableEq

/-- `MaxApprovalLifetime`. -/
def maxApprovalLifetime : Duration := 24 * 60 * minute

def maxApprovalReason : ℕ := 512

/-- A lower-case letter or a digit. -/
def isNameChar (c : Char) : Bool := ('a' ≤ c && c ≤ 'z') || ('0' ≤ c && c ≤ '9')

/-- `namePattern`: lower-case DNS-style text of at most 63 characters. -/
def namePattern (text : String) : Bool :=
  let chars := text.toList
  chars.length ≤ 63 && chars.head?.any isNameChar && chars.getLast?.any isNameChar &&
    chars.all fun c => isNameChar c || c = '-'

/-- `unicode.IsSpace`. -/
def isSpace (c : Char) : Bool :=
  let n := c.toNat
  (0x09 ≤ n && n ≤ 0x0d) || n = 0x20 || n = 0x85 || n = 0xa0 || n = 0x1680 ||
    (0x2000 ≤ n && n ≤ 0x200a) || n = 0x2028 || n = 0x2029 || n = 0x202f || n = 0x205f ||
    n = 0x3000

/-- `validateGrant`. -/
def validateGrant (host : Host) (grant : ApprovalGrant) : Result Unit := do
  refuseIf (namePattern grant.id = false) "approval id must be lowercase DNS-style text"
  refuseIf (namePattern grant.goalID = false) "approval must name a valid goal id"
  refuseIf (grant.scope ∉ approvalScopes)
    s!"approval scope {quote grant.scope} is not one the kernel gates on"
  refuseIf (grant.issuedBy.toList.all isSpace = true)
    "approval must name the operator who issued it"
  refuseIf (grant.keyID = "") "approval must name the key that signed it"
  refuseIf (grant.issuedAt = 0 ∨ grant.expiresAt = 0) "approval must record issuance and expiry"
  refuseIf (¬grant.issuedAt < grant.expiresAt) "approval expires before it was issued"
  -- a difference that `Sub` would cut off is far above the limit
  refuseIf (maxApprovalLifetime < grant.expiresAt - grant.issuedAt)
    s!"approval lifetime exceeds the {host.durationText maxApprovalLifetime} maximum"
  refuseIf (maxApprovalReason < grant.reason.utf8ByteSize)
    s!"approval reason is longer than {maxApprovalReason} characters"

/-- `VerifyApproval`: the signature is checked before the payload is interpreted. The
decoder refuses unknown fields. -/
def verifyApproval (host : Host) (decode : Bytes → Result ApprovalGrant)
    (signed : SignedApproval) (keys : Table Bytes) (now : Time) : Result ApprovalGrant := do
  refuseIf (keys.isEmpty = true) "no operator keys are configured"
  let publicKey ← require keys[signed.keyID]? "approval is not signed by a known operator key"
  refuseIf (publicKey.length ≠ 32) "approval is not signed by a known operator key"
  let signature ← require (host.base64 signed.signature) "approval signature is malformed"
  refuseIf (host.verify publicKey signed.grantBytes signature = false)
    "approval is not signed by a known operator key"
  let grant ← wrapError "decode approval: " (decode signed.grantBytes)
  refuseIf (grant.keyID ≠ signed.keyID)
    s!"approval names key {quote grant.keyID} but was signed by {quote signed.keyID}"
  validateGrant host grant
  refuseIf (¬now < grant.expiresAt) s!"approval expired at {host.rfc3339 grant.expiresAt}"
  return grant

/-- An entry that is written only when it says something. -/
def optionalEntry (key value : String) : List (String × String) :=
  if value ≠ "" then [(key, value)] else []

/-- `ApprovalGrant.Evidence`: a verified grant, for the durable log. -/
def ApprovalGrant.evidence (host : Host) (g : ApprovalGrant) : Evidence :=
  { kind := .approvalGranted, target := g.id, source := "operator:" ++ g.issuedBy,
    observedAt := g.issuedAt, expiresAt := g.expiresAt,
    observed := Table.ofEntries
      ([("goal", g.goalID), ("scope", g.scope), ("issued_by", g.issuedBy), ("key_id", g.keyID),
        ("expires_at", host.rfc3339 g.expiresAt)] ++
      (if 0 < g.revision then [("revision", toString g.revision.toNat)] else []) ++
      optionalEntry "reason" g.reason ++ optionalEntry "subject" g.subject ++
      optionalEntry "rollback" g.rollback) }

/-! ### What an accepted grant satisfies -/

section Verified

variable {host : Host} {decode : Bytes → Result ApprovalGrant} {signed : SignedApproval}
  {keys : Table Bytes} {now : Time} {grant : ApprovalGrant}

/-- The lifetime of a valid grant. -/
structure Grantable (grant : ApprovalGrant) : Prop where
  issued : grant.issuedAt ≠ 0
  expires : grant.expiresAt ≠ 0
  ordered : grant.issuedAt < grant.expiresAt
  bounded : grant.expiresAt ≤ grant.issuedAt + maxApprovalLifetime

lemma validateGrant_ok (h : validateGrant host grant = .ok ()) : Grantable grant := by
  simp only [validateGrant, refuseIf_bind_ok] at h
  obtain ⟨-, -, -, -, -, htimes, horder, hlife, -⟩ := h
  obtain ⟨hissued, hexpires⟩ := not_or.mp htimes
  exact ⟨hissued, hexpires, not_not.mp horder, sub_le_iff_le_add'.mp (not_lt.mp hlife)⟩

lemma namePattern_empty : namePattern "" = false := rfl

/-- A valid grant says what it grants. -/
lemma validateGrant_named (h : validateGrant host grant = .ok ()) :
    grant.id ≠ "" ∧ grant.goalID ≠ "" ∧ grant.scope ∈ approvalScopes := by
  simp only [validateGrant, refuseIf_bind_ok] at h
  obtain ⟨hid, hgoal, hscope, -⟩ := h
  refine ⟨fun hempty => hid ?_, fun hempty => hgoal ?_, not_not.mp hscope⟩
  · rw [hempty, namePattern_empty]
  · rw [hempty, namePattern_empty]

lemma verifyApproval_valid (h : verifyApproval host decode signed keys now = .ok grant) :
    validateGrant host grant = .ok () := by
  simp only [verifyApproval, refuseIf_bind_ok, require_bind_ok] at h
  obtain ⟨-, _, -, -, _, -, -, h⟩ := h
  obtain ⟨g, -, h⟩ := bind_ok.mp h
  simp only [refuseIf_bind_ok] at h
  obtain ⟨-, h⟩ := h
  obtain ⟨_, hvalid, h⟩ := bind_ok.mp h
  simp only [refuseIf_bind_ok, pure_ok] at h
  obtain ⟨-, rfl⟩ := h
  exact hvalid

lemma ApprovalGrant.evidence_kind : (grant.evidence host).kind = .approvalGranted := rfl

lemma ApprovalGrant.observe_goal : (grant.evidence host).observe "goal" = grant.goalID := by
  simp [ApprovalGrant.evidence, Evidence.observe]

lemma ApprovalGrant.observe_scope : (grant.evidence host).observe "scope" = grant.scope := by
  simp [ApprovalGrant.evidence, Evidence.observe]

/-- The projection takes a valid grant, whatever the world. -/
lemma project_grant (h : validateGrant host grant = .ok ()) (w : World) :
    ∃ w', project w (grant.evidence host) = .ok w' := by
  obtain ⟨hid, hgoal, hscope⟩ := validateGrant_named h
  have hnamed : grant.scope ≠ "" := by
    intro hempty
    rw [hempty] at hscope
    exact absurd hscope (by decide)
  have hsays : ¬ ((grant.evidence host).observe "goal" = "" ∨
      (grant.evidence host).observe "scope" = "") := by
    rw [ApprovalGrant.observe_goal, ApprovalGrant.observe_scope]
    exact not_or.mpr ⟨hgoal, hnamed⟩
  have hgated : ¬ (grant.evidence host).observe "scope" ∉ approvalScopes := by
    rw [ApprovalGrant.observe_scope]
    exact not_not.mpr hscope
  have hinto : ∃ next, projectApprovalGranted w (grant.evidence host) = .ok next :=
    ⟨_, by
      simp only [projectApprovalGranted, refuseIf_bind_ok]
      exact ⟨hid, hsays, hgated, rfl⟩⟩
  obtain ⟨next, hnext⟩ := hinto
  exact ⟨_, by rw [project, projectInto, ApprovalGrant.evidence_kind, hnext]; rfl⟩

/-- **What an accepted grant is known to satisfy.** -/
lemma verifyApproval_ok (h : verifyApproval host decode signed keys now = .ok grant) :
    decode signed.grantBytes = .ok grant ∧ Grantable grant ∧ now < grant.expiresAt := by
  have hvalid := validateGrant_ok (verifyApproval_valid h)
  simp only [verifyApproval, refuseIf_bind_ok, require_bind_ok] at h
  obtain ⟨-, _, -, -, _, -, -, h⟩ := h
  obtain ⟨g, hdecode, h⟩ := bind_ok.mp h
  simp only [refuseIf_bind_ok] at h
  obtain ⟨-, h⟩ := h
  obtain ⟨_, -, h⟩ := bind_ok.mp h
  simp only [refuseIf_bind_ok, pure_ok] at h
  obtain ⟨hahead, rfl⟩ := h
  exact ⟨wrapError_ok.mp hdecode, hvalid, not_not.mp hahead⟩

/-- What the projection records of a grant. -/
lemma project_granted {w w' : World} {e : Evidence} (hk : e.kind = .approvalGranted)
    (h : project w e = .ok w') :
    ∃ approval : Approval, w'.approvals = w.approvals.insert e.target approval ∧
      approval.granted = true ∧ approval.expiresAt = e.expiresAt ∧
      w'.observedAt = if e.observedAt ≠ 0 ∧ w.observedAt < e.observedAt then e.observedAt
        else w.observedAt := by
  obtain ⟨next, hinto, hnext⟩ := bind_ok.mp h
  simp only [projectInto, hk, projectApprovalGranted, refuseIf_bind_ok, pure_ok] at hinto
  obtain ⟨-, -, -, rfl⟩ := hinto
  have hobserves : observesNothing e.kind = false := by
    rw [hk]
    rfl
  rw [hobserves] at hnext
  cases hnext
  exact ⟨_, rfl, rfl, rfl, rfl⟩

/-- What the projection records of a revocation. -/
lemma project_revoked {w w' : World} {e : Evidence} (hk : e.kind = .approvalRevoked)
    (h : project w e = .ok w') :
    (∀ id, id ≠ e.target → w'.approvals[id]? = w.approvals[id]?) ∧
      ∀ approval, w'.approvals[e.target]? = some approval → approval.granted = false := by
  obtain ⟨next, hinto, hnext⟩ := bind_ok.mp h
  have happrovals : w'.approvals = next.approvals := by
    cases hnext
    split_ifs <;> rfl
  rw [happrovals]
  simp only [projectInto, hk, projectApprovalRevoked] at hinto
  split at hinto
  · rename_i hnone
    cases hinto
    refine ⟨fun _ _ => rfl, fun approval hget => ?_⟩
    rw [hnone] at hget
    cases hget
  · rename_i approval hsome
    cases hinto
    refine ⟨fun id hid => get_insert_of_ne hid, fun approval' hget => ?_⟩
    rw [get_insert_self] at hget
    cases hget
    rfl

end Verified

end A4s
