/-
Where images come from (`control/provenance.go`).

The kernel checks a proposal's attestation once, against the image of its goal. That covers
every creation of the proposal, because a creation that names another image is refused. A
goal whose image was exchanged by a rollback still carries the attestation of the image it
was written for.

* `verifyImageAttestation_ok`: what a verified attestation establishes.
* `Vouched`: a trusted signer has signed an unexpired statement that names the image.
* `created_images_vouched`: **every image that gets created was vouched for** when its
  proposal was accepted.
* `compensated_provenance_iff`: **an attested goal passes the check after a rollback exactly
  when** the rollback changes nothing, or the proposal runs no image.
-/
import A4s.Control.Course
import A4s.Control.Placement
import A4s.Control.Rollback

namespace A4s

open Go

/-! ### Attestations -/

/-- A statement that has not expired at a given time. -/
def ImageStatement.current (s : ImageStatement) (now : Time) : Prop :=
  s.expiresAt = 0 ∨ now < s.expiresAt

section Attestations

variable {host : Host} {attestation : SignedAttestation} {image other : String}
  {signers : Table Bytes} {now : Time} {statement : ImageStatement}

/-- **A statement that was verified for one image is refused for any other.** -/
lemma verifyImageAttestation_other
    (h : verifyImageAttestation host attestation image signers now = .ok statement)
    (hother : other ≠ image) :
    verifyImageAttestation host attestation other signers now =
      fail s!"image attestation covers {quote image}, not {quote other}" := by
  simp only [verifyImageAttestation, refuseIf_bind_ok, require_bind_ok] at h
  obtain ⟨hsigners, hbytes, key, hkey, signature, hsignature, hverify, ⟨stated, more⟩, hdecode,
    hmore, h⟩ := h
  obtain ⟨_, hstatement, h⟩ := bind_ok.mp h
  simp only [refuseIf_bind_ok, pure_ok] at h
  obtain ⟨hkeyID, himage, -, rfl⟩ := h
  have himage : stated.image = image := not_not.mp himage
  -- every check up to the image passes as before
  simp only [verifyImageAttestation, refuseIf, if_neg hsigners, if_neg hbytes, hkey,
    require_some_bind, hsignature, if_neg hverify, hdecode, if_neg hmore, hstatement,
    if_neg hkeyID, ok_bind, himage, if_pos hother.symm]
  rfl

end Attestations

/-! ### Every created image is vouched for -/

/-- What verifies under a key was signed by its holder. -/
def Unforgeable (signed : Bytes → Bytes → Prop) (host : Host) : Prop :=
  ∀ key message signature, host.verify key message signature = true → signed key message

/-- The time at which the kernel accepted the proposal. -/
def Acceptance.time (r : Acceptance) : Time := if r.now = 0 then r.host.wall else r.now

/-- What was carried out, for which acceptance. -/
structure Deed where
  acceptance : Acceptance
  action : Action

/-- The deed creates an allocation under the id. -/
def Deed.Creates (d : Deed) (id : String) : Prop :=
  d.action.kind = .createAllocation ∧ d.action.target = id

/-- Signatures cannot be forged, and the deeds are remembered. -/
def deedsWatch (signed : Bytes → Bytes → Prop) : Watch (List Deed) where
  accept deeds _ r deeds' := Unforgeable signed r.host ∧ deeds' = deeds
  report r deeds _ a _ deeds' := deeds' = deeds ++ [⟨r, a⟩]

/-- Whoever is on the roll was created by a deed with the image it runs, or was there at the
start and nobody has been created in its place. -/
def Sourced (start : World) (deeds : List Deed) (w : World) : Prop :=
  ∀ id i, w.roll id = some i →
    (∃ d ∈ deeds, d.Creates id ∧ d.action.image = i.image) ∨
      (start.roll id = some i ∧ ∀ d ∈ deeds, ¬d.Creates id)

section Creation

variable {signed : Bytes → Bytes → Prop} {k : Kernel} {start w w' : World} {deeds : List Deed}
  {r : Acceptance} {a : Action}

/-- One more deed keeps the sources known. -/
lemma Sourced.step (h : Sourced start deeds w) (hroll : Enrolment w a w') :
    Sourced start (deeds ++ [⟨r, a⟩]) w' := by
  -- a deed that creates nobody under the id is no news for it
  have hkeep : ∀ id i, ¬(Deed.mk r a).Creates id → w.roll id = some i →
      (∃ d ∈ deeds ++ [⟨r, a⟩], d.Creates id ∧ d.action.image = i.image) ∨
        (start.roll id = some i ∧ ∀ d ∈ deeds ++ [⟨r, a⟩], ¬d.Creates id) := by
    intro id i hnot hi
    rcases h id i hi with ⟨d, hd, hcreates, himage⟩ | ⟨hstart, hnone⟩
    · exact .inl ⟨d, List.mem_append_left _ hd, hcreates, himage⟩
    · refine .inr ⟨hstart, fun d hd => ?_⟩
      rcases List.mem_append.mp hd with hd | hd
      · exact hnone d hd
      · rw [List.mem_singleton.mp hd]
        exact hnot
  intro id i hi
  cases hroll with
  | created node budget hk hnode hpositive hbudget hroll =>
    rw [hroll, Function.update_apply] at hi
    split_ifs at hi with hid
    · cases hi
      exact .inl ⟨⟨r, a⟩, by simp, ⟨hk, hid.symm⟩, rfl⟩
    · exact hkeep id i (fun hcreates => hid hcreates.2.symm) hi
  | deleted hk hroll =>
    rw [hroll, Function.update_apply] at hi
    split_ifs at hi
    refine hkeep id i (fun hcreates => ?_) hi
    have hboth : ActionKind.createAllocation = .deleteAllocation := hcreates.1.symm.trans hk
    cases hboth
  | kept hc hd hroll =>
    rw [hroll] at hi
    exact hkeep id i (fun hcreates => hc hcreates.1) hi

end Creation

namespace Provenance

/-- The digest of 64 equal digits. -/
def pinned (digit : Char) : String := "web@sha256:" ++ String.ofList (List.replicate 64 digit)

def good : String := pinned 'a'

def bad : String := pinned 'b'

def statement (image : String) : ImageStatement :=
  { version := 1, image := image, builder := "ci", keyID := "ci", builtAt := 1 }

/-- A host that reads two signed statements, one about each image. -/
def host : Host :=
  { quietHost with
    wall := 10
    verify := fun _ message signature => decide (signature = message)
    base64 := fun text => if text = "of good" then some [1] else some [2]
    decodeStatement := fun message =>
      if message = [1] then some (statement good, false) else some (statement bad, false) }

def attestationOf (message : Bytes) (signature : String) : SignedAttestation :=
  { statementBytes := message, keyID := "ci", signature := signature }

def kernel (required : Bool) : Kernel :=
  { policy := { maxActionsPerProposal := 8, requireSignedImages := required
                imageSigners := Table.ofEntries [("ci", List.replicate 32 0)]
                grants := defaultGrants } }

def goal (image : String) (attestation : SignedAttestation) : Goal :=
  { id := "web", workload :=
      { name := "web", image := image, replicas := 2, resources := ⟨100, 100⟩
        attestation := some attestation } }

/-- The version that served, with its attestation. -/
def before : Goal := goal good (attestationOf [1] "of good")

/-- The version that failed, with its own. -/
def after : Goal := goal bad (attestationOf [2] "of bad")

def node : Node :=
  { id := "n1", capacity := ⟨1000, 1000⟩, healthy := true
    images := Table.ofEntries [(good, true)] }

def start : World := { nodes := Table.ofEntries [("n1", node)] }

def create : Action :=
  { id := "create", kind := .createAllocation, target := "web-0", workload := "web", node := "n1"
    image := good, resources := ⟨100, 100⟩ }

def proposal : Proposal :=
  { id := "p", agentID := "placement-agent", goalID := "web", basedOnRevision := 0
    actions := [create] }

def acceptance : Acceptance :=
  { host := host, actor := { id := "placement-agent" }, goal := before, now := 20
    proposal := proposal }

def created : Evidence :=
  { kind := .allocationCreated, target := "web-0", observedAt := 20
    observed := Table.ofEntries
      [("node", "n1"), ("workload", "web"), ("image", good), ("replica", "0"),
       ("cpu_millis", "100"), ("memory_mb", "100")] }

/-- One replica of the attested version. -/
def one : World :=
  { revision := 1
    observedAt := 20
    nodes := Table.ofEntries [("n1", { node with used := ⟨100, 100⟩ })]
    allocations := Table.ofEntries [("web-0",
      { id := "web-0", workload := "web", node := "n1", image := good, resources := ⟨100, 100⟩
        phase := .created })] }

lemma accepted : acceptance.Holds (kernel true) start := by
  unfold Acceptance.Holds
  decide +kernel

lemma executed :
    MemoryExecutor.execute host start create = .ok { created with observedAt := 0 } := by
  decide

lemma projected : project start created = .ok one := by
  decide +kernel

/-- Whoever holds a key has signed the two statements. -/
def signed : Bytes → Bytes → Prop := fun _ _ => True

lemma course : Course (deedsWatch signed) (kernel true) [] start [⟨acceptance, create⟩] one :=
  .round acceptance 1 accepted ⟨fun _ _ _ _ => trivial, rfl⟩
    (.cons ((memoryExecutor_tells executed).stamp 20) rfl projected (.nil _ _)) (.refl _ _)

end Provenance

open Provenance

section Rollback

variable {host : Host} {k : Kernel} {goal : Goal} {w : World} {p : Proposal} {image : String}
  {order : List (String × Approval)} {attestation : SignedAttestation} {statement : ImageStatement}

/-- A proposal that runs an image passes when the goal's attestation is valid for it. -/
lemma checkImageProvenance_own (hattested : goal.workload.attestation = some attestation)
    (hown : verifyImageAttestation host attestation goal.workload.image k.policy.imageSigners
      (w.now host.wall) = .ok statement) : checkImageProvenance host k goal w p = .ok () := by
  simp only [checkImageProvenance, hattested, hown]
  split_ifs <;> rfl

/-- A proposal that runs an image is refused when the goal's attestation is of another. -/
lemma checkImageProvenance_other (hattested : goal.workload.attestation = some attestation)
    (hown : verifyImageAttestation host attestation image k.policy.imageSigners
      (w.now host.wall) = .ok statement) (hother : goal.workload.image ≠ image)
    {a : Action} (ha : a ∈ p.actions) (hruns : runsImage a.kind = true) :
    checkImageProvenance host k goal w p = fail ("image provenance: " ++
      s!"image attestation covers {quote image}, not {quote goal.workload.image}") := by
  have hany : p.actions.any (runsImage ·.kind) ≠ false := by
    rw [Bool.ne_false_iff, List.any_eq_true]
    exact ⟨a, ha, hruns⟩
  rw [checkImageProvenance, if_neg hany, hattested]
  simp only [verifyImageAttestation_other hown hother]
  rfl

/-- **An attested goal passes the check after a rollback exactly when** the rollback
exchanges nothing, or the proposal runs no image: the first live rollback approval, if there
is one, is about another image than the goal's or returns to the goal's own. The goal's
attestation is valid for its own image, and the policy may require signed images or not. -/
theorem compensated_provenance_iff (hattested : goal.workload.attestation = some attestation)
    (hown : verifyImageAttestation host attestation goal.workload.image k.policy.imageSigners
      (w.now host.wall) = .ok statement) (p : Proposal) :
    checkImageProvenance host k (compensatedGoal host order goal w).1 w p = .ok () ↔
      (∀ a, rollbackApproval host order w goal.id = some a → ¬a.compensates goal w) ∨
        ∀ action ∈ p.actions, runsImage action.kind = false := by
  by_cases hquiet : ∀ action ∈ p.actions, runsImage action.kind = false
  · have hany : p.actions.any (runsImage ·.kind) = false := by
      rw [List.any_eq_false]
      intro action haction
      rw [hquiet action haction]
      exact Bool.false_ne_true
    rw [checkImageProvenance, if_pos hany]
    exact iff_of_true rfl (.inr hquiet)
  · rw [or_iff_left hquiet]
    cases hlive : rollbackApproval host order w goal.id with
    | none =>
      rw [compensatedGoal, hlive]
      exact iff_of_true (checkImageProvenance_own hattested hown) fun _ h => by cases h
    | some a =>
      rcases compensatedGoal_cases hlive with ⟨hnot, heq⟩ |
        ⟨target, hconcerns, htarget, hother, heq⟩
      · rw [heq]
        refine iff_of_true (checkImageProvenance_own hattested hown) ?_
        rintro a' h
        cases h
        exact hnot
      · -- the attestation covers the image the goal was written for
        push Not at hquiet
        obtain ⟨action, haction, hruns⟩ := hquiet
        have hrefused : checkImageProvenance host k
            { goal with workload := { goal.workload with image := target } } w p = fail _ :=
          checkImageProvenance_other hattested hown hother haction (Bool.ne_false_iff.mp hruns)
        rw [heq, hrefused]
        exact iff_of_false fail_ne_ok fun h => h a rfl ⟨hconcerns, target, htarget, hother⟩

end Rollback

namespace Provenance

/-- An operator's decision to return to the version that served. -/
def approval : Approval :=
  { id := "back", goalID := "web", scope := "rollback", issuedBy := "ops", granted := true
    subject := bad, rollback := good }

/-- The decision is recorded in the world that the attested version was created in. -/
def decided : World := { one with approvals := Table.ofEntries [("back", approval)] }

def order : List (String × Approval) := [("back", approval)]

/-- The goal the round works from. -/
def compensated : Goal := { after with workload := { after.workload with image := good } }

/-- A second replica of the version that served. -/
def placement : Proposal :=
  { id := "placement-agent-r1", agentID := "placement-agent", goalID := "web"
    basedOnRevision := 1
    reasoning := "place missing replicas on healthy nodes that satisfy hard " ++
      "constraints and capacity"
    actions := PlacementAgent.blockActions compensated decided node 1
    expectedEvidence := [⟨.allocationReady, "web-1", "true"⟩] }

def refusal : String :=
  "image provenance: " ++ s!"image attestation covers {quote bad}, not {quote good}"

lemma attested : verifyImageAttestation host (attestationOf [2] "of bad") bad
    (kernel true).policy.imageSigners (decided.now host.wall) = .ok (statement bad) := by
  decide +kernel

lemma after_attestation :
    after.workload.attestation = some (attestationOf [2] "of bad") := rfl

lemma refused (required : Bool) :
    checkImageProvenance host (kernel required) compensated decided placement = fail refusal :=
  checkImageProvenance_other (a := PlacementAgent.createAction compensated node "web-1" 1)
    (by rfl) attested (by decide +kernel)
    (List.mem_append_right _ List.mem_cons_self) rfl

end Provenance

/-- An operator returns a workload to the version that served. Each version's goal carries a
valid attestation of its own, and the version that served was created under one. The
placement proposal for the compensated goal is refused all the same, whether the policy
requires signed images or not. -/
theorem rollback_refused :
    Course (deedsWatch signed) (kernel true) [] start [⟨acceptance, create⟩] one ∧
      create.image = approval.rollback ∧
      verifyImageAttestation host (attestationOf [2] "of bad")
        after.workload.image (kernel true).policy.imageSigners
        (decided.now host.wall) = .ok (statement bad) ∧
      LiveRollback host decided after approval ∧
      Table.Ranges decided.approvals order ∧
      (compensatedGoal host order after decided).1 = compensated ∧
      PlacementAgent.propose host compensated decided = .ok placement ∧
      checkImageProvenance host (kernel true) compensated decided placement = fail refusal ∧
      checkImageProvenance host (kernel false) compensated decided placement = fail refusal :=
  ⟨course, rfl, attested, ⟨"back", by decide, by decide +kernel⟩, .refl _,
    by decide +kernel, by decide +kernel, refused true, refused false⟩

/-- The equivalence for that proposal. -/
theorem compensated_provenance_iff_refused :
    verifyImageAttestation host (attestationOf [2] "of bad") bad (kernel true).policy.imageSigners
        (decided.now host.wall) = .ok (statement bad) ∧
      (checkImageProvenance host (kernel true) (compensatedGoal host order after
            decided).1 decided placement = .ok () ↔
        (∀ a, rollbackApproval host order decided
            after.id = some a → ¬a.compensates after decided) ∨
          ∀ action ∈ placement.actions, runsImage action.kind = false) :=
  ⟨attested, compensated_provenance_iff after_attestation attested placement⟩

end A4s
