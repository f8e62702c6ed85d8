/-
Operator decisions on a server (`server/server.go`): `Approve` and `Revoke`.

Both verify a signed document, write an observation to the event log, have the head of the
log witnessed, and project the observation. They hold the server's lock throughout, so one
call follows the other. Clock, database and witness answer from outside (`Surroundings`).

* `approve_spec`, `revoke_spec`: what a call that returned has written.
* `approved_within_lifetime_iff`: **a grant stays within the longest lifetime and the
  controller's clock exactly when** it was not issued later than it was accepted.
* `revoked_for_good`: **a revocation stands in every run** in which no document issued
  before it is submitted again.
-/
import A4s.Go.Proc
import A4s.Control.Approval

namespace A4s

open Go

/-! ### The server -/

/-- `control.Event`, as far as recording an observation fills it in. -/
structure Event where
  sequence : UInt64
  at_ : Time
  actor : String
  goalID : String
  target : String
  kind : EvidenceKind
  message : String
  evidence : Option Evidence
  deriving DecidableEq

/-- What the calls on decisions read and write of a server. The log is gone once the server
is closed. -/
structure Server where
  operatorKeys : Table Bytes
  goals : Table Goal := ∅
  log : Option (List Event) := some []
  anchored : Bool := false
  world : World := {}
  deriving DecidableEq

/-- What a call reads from outside: the clock, once when it verifies a document and once
when it records a revocation, and how the database and the anchor file answer. -/
structure Surroundings where
  host : Host
  decode : Bytes → Result ApprovalGrant
  now : Time
  recordedAt : Time
  database : Result Unit
  witness : Result Unit

namespace Server

/-- `NextSequence`. -/
def nextSequence (events : List Event) : UInt64 := .ofNat (events.length + 1)

/-- `File.Append`: the next event in sequence, committed by the database. -/
def append (env : Surroundings) (event : Event) : Proc Server Unit := do
  let s ← Proc.read id
  let events ← Proc.lift (require s.log "event log is closed")
  Proc.guard (event.sequence ≠ nextSequence events)
    s!"event sequence {event.sequence}, want {nextSequence events}"
  Proc.lift env.database
  Proc.modify fun s => { s with log := some (events ++ [event]) }

/-- `DurableProjector.Project`. -/
def projectEvidence (e : Evidence) : Proc Server Unit := do
  let s ← Proc.read id
  let next ← Proc.lift (project s.world e)
  Proc.modify fun s => { s with world := next }

/-- `appendObservation`: a fact is recorded and witnessed before it is applied. -/
def appendObservation (env : Surroundings) (actor goalID target message : String)
    (e : Evidence) : Proc Server Unit := do
  let s ← Proc.read id
  let events ← Proc.lift (require s.log "event log is closed")
  Proc.wrapped "record observation: " (append env
    { sequence := nextSequence events, at_ := e.observedAt, actor := actor, goalID := goalID,
      target := target, kind := e.kind, message := message, evidence := some e })
  Proc.when s.anchored (Proc.wrapped "witness operator decision: " (Proc.lift env.witness))
  projectEvidence e

/-- `recordDecision`. -/
def recordDecision (env : Surroundings) (grant : ApprovalGrant) (e : Evidence)
    (message : String) : Proc Server Unit :=
  appendObservation env ("operator:" ++ grant.issuedBy) grant.goalID grant.id
    (message ++ ": " ++ grant.scope) e

/-- `Approve`. -/
def approve (env : Surroundings) (signed : SignedApproval) : Proc Server ApprovalGrant := do
  let s ← Proc.read id
  let grant ← Proc.lift (verifyApproval env.host env.decode signed s.operatorKeys env.now)
  Proc.guard (s.goals[grant.goalID]? = none)
    s!"goal {quote grant.goalID} has not been submitted; approve it after submitting"
  recordDecision env grant (grant.evidence env.host) "approval granted"
  return grant

/-- The observation of a revocation. -/
def revocation (env : Surroundings) (grant : ApprovalGrant) : Evidence :=
  { kind := .approvalRevoked, target := grant.id, source := "operator:" ++ grant.issuedBy,
    observedAt := env.recordedAt
    observed := Table.ofEntries [("goal", grant.goalID), ("scope", grant.scope),
      ("revoked_by", grant.issuedBy), ("reason", grant.reason)] }

/-- `Revoke`: a document of the same type as a grant withdraws the approval it names. -/
def revoke (env : Surroundings) (signed : SignedApproval) : Proc Server Unit := do
  let s ← Proc.read id
  let grant ← Proc.lift (verifyApproval env.host env.decode signed s.operatorKeys env.now)
  Proc.guard (s.world.approvals[grant.id]? = none) s!"approval {quote grant.id} was never granted"
  recordDecision env grant (revocation env grant) "approval revoked"

/-! ### What a call writes -/

section Specs

variable {env : Surroundings} {signed : SignedApproval} {s s' : Server} {grant : ApprovalGrant}
  {e : Evidence} {actor goalID target message : String}

lemma appendObservation_returns
    (h : Proc.Returns (appendObservation env actor goalID target message e) s () s') :
    project s.world e = .ok s'.world := by
  simp only [appendObservation, append, projectEvidence, returns_bind, returns_read, returns_lift,
    returns_wrapped, returns_guard, returns_modify, returns_when, require_ok, id_eq] at h
  obtain ⟨_, _, ⟨rfl, rfl⟩, events, _, ⟨-, rfl⟩, _, _, ⟨_, _, ⟨rfl, rfl⟩, _, _, ⟨-, rfl⟩, _, _,
    ⟨-, rfl⟩, _, _, ⟨-, rfl⟩, rfl⟩, _, _, hwitness, _, _, ⟨rfl, rfl⟩, next, _, ⟨hnext, rfl⟩,
    rfl⟩ := h
  rcases hwitness with ⟨-, -, rfl⟩ | ⟨-, rfl⟩
  · exact hnext
  · exact hnext

/-- **What an accepted grant leaves.** -/
lemma approve_spec (h : Proc.Returns (approve env signed) s grant s') :
    verifyApproval env.host env.decode signed s.operatorKeys env.now = .ok grant ∧
      project s.world (grant.evidence env.host) = .ok s'.world := by
  simp only [approve, recordDecision, returns_bind, returns_read, returns_lift,
    returns_guard, returns_pure, id_eq] at h
  obtain ⟨_, _, ⟨rfl, rfl⟩, g, _, ⟨hverify, rfl⟩, _, _, ⟨-, rfl⟩, _, _, hrecord, rfl, rfl⟩ := h
  exact ⟨hverify, appendObservation_returns hrecord⟩

/-- **What a revocation leaves.** -/
lemma revoke_spec (h : Proc.Returns (revoke env signed) s () s') :
    ∃ grant, verifyApproval env.host env.decode signed s.operatorKeys env.now = .ok grant ∧
      project s.world (revocation env grant) = .ok s'.world := by
  simp only [revoke, recordDecision, returns_bind, returns_read, returns_lift,
    returns_guard, id_eq] at h
  obtain ⟨_, _, ⟨rfl, rfl⟩, g, _, ⟨hverify, rfl⟩, _, _, ⟨-, rfl⟩, hrecord⟩ := h
  exact ⟨g, hverify, appendObservation_returns hrecord⟩

/-- The world is written last: an observation that was not recorded is not applied. -/
lemma appendObservation_failsClean :
    Proc.FailsClean Server.world (appendObservation env actor goalID target message e) := by
  refine failsClean_bind (keeps_read _) fun s => ?_
  refine failsClean_bind (keeps_lift _) fun events => ?_
  refine failsClean_bind (keeps_wrapped _ ?_) fun _ => ?_
  · refine keeps_bind (keeps_read _) fun _ => ?_
    refine keeps_bind (keeps_lift _) fun _ => ?_
    refine keeps_bind (keeps_guard _ _) fun _ => ?_
    refine keeps_bind (keeps_lift _) fun _ => ?_
    exact keeps_modify fun _ => rfl
  refine failsClean_bind (keeps_when _ (keeps_wrapped _ (keeps_lift _)))
    fun _ => ?_
  refine failsClean_bind (keeps_read _) fun _ => ?_
  refine failsClean_bind (keeps_lift _) fun next => ?_
  exact failsClean_modify _

lemma approve_failsClean : Proc.FailsClean Server.world (approve env signed) := by
  refine failsClean_bind (keeps_read _) fun s => ?_
  refine failsClean_bind (keeps_lift _) fun grant => ?_
  refine failsClean_bind (keeps_guard _ _) fun _ => ?_
  exact failsClean_return appendObservation_failsClean grant

lemma revoke_failsClean : Proc.FailsClean Server.world (revoke env signed) := by
  refine failsClean_bind (keeps_read _) fun s => ?_
  refine failsClean_bind (keeps_lift _) fun grant => ?_
  refine failsClean_bind (keeps_guard _ _) fun _ => ?_
  exact appendObservation_failsClean

end Specs

end Server

/-! ### Lifetimes -/

section Lifetime

variable {env : Surroundings} {signed : SignedApproval} {s s' : Server} {grant : ApprovalGrant}

/-- What the approval of an accepted grant authorises when, and how far the world's
evaluation time went. -/
lemma approve_leaves (h : Proc.Returns (Server.approve env signed) s grant s') :
    ∃ approval : Approval, s'.world.approvals[grant.id]? = some approval ∧
      (∀ t, approval.valid t = decide (t < grant.expiresAt)) ∧
      s'.world.observedAt = max s.world.observedAt grant.issuedAt := by
  obtain ⟨hverify, hproject⟩ := Server.approve_spec h
  obtain ⟨-, hgrantable, -⟩ := verifyApproval_ok hverify
  obtain ⟨approval, happrovals, hgranted, hexpires, hclock⟩ := project_granted rfl hproject
  have hexpires' : approval.expiresAt = grant.expiresAt := hexpires
  refine ⟨approval, ?_, fun t => ?_, ?_⟩
  · rw [happrovals]
    exact get_insert_self
  · rw [Approval.valid, hgranted, hexpires', decide_eq_false hgrantable.expires, Bool.true_and,
      Bool.false_or]
  · rw [hclock]
    change (if grant.issuedAt ≠ 0 ∧ s.world.observedAt < grant.issuedAt then grant.issuedAt
      else s.world.observedAt) = _
    split_ifs with hlater
    · exact (max_eq_right hlater.2.le).symm
    · exact (max_eq_left (not_lt.mp fun hlt => hlater ⟨hgrantable.issued, hlt⟩)).symm

/-- **The longest lifetime.** For a grant that was accepted, the approval authorises nothing
later than the longest lifetime after its acceptance, and the world's evaluation time does
not move past the controller's clock, exactly when the grant was not issued later than it
was accepted; or when the evaluation time had already passed the issuance, and the expiry
itself is near enough. -/
theorem approved_within_lifetime_iff (h : Proc.Returns (Server.approve env signed) s grant s') :
    ((∀ approval, s'.world.approvals[grant.id]? = some approval →
        ∀ t, env.now + maxApprovalLifetime < t → approval.valid t = false) ∧
      (s'.world.observedAt ≤ env.now ∨ s'.world.observedAt = s.world.observedAt)) ↔
    grant.issuedAt ≤ env.now ∨
      (grant.issuedAt ≤ s.world.observedAt ∧
        grant.expiresAt ≤ env.now + maxApprovalLifetime + 1) := by
  obtain ⟨approval, hget, hvalid, hclock⟩ := approve_leaves h
  have hbounded : grant.expiresAt ≤ grant.issuedAt + maxApprovalLifetime :=
    (verifyApproval_ok (Server.approve_spec h).1).2.1.bounded
  rw [hclock]
  constructor
  · rintro ⟨hlapsed, hmoved⟩
    have hnear : grant.expiresAt ≤ env.now + maxApprovalLifetime + 1 := by
      by_contra hfar
      have hlate := hlapsed approval hget (env.now + maxApprovalLifetime + 1) (lt_add_one _)
      rw [hvalid] at hlate
      exact of_decide_eq_false hlate (not_le.mp hfar)
    rcases hmoved with hmoved | hmoved
    · exact .inl (le_trans (le_max_right _ _) hmoved)
    · exact .inr ⟨max_eq_left_iff.mp hmoved, hnear⟩
  · rintro (hissued | ⟨hissued, hnear⟩)
    · refine ⟨fun approval' hget' t hlate => ?_, ?_⟩
      · cases hget.symm.trans hget'
        rw [hvalid]
        refine decide_eq_false (not_lt.mpr ?_)
        calc grant.expiresAt ≤ grant.issuedAt + maxApprovalLifetime := hbounded
          _ ≤ env.now + maxApprovalLifetime := by gcongr
          _ ≤ t := hlate.le
      · rcases le_total s.world.observedAt grant.issuedAt with hbehind | hahead
        · exact .inl (by rw [max_eq_right hbehind]; exact hissued)
        · exact .inr (max_eq_left hahead)
    · refine ⟨fun approval' hget' t hlate => ?_, .inr (max_eq_left hissued)⟩
      cases hget.symm.trans hget'
      rw [hvalid]
      exact decide_eq_false (not_lt.mpr (le_trans hnear (Int.add_one_le_of_lt hlate)))

end Lifetime

namespace Decisions

/-- A goal that was submitted, and an operator whose key is known. -/
def server : Server :=
  { operatorKeys := Table.ofEntries [("ops", List.replicate 32 0)]
    goals := Table.ofEntries [("files", { id := "files", workload := { name := "files" } })] }

/-- Every signature is good, and the document carries the given grant. -/
def surroundings (grant : ApprovalGrant) (now : Time) : Surroundings :=
  { host := { quietHost with verify := fun _ _ _ => true, base64 := fun _ => some [] }
    decode := fun _ => .ok grant, now := now, recordedAt := now, database := .ok ()
    witness := .ok () }

def document : SignedApproval := { grantBytes := [], keyID := "ops", signature := "" }

/-- A grant of one hour. -/
def grantAt (issuedAt : Time) : ApprovalGrant :=
  { id := "move-files", goalID := "files", scope := "move-volume", issuedBy := "operator",
    keyID := "ops", issuedAt := issuedAt, expiresAt := issuedAt + 60 * minute }

/-- The clock of the controller in the examples. -/
def now : Time := 1000 * second

/-- A grant that will be issued ten days from now. -/
def postdated : ApprovalGrant := grantAt (now + 240 * 60 * minute)

def approved : Server := (server.approve (surroundings postdated now) document).2

lemma approve_postdated : Proc.Returns (Server.approve (surroundings postdated now) document)
    server postdated approved := by
  refine Prod.ext ?_ rfl
  decide

end Decisions

open Decisions

/-- A grant dated ten days ahead is accepted, authorises then, and takes the world's
evaluation time with it. -/
theorem approved_postdated :
    Proc.Returns (Server.approve (surroundings postdated now) document) server postdated approved ∧
      (∃ approval, approved.world.approvals["move-files"]? = some approval ∧
        approval.valid (now + 240 * 60 * minute) = true) ∧
      now + maxApprovalLifetime < now + 240 * 60 * minute ∧
      server.world.observedAt < now ∧
      now < approved.world.observedAt := by
  refine ⟨approve_postdated, ?_, by decide, by decide, by decide⟩
  obtain ⟨approval, hget, hvalid, -⟩ := approve_leaves approve_postdated
  refine ⟨approval, hget, ?_⟩
  rw [hvalid]
  decide

/-- The equivalence at that grant. -/
theorem approved_within_lifetime_iff_postdated :
    ((∀ approval, approved.world.approvals[postdated.id]? = some approval →
        ∀ t, now + maxApprovalLifetime < t → approval.valid t = false) ∧
      (approved.world.observedAt ≤ now ∨
        approved.world.observedAt = server.world.observedAt)) ↔
    postdated.issuedAt ≤ now ∨
      (postdated.issuedAt ≤ server.world.observedAt ∧
        postdated.expiresAt ≤ now + maxApprovalLifetime + 1) :=
  approved_within_lifetime_iff approve_postdated

/-! ### Revocations -/

/-- A call about a decision. -/
inductive DecisionCall where
  | approve (env : Surroundings) (signed : SignedApproval)
  | revoke (env : Surroundings) (signed : SignedApproval)

namespace DecisionCall

/-- The server after a call, whether it returned or not. -/
def after : DecisionCall → Server → Server
  | .approve env signed, s => (Server.approve env signed s).2
  | .revoke env signed, s => (Server.revoke env signed s).2

/-- The server after one call after the other. -/
def afterAll (calls : List DecisionCall) (s : Server) : Server :=
  calls.foldl (fun s call => call.after s) s

/-- The call is given no document about the approval that was issued by then. -/
def Fresh (id : String) (revokedAt : Time) : DecisionCall → Prop
  | .approve env signed => ∀ grant, env.decode signed.grantBytes = .ok grant → grant.id = id →
      revokedAt < grant.issuedAt
  | .revoke _ _ => True

end DecisionCall

/-- The approval authorises nothing. -/
def Withdrawn (s : Server) (id : String) : Prop :=
  ∀ approval, s.world.approvals[id]? = some approval → approval.granted = false

/-- In the course of the calls, `Approve` accepted a document about the approval that was
issued later. -/
def Reissued (calls : List DecisionCall) (s : Server) (id : String) (revokedAt : Time) : Prop :=
  ∃ before env signed rest grant s', calls = before ++ .approve env signed :: rest ∧
    Proc.Returns (Server.approve env signed) (DecisionCall.afterAll before s) grant s' ∧
    grant.id = id ∧ revokedAt < grant.issuedAt

section Revocation

variable {env : Surroundings} {signed : SignedApproval} {s s' : Server} {grant : ApprovalGrant}
  {id : String} {revokedAt : Time} {calls : List DecisionCall}

lemma Withdrawn.congr (h : Withdrawn s id) (hsame : s'.world = s.world) : Withdrawn s' id := by
  intro approval hget
  rw [hsame] at hget
  exact h approval hget

/-- A revocation withdraws the approval it names and reinstates no other. -/
lemma revoke_withdraws (h : Proc.Returns (Server.revoke env signed) s () s')
    (hgrant : verifyApproval env.host env.decode signed s.operatorKeys env.now = .ok grant) :
    Withdrawn s' grant.id ∧ ∀ id, Withdrawn s id → Withdrawn s' id := by
  obtain ⟨grant', hgrant', hproject⟩ := Server.revoke_spec h
  cases hgrant.symm.trans hgrant'
  obtain ⟨hother, hthis⟩ := project_revoked rfl hproject
  refine ⟨hthis, fun id hwithdrawn approval hget => ?_⟩
  by_cases hid : id = grant.id
  · subst hid
    exact hthis approval hget
  · rw [hother id hid] at hget
    exact hwithdrawn approval hget

/-- A grant of another approval reinstates nothing. -/
lemma approve_other (h : Proc.Returns (Server.approve env signed) s grant s')
    (hid : grant.id ≠ id) (hwithdrawn : Withdrawn s id) : Withdrawn s' id := by
  obtain ⟨-, hproject⟩ := Server.approve_spec h
  obtain ⟨recorded, happrovals, -⟩ := project_granted rfl hproject
  have hother : id ≠ (grant.evidence env.host).target := fun heq => hid heq.symm
  intro approval hget
  rw [happrovals, get_insert_of_ne hother] at hget
  exact hwithdrawn approval hget

/-- **One call** keeps an approval withdrawn, or accepts a document about it. -/
lemma Withdrawn.step (call : DecisionCall) (h : Withdrawn s id) :
    Withdrawn (call.after s) id ∨ ∃ env signed grant, call = .approve env signed ∧
      Proc.Returns (Server.approve env signed) s grant (call.after s) ∧ grant.id = id := by
  cases call with
  | approve env signed =>
    rcases Server.approve_failsClean s with hclean | ⟨grant, hreturns⟩
    · exact .inl (h.congr hclean)
    · by_cases hid : grant.id = id
      · exact .inr ⟨env, signed, grant, rfl, hreturns, hid⟩
      · exact .inl (approve_other hreturns hid h)
  | revoke env signed =>
    rcases Server.revoke_failsClean s with hclean | ⟨_, hreturns⟩
    · exact .inl (h.congr hclean)
    · obtain ⟨grant, hgrant, -⟩ := Server.revoke_spec hreturns
      exact .inl ((revoke_withdraws hreturns hgrant).2 id h)

/-- **A run of calls** that are given nothing older keeps an approval withdrawn until a
newer document is accepted. -/
lemma Withdrawn.run (h : Withdrawn s id) (hfresh : ∀ call ∈ calls, call.Fresh id revokedAt) :
    Reissued calls s id revokedAt ∨ Withdrawn (DecisionCall.afterAll calls s) id := by
  induction calls generalizing s with
  | nil => exact .inr h
  | cons call rest ih =>
    rcases h.step call with hstays | ⟨env, signed, grant, rfl, hreturns, hid⟩
    · rcases ih hstays fun c hc => hfresh c (List.mem_cons_of_mem _ hc) with hnew | hstill
      · obtain ⟨before, env, signed, after, grant, s', hsplit, hreturns, hid, hlater⟩ := hnew
        exact .inl ⟨call :: before, env, signed, after, grant, s', by rw [hsplit]; rfl,
          hreturns, hid, hlater⟩
      · exact .inr hstill
    · obtain ⟨hdecode, -⟩ := verifyApproval_ok (Server.approve_spec hreturns).1
      have hlater : revokedAt < grant.issuedAt :=
        hfresh _ List.mem_cons_self grant hdecode hid
      exact .inl ⟨[], env, signed, rest, grant, _, rfl, hreturns, hid, hlater⟩

/-- **A revocation stands.** Once `Revoke` has succeeded, the approval is valid at no time
in any state that later calls lead to, as long as no document about it that had been issued
by then is submitted for approval, unless one issued later was accepted. -/
theorem revoked_for_good (h : Proc.Returns (Server.revoke env signed) s () s')
    (hgrant : verifyApproval env.host env.decode signed s.operatorKeys env.now = .ok grant)
    (hfresh : ∀ call ∈ calls, call.Fresh grant.id env.recordedAt) :
    Reissued calls s' grant.id env.recordedAt ∨
      ∀ approval, (DecisionCall.afterAll calls s').world.approvals[grant.id]? = some approval →
        ∀ t, approval.valid t = false := by
  refine ((revoke_withdraws h hgrant).1.run hfresh).imp_right fun hstill approval hget t => ?_
  rw [Approval.valid, hstill approval hget, Bool.false_and]

end Revocation

namespace Decisions

/-- One grant, submitted first to `Approve`, then to `Revoke`, then to `Approve` again. -/
def grant : ApprovalGrant := grantAt now

def granted : Server := (server.approve (surroundings grant now) document).2

def revoked : Server := (granted.revoke (surroundings grant (now + second)) document).2

def restored : Server := (revoked.approve (surroundings grant (now + 2 * second)) document).2

lemma granted_returns :
    Proc.Returns (Server.approve (surroundings grant now) document) server grant granted := by
  refine Prod.ext ?_ rfl
  decide

lemma revoked_returns :
    Proc.Returns (Server.revoke (surroundings grant (now + second)) document) granted ()
      revoked := by
  refine Prod.ext ?_ rfl
  decide

lemma restored_returns :
    Proc.Returns (Server.approve (surroundings grant (now + 2 * second)) document) revoked grant
      restored := by
  refine Prod.ext ?_ rfl
  decide

end Decisions

/-- The original grant restores an approval after its revocation, and so does the document
that revoked it: they are one and the same. -/
theorem revocation_replayed :
    Proc.Returns (Server.approve (surroundings grant now) document) server grant granted ∧
      Proc.Returns (Server.revoke (surroundings grant (now + second)) document) granted () revoked ∧
      Proc.Returns (Server.approve (surroundings grant (now + 2 * second)) document) revoked grant
        restored ∧
      grant.issuedAt < now + second ∧
      ∃ approval, restored.world.approvals["move-files"]? = some approval ∧
        approval.valid (now + 2 * second) = true := by
  refine ⟨granted_returns, revoked_returns, restored_returns, by decide, ?_⟩
  obtain ⟨approval, hget, hvalid, -⟩ := approve_leaves restored_returns
  refine ⟨approval, hget, ?_⟩
  rw [hvalid]
  decide

/-- A revocation that is submitted twice, then a grant issued later. -/
theorem revoked_for_good_reissue :
    Reissued [.revoke (surroundings grant (now + 2 * second)) document,
        .approve (surroundings (grantAt (now + 3 * second)) (now + 3 * second)) document]
        revoked grant.id (now + second) ∨
      ∀ approval, (DecisionCall.afterAll [.revoke (surroundings grant (now + 2 * second)) document,
            .approve (surroundings (grantAt (now + 3 * second)) (now + 3 * second)) document]
          revoked).world.approvals[grant.id]? = some approval →
        ∀ t, approval.valid t = false := by
  refine revoked_for_good revoked_returns (by decide) ?_
  intro call hcall
  rcases List.mem_cons.mp hcall with rfl | hcall
  · trivial
  · cases List.mem_singleton.mp hcall
    intro grant hdecode _
    cases hdecode
    decide

end A4s
