/-
Submitting goals to a server that records decisions (`server/server.go`): `Submit` between
calls of `Approve` and `Revoke`.

`Submit` validates a goal against the whole world, and the world keeps every approval that
was ever granted, for whichever goal, also after it was revoked.

* `Server.submit`: the code; `Server.Admits` says that it succeeds.
* `ServerCall`, `afterAll`: the calls of a server, one after the other.
* `Card`: what admission reads of an approval. `cards_after` says what one call leaves of
  the cards, `cards_afterAll` what a run does: the grant accepted last under a name.
* `admits_iff_own_record`: **a goal that passes its own checks is admitted, and no other
  goal's approvals matter, exactly when** the run has left no other goal's approval.
-/
import A4s.Control.Admission
import A4s.Server.Decisions

namespace A4s

open Go

/-! ### Submitting -/

namespace Server

/-- `Submit`: the goal is kept only if the whole scenario is valid. -/
def submit (order : Ranging) (goal : Goal) : Proc Server Unit := do
  let w ← Proc.read Server.world
  Proc.wrapped s!"reject goal {quote goal.id}: " (Proc.lift (normalizeAndValidate order goal w))
  Proc.modify fun s => { s with goals := s.goals.insert goal.id goal }

/-- `Submit` succeeds. -/
def Admits (s : Server) (order : Ranging) (goal : Goal) : Prop :=
  (submit order goal s).1 = .ok ()

instance (s : Server) (order : Ranging) (goal : Goal) : Decidable (s.Admits order goal) :=
  inferInstanceAs (Decidable (_ = _))

/-- The server, had no approval for another goal been recorded. -/
def withoutOthers (s : Server) (goal : Goal) : Server :=
  { s with world := { s.world with
    approvals := s.world.approvals.filter fun _ approval => approval.goalID = goal.id } }

lemma submit_keeps_world (order : Ranging) (goal : Goal) :
    Proc.Keeps Server.world (submit order goal) := by
  refine keeps_bind (keeps_read _) fun w => ?_
  refine keeps_bind (keeps_wrapped _ (keeps_lift _)) fun _ => ?_
  exact keeps_modify fun _ => rfl

lemma admits_iff {s : Server} {order : Ranging} {goal : Goal} :
    s.Admits order goal ↔ normalizeAndValidate order goal s.world = .ok () := by
  have hsubmit : (submit order goal s).1 =
      wrapError s!"reject goal {quote goal.id}: " (normalizeAndValidate order goal s.world) := by
    rcases hvalid : normalizeAndValidate order goal s.world with e | ⟨⟩
    · simp only [submit, bind, Proc.read, Proc.wrapped, Proc.lift, hvalid]
      cases e <;> rfl
    · simp only [submit, bind, Proc.read, Proc.wrapped, Proc.lift, hvalid]
      rfl
  rw [Admits, hsubmit, wrapError_ok]

end Server

/-- A call of a server that is about goals and decisions. -/
inductive ServerCall where
  | submit (order : Ranging) (goal : Goal)
  | decision (call : DecisionCall)

namespace ServerCall

/-- The server after a call, whether it returned or not. -/
def after : ServerCall → Server → Server
  | .submit order goal, s => (Server.submit order goal s).2
  | .decision call, s => call.after s

/-- The server after one call after the other. -/
def afterAll (calls : List ServerCall) (s : Server) : Server :=
  calls.foldl (fun s call => call.after s) s

/-- The grant that a call accepts. -/
def accepts : ServerCall → Server → Option ApprovalGrant
  | .decision (.approve env signed), s => (Server.approve env signed s).1.toOption
  | _, _ => none

/-- The grant accepted last under a name. -/
def lastGrant (id : String) : List ServerCall → Server → Option ApprovalGrant
  | [], _ => none
  | call :: rest, s =>
    (lastGrant id rest (call.after s)).or ((call.accepts s).filter fun grant => grant.id = id)

end ServerCall

/-! ### What the calls leave of the approvals -/

/-- What admission reads of an approval. -/
structure Card where
  id : String
  goalID : String
  scope : String
  issuedBy : String
  deriving DecidableEq

def Approval.card (a : Approval) : Card := ⟨a.id, a.goalID, a.scope, a.issuedBy⟩

def ApprovalGrant.card (g : ApprovalGrant) : Card := ⟨g.id, g.goalID, g.scope, g.issuedBy⟩

/-- The card of the approval that is recorded under a name. -/
def Server.card (s : Server) (id : String) : Option Card :=
  s.world.approvals[id]?.map Approval.card

section Cards

variable {w w' : World} {e : Evidence} {env : Surroundings} {signed : SignedApproval}
  {s s' : Server} {grant : ApprovalGrant} {id : String} {call : ServerCall}

lemma ApprovalGrant.observe_issuedBy {host : Host} :
    (grant.evidence host).observe "issued_by" = grant.issuedBy := by
  simp [ApprovalGrant.evidence, Evidence.observe]

/-- A grant is recorded under its own card. -/
lemma project_grant_card {host : Host} (h : project w (grant.evidence host) = .ok w') :
    (∃ approval : Approval, w'.approvals = w.approvals.insert grant.id approval ∧
      approval.card = grant.card) ∧ w'.queues = w.queues := by
  obtain ⟨next, hinto, hnext⟩ := bind_ok.mp h
  simp only [projectInto, ApprovalGrant.evidence_kind, projectApprovalGranted,
    refuseIf_bind_ok, pure_ok] at hinto
  obtain ⟨-, -, -, rfl⟩ := hinto
  cases hnext
  refine ⟨⟨_, rfl, ?_⟩, rfl⟩
  rw [Approval.card, ApprovalGrant.card, ApprovalGrant.observe_goal, ApprovalGrant.observe_scope,
    ApprovalGrant.observe_issuedBy]
  rfl

/-- A revocation changes no card. -/
lemma project_revoked_card (hk : e.kind = .approvalRevoked) (h : project w e = .ok w') :
    (∀ id : String, w'.approvals[id]?.map Approval.card = w.approvals[id]?.map Approval.card) ∧
      w'.queues = w.queues := by
  obtain ⟨next, hinto, hnext⟩ := bind_ok.mp h
  have hsame : w'.approvals = next.approvals ∧ w'.queues = next.queues := by
    cases hnext
    split_ifs
    · exact ⟨rfl, rfl⟩
    · exact ⟨rfl, rfl⟩
  rw [hsame.1, hsame.2]
  simp only [projectInto, hk, projectApprovalRevoked] at hinto
  split at hinto
  · cases hinto
    exact ⟨fun _ => rfl, rfl⟩
  · rename_i approval hsome
    cases hinto
    exact ⟨Table.map_get_insert hsome rfl, rfl⟩

lemma validateGrant_issued {host : Host} (h : validateGrant host grant = .ok ()) :
    grant.issuedBy ≠ "" := by
  simp only [validateGrant, refuseIf_bind_ok] at h
  obtain ⟨-, -, -, hissuer, -⟩ := h
  intro hempty
  rw [hempty] at hissuer
  exact hissuer rfl

/-- A call accepts a grant by returning it. -/
lemma accepts_approve : (ServerCall.decision (.approve env signed)).accepts s = some grant ↔
    Proc.Returns (Server.approve env signed) s grant (Server.approve env signed s).2 := by
  rw [Proc.Returns, ServerCall.accepts]
  rcases Server.approve env signed s with ⟨_ | grant', s'⟩
  · simp [Except.toOption]
  · simp [Except.toOption]

/-- An accepted grant is recorded under its own card, and nothing else changes. -/
lemma card_approved (h : Proc.Returns (Server.approve env signed) s grant s') (id : String) :
    s'.card id = (if grant.id = id then some grant.card else s.card id) ∧
      s'.world.queues = s.world.queues := by
  obtain ⟨-, hproject⟩ := Server.approve_spec h
  obtain ⟨⟨approval, happrovals, hcard⟩, hqueues⟩ := project_grant_card hproject
  refine ⟨?_, hqueues⟩
  rw [Server.card, Server.card, happrovals]
  split_ifs with hid
  · rw [← hid, get_insert_self, Option.map_some, hcard]
  · rw [get_insert_of_ne (Ne.symm hid)]

/-- **One call** leaves a card, unless it accepts a grant under its name; and it leaves the
queues. -/
lemma card_after (call : ServerCall) (s : Server) (id : String) :
    (call.after s).card id = (((call.accepts s).filter fun grant => grant.id = id).map
      ApprovalGrant.card).or (s.card id) ∧
    (call.after s).world.queues = s.world.queues := by
  cases call with
  | submit order goal =>
    have hworld : ((ServerCall.submit order goal).after s).world = s.world :=
      Server.submit_keeps_world order goal s
    rw [Server.card, hworld]
    exact ⟨rfl, rfl⟩
  | decision call =>
    cases call with
    | approve env signed =>
      rcases haccepts : (ServerCall.decision (.approve env signed)).accepts s with _ | grant
      · have hworld :
            (ServerCall.after (.decision (.approve env signed)) s).world = s.world := by
          rcases Server.approve_failsClean s with hclean | ⟨grant, hreturns⟩
          · exact hclean
          · cases haccepts.symm.trans (accepts_approve.mpr hreturns)
        rw [Server.card, hworld]
        exact ⟨rfl, rfl⟩
      · obtain ⟨hcard, hqueues⟩ := card_approved (accepts_approve.mp haccepts) id
        refine ⟨hcard.trans ?_, hqueues⟩
        by_cases hid : grant.id = id
        · simp [hid, Option.filter]
        · simp [hid, Option.filter]
    | revoke env signed =>
      have hnone : (ServerCall.decision (.revoke env signed)).accepts s = none := rfl
      rw [hnone]
      rcases Server.revoke_failsClean s with hclean | ⟨_, hreturns⟩
      · have hworld : (ServerCall.after (.decision (.revoke env signed)) s).world = s.world :=
          hclean
        rw [Server.card, hworld]
        exact ⟨rfl, rfl⟩
      · obtain ⟨grant, -, hproject⟩ := Server.revoke_spec hreturns
        obtain ⟨hcards, hqueues⟩ := project_revoked_card rfl hproject
        exact ⟨hcards id, hqueues⟩

/-- **A run** leaves under every name the card of the grant accepted last, or what the
server was opened with. -/
lemma card_afterAll (calls : List ServerCall) (s : Server) (id : String) :
    (ServerCall.afterAll calls s).card id =
        ((ServerCall.lastGrant id calls s).map ApprovalGrant.card).or (s.card id) ∧
      (ServerCall.afterAll calls s).world.queues = s.world.queues := by
  induction calls generalizing s with
  | nil => exact ⟨rfl, rfl⟩
  | cons call rest ih =>
    obtain ⟨hcard, hqueues⟩ := card_after call s id
    obtain ⟨hrest, hqueuesRest⟩ := ih (call.after s)
    refine ⟨?_, hqueuesRest.trans hqueues⟩
    calc (ServerCall.afterAll (call :: rest) s).card id
        = ((ServerCall.lastGrant id rest (call.after s)).map ApprovalGrant.card).or
            ((call.after s).card id) := hrest
      _ = ((ServerCall.lastGrant id (call :: rest) s).map ApprovalGrant.card).or
            (s.card id) := by
          rw [hcard, ServerCall.lastGrant, Option.map_or, Option.or_assoc]

/-- An accepted grant says what it grants, and by whom. -/
lemma accepts_named (h : call.accepts s = some grant) :
    grant.scope ≠ "" ∧ grant.issuedBy ≠ "" := by
  rcases call with ⟨order, goal⟩ | ⟨env, signed⟩ | ⟨env, signed⟩
  · cases h
  · have hvalid := verifyApproval_valid (Server.approve_spec (accepts_approve.mp h)).1
    obtain ⟨-, -, hscope⟩ := validateGrant_named hvalid
    refine ⟨?_, validateGrant_issued hvalid⟩
    intro hempty
    rw [hempty] at hscope
    exact absurd hscope (by decide)
  · cases h

/-- What stands under a name because a call accepted it, names it. -/
lemma lastGrant_named {calls : List ServerCall} (h : ServerCall.lastGrant id calls s = some grant) :
    grant.id = id ∧ grant.scope ≠ "" ∧ grant.issuedBy ≠ "" := by
  induction calls generalizing s with
  | nil => cases h
  | cons call rest ih =>
    rw [ServerCall.lastGrant, Option.or_eq_some_iff] at h
    rcases h with hlater | ⟨-, hthis⟩
    · exact ih hlater
    · obtain ⟨haccepts, hid⟩ := Option.filter_eq_some_iff.mp hthis
      exact ⟨of_decide_eq_true hid, accepts_named haccepts⟩

end Cards

/-! ### Admission in a run -/

/-- What the run leaves under a name is the goal's own: the grant accepted last under it, or
else the approval the server was opened with. -/
def OwnRecord (goal : Goal) (start : Server) (calls : List ServerCall) (id : String) : Prop :=
  match ServerCall.lastGrant id calls start with
  | some grant => grant.goalID = goal.id
  | none => ∀ approval : Approval, start.world.approvals[id]? = some approval →
      approval.WellFormed id ∧ approval.goalID = goal.id

/-- The card passes the loop over the approvals. -/
structure Card.Passes (c : Card) (id goalID : String) : Prop where
  keyed : c.id = id
  gated : c.scope ≠ ""
  signed : c.issuedBy ≠ ""
  own : c.goalID = goalID

section Admission

variable {start s : Server} {calls : List ServerCall} {order : Ranging} {goal : Goal}
  {id : String}

lemma passes_card {approval : Approval} :
    approval.card.Passes id goal.id ↔ approval.WellFormed id ∧ approval.goalID = goal.id := by
  constructor
  · intro h
    exact ⟨⟨h.keyed, h.gated, h.signed⟩, h.own⟩
  · rintro ⟨h, hown⟩
    exact ⟨h.keyed, h.gated, h.signed, hown⟩

/-- The loop over the approvals reads cards. -/
lemma approvals_pass_iff :
    (∀ approval : Approval, s.world.approvals[id]? = some approval →
      approval.WellFormed id ∧ approval.goalID = goal.id) ↔
    ∀ c, s.card id = some c → c.Passes id goal.id := by
  constructor
  · intro h c hc
    obtain ⟨approval, hget, rfl⟩ := Option.map_eq_some_iff.mp hc
    exact passes_card.mpr (h approval hget)
  · intro h approval hget
    refine passes_card.mp (h _ ?_)
    rw [Server.card, hget, Option.map_some]

/-- What a run leaves under a name passes exactly if it is the goal's own. -/
lemma ownRecord_iff : OwnRecord goal start calls id ↔
    ∀ approval : Approval, (ServerCall.afterAll calls start).world.approvals[id]? = some approval →
      approval.WellFormed id ∧ approval.goalID = goal.id := by
  rw [approvals_pass_iff, (card_afterAll calls start id).1, OwnRecord]
  cases hlast : ServerCall.lastGrant id calls start with
  | none =>
    rw [Option.map_none, Option.none_or]
    exact approvals_pass_iff
  | some grant =>
    obtain ⟨hid, hscope, hissuer⟩ := lastGrant_named hlast
    rw [Option.map_some, Option.some_or]
    constructor
    · rintro hown c ⟨⟩
      exact ⟨hid, hscope, hissuer, hown⟩
    · intro h
      exact (h _ rfl).own

/-- If all approvals are the goal's, there are no others to leave out. -/
lemma withoutOthers_eq_self
    (h : ∀ (id : String) (approval : Approval), s.world.approvals[id]? = some approval →
      approval.goalID = goal.id) : s.withoutOthers goal = s := by
  have hsame : (s.world.approvals.filter fun _ approval => decide (approval.goalID = goal.id)) =
      s.world.approvals := by
    refine Table.ext fun id => ?_
    rw [Std.ExtTreeMap.getElem?_filter']
    cases hget : s.world.approvals[id]? with
    | none => rfl
    | some approval => simp [Option.filter, h id approval hget]
  rw [Server.withoutOthers, hsame]

/-- **Admission.** In every state a run of `Submit`, `Approve` and `Revoke` leads to, a goal
that passes all checks about itself and the nodes is admitted, and would be no less without
the approvals of other goals, exactly when the queues the server was opened with are well
formed and the run has left no approval but the goal's own: under every name, the grant
accepted last, revoked or not, or the approval the server was opened with. -/
theorem admits_iff_own_record (hown : Admissible goal (ServerCall.afterAll calls start).world) :
    ((ServerCall.afterAll calls start).Admits order goal ∧
      ((ServerCall.afterAll calls start).Admits order goal ↔
        ((ServerCall.afterAll calls start).withoutOthers goal).Admits order goal)) ↔
    (∀ name (queue : Queue), start.world.queues[name]? = some queue → queue.WellFormed name) ∧
      ∀ id, OwnRecord goal start calls id := by
  have hadmits : (ServerCall.afterAll calls start).Admits order goal ↔
      (∀ name (queue : Queue), start.world.queues[name]? = some queue →
        queue.WellFormed name) ∧ ∀ id, OwnRecord goal start calls id := by
    rw [Server.admits_iff, normalizeAndValidate_ok_iff, (card_afterAll calls start "").2]
    constructor
    · rintro ⟨-, hqueues, happrovals⟩
      exact ⟨hqueues, fun id => ownRecord_iff.mpr (happrovals id)⟩
    · rintro ⟨hqueues, hrecords⟩
      exact ⟨hown, hqueues, fun id => ownRecord_iff.mp (hrecords id)⟩
  constructor
  · rintro ⟨hadmitted, -⟩
    exact hadmits.mp hadmitted
  · rintro ⟨hqueues, hrecords⟩
    have hall : (ServerCall.afterAll calls start).withoutOthers goal =
        ServerCall.afterAll calls start :=
      withoutOthers_eq_self fun id approval hget =>
        (ownRecord_iff.mp (hrecords id) approval hget).2
    rw [hall]
    exact ⟨hadmits.mpr ⟨hqueues, hrecords⟩, Iff.rfl⟩

end Admission

namespace Submission

/-- The maps visited in the order of their keys. -/
def listed : Ranging :=
  { queues := fun t => t.toList, nodes := fun t => t.toList, approvals := fun t => t.toList
    ranges_queues := Table.ranges_toList, ranges_nodes := Table.ranges_toList
    ranges_approvals := Table.ranges_toList }

/-- A server with one node and one operator, and no goals yet. -/
def server : Server :=
  { operatorKeys := Table.ofEntries [("ops", List.replicate 32 0)]
    world := { nodes := Table.ofEntries [("alpha",
      { id := "alpha", capacity := { cpuMillis := 4000, memoryMB := 4096 }, healthy := true })] } }

/-- A goal of one replica. -/
def goal (name : String) : Goal :=
  { apiVersion := apiVersion, id := name, objective := "keep it running"
    workload := { name := name, image := "app@sha256:" ++ String.ofList (List.replicate 64 '0'),
                  replicas := 1, port := 8080, resources := { cpuMillis := 100, memoryMB := 64 } } }

/-- The goal `files` is submitted. -/
def submitted : List ServerCall := [.submit listed (goal "files")]

/-- Then an operator approves a decision about it. -/
def granted : List ServerCall :=
  submitted ++ [.decision (.approve (Decisions.surroundings Decisions.grant Decisions.now)
    Decisions.document)]

/-- Then the operator revokes it. -/
def revoked : List ServerCall :=
  granted ++ [.decision (.revoke (Decisions.surroundings Decisions.grant
    (Decisions.now + second)) Decisions.document)]

/-- The other goal passes its own checks. -/
lemma admissible : Admissible (goal "web") (ServerCall.afterAll granted server).world where
  version := rfl
  named := by decide
  objective := by decide
  workload := by decide
  pinned := by decide +kernel
  replicas := by decide
  port := by decide
  resources := by decide
  unprivileged := rfl
  volumes := rfl
  engine := rfl
  runtime := rfl
  schedule := rfl
  canary := rfl
  spread := by decide +kernel
  queue := rfl
  secrets := rfl
  route := rfl
  inhabited := by decide +kernel
  nodes := by
    have hloop : (listed.nodes (ServerCall.afterAll granted server).world.nodes).forM checkNode =
        .ok () := by decide +kernel
    exact (listed.ranges_nodes _).forM_ok.mp hloop

end Submission

open Submission

/-- A goal that is admitted before an approval is recorded for another one is refused after
it, and still is when that approval has been revoked. -/
theorem admission_blocked :
    Admissible (goal "web") (ServerCall.afterAll granted server).world ∧
      (ServerCall.afterAll submitted server).Admits listed (goal "web") ∧
      (Server.submit listed (goal "web") (ServerCall.afterAll granted server)).1 =
        fail ("reject goal \"web\": approval \"move-files\" is malformed or belongs to " ++
          "another goal") ∧
      ((ServerCall.afterAll granted server).withoutOthers (goal "web")).Admits listed (goal "web") ∧
      ¬(ServerCall.afterAll revoked server).Admits listed (goal "web") := by
  refine ⟨admissible, ?_, ?_, ?_, ?_⟩
  · decide +kernel
  · decide +kernel
  · decide +kernel
  · decide +kernel

/-- The equivalence in that state. -/
theorem admits_iff_own_record_web :
    ((ServerCall.afterAll granted server).Admits listed (goal "web") ∧
      ((ServerCall.afterAll granted server).Admits listed (goal "web") ↔
        ((ServerCall.afterAll granted server).withoutOthers
          (goal "web")).Admits listed (goal "web"))) ↔
    (∀ name (queue : Queue), server.world.queues[name]? = some queue →
        queue.WellFormed name) ∧
      ∀ id, OwnRecord (goal "web") server granted id :=
  admits_iff_own_record admissible

end A4s
