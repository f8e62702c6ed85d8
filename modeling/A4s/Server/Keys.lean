/-
The keys of envelopes (`node/remote.go`, `node/dispatcher.go`, `control/engine.go`).

A node carries an action out once for each idempotency key, and refuses a key that comes with
other work. The key is made of the proposal and the action. A proposal is named after its agent
and the revision of the world it was made on, whatever its goal is.

* `Named`: the name of a proposal; `Named.key_inj` reads proposal and action off a key.
* `Notes`, `discipline`: what a reconciliation has read, asked for and sent; `run_keeps` says that
  the engine asks on the world as it is and sends each action once.
* `Keyed`: what holds of the controller and the nodes between the operations.
* `keys_not_reused`: **when no node refuses a key as reused.**
-/
import A4s.Control.Replay
import A4s.Server.Fleet

namespace A4s

open Go

/-! ### The names of proposals -/

/-- What the names of the agents' proposals start with. -/
def proposalStems : List String :=
  [PlacementAgent.descriptor.id, NetworkAgent.descriptor.id, RolloutAgent.descriptor.id,
    RemediationAgent.descriptor.id, StorageAgent.descriptor.id ++ "-verify",
    StorageAgent.descriptor.id ++ "-backup"]

/-- The name of a proposal that an agent has made on a revision. -/
def Named (id : String) (revision : UInt64) : Prop :=
  ∃ stem ∈ proposalStems, id = s!"{stem}-r{revision}"

section Named

variable {id : String} {revision revision' : UInt64} {host : Host} {goal : Goal} {w : World}
  {p : Proposal}

lemma toList_named (stem : String) (revision : UInt64) :
    (s!"{stem}-r{revision}").toList = stem.toList ++ '-' :: 'r' :: (toString revision).toList := by
  change (stem ++ "-r" ++ toString revision).toList = _
  rw [String.toList_append, String.toList_append, List.append_assoc]
  rfl

/-- The revision can be read off. -/
lemma Named.revision_inj (h : Named id revision) (h' : Named id revision') :
    revision = revision' := by
  obtain ⟨stem, -, rfl⟩ := h
  obtain ⟨stem', -, heq⟩ := h'
  have hlists := congrArg String.toList heq
  rw [toList_named, toList_named] at hlists
  have hdash (n : UInt64) : '-' ∉ 'r' :: (toString n).toList := by
    rw [List.mem_cons, not_or]
    exact ⟨by decide, not_mem_toString_uint64 (by decide) n⟩
  obtain ⟨-, hdigits⟩ := append_sep_inj (hdash _) (hdash _) hlists
  exact toString_uint64_inj (List.cons_eq_cons.mp hdigits).2

lemma Named.no_slash (h : Named id revision) : '/' ∉ id.toList := by
  obtain ⟨stem, hstem, rfl⟩ := h
  have hstems : ∀ stem ∈ proposalStems, '/' ∉ stem.toList := by decide
  rw [toList_named, List.mem_append, not_or, List.mem_cons, not_or, List.mem_cons, not_or]
  exact ⟨hstems stem hstem, by decide, by decide, not_mem_toString_uint64 (by decide) revision⟩

/-- **A key tells the proposal and the action.** -/
lemma Named.key_inj {other action second : String} (h : Named id revision)
    (h' : Named other revision') (heq : s!"{id}/{action}" = s!"{other}/{second}") :
    id = other ∧ action = second := by
  have hkey (id action : String) :
      (s!"{id}/{action}").toList = id.toList ++ '/' :: action.toList := by
    change (id ++ "/" ++ action).toList = _
    rw [String.toList_append, String.toList_append, List.append_assoc]
    rfl
  have hlists := congrArg String.toList heq
  rw [hkey, hkey] at hlists
  obtain ⟨hid, haction⟩ := sep_append_inj h.no_slash h'.no_slash hlists
  exact ⟨String.toList_inj.mp hid, String.toList_inj.mp haction⟩

/-- The kernel accepts each name of an action once. -/
lemma authorizeActions_unique {agentID : String} {grants : Grants} {actions : List Action}
    {completed : List String} {sim sim' : World}
    (h : authorizeActions host agentID grants goal sim completed actions = .ok sim') :
    (∀ a ∈ actions, a.id ∉ completed) ∧ (actions.map (·.id)).Nodup := by
  induction actions generalizing sim completed with
  | nil => exact ⟨fun _ ha => absurd ha List.not_mem_nil, List.nodup_nil⟩
  | cons a rest ih =>
    simp only [authorizeActions, refuseIf_bind_ok, not_or] at h
    obtain ⟨⟨-, hnew⟩, -, h⟩ := h
    obtain ⟨_, -, h⟩ := bind_ok.mp h
    obtain ⟨_, -, h⟩ := bind_ok.mp h
    obtain ⟨_, -, h⟩ := bind_ok.mp h
    obtain ⟨hrest, honce⟩ := ih h
    refine ⟨List.forall_mem_cons.mpr ⟨hnew, fun b hb => ?_⟩, List.nodup_cons.mpr ⟨?_, honce⟩⟩
    · exact fun hmem => hrest b hb (List.mem_cons_of_mem _ hmem)
    · rintro hmem
      obtain ⟨b, hb, hsame⟩ := List.mem_map.mp hmem
      exact hrest b hb (hsame ▸ List.mem_cons_self)

lemma authorize_unique {k : Kernel} {actor : AgentDescriptor}
    (h : authorize host k actor goal w p = .ok ()) :
    p.basedOnRevision = w.revision ∧ (p.actions.map (·.id)).Nodup := by
  simp only [authorize, refuseIf_bind_ok] at h
  obtain ⟨-, -, hbased, -, -, -, h⟩ := h
  obtain ⟨_, hwalk, -⟩ := bind_ok.mp h
  exact ⟨not_not.mp hbased, (authorizeActions_unique hwalk).2⟩

lemma NetworkAgent.propose_named (host : Host) (goal : Goal) (w : World) :
    Named (NetworkAgent.propose host goal w).id w.revision := by
  refine ⟨descriptor.id, by decide, ?_⟩
  have hnames : (publishNames host goal w).id = s!"{descriptor.id}-r{w.revision}" := by
    unfold publishNames
    split_ifs <;> rfl
  unfold NetworkAgent.propose
  dsimp only
  split_ifs
  · rfl
  · split
    · exact hnames
    · split_ifs
      · exact hnames
      · rfl

lemma RolloutAgent.propose_named {r : RolloutAgent} (h : r.propose host goal w = .ok p) :
    Named p.id w.revision := by
  refine ⟨descriptor.id, by decide, ?_⟩
  unfold RolloutAgent.propose at h
  dsimp only at h
  split at h
  · cases h
  · split at h
    · cases h
      rfl
    · split at h
      · cases h
        rfl
      · generalize (servingAllocations host goal w : Int) - _ = left at h
        split_ifs at h <;> cases h <;> rfl

lemma RemediationAgent.propose_named (goal : Goal) (w : World) :
    Named (RemediationAgent.propose goal w).id w.revision := by
  refine ⟨descriptor.id, by decide, ?_⟩
  unfold RemediationAgent.propose
  dsimp only
  split_ifs <;> rfl

lemma StorageAgent.propose_named (s : StorageAgent) (host : Host) (goal : Goal) (w : World) :
    Named (s.propose host goal w).id w.revision := by
  refine ⟨descriptor.id ++ "-verify", by decide, ?_⟩
  unfold StorageAgent.propose
  dsimp only
  split <;> rfl

lemma StorageAgent.proposeBackup_named (goal : Goal) (w : World) (label : String) :
    Named (proposeBackup goal w label).id w.revision := by
  refine ⟨descriptor.id ++ "-backup", by decide, ?_⟩
  unfold proposeBackup
  dsimp only
  split_ifs
  · rfl
  · split <;> rfl

/-- **Every proposal is named** after its agent and the revision it was made on. -/
lemma BuiltIn.propose_named {b : BuiltIn} (h : b.propose host goal w = .ok p) :
    Named p.id w.revision := by
  cases b with
  | placement =>
    refine ⟨PlacementAgent.descriptor.id, by decide, ?_⟩
    rw [BuiltIn.propose] at h
    split at h
    · rename_i hproposed
      cases h
      obtain ⟨b, -, hreturned⟩ := bind_ok.mp hproposed
      cases hreturned
      rfl
    · cases h
    · cases h
  | network =>
    cases h
    exact NetworkAgent.propose_named host goal w
  | rollout r => exact RolloutAgent.propose_named h
  | remediation =>
    cases h
    exact RemediationAgent.propose_named goal w
  | storage s =>
    cases h
    exact s.propose_named host goal w
  | backup label =>
    cases h
    exact StorageAgent.proposeBackup_named goal w label

end Named

end A4s

namespace A4s.Calls

open Go Journal

namespace Keys

/-! ### What a reconciliation does -/

/-- Where a reconciliation is: it has a proposal with its name, the revision it says it is based on
and the revision of the world it was asked for on; or it has bound the executors to one, and has
sent the actions of the names. -/
inductive Turn
  | idle
  | asked (id : String) (based revision : UInt64)
  | bound (sent : List String)

/-- The revision of the world as it was read last, unless it may have changed. -/
structure Notes where
  read : Option UInt64 := none
  turn : Turn := .idle

namespace Notes

variable (g : Notes)

/-- The world may have changed: what was proposed on it is out of date. -/
def projected : Notes :=
  { read := none
    turn := match g.turn with
      | .bound sent => .bound sent
      | _ => .idle }

def sending (a : Action) : Notes :=
  { g with turn := match g.turn with
    | .bound sent => .bound (a.id :: sent)
    | turn => turn }

def note : (op : Op) → Op.Answer op → Notes
  | .world, w => { g with read := some w.revision }
  | .project _, _ => g.projected
  | .ask (.propose _ _ w), .ok p => { g with turn := .asked p.id p.basedOnRevision w.revision }
  | .ask (.propose _ _ _), .error _ => { g with turn := .idle }
  | .ask (.acquire _ _ _), .ok _ => { g with turn := .bound [] }
  | .ask (.acquire _ _ _), .error _ => { g with turn := .idle }
  | .ask (.execute a), _ => g.sending a
  | .ask (.release _), _ => { g with turn := .idle }
  | _, _ => g

/-- Proposals are made on the world as it is, those that are bound are based on it, and each
action is sent once. -/
def may : Op → Prop
  | .ask (.propose _ _ w) => g.read = some w.revision
  | .ask (.acquire _ proposalID _) => ∃ revision, g.turn = .asked proposalID revision revision
  | .ask (.execute a) => ∃ sent, g.turn = .bound sent ∧ a.id ∉ sent
  | _ => True

end Notes

def discipline : Discipline interface Notes :=
  { note := Notes.note, may := Notes.may, possible := fun _ _ _ => True }

section Rules

variable {α β : Type} {c : Call α} {f : α → Call β} {t : Turn} {post : Turn → Prop}

/-- A call that starts at a turn ends as the condition says. -/
def Takes (t : Turn) (c : Call α) (post : Turn → Prop) : Prop :=
  ∀ g : Notes, g.turn = t → Meets discipline c.run g fun _ g' => post g'.turn

/-- A call that stays where it is. -/
def Stays (t : Turn) (c : Call α) : Prop := Takes t c (· = t)

/-- A call that may end anywhere. -/
def Goes (t : Turn) (c : Call α) : Prop := Takes t c fun _ => True

/-- A part that stays, and what follows; an error ends both. -/
lemma Stays.take (hc : Stays t c) (ht : post t) (hf : ∀ a, Takes t (f a) post) :
    Takes t (c >>= f) post := by
  intro g hg
  rw [meets_run_bind]
  refine (hc g hg).mono fun r g' hg' => ?_
  cases r with
  | ok a => exact hf a g' hg'
  | error fault => exact hg' ▸ ht

lemma Stays.bind (hc : Stays t c) (hf : ∀ a, Stays t (f a)) : Stays t (c >>= f) := hc.take rfl hf

lemma Stays.go (hc : Stays t c) (hf : ∀ a, Goes t (f a)) : Goes t (c >>= f) := hc.take trivial hf

lemma Goes.bind (hc : Goes t c) (hf : ∀ a t, Goes t (f a)) : Goes t (c >>= f) := by
  intro g hg
  rw [meets_run_bind]
  refine (hc g hg).mono fun r g' _ => ?_
  cases r with
  | ok a => exact hf a g'.turn g' rfl
  | error fault => exact trivial

lemma stays_settle (r : Result α) : Stays t (settle r) := fun _ hg => hg

lemma stays_pure (a : α) : Stays t (pure a : Call α) := fun _ hg => hg

lemma Stays.goes (hc : Stays t c) : Goes t c := fun g hg => (hc g hg).mono fun _ _ _ => trivial

lemma Takes.attempt (hc : Takes t c post) : Takes t (Calls.attempt c) post :=
  fun g hg => meets_attempt.mpr (hc g hg)

lemma Stays.wrapped (text : String) (hc : Stays t c) : Stays t (Calls.wrapped text c) :=
  Stays.bind hc.attempt fun _ => stays_settle _

lemma goes_wrapped (text : String) (hc : Goes t c) : Goes t (Calls.wrapped text c) :=
  Goes.bind hc.attempt fun _ _ => (stays_settle _).goes

lemma goes_forM {xs : List β} {f : β → Call Unit} (hf : ∀ x t, Goes t (f x)) :
    Goes t (xs.forM f) := by
  induction xs generalizing t with
  | nil => exact (stays_pure ()).goes
  | cons x xs ih => exact (hf x t).bind fun _ _ => ih

/-- Operations that leave the turn alone. -/
lemma stays_does {op : Op} (hmay : ∀ g : Notes, g.may op)
    (hnote : ∀ (g : Notes) (answer : Op.Answer op), (g.note op answer).turn = g.turn) :
    Stays t (does op) :=
  fun g hg => ⟨hmay g, fun answer _ => (hnote g answer).trans hg⟩

lemma stays_lock : Stays t lock := stays_does (fun _ => trivial) fun _ _ => rfl

lemma stays_unlock : Stays t unlock := stays_does (fun _ => trivial) fun _ _ => rfl

lemma stays_head : Stays t (does .head) := stays_does (fun _ => trivial) fun _ _ => rfl

lemma stays_clock : Stays t clock := stays_does (fun _ => trivial) fun _ _ => rfl

lemma stays_probe (prober : ℕ) (w : World) (c : Check) :
    Stays t (does (.ask (.probe prober w c))) :=
  stays_does (fun _ => trivial) fun _ _ => rfl

lemma stays_order (approvals : Table Approval) : Stays t (does (.ask (.order approvals))) :=
  stays_does (fun _ => trivial) fun _ _ => rfl

lemma stays_paced (goal : Goal) (w : World) : Stays t (does (.ask (.paced goal w))) :=
  stays_does (fun _ => trivial) fun _ _ => rfl

lemma stays_world : Stays t world := stays_does (fun _ => trivial) fun _ _ => rfl

lemma stays_observedWorld : Stays t observedWorld :=
  stays_world.bind fun _ => stays_clock.bind fun _ => stays_pure _

/-- The world as it was read, with another clock, has the revision that was noted. -/
lemma meets_observedWorld_bind {f : World → Call β} {g : Notes} {post : Result β → Notes → Prop}
    (hf : ∀ w, Meets discipline (f w).run { g with read := some w.revision } post) :
    Meets discipline (observedWorld >>= f).run g post := by
  rw [meets_run_bind, observedWorld, world, meets_does_bind]
  refine ⟨trivial, fun w _ => ?_⟩
  rw [clock, meets_does_bind]
  refine ⟨trivial, fun now _ => ?_⟩
  have hw := hf (if w.observedAt < now then { w with observedAt := now } else w)
  have hrevision : (if w.observedAt < now then { w with observedAt := now } else w).revision =
      w.revision := by
    split_ifs <;> rfl
  rw [hrevision] at hw
  exact hw

/-- What is recorded does not matter. -/
lemma stays_record (event : Journal.Event) : Stays t (record event) := by
  have hsequence : Stays t (does .nextSequence) := stays_does (fun _ => trivial) fun _ _ => rfl
  have happend (event : Journal.Event) : Stays t (append event) :=
    fun _ hg => ⟨trivial, fun _ _ => hg⟩
  exact hsequence.bind fun _ => stays_clock.bind fun _ => stays_world.bind fun _ =>
    (happend _).wrapped _

/-- Evidence leaves a proposal bound. -/
lemma stays_project (sent : List String) (e : Evidence) :
    Stays (.bound sent) (projectEvidence e) := by
  intro g hg
  refine ⟨trivial, fun answer _ => ?_⟩
  change g.projected.turn = .bound sent
  rw [Notes.projected, hg]

lemma goes_project (e : Evidence) : Goes t (projectEvidence e) :=
  fun _ _ => ⟨trivial, fun _ _ => trivial⟩

/-- A proposal is asked for on the world that was read last. -/
lemma goes_propose {agent : AgentDescriptor} {goal : Goal} {w : World}
    {f : Except Refusal Proposal → Call β} {g : Notes} (hread : g.read = some w.revision)
    (hok : ∀ p, Goes (.asked p.id p.basedOnRevision w.revision) (f (.ok p)))
    (herror : ∀ refusal, Goes .idle (f (.error refusal))) :
    Meets discipline (does (.ask (.propose agent goal w)) >>= f).run g fun _ _ => True := by
  rw [meets_does_bind]
  refine ⟨hread, fun answer _ => ?_⟩
  cases answer with
  | ok p => exact hok p _ rfl
  | error refusal => exact herror refusal _ rfl

/-- The executors are bound to a proposal that is based on the world as it is. -/
lemma goes_acquire {goalID proposalID : String} {targets : List String} {revision : UInt64}
    {f : Result String → Call β} (hok : ∀ id, Goes (.bound []) (f (.ok id)))
    (herror : ∀ fault, Goes .idle (f (.error fault))) :
    Goes (.asked proposalID revision revision)
      (does (.ask (.acquire goalID proposalID targets)) >>= f) := by
  intro g hg
  rw [meets_does_bind]
  refine ⟨⟨revision, hg⟩, fun answer _ => ?_⟩
  cases answer with
  | ok id => exact hok id _ rfl
  | error fault => exact herror fault _ rfl

lemma goes_execute {a : Action} {sent : List String} {f : Result Evidence → Call β}
    (hnew : a.id ∉ sent) (hf : ∀ answer, Goes (.bound (a.id :: sent)) (f answer)) :
    Goes (.bound sent) (does (.ask (.execute a)) >>= f) := by
  intro g hg
  rw [meets_does_bind]
  refine ⟨⟨sent, hg, hnew⟩, fun answer _ => hf answer _ ?_⟩
  change (g.sending a).turn = _
  rw [Notes.sending, hg]

end Rules

/-! ### The engine -/

section Engine

variable {t : Turn}

lemma stays_timed (e : Evidence) : Stays t (timed e) := by
  rw [timed]
  split_ifs
  · exact stays_clock.bind fun _ => stays_pure _
  · exact stays_pure _

/-- The actions are sent one after the other, and each one once. -/
lemma executeActions_goes (goal : Goal) (p : Proposal) (actions : List Action) (sent : List String)
    (progress : Bool) (hnew : ∀ a ∈ actions, a.id ∉ sent) (honce : (actions.map (·.id)).Nodup) :
    Goes (.bound sent) (executeActions goal p actions progress) := by
  induction actions generalizing sent progress with
  | nil => exact (stays_pure _).goes
  | cons a rest ih =>
    obtain ⟨hlast, honce⟩ := List.nodup_cons.mp honce
    have hrest : ∀ a' ∈ rest, a'.id ∉ a.id :: sent := by
      intro a' ha'
      rw [List.mem_cons, not_or]
      refine ⟨fun hsame => hlast ?_, hnew a' (List.mem_cons_of_mem _ ha')⟩
      exact List.mem_map.mpr ⟨a', ha', hsame⟩
    rw [executeActions]
    refine (stays_record _).go fun _ => goes_execute (hnew a List.mem_cons_self) fun answer => ?_
    cases answer with
    | error err =>
      refine Stays.go (stays_record _).attempt fun r => ?_
      cases r with
      | error recordErr => exact (stays_settle _).goes
      | ok u => exact (stays_settle _).goes
    | ok evidence =>
      refine (stays_timed evidence).go fun evidence =>
        Stays.go (stays_project _ evidence).attempt fun r => ?_
      cases r with
      | error err => exact (stays_record _).go fun _ => (stays_settle _).goes
      | ok u => exact (stays_record _).go fun _ => ih (a.id :: sent) true hrest honce

variable (engine : Engine)

lemma observeWith_goes (goal : Goal) (p : Proposal) (c : Check) (prober : ℕ) :
    Goes t (observeWith goal p c prober) := by
  refine stays_observedWorld.go fun w => ?_
  refine (stays_probe _ _ _).go fun answer => ?_
  cases answer with
  | none => exact (stays_pure ()).goes
  | some evidence =>
    exact Goes.bind (goes_wrapped _ (goes_project _)) fun _ _ => (stays_record _).goes

lemma executeProposal_goes (goal : Goal) (p : Proposal) (leaseID : String)
    (honce : (p.actions.map (·.id)).Nodup) :
    Goes (.bound []) (executeProposal engine goal p leaseID) := by
  refine Goes.bind (Takes.attempt ?_) fun r t => ?_
  · refine (executeActions_goes goal p p.actions [] false (fun _ _ => List.not_mem_nil)
      honce).bind fun progress t => ?_
    refine (goes_forM fun c t => goes_forM fun prober t =>
      observeWith_goes goal p c prober).bind fun _ t => ?_
    refine stays_observedWorld.go fun w => ?_
    cases verifyChecks engine.host w p.expectedEvidence with
    | error err => exact (stays_record _).go fun _ => (stays_settle _).goes
    | ok u => exact (stays_pure _).goes
  · exact fun _ _ => ⟨trivial, fun _ _ => trivial⟩

lemma refreshWith_goes (goal : Goal) (id : String) (prober : ℕ) :
    Goes t (refreshWith engine goal id prober) := by
  refine stays_observedWorld.go fun before => ?_
  refine (stays_probe _ _ _).go fun answer => ?_
  cases answer with
  | none => exact (stays_pure ()).goes
  | some evidence =>
    dsimp only
    split_ifs
    · exact (stays_pure ()).goes
    · exact Goes.bind (goes_wrapped _ (goes_project _)) fun _ _ => (stays_record _).goes

lemma refreshReadiness_goes (goal : Goal) : Goes t (refreshReadiness engine goal) := by
  rw [refreshReadiness]
  split_ifs
  · exact (stays_pure ()).goes
  · exact stays_observedWorld.go fun w => goes_forM fun id t => goes_forM fun prober t =>
      refreshWith_goes engine goal id prober

/-- The agents are asked on the world as it is, and what is authorized is based on it. -/
lemma consult_goes (goal effective : Goal) (agents : List AgentDescriptor)
    (progress : Bool) : Goes t (consult engine goal effective agents progress) := by
  induction agents generalizing t progress with
  | nil => exact (stays_pure _).goes
  | cons agent rest ih =>
    rw [consult]
    refine fun g _ => meets_observedWorld_bind fun w =>
      goes_propose rfl (fun p => ?_) fun refusal => ?_
    · dsimp only
      split_ifs
      · exact ih progress
      refine (stays_record _).go fun _ => ?_
      cases hauthorized : authorize engine.host engine.kernel agent effective w p with
      | error err => exact (stays_record _).go fun _ => ih progress
      | ok u =>
        obtain ⟨hbased, honce⟩ := authorize_unique hauthorized
        rw [hbased]
        refine (stays_record _).go fun _ => goes_acquire (fun leaseID => ?_) fun err => ?_
        · exact (executeProposal_goes engine effective p leaseID honce).bind fun executed t =>
            ih (progress || executed)
        · exact (stays_record _).go fun _ => ih progress
    · cases refusal with
      | rollback text => exact (stays_record _).go fun _ => (stays_settle _).goes
      | other text => exact (stays_record _).go fun _ => ih progress

lemma round_goes (goal effective : Goal) {next : Call Unit}
    (hnext : ∀ t, Goes t next) : Goes t (round engine goal effective next) := by
  refine (refreshReadiness_goes engine effective).bind fun _ t => stays_observedWorld.go fun w => ?_
  split_ifs
  · exact (stays_record _).goes
  refine (consult_goes engine goal effective engine.agents false).bind fun progress t => ?_
  split_ifs
  · exact hnext t
  refine stays_observedWorld.go fun w => (stays_paced _ _).go fun pacing => ?_
  cases pacing with
  | some pacing => exact (stays_record _).go fun _ => (stays_settle _).goes
  | none => exact (stays_record _).go fun _ => (stays_settle _).goes

lemma rounds_goes (goal : Goal) (maxRounds left : ℕ) :
    Goes t (rounds engine goal maxRounds left) := by
  induction left generalizing t with
  | zero => exact (stays_record _).go fun _ => (stays_settle _).goes
  | succ left ih =>
    rw [rounds]
    refine stays_observedWorld.go fun w => (stays_order _).go fun order => ?_
    dsimp only
    split_ifs
    · exact (stays_record _).go fun _ => round_goes engine _ _ fun _ => ih
    · exact round_goes engine _ _ fun _ => ih

lemma run_goes (goal : Goal) (maxRounds : ℕ) : Goes t (run engine goal maxRounds) :=
  (stays_record _).go fun _ => rounds_goes engine goal maxRounds maxRounds

lemma stays_witnessHead (site : Site) : Stays t site.witnessHead := by
  refine stays_lock.bind fun _ => stays_unlock.bind fun _ => ?_
  split_ifs
  · refine stays_head.bind fun h => ?_
    split_ifs
    · exact fun _ hg => ⟨trivial, fun _ _ => hg⟩
    · exact stays_pure ()
  · exact stays_pure ()

/-- **A reconciliation keeps to the discipline.** -/
lemma reconcile_goes (site : Site) (goalID : String) : Goes t (site.reconcile engine goalID) := by
  refine stays_lock.go fun _ => stays_unlock.go fun _ => (stays_settle _).go fun goal => ?_
  refine Goes.bind (run_goes engine goal site.maxRounds).attempt fun r t => ?_
  exact Stays.go (stays_witnessHead site).attempt fun _ => (stays_settle _).goes

end Engine

/-- Reconciliations of a server, one after the other. -/
def system (fleet : Fleet) (site : Site) : System interface State Fate Notes :=
  { discipline := discipline
    does := fun s _ op fate answer s' => fleet.act fate op s = (answer, s')
    starts := fun p => ∃ engine goalID, p = toProg (site.reconcile engine goalID)
    fresh := {} }

/-! ### Keys in use -/

/-- The condition on a step: as long as the evidence of what a node has carried out has not
changed the world, an action of the same name under the same proposal is for the same goal and the
same action. And the revision does not start over. -/
structure Consistent (s : State) (_ : ℕ → Notes) (_ : ℕ) (op : Op) (_ : Fate) : Prop where
  same : ∀ a, op = .ask (.execute a) → ∀ h ∈ s.unapplied, h.carriedOut = true → h.node = a.node →
    h.envelope.proposalID = s.proposalID → h.envelope.action.id = a.id →
    h.envelope.goalID = s.goalID ∧ h.envelope.action = a
  room : ∀ e, op = .project e → s.world.revision.toNat + 1 < 2 ^ 64

/-- An envelope with a key of its proposal and its action. -/
structure Labelled (h : Sent) : Prop where
  node : h.envelope.nodeID = h.node
  name : Named h.envelope.proposalID h.envelope.worldRevision
  key : h.envelope.idempotencyKey = s!"{h.envelope.proposalID}/{h.envelope.action.id}"

/-- What is known at a turn. What was sent in other turns under the revision of the proposal that
is bound has not changed the world. -/
def Stands (s : State) : Turn → Prop
  | .idle => True
  | .asked id based revision =>
    s.world.revision = revision ∧ s.proposed = based ∧ Named id revision
  | .bound sent =>
    Named s.proposalID s.revision ∧ s.revision ≤ s.world.revision ∧
      (∀ h ∈ s.history, h.round = s.rounds → h.envelope.action.id ∈ sent) ∧
      ∀ h ∈ s.history, h.round ≠ s.rounds → h.envelope.worldRevision = s.revision →
        h ∈ s.unapplied

/-- What holds between the operations. -/
structure Keyed (fleet : Fleet) (s : State) (g : Notes) : Prop where
  stored : ∀ (node key : String) r, (s.nodes node).ledger[key]? = some r → ∃ h ∈ s.history,
    h.carriedOut = true ∧ h.node = node ∧ h.envelope.idempotencyKey = key ∧
      r.envelopeDigest = Daemon.workDigest fleet.wire h.envelope
  labelled : ∀ h ∈ s.history, Labelled h
  past : ∀ h ∈ s.history, h.envelope.worldRevision ≤ s.world.revision
  current : ∀ h ∈ s.history, h.envelope.worldRevision = s.world.revision → h ∈ s.unapplied
  earlier : ∀ h ∈ s.history, h.round ≤ s.rounds
  last : s.awaiting = true → ∃ h rest, s.unapplied = h :: rest ∧ h.round = s.rounds
  free : ∀ h ∈ s.history, ¬h.Reused fleet
  read : ∀ revision, g.read = some revision → s.world.revision = revision
  turn : Stands s g.turn

section Steps

variable {fleet : Fleet} {site : Site} {fate : Fate} {s s' : State} {g : Notes}

/-- Nothing is known at the end of a call. -/
lemma Keyed.finish (h : Keyed fleet s g) : Keyed fleet s {} :=
  { h with
    read := fun _ hread => nomatch hread
    turn := trivial }

lemma Keyed.world (h : Keyed fleet s g) :
    Keyed fleet s { g with read := some s.world.revision } :=
  { h with
    read := fun _ hread => Option.some.inj hread
    turn := h.turn }

lemma Keyed.release (h : Keyed fleet s g) (manager : LeaseManager) :
    Keyed fleet { s with manager := manager } { g with turn := .idle } :=
  { h with
    read := h.read
    turn := trivial }

/-- An agent proposes on the world as it is. -/
lemma Keyed.propose (h : Keyed fleet s g) {agent : AgentDescriptor} {goal : Goal} {w : World}
    (hread : g.read = some w.revision) :
    let op : Op := .ask (.propose agent goal w)
    Keyed fleet (fleet.act fate op s).2 (g.note op (fleet.act fate op s).1) := by
  have hrevision := h.read _ hread
  simp only [Fleet.act]
  cases hproposed : fleet.propose fate agent goal w with
  | error refusal =>
    exact { h with
      read := h.read
      turn := trivial }
  | ok p =>
    have hnamed : Named p.id w.revision := by
      rw [Fleet.propose] at hproposed
      split_ifs at hproposed
      exact BuiltIn.propose_named hproposed
    exact { h with
      read := h.read
      turn := ⟨hrevision, rfl, hnamed⟩ }

/-- The executors are bound to the proposal made last. -/
lemma Keyed.acquire (h : Keyed fleet s g) {goalID proposalID : String} {targets : List String}
    {revision : UInt64} (hasked : g.turn = .asked proposalID revision revision) :
    let op : Op := .ask (.acquire goalID proposalID targets)
    Keyed fleet (fleet.act fate op s).2 (g.note op (fleet.act fate op s).1) := by
  obtain ⟨hrevision, hproposed, hnamed⟩ : s.world.revision = revision ∧ s.proposed = revision ∧
      Named proposalID revision := by
    have hturn := h.turn
    rw [hasked] at hturn
    exact hturn
  change Keyed fleet (fleet.acquire fate goalID proposalID targets s).2
    (g.note (.ask (.acquire goalID proposalID targets))
      (fleet.acquire fate goalID proposalID targets s).1)
  rw [Fleet.acquire]
  rcases s.manager.acquire fleet.host fate.now goalID proposalID targets with
    ⟨fault | id, manager⟩
  · exact h.release manager
  · exact { h with
      earlier := fun x hx => Nat.le_succ_of_le (h.earlier x hx)
      last := nofun
      read := h.read
      turn := by
        refine ⟨hproposed ▸ hnamed, ?_, fun x hx hround => ?_, fun x hx _ hsame => ?_⟩
        · exact hproposed ▸ hrevision ▸ UInt64.le_refl _
        · exact absurd (h.earlier x hx) (by dsimp only at hround; omega)
        · exact h.current x hx (hsame.trans (hproposed.trans hrevision.symm)) }

/-- Evidence that changes the world moves its revision. -/
lemma project_revision {w w' : World} {e : Evidence} (h : A4s.project w e = .ok w') :
    (observesNothing e.kind = true ∧ w' = w) ∨
      (observesNothing e.kind = false ∧ w'.revision = w.revision + 1) := by
  cases hkind : observesNothing e.kind with
  | true =>
    have hdiagnosis : e.kind = .diagnosisRecorded := of_decide_eq_true hkind
    simp only [A4s.project, projectInto, hdiagnosis, bind_ok, pure_ok] at h
    obtain ⟨_, hsame, rfl⟩ := h
    cases hsame
    exact .inl ⟨rfl, rfl⟩
  | false =>
    obtain ⟨next, -, rfl⟩ := project_advance hkind h
    exact .inr ⟨rfl, rfl⟩

/-- What evidence may do: the revision moves, and what was sent last need not be kept. -/
lemma Keyed.projected (h : Keyed fleet s g) {w : World} {unapplied : List Sent}
    (hlater : s.world.revision ≤ w.revision)
    (hkept : ∀ x ∈ s.unapplied, x.round ≠ s.rounds → x ∈ unapplied)
    (hcurrent : ∀ x ∈ s.history, x.envelope.worldRevision = w.revision → x ∈ unapplied) :
    Keyed fleet { s with world := w, awaiting := false, unapplied := unapplied } g.projected :=
  { h with
    past := fun x hx => UInt64.le_trans (h.past x hx) hlater
    current := hcurrent
    last := nofun
    read := nofun
    turn := by
      have hturn := h.turn
      rw [Notes.projected]
      cases ht : g.turn with
      | idle => exact trivial
      | asked id based revision => exact trivial
      | bound sent =>
        rw [ht] at hturn
        obtain ⟨hnamed, hle, hsent, hold⟩ := hturn
        exact ⟨hnamed, UInt64.le_trans hle hlater, hsent, fun x hx hround hsame =>
          hkept x (hold x hx hround hsame) hround⟩ }

lemma Keyed.project (h : Keyed fleet s g) (e : Evidence)
    (hroom : s.world.revision.toNat + 1 < 2 ^ 64) :
    Keyed fleet (s.applied e).2 g.projected := by
  unfold State.applied
  cases hproject : A4s.project s.world e with
  | error fault =>
    exact h.projected (UInt64.le_refl _) (fun _ hx _ => hx) h.current
  | ok w =>
    rcases project_revision hproject with ⟨hkind, rfl⟩ | ⟨hkind, hrevision⟩
    · simp only [hkind, Bool.not_true, Bool.and_false, Bool.false_eq_true, if_false]
      exact h.projected (UInt64.le_refl _) (fun _ hx _ => hx) h.current
    · have hlt : s.world.revision < w.revision := by
        rw [hrevision, UInt64.lt_iff_toNat_lt, UInt64.toNat_add]
        have hone : (1 : UInt64).toNat = 1 := rfl
        rw [hone, Nat.mod_eq_of_lt hroom]
        exact Nat.lt_succ_self _
      refine h.projected (UInt64.le_of_lt hlt) (fun x hx hround => ?_) fun x hx hsame => ?_
      · simp only [hkind, Bool.not_false, Bool.and_true]
        split_ifs with hawaiting
        · obtain ⟨y, rest, hlast, hy⟩ := h.last hawaiting
          rw [hlast] at hx ⊢
          rcases List.mem_cons.mp hx with rfl | hx
          · exact absurd hy hround
          · exact hx
        · exact hx
      · have hpast := h.past x hx
        rw [hsame] at hpast
        exact absurd (UInt64.lt_of_lt_of_le hlt hpast) (UInt64.lt_irrefl _)

/-- What a node has stored after a message was stored before, or is the answer to it. -/
lemma stored_deliver (hfaithful : Faithful fleet.wire) {a : Action} {signed : Daemon.SignedAction}
    (hmessage : fleet.message fate a s = some signed) {key : String} {r : Daemon.DispatchResult}
    (hget : ((Fleet.arrival fate signed).dispatch fleet.wire (fleet.configs a.node)
      (s.nodes a.node)).2.ledger[key]? = some r) :
    (s.nodes a.node).ledger[key]? = some r ∨
      ((fleet.sent fate a s signed).carriedOut = true ∧
        (fleet.envelope fate a s).idempotencyKey = key ∧
        r.envelopeDigest = Daemon.workDigest fleet.wire (fleet.envelope fate a s)) := by
  rcases hdispatch : (Fleet.arrival fate signed).dispatch fleet.wire (fleet.configs a.node)
    (s.nodes a.node) with ⟨answer, d⟩
  rw [hdispatch] at hget
  rcases Daemon.dispatch_ledger_cases hdispatch with hsame |
    ⟨work, stored, d₁, hfresh, hperform, hdigest, hledger⟩
  · exact .inl (hsame ▸ hget)
  · obtain rfl := envelope_of_message hfaithful hmessage hfresh.verified
    dsimp only at hget
    rw [hledger] at hget
    by_cases hkey : key = (fleet.envelope fate a s).idempotencyKey
    · rw [hkey, get_insert_self, Option.some.injEq] at hget
      refine .inr ⟨?_, hkey.symm, hget ▸ hdigest⟩
      exact (Daemon.carriedOut_iff hfresh.verified).mpr ⟨hfresh, _, _, hperform⟩
    · rw [get_insert_of_ne hkey] at hget
      exact .inl hget

/-- A message whose key is known is a retry. -/
lemma not_reused (h : Keyed fleet s g) (hfaithful : Faithful fleet.wire) {a : Action}
    {signed : Daemon.SignedAction} {sent : List String}
    (hmessage : fleet.message fate a s = some signed) (hbound : g.turn = .bound sent)
    (hnew : a.id ∉ sent)
    (hsame : ∀ x ∈ s.unapplied, x.carriedOut = true → x.node = a.node →
      x.envelope.proposalID = s.proposalID → x.envelope.action.id = a.id →
      x.envelope.goalID = s.goalID ∧ x.envelope.action = a) :
    ¬(fleet.sent fate a s signed).Reused fleet := by
  obtain ⟨hnamed, -, hsent, hold⟩ : Stands s (.bound sent) := hbound ▸ h.turn
  rintro ⟨work, r, hverify, -, hget, hdigest⟩
  obtain rfl := envelope_of_message hfaithful hmessage hverify
  obtain ⟨x, hx, hcarried, hnode, hkey, hstored⟩ := h.stored _ _ r hget
  have hlabel := h.labelled x hx
  -- the key tells the proposal and the action
  have hkeys := hlabel.key.symm.trans hkey
  obtain ⟨hproposal, haction⟩ := hlabel.name.key_inj hnamed hkeys
  have hrevision : x.envelope.worldRevision = s.revision :=
    hlabel.name.revision_inj (hproposal ▸ hnamed)
  have hearlier : x.round ≠ s.rounds := fun hround => hnew (haction ▸ hsent x hx hround)
  -- what was carried out under it is the same work
  obtain ⟨hgoal, hsameAction⟩ :=
    hsame x (hold x hx hearlier hrevision) hcarried hnode hproposal haction
  refine hdigest (hstored.trans ?_)
  rw [Daemon.workDigest, hlabel.node, hnode, hgoal, hproposal, hkey, hsameAction]
  rfl

/-- A message keeps keys in order. -/
lemma Keyed.execute (h : Keyed fleet s g) (hfaithful : Faithful fleet.wire) {a : Action}
    {sent : List String} (hbound : g.turn = .bound sent) (hnew : a.id ∉ sent)
    (hsame : ∀ x ∈ s.unapplied, x.carriedOut = true → x.node = a.node →
      x.envelope.proposalID = s.proposalID → x.envelope.action.id = a.id →
      x.envelope.goalID = s.goalID ∧ x.envelope.action = a) :
    Keyed fleet (fleet.deliver fate a s) (g.sending a) := by
  obtain ⟨hnamed, hle, hsent, hold⟩ : Stands s (.bound sent) := hbound ▸ h.turn
  have hturn : (g.sending a).turn = .bound (a.id :: sent) := by
    rw [Notes.sending, hbound]
  unfold Fleet.deliver
  cases hmessage : fleet.message fate a s with
  | none =>
    exact { h with
      last := nofun
      read := h.read
      turn := by
        rw [hturn]
        exact ⟨hnamed, hle, fun x hx hround => List.mem_cons_of_mem _ (hsent x hx hround), hold⟩ }
  | some signed =>
    refine
      { stored := fun node key r hget => ?_
        labelled := List.forall_mem_cons.mpr ⟨⟨rfl, hnamed, rfl⟩, h.labelled⟩
        past := List.forall_mem_cons.mpr ⟨hle, h.past⟩
        current := ?_
        earlier := List.forall_mem_cons.mpr ⟨Nat.le_refl _, h.earlier⟩
        last := fun _ => ⟨_, _, rfl, rfl⟩
        free := ?_
        read := h.read
        turn := ?_ }
    · dsimp only at hget
      by_cases hnode : node = a.node
      · subst hnode
        rw [Function.update_self] at hget
        rcases stored_deliver hfaithful hmessage hget with hbefore | ⟨hcarried, hkey, hdigest⟩
        · obtain ⟨x, hx, hknown⟩ := h.stored _ _ r hbefore
          exact ⟨x, List.mem_cons_of_mem _ hx, hknown⟩
        · exact ⟨_, List.mem_cons_self, hcarried, rfl, hkey, hdigest⟩
      · rw [Function.update_of_ne hnode] at hget
        obtain ⟨x, hx, hknown⟩ := h.stored _ _ r hget
        exact ⟨x, List.mem_cons_of_mem _ hx, hknown⟩
    · exact List.forall_mem_cons.mpr ⟨fun _ => List.mem_cons_self, fun x hx hcurrent =>
        List.mem_cons_of_mem _ (h.current x hx hcurrent)⟩
    · exact List.forall_mem_cons.mpr
        ⟨not_reused h hfaithful hmessage hbound hnew hsame, h.free⟩
    · rw [hturn]
      refine ⟨hnamed, hle, ?_, ?_⟩
      · exact List.forall_mem_cons.mpr ⟨fun _ => List.mem_cons_self, fun x hx hround =>
          List.mem_cons_of_mem _ (hsent x hx hround)⟩
      · exact List.forall_mem_cons.mpr ⟨fun hround => absurd rfl hround, fun x hx hround hsame =>
          List.mem_cons_of_mem _ (hold x hx hround hsame)⟩

/-- Every operation that a reconciliation may perform keeps keys in order. -/
lemma Keyed.act {op : Op} {answer : Op.Answer op} (h : Keyed fleet s g)
    (hfaithful : Faithful fleet.wire) (hmay : g.may op)
    (hsame : ∀ a, op = .ask (.execute a) → ∀ x ∈ s.unapplied, x.carriedOut = true →
      x.node = a.node → x.envelope.proposalID = s.proposalID → x.envelope.action.id = a.id →
      x.envelope.goalID = s.goalID ∧ x.envelope.action = a)
    (hroom : ∀ e, op = .project e → s.world.revision.toNat + 1 < 2 ^ 64)
    (hdoes : fleet.act fate op s = (answer, s')) : Keyed fleet s' (g.note op answer) := by
  obtain ⟨rfl, rfl⟩ : (fleet.act fate op s).1 = answer ∧ (fleet.act fate op s).2 = s' := by
    rw [hdoes]
    exact ⟨rfl, rfl⟩
  cases op with
  | world => exact h.world
  | project e => exact h.project e (hroom e rfl)
  | ask q =>
    cases q with
    | propose agent goal w => exact h.propose hmay
    | acquire goalID proposalID targets =>
      obtain ⟨revision, hasked⟩ := hmay
      exact h.acquire hasked
    | execute a =>
      obtain ⟨sent, hbound, hnew⟩ := hmay
      exact h.execute hfaithful hbound hnew (hsame a rfl)
    | release id => exact h.release _
    | clock | probe | order | paced => exact h
  | lock | unlock | nextSequence | append | head | witness => exact h

end Steps

end Keys

/-- **When keys are not reused.** In every run of reconciliations, one after the other, in which
an action that a node has carried out and whose evidence has not changed the world is followed,
under its proposal and its name, by the same action for the same goal only, and the revision of the
world does not start over, no node refuses a key as reused. Replies may be lost anywhere. -/
theorem keys_not_reused {fleet : Fleet} {site : Site} {s s' : State}
    (hfaithful : Faithful fleet.wire) (hhistory : s.history = []) (hawaiting : s.awaiting = false)
    (hledgers : ∀ node, (s.nodes node).ledger = ∅)
    (hrun : Serial (Keys.system fleet site) Keys.Consistent s s') :
    ∀ h ∈ s'.history, ¬h.Reused fleet := by
  have hstart : Keys.Keyed fleet s {} := by
    have hnothing {P : Sent → Prop} : ∀ h ∈ s.history, P h := by
      rw [hhistory]
      exact fun _ hmem => absurd hmem List.not_mem_nil
    refine ⟨fun node key r hget => ?_, hnothing, hnothing, hnothing, hnothing, fun hlast => ?_,
      hnothing, nofun, trivial⟩
    · rw [hledgers, get_empty] at hget
      cases hget
    · rw [hawaiting] at hlast
      cases hlast
  have hend := @Serial.invariant interface Keys.Notes State Fate (Keys.system fleet site)
    Keys.Consistent (fun _ => True) (Keys.Keyed fleet) s s' (by
      rintro p ⟨engine, goalID, rfl⟩
      exact meets_bind.mpr (Keys.reconcile_goes engine site goalID _ rfl))
    (fun h hmay hconsistent hdoes =>
      ⟨trivial, h.act hfaithful hmay hconsistent.same hconsistent.room hdoes⟩)
    (fun h _ => h.finish) hrun hstart
  exact hend.free

instance (fleet : Fleet) (h : Sent) : Decidable (h.Reused fleet) :=
  match hverify : h.arrival.envelope fleet.wire (fleet.configs h.node) with
  | .error _ => isFalse (by rintro ⟨work, r, hok, -⟩; cases hverify.symm.trans hok)
  | .ok work =>
    match hget : h.before.ledger[work.idempotencyKey]? with
    | none => isFalse (by
        rintro ⟨work', r, hok, -, hstored, -⟩
        cases hverify.symm.trans hok
        cases hget.symm.trans hstored)
    | some r =>
      decidable_of_iff (work.action.kind ≠ .probeReadiness ∧
          r.envelopeDigest ≠ Daemon.workDigest fleet.wire work)
        ⟨fun hother => ⟨work, r, hverify, hother.1, hget, hother.2⟩, by
          rintro ⟨work', r', hok, hmutation, hstored, hother⟩
          cases hverify.symm.trans hok
          cases hget.symm.trans hstored
          exact ⟨hmutation, hother⟩⟩

namespace Clash

/-- Two workloads that wait for room for their second replicas. -/
def goal (name : String) : Goal :=
  { id := name
    workload := { name := name, image := "app@sha256:1", replicas := 2, port := 80
                  resources := { cpuMillis := 500, memoryMB := 64 } } }

/-- The first replica of a workload, which serves. -/
def serving (name address : String) : Allocation :=
  { id := name ++ "-0", workload := name, node := "n1", image := "app@sha256:1"
    resources := { cpuMillis := 500, memoryMB := 64 }, phase := .running, ready := true
    address := address }

def world : World :=
  { nodes := Table.ofEntries
      [("n1", { id := "n1", healthy := true, capacity := { cpuMillis := 1000, memoryMB := 1024 }
                used := { cpuMillis := 1000, memoryMB := 128 } })]
    allocations := Table.ofEntries
      [("shop-0", serving "shop" "10.0.0.2"), ("web-0", serving "web" "10.0.0.1")] }

/-- A node that publishes names. -/
def capabilities : Daemon.Capabilities :=
  { Daemon.bareCapabilities true with
    elsewhere := fun a =>
      if a.kind = .publishZone then .ok { kind := .zonePublished, target := a.node }
      else fail "not here"
    elsewhere_reports := by
      intro a e h
      by_cases hkind : a.kind = .publishZone
      · rw [if_pos hkind] at h
        cases h
        refine Reports.plain ?_ ?_ ?_ ?_ ?_ <;> simp [hkind, ActionKind.reports, Action.subject,
          ActionKind.onVolume]
      · rw [if_neg hkind] at h
        cases h }

/-- Every reply is lost. -/
def fate : Fate :=
  { Rolling.fate with
    agents := fun id => if id = "placement-agent" then .placement else .network
    capabilities := capabilities, lost := true }

/-- The world as the engine observes it. -/
def observed : World := { world with observedAt := Rolling.now }

/-- The names of a goal, for the one node. -/
def publish (name : String) : Action :=
  { id := "publish-zone-n1", kind := .publishZone, target := "n1", node := "n1", workload := name
    zone := some (buildServiceZone quietHost observed (NetworkAgent.ports (goal name)) "n1") }

def envelope (name : String) (number : UInt64) : Daemon.ActionEnvelope :=
  { Rolling.envelope "network-agent-r0" 0 number (publish name) with goalID := name }

def fleet : Fleet :=
  { Rolling.fleet with
    wire := bookWire [envelope "web" 1, envelope "web" 2, envelope "shop" 2] }

def engine : Engine :=
  { Rolling.engine with agents := [PlacementAgent.descriptor, NetworkAgent.descriptor] }

def site : Site :=
  { Rolling.site with goals := Table.ofEntries [("shop", goal "shop"), ("web", goal "web")] }

def start : State := { Rolling.start with world := world }

/-- The state after a reconciliation. -/
def reconciled (s : State) (goalID : String) : State :=
  (toProg (site.reconcile engine goalID)).play fleet.act (fun _ => fate) 0 s

/-- The condition on a step, as a test. -/
def consistent (s : State) (op : Op) (_ : Fate) : Bool :=
  match op with
  | .ask (.execute a) => s.unapplied.all fun h =>
    decide (h.carriedOut = true → h.node = a.node → h.envelope.proposalID = s.proposalID →
      h.envelope.action.id = a.id → h.envelope.goalID = s.goalID ∧ h.envelope.action = a)
  | .project _ => decide (s.world.revision.toNat + 1 < 2 ^ 64)
  | _ => true

lemma consistent_of {s : State} {notes : ℕ → Keys.Notes} {i : ℕ} {op : Op} {fate : Fate}
    (h : consistent s op fate = true) : Keys.Consistent s notes i op fate := by
  refine ⟨?_, ?_⟩
  · rintro a rfl x hx
    rw [consistent, List.all_eq_true] at h
    exact of_decide_eq_true (h x hx)
  · rintro e rfl
    exact of_decide_eq_true h

/-- A reconciliation and what follows on it. -/
lemma serial_reconciled {careful : State → (ℕ → Keys.Notes) → ℕ → Op → Fate → Prop}
    {ok : State → Op → Fate → Bool}
    (hok : ∀ s notes i op fate, ok s op fate = true → careful s notes i op fate) {s s' : State}
    {goalID : String}
    (halong : (toProg (site.reconcile engine goalID)).along fleet.act (fun _ => fate) ok 0 s = true)
    (hrest : Serial (Keys.system fleet site) careful (reconciled s goalID) s') :
    Serial (Keys.system fleet site) careful s s' :=
  .call 0 ⟨engine, goalID, rfl⟩
    (Prog.alone_play (S := Keys.system fleet site) (fun _ _ _ _ => rfl) hok 0 _ 0 s {} halong) hrest

end Clash

open Clash

/-- The reply is lost, and the goal is reconciled again: the node knows the work. -/
theorem keys_not_reused_retry :
    (reconciled (reconciled start "web") "web").history.length = 2 ∧
      ∀ h ∈ (reconciled (reconciled start "web") "web").history, ¬h.Reused fleet := by
  refine ⟨by decide +kernel, ?_⟩
  exact keys_not_reused (faithful_bookWire (by decide)) rfl rfl (fun _ => rfl)
    (serial_reconciled (fun _ _ _ _ _ => consistent_of) (by decide +kernel)
      (serial_reconciled (fun _ _ _ _ _ => consistent_of) (by decide +kernel) .done))

/-- The reply is lost, and another goal is reconciled on the same revision: its names for the node
come under the same key, and the node refuses them. -/
theorem key_refused :
    Serial (Keys.system fleet site) (fun _ _ _ _ _ => True) start
        (reconciled (reconciled start "web") "shop") ∧
      ∃ h ∈ (reconciled (reconciled start "web") "shop").history,
        h.envelope.goalID = "shop" ∧ h.Reused fleet := by
  refine ⟨?_, by decide +kernel⟩
  have hany (s : State) (notes : ℕ → Keys.Notes) (i : ℕ) (op : Op) (fate : Fate)
      (_ : (fun _ _ _ => true : State → Op → Fate → Bool) s op fate = true) : True := trivial
  exact serial_reconciled hany (by decide +kernel)
    (serial_reconciled hany (by decide +kernel) .done)

end A4s.Calls
