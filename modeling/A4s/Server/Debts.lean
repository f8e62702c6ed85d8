/-
What the calls on a server owe.

The world and the log are written one after the other. A call that has written to one of them
owes the other, and the question for every call is whether it has paid when it ends.

* `Debt`, `Notes`: what a call owes and what it has seen; `discipline` is the order in which
  it may go on, and says that a call that owes is not turned away.
* `Settles`: a call that starts with a debt ends with none; the rules follow the ways calls
  are put together.
* `run_settles`, `reconcile_settles`, `approve_settles` and their like: **every call pays**.
-/
import A4s.Server.Calls

namespace A4s.Calls

open Go Journal

/-! ### What a call owes -/

/-- Evidence that has been applied and is to be recorded, or that has been recorded and is to
be applied. -/
inductive Debt where
  | record (e : Evidence)
  | apply (e : Evidence)

/-- What a call has done: what it owes, and the worlds and heads it has seen. -/
structure Notes where
  debt : Option Debt := none
  worlds : List World := []
  heads : List Head := []

/-- Owing after evidence was applied. -/
def Notes.afterProject (g : Notes) (e : Evidence) : Notes :=
  match g.debt with
  | none => { g with debt := some (.record e) }
  | some _ => { g with debt := none }

/-- Owing after an event was recorded. -/
def Notes.afterAppend (g : Notes) (event : Journal.Event) : Notes :=
  match g.debt, event.evidence with
  | none, some e => { g with debt := some (.apply e) }
  | none, none => g
  | some _, _ => { g with debt := none }

def Notes.note (g : Notes) : (op : Op) → Op.Answer op → Notes
  | .world, w => { g with worlds := w :: g.worlds }
  | .head, h => { g with heads := h :: g.heads }
  | .project e, .ok () => g.afterProject e
  | .append event, .ok () => g.afterAppend event
  | _, _ => g

/-- The world has taken some evidence since. -/
def Evolved : World → World → Prop := Relation.ReflTransGen fun w w' => ∃ e, project w e = .ok w'

/-- What a call may do next. What it records first must be something that the projection will
take, and what it has witnessed must be a head it has seen. -/
def Notes.may (g : Notes) : Op → Prop
  | .project e =>
    match g.debt with
    | none => True
    | some (.apply owed) => e = owed
    | some (.record _) => False
  | .append event =>
    match g.debt, event.evidence with
    | none, none => True
    | none, some e => ∀ w, (∀ seen ∈ g.worlds, Evolved seen w) → ∃ next, project w e = .ok next
    | some (.record owed), some e => e = owed
    | some _, _ => False
  | .witness h => h ∈ g.heads
  | _ => True

/-- A call that owes is not turned away. -/
def Notes.possible (g : Notes) : (op : Op) → Op.Answer op → Prop
  | .project _, .error _ => g.debt = none
  | .append _, .error _ => g.debt = none
  | .witness _, .error _ => g.debt = none
  | _, _ => True

def discipline : Discipline interface Notes :=
  { note := Notes.note, may := Notes.may, possible := Notes.possible }

/-! ### Rules -/

section Rules

variable {α β : Type} {c : Call α} {f : α → Call β} {d : Option Debt} {e : Evidence}

/-- A call that owes `d` when it starts owes nothing when it ends. -/
def Settles (d : Option Debt) (c : Call α) : Prop :=
  ∀ g : Notes, g.debt = d → Meets discipline c.run g fun _ g' => g'.debt = none

lemma Settles.bind (hc : Settles d c) (hf : ∀ a, Settles none (f a)) : Settles d (c >>= f) := by
  intro g hg
  rw [meets_run_bind]
  refine (hc g hg).mono fun r g' hg' => ?_
  cases r with
  | ok a => exact hf a g' hg'
  | error fault => exact hg'

lemma settles_pure (a : α) : Settles none (pure a : Call α) := fun _ hg => hg

lemma settles_settle (r : Result α) : Settles none (settle r) := fun _ hg => hg

lemma Settles.attempt (hc : Settles d c) : Settles d (Calls.attempt c) :=
  fun g hg => meets_attempt.mpr (hc g hg)

lemma Settles.wrapped (text : String) (hc : Settles d c) : Settles d (Calls.wrapped text c) :=
  hc.attempt.bind fun _ => settles_settle _

lemma settles_forM {xs : List β} {f : β → Call Unit} (hf : ∀ x, Settles none (f x)) :
    Settles none (xs.forM f) := by
  induction xs with
  | nil => exact settles_pure ()
  | cons x xs ih => exact (hf x).bind fun _ => ih

lemma settles_lock : Settles none lock := fun _ hg => ⟨trivial, fun _ _ => hg⟩

lemma settles_unlock : Settles none unlock := fun _ hg => ⟨trivial, fun _ _ => hg⟩

lemma settles_world : Settles none world := fun _ hg => ⟨trivial, fun _ _ => hg⟩

lemma settles_ask (q : Query) : Settles none (does (.ask q)) := fun _ hg => ⟨trivial, fun _ _ => hg⟩

lemma Settles.locked (hc : Settles none c) : Settles none (Calls.locked c) :=
  settles_lock.bind fun _ => hc.attempt.bind fun _ => settles_unlock.bind fun _ => settles_settle _

end Rules

/-! ### The engine pays -/

section Engine

variable {α : Type} {event : Journal.Event} {e : Evidence}

lemma settles_clock : Settles none clock := settles_ask _

lemma settles_observedWorld : Settles none observedWorld :=
  settles_world.bind fun _ => settles_clock.bind fun _ => settles_pure _

/-- An event without evidence. -/
lemma settles_append (h : event.evidence = none) : Settles none (append event) := by
  intro g hg
  refine ⟨?_, fun answer _ => ?_⟩
  · change g.may (.append event)
    simp only [Notes.may, hg, h]
  · cases answer with
    | error fault => exact hg
    | ok u =>
      change (g.afterAppend event).debt = none
      simp only [Notes.afterAppend, hg, h]

/-- The event that records the evidence owed. -/
lemma settles_append_owed (h : event.evidence = some e) :
    Settles (some (.record e)) (append event) := by
  intro g hg
  refine ⟨?_, fun answer hpossible => ?_⟩
  · change g.may (.append event)
    simp only [Notes.may, hg, h]
  · cases answer with
    | error fault =>
      have hnone : g.debt = none := hpossible
      rw [hg] at hnone
      cases hnone
    | ok u =>
      change (g.afterAppend event).debt = none
      simp only [Notes.afterAppend, hg]

/-- The reads in front of an append change no debt. -/
lemma Settles.record {d : Option Debt}
    (h : ∀ sequence at_ revision, Settles d (append
      { event with sequence := sequence, at_ := at_, worldRevision := revision })) :
    Settles d (Calls.record event) := by
  intro g hg
  rw [Calls.record, meets_does_bind]
  refine ⟨trivial, fun sequence _ => ?_⟩
  rw [clock, meets_does_bind]
  refine ⟨trivial, fun at_ _ => ?_⟩
  rw [world, meets_does_bind]
  refine ⟨trivial, fun w _ => ?_⟩
  exact (h sequence at_ w.revision).wrapped _ _ hg

lemma settles_record (h : event.evidence = none) : Settles none (record event) :=
  .record fun _ _ _ => settles_append h

lemma settles_record_owed (h : event.evidence = some e) :
    Settles (some (.record e)) (record event) :=
  .record fun _ _ _ => settles_append_owed h

/-- Evidence is applied, and what follows depends on whether it was taken. -/
lemma settles_project {f : Result Unit → Call α} (herror : ∀ fault, Settles none (f (.error fault)))
    (hok : Settles (some (.record e)) (f (.ok ()))) :
    Settles none (attempt (projectEvidence e) >>= f) := by
  intro g hg
  rw [meets_run_bind, meets_attempt]
  refine ⟨?_, fun answer _ => ?_⟩
  · change g.may (.project e)
    simp only [Notes.may, hg]
  · cases answer with
    | error fault => exact herror fault g hg
    | ok u =>
      refine hok _ ?_
      change (g.afterProject e).debt = _
      simp only [Notes.afterProject, hg]

/-- Evidence is applied, and a refusal ends the call. -/
lemma settles_project_wrapped {f : Unit → Call α} (text : String)
    (hok : Settles (some (.record e)) (f ())) :
    Settles none (wrapped text (projectEvidence e) >>= f) := by
  intro g hg
  refine meets_wrapped_bind (fun _ _ _ h => h) ⟨?_, fun answer _ => ?_⟩
  · change g.may (.project e)
    simp only [Notes.may, hg]
  · cases answer with
    | error fault => exact hg
    | ok u =>
      refine hok _ ?_
      change (g.afterProject e).debt = _
      simp only [Notes.afterProject, hg]

lemma settles_timed : Settles none (timed e) := by
  rw [timed]
  split_ifs
  · exact settles_clock.bind fun _ => settles_pure _
  · exact settles_pure _

lemma executeActions_settles (goal : Goal) (p : Proposal) (actions : List Action)
    (progress : Bool) : Settles none (executeActions goal p actions progress) := by
  induction actions generalizing progress with
  | nil => exact settles_pure _
  | cons a rest ih =>
    rw [executeActions]
    refine (settles_record rfl).bind fun _ => (settles_ask _).bind fun answer => ?_
    cases answer with
    | error err =>
      refine (settles_record rfl).attempt.bind fun r => ?_
      cases r with
      | error recordErr => exact settles_settle _
      | ok u => exact settles_settle _
    | ok evidence =>
      refine settles_timed.bind fun evidence => settles_project (fun err => ?_) ?_
      · exact (settles_record rfl).bind fun _ => settles_settle _
      · exact (settles_record_owed rfl).bind fun _ => ih true

lemma observeWith_settles (goal : Goal) (p : Proposal) (c : Check) (prober : ℕ) :
    Settles none (observeWith goal p c prober) := by
  refine settles_observedWorld.bind fun w => (settles_ask _).bind fun answer => ?_
  cases answer with
  | none => exact settles_pure ()
  | some evidence => exact settles_project_wrapped _ (settles_record_owed rfl)

variable (engine : Engine)

lemma executeProposal_settles (goal : Goal) (p : Proposal) (leaseID : String) :
    Settles none (executeProposal engine goal p leaseID) := by
  refine Settles.bind (Settles.attempt ?_) fun r =>
    (settles_ask _).bind fun _ => settles_settle r
  refine (executeActions_settles goal p p.actions false).bind fun progress => ?_
  refine (settles_forM fun c => settles_forM fun prober =>
    observeWith_settles goal p c prober).bind fun _ => ?_
  refine settles_observedWorld.bind fun w => ?_
  cases verifyChecks engine.host w p.expectedEvidence with
  | error err => exact (settles_record rfl).bind fun _ => settles_settle _
  | ok u => exact settles_pure _

lemma refreshWith_settles (goal : Goal) (id : String) (prober : ℕ) :
    Settles none (refreshWith engine goal id prober) := by
  refine settles_observedWorld.bind fun before => (settles_ask _).bind fun answer => ?_
  cases answer with
  | none => exact settles_pure ()
  | some evidence =>
    dsimp only
    split_ifs
    · exact settles_pure ()
    · exact settles_project_wrapped _ (settles_record_owed rfl)

lemma refreshReadiness_settles (goal : Goal) : Settles none (refreshReadiness engine goal) := by
  rw [refreshReadiness]
  split_ifs
  · exact settles_pure ()
  · exact settles_observedWorld.bind fun w => settles_forM fun id => settles_forM fun prober =>
      refreshWith_settles engine goal id prober

lemma consult_settles (goal effective : Goal) (agents : List AgentDescriptor) (progress : Bool) :
    Settles none (consult engine goal effective agents progress) := by
  induction agents generalizing progress with
  | nil => exact settles_pure _
  | cons agent rest ih =>
    rw [consult]
    refine settles_observedWorld.bind fun w => (settles_ask _).bind fun answer => ?_
    match answer with
    | .error (.rollback text) => exact (settles_record rfl).bind fun _ => settles_settle _
    | .error (.other text) => exact (settles_record rfl).bind fun _ => ih progress
    | .ok p =>
      dsimp only
      split_ifs
      · exact ih progress
      refine (settles_record rfl).bind fun _ => ?_
      cases authorize engine.host engine.kernel agent effective w p with
      | error err => exact (settles_record rfl).bind fun _ => ih progress
      | ok u =>
        refine (settles_record rfl).bind fun _ => (settles_ask _).bind fun lease => ?_
        cases lease with
        | error err => exact (settles_record rfl).bind fun _ => ih progress
        | ok leaseID =>
          exact (executeProposal_settles engine effective p leaseID).bind fun executed =>
            ih (progress || executed)

lemma round_settles (goal effective : Goal) {next : Call Unit} (hnext : Settles none next) :
    Settles none (round engine goal effective next) := by
  refine (refreshReadiness_settles engine effective).bind fun _ =>
    settles_observedWorld.bind fun w => ?_
  split_ifs
  · exact settles_record rfl
  refine (consult_settles engine goal effective engine.agents false).bind fun progress => ?_
  split_ifs
  · exact hnext
  refine settles_observedWorld.bind fun w => (settles_ask _).bind fun pacing => ?_
  cases pacing with
  | some pacing => exact (settles_record rfl).bind fun _ => settles_settle _
  | none => exact (settles_record rfl).bind fun _ => settles_settle _

lemma rounds_settles (goal : Goal) (maxRounds left : ℕ) :
    Settles none (rounds engine goal maxRounds left) := by
  induction left with
  | zero => exact (settles_record rfl).bind fun _ => settles_settle _
  | succ left ih =>
    rw [rounds]
    refine settles_observedWorld.bind fun w => (settles_ask _).bind fun order => ?_
    dsimp only
    split_ifs
    · exact (settles_record rfl).bind fun _ => round_settles engine _ _ ih
    · exact round_settles engine _ _ ih

/-- **A run pays**: it owes nothing when it ends, however it ends. -/
lemma run_settles (goal : Goal) (maxRounds : ℕ) : Settles none (run engine goal maxRounds) :=
  (settles_record rfl).bind fun _ => rounds_settles engine goal maxRounds maxRounds

end Engine

/-! ### The calls of operators pay -/

section Operators

variable {α β : Type} {site : Site} {c : Call α} {f : α → Call β} {e : Evidence}
  {known : List World}

lemma nodes_evolved {w w' : World} (h : Evolved w w') {id : String} (hid : w.nodes[id]?.isSome) :
    w'.nodes[id]?.isSome := by
  induction h with
  | refl => exact hid
  | tail _ hstep ih =>
    obtain ⟨e, he⟩ := hstep
    rw [(project_effect he).nodes_isSome id]
    exact ih

/-- Whatever became of the worlds that have been seen, the projection takes the evidence. -/
def Takes (known : List World) (e : Evidence) : Prop :=
  ∀ w, (∀ seen ∈ known, Evolved seen w) → ∃ next, project w e = .ok next

/-- A call that has seen the worlds, and owes nothing, ends like that. -/
def Steady (known : List World) (c : Call α) : Prop :=
  ∀ g : Notes, g.debt = none → known ⊆ g.worlds →
    Meets discipline c.run g fun _ g' => g'.debt = none ∧ known ⊆ g'.worlds

lemma Steady.bind (hc : Steady known c) (hf : ∀ a, Steady known (f a)) :
    Steady known (c >>= f) := by
  intro g hg hw
  rw [meets_run_bind]
  refine (hc g hg hw).mono fun r g' hg' => ?_
  cases r with
  | ok a => exact hf a g' hg'.1 hg'.2
  | error fault => exact hg'

lemma steady_pure (a : α) : Steady known (pure a : Call α) := fun _ hg hw => ⟨hg, hw⟩

lemma steady_clock : Steady known clock := fun _ hg hw => ⟨trivial, fun _ _ => ⟨hg, hw⟩⟩

lemma steady_forM {xs : List β} {f : β → Call Unit} (hf : ∀ x ∈ xs, Steady known (f x)) :
    Steady known (xs.forM f) := by
  induction xs with
  | nil => exact steady_pure ()
  | cons x xs ih =>
    exact (hf x List.mem_cons_self).bind fun _ => ih fun y hy => hf y (List.mem_cons_of_mem _ hy)

/-- The call owes the application of the evidence, and has seen the worlds. -/
structure Recorded (known : List World) (e : Evidence) (g : Notes) : Prop where
  owes : g.debt = some (.apply e)
  seen : known ⊆ g.worlds

lemma Recorded.project {g : Notes} (h : Recorded known e g) :
    Meets discipline (projectEvidence e).run g fun _ g' => g'.debt = none ∧ known ⊆ g'.worlds := by
  refine ⟨?_, fun answer hpossible => ?_⟩
  · change g.may (.project e)
    simp only [Notes.may, h.owes]
  · cases answer with
    | error fault =>
      have hnone : g.debt = none := hpossible
      rw [h.owes] at hnone
      cases hnone
    | ok u =>
      change (g.afterProject e).debt = none ∧ known ⊆ (g.afterProject e).worlds
      simp only [Notes.afterProject, h.owes]
      exact ⟨trivial, h.seen⟩

/-- The witness between the record and its application. -/
lemma Recorded.witness {g : Notes} {h : Head} {f : Unit → Call Unit} {text : String}
    (hg : Recorded known e g) (hseen : h ∈ g.heads)
    (hf : Meets discipline (f ()).run g fun _ g' => g'.debt = none ∧ known ⊆ g'.worlds) :
    Meets discipline (wrapped text (Calls.witness h) >>= f).run g fun _ g' =>
      g'.debt = none ∧ known ⊆ g'.worlds := by
  refine meets_wrapped_bind (fun _ _ _ h => h) ⟨hseen, fun answer hpossible => ?_⟩
  cases answer with
  | error fault =>
    have hnone : g.debt = none := hpossible
    rw [hg.owes] at hnone
    cases hnone
  | ok u => exact hf

/-- Recording something that the projection will take. -/
lemma steady_append {event : Journal.Event} {f : Unit → Call Unit} {text : String}
    (htakes : Takes known e) (hevidence : event.evidence = some e)
    (hf : ∀ g, Recorded known e g →
      Meets discipline (f ()).run g fun _ g' => g'.debt = none ∧ known ⊆ g'.worlds) :
    Steady known (wrapped text (append event) >>= f) := by
  intro g hg hw
  refine meets_wrapped_bind (fun _ _ _ h => h) ⟨?_, fun answer _ => ?_⟩
  · change g.may (.append event)
    simp only [Notes.may, hg, hevidence]
    exact fun w hevolved => htakes w fun seen hseen => hevolved seen (hw hseen)
  · cases answer with
    | error fault => exact ⟨hg, hw⟩
    | ok u =>
      refine hf (g.afterAppend event) ⟨?_, ?_⟩
      · simp only [Notes.afterAppend, hg, hevidence]
      · simpa only [Notes.afterAppend, hg, hevidence] using hw

/-- **An observation is recorded and applied**, if the projection will take it. -/
lemma steady_appendObservation (htakes : Takes known e) (actor goalID target message : String) :
    Steady known (site.appendObservation actor goalID target message e) := by
  intro g hg hw
  rw [Site.appendObservation, meets_does_bind]
  refine ⟨trivial, fun sequence _ => ?_⟩
  refine steady_append htakes rfl (fun g' hg' => ?_) g hg hw
  split_ifs
  · rw [meets_does_bind]
    refine ⟨trivial, fun h _ => ?_⟩
    have hseen : Recorded known e (g'.note .head h) := ⟨hg'.owes, hg'.seen⟩
    dsimp only
    split_ifs
    · exact hseen.witness List.mem_cons_self hseen.project
    · exact hseen.project
  · exact hg'.project

lemma Steady.settles (h : Steady [] c) : Settles none c :=
  fun g hg => (h g hg (List.nil_subset _)).mono fun _ _ hg' => hg'.1

/-- A world that is looked at is known from there on. -/
lemma steady_world {f : World → Call β} (hf : ∀ w, Steady (w :: known) (f w)) :
    Steady known (world >>= f) := by
  intro g hg hknown
  rw [world, meets_does_bind]
  refine ⟨trivial, fun w _ => ?_⟩
  have hseen : w :: known ⊆ (g.note .world w).worlds := List.cons_subset_cons w hknown
  refine (hf w (g.note .world w) hg hseen).mono fun _ _ hg' => ⟨hg'.1, fun seen h => ?_⟩
  exact hg'.2 (List.mem_cons_of_mem _ h)

/-- A call that is refused has done nothing. -/
lemma steady_settle {r : Result α} (hf : ∀ a, r = .ok a → Steady known (f a)) :
    Steady known (settle r >>= f) := by
  intro g hg hknown
  cases r with
  | ok a => exact hf a rfl g hg hknown
  | error fault => exact ⟨hg, hknown⟩

lemma takes_revocation (grant : ApprovalGrant) (now : Time) :
    Takes known (Site.revocation grant now) := by
  intro w _
  have hinto : ∃ next, projectApprovalRevoked w (Site.revocation grant now) = .ok next := by
    rw [projectApprovalRevoked]
    split <;> exact ⟨_, rfl⟩
  obtain ⟨next, hnext⟩ := hinto
  exact ⟨advance w next _, by rw [project, projectInto]; exact congrArg (· >>= _) hnext⟩

/-- What is said of a node that has been seen is taken: no evidence removes a node. -/
lemma takes_node {w : World} (hseen : w ∈ known) (hnode : w.nodes[e.target]?.isSome)
    (hkind : e.kind ∈ [EvidenceKind.nodeCordoned, .nodeUncordoned, .nodeReachable,
      .nodeUnreachable]) : Takes known e := by
  intro w' hevolved
  obtain ⟨node, hget⟩ := Option.isSome_iff_exists.mp (nodes_evolved (hevolved w hseen) hnode)
  have hinto : ∃ next, projectInto w' e = .ok next := by
    simp only [List.mem_cons, List.not_mem_nil, or_false] at hkind
    rcases hkind with hk | hk | hk | hk <;>
      simp only [projectInto, hk, projectNodeCordoned, projectNodeUncordoned,
        projectNodeReachability, knownNode, hget, require_some_bind] <;>
      exact ⟨_, rfl⟩
  obtain ⟨next, hnext⟩ := hinto
  exact ⟨_, by rw [project, hnext]; rfl⟩

/-- **An approval pays.** -/
lemma approve_settles (signed : SignedApproval) : Settles none (site.approve signed) := by
  refine Settles.locked (Steady.settles ?_)
  refine steady_clock.bind fun now => steady_settle fun grant hgrant =>
    steady_settle fun _ _ => ?_
  have htakes : Takes [] (grant.evidence site.host) :=
    fun w _ => project_grant (verifyApproval_valid hgrant) w
  exact (steady_appendObservation htakes _ _ _ _).bind fun _ => steady_pure grant

/-- **A revocation pays.** -/
lemma revoke_settles (signed : SignedApproval) : Settles none (site.revoke signed) := by
  refine Settles.locked (Steady.settles ?_)
  refine steady_clock.bind fun now => steady_settle fun grant _ => steady_world fun w =>
    steady_settle fun _ _ => steady_clock.bind fun now => ?_
  exact steady_appendObservation (takes_revocation grant now) _ _ _ _

/-- **A cordon pays**, and so does its end. -/
lemma setCordon_settles (nodeID reason operator : String) (cordoned : Bool) :
    Settles none (site.setCordon nodeID reason operator cordoned) := by
  refine (settles_settle _).bind fun _ => (settles_settle _).bind fun _ => ?_
  refine Settles.locked (Steady.settles (steady_world fun w => steady_settle fun _ hknown =>
    steady_clock.bind fun now => ?_))
  have hnode : w.nodes[nodeID]?.isSome := Option.isSome_iff_ne_none.mpr (refuseIf_ok.mp hknown)
  refine steady_appendObservation (takes_node List.mem_cons_self hnode ?_) _ _ _ _
  cases cordoned <;> simp [Site.cordoning]

lemma observeNode_steady (connected : List String) {w : World} (hseen : w ∈ known) {id : String}
    (hid : w.nodes[id]?.isSome) : Steady known (site.observeNode connected w id) := by
  have htakes : ∀ now, Takes known (Site.reachability id (decide (id ∈ connected)) now) := by
    intro now
    refine takes_node hseen hid ?_
    cases decide (id ∈ connected) <;> simp [Site.reachability]
  by_cases hsame : w.nodes[id]?.any (·.healthy) = decide (id ∈ connected)
  · rw [Site.observeNode, if_pos hsame]
    exact steady_pure ()
  · rw [Site.observeNode, if_neg hsame]
    exact steady_clock.bind fun now => steady_appendObservation (htakes now) _ _ _ _

/-- **A look at the nodes pays.** -/
lemma observeNodes_settles (connected : List String) :
    Settles none (site.observeNodes connected) := by
  refine Settles.locked (Steady.settles (steady_world fun w => steady_forM fun id hid => ?_))
  refine observeNode_steady connected List.mem_cons_self ?_
  obtain ⟨⟨_, node⟩, hentry, rfl⟩ := List.mem_map.mp ((List.mem_insertionSort _).mp hid)
  exact Option.isSome_of_mem (Table.mem_toList.mp hentry)

end Operators

/-! ### Reconciliations pay -/

section Reconciliations

variable {site : Site}

/-- A head that has been read can be witnessed. -/
lemma witnessHead_settles : Settles none site.witnessHead := by
  refine settles_lock.bind fun _ => settles_unlock.bind fun _ => ?_
  split_ifs
  · intro g hg
    rw [meets_does_bind]
    refine ⟨trivial, fun h _ => ?_⟩
    split_ifs
    · exact ⟨List.mem_cons_self, fun answer _ => by cases answer <;> exact hg⟩
    · exact hg
  · exact settles_pure ()

/-- **A reconciliation pays**, whether or not its run succeeds. -/
lemma reconcile_settles (engine : Engine) (goalID : String) :
    Settles none (site.reconcile engine goalID) := by
  refine settles_lock.bind fun _ => settles_unlock.bind fun _ =>
    (settles_settle _).bind fun goal => ?_
  exact (run_settles engine goal site.maxRounds).attempt.bind fun r =>
    witnessHead_settles.attempt.bind fun _ => settles_settle _

end Reconciliations

end A4s.Calls
