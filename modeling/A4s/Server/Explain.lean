/-
Why a target is as it is (`control/explain.go`).

The explanation goes over the events of the log once and matches them by the ids of their
proposals. Such an id is the name of an agent with the revision it proposed at, so that two goals
have it in common when they are placed at the same revision.

* `explain`: the history of a target.
* `explain_iff`: **it tells what concerns the target and nothing else** exactly when no event shares
  the id of its proposal with another goal's that touched the target.
-/
import A4s.Server.Journal

namespace A4s.Journal.History

open Go

inductive TargetState where
  | unset
  | serving
  | pending
  | failed
  | removed
  | unknown
  deriving DecidableEq

structure Step where
  sequence : ℕ
  at_ : Time
  type_ : EventType
  actor : String
  goalID : String
  summary : String
  detail : String
  deriving DecidableEq

structure Explanation where
  target : String
  found : Bool := false
  steps : List Step := []
  goals : List String := []
  status : TargetState := .unset

def mentionsTarget (e : Event) (target : String) : Bool :=
  decide (e.target = target) || e.evidence.any fun x => decide (x.target = target)

/-- What an event that mentions the target makes of its state. -/
def nextState (state : TargetState) (e : Event) : TargetState :=
  if e.type_ = .goalBlocked then .failed
  else if e.type_ = .actionDispatched then .pending
  else match e.evidence with
    | none => state
    | some x =>
      match x.kind with
      | .allocationReady => if x.observe "ready" = "true" then .serving else .failed
      | .routeReachable => .serving
      | .allocationRunning | .allocationCreated | .imagePresent =>
        if state = .serving then state else .pending
      | .allocationStopped | .allocationDeleted | .routeRemoved => .removed
      | .allocationFailed => .failed
      | _ => state

def deriveState (events : List Event) (target : String) : TargetState :=
  (events.filter (mentionsTarget · target)).foldl nextState .unknown

def describeEvidence : Option Evidence → String
  | none => ""
  | some e => String.intercalate " " ((e.observed.toList.map fun (key, value) => s!"{key}={value}")
      ++ if e.source = "" then [] else ["source=" ++ e.source])

def describe (e : Event) : Step :=
  let step (summary detail : String) : Step :=
    { sequence := e.sequence, at_ := e.at_, type_ := e.type_, actor := e.actor
      goalID := e.goalID, summary := summary, detail := detail }
  match e.type_ with
  | .goalAccepted => step s!"operator accepted goal {quote e.goalID}" e.message
  | .proposalCreated => step s!"{e.actor} proposed a plan" e.message
  | .proposalApproved => step "kernel authorized the whole plan before any mutation" ""
  | .proposalDenied => step s!"{e.actor} refused the plan" e.message
  | .actionDispatched => step s!"dispatched {e.kind}" "intent recorded before mutation"
  | .actionCompleted => step s!"{e.kind} completed" (describeEvidence e.evidence)
  | .observationRecorded => step s!"probe observed {e.kind}" (describeEvidence e.evidence)
  | .goalAchieved => step "goal verified from current evidence" ""
  | .goalBlocked => step "blocked" e.message
  | .goalCompensating => step e.type_.text e.message

/-- The ids that the events which mention the target have, without the empty one. -/
def idsOf (id : Event → String) (events : List Event) (target : String) : List String :=
  ((events.filter (mentionsTarget · target)).map id).filter (· ≠ "")

/-- The events that become steps. -/
def relevant (events : List Event) (target : String) (e : Event) : Bool :=
  mentionsTarget e target || decide (e.proposalID ∈ idsOf Event.proposalID events target) ||
    decide (e.type_ = .goalAccepted ∧ e.goalID ∈ idsOf Event.goalID events target)

/-- `Explain`. -/
def explain (events : List Event) (target : String) : Explanation :=
  if target = "" ∨ ¬events.any (mentionsTarget · target) then { target := target }
  else
    { target := target, found := true
      steps := (events.filter (relevant events target)).map describe
      goals := (idsOf Event.goalID events target).dedup.insertionSort (· ≤ ·)
      status := deriveState events target }

/-- An event names a target. Nothing names the empty one. -/
def Names (target : String) (e : Event) : Prop := target ≠ "" ∧ mentionsTarget e target = true

/-- An event concerns a target: it names it, or belongs to a proposal of a goal under which
an event names it, or accepts a goal for which one does. -/
def Concerns (events : List Event) (target : String) (e : Event) : Prop :=
  Names target e ∨
    (e.proposalID ≠ "" ∧
      ∃ m ∈ events, Names target m ∧ m.goalID = e.goalID ∧ m.proposalID = e.proposalID) ∨
    (e.type_ = .goalAccepted ∧ e.goalID ≠ "" ∧ ∃ m ∈ events, Names target m ∧ m.goalID = e.goalID)

instance (target : String) (e : Event) : Decidable (Names target e) :=
  inferInstanceAs (Decidable (_ ∧ _))

instance (events : List Event) (target : String) (e : Event) :
    Decidable (Concerns events target e) := inferInstanceAs (Decidable (_ ∨ _ ∨ _))

/-- An event of the log names the target under this proposal id, whatever its goal. -/
def Touched (events : List Event) (target id : String) : Prop :=
  id ≠ "" ∧ ∃ m ∈ events, Names target m ∧ m.proposalID = id

variable {events : List Event} {target : String} {e : Event}

lemma mem_idsOf {id : Event → String} {x : String} (htarget : target ≠ "") :
    x ∈ idsOf id events target ↔ x ≠ "" ∧ ∃ m ∈ events, Names target m ∧ id m = x := by
  simp only [idsOf, List.mem_filter, List.mem_map, Names, htarget, ne_eq, not_false_eq_true,
    true_and, decide_eq_true_eq]
  tauto

lemma relevant_iff (htarget : target ≠ "") : relevant events target e = true ↔
    Concerns events target e ∨ Touched events target e.proposalID := by
  simp only [relevant, Bool.or_eq_true, decide_eq_true_eq, mem_idsOf htarget, Concerns, Touched,
    Names, htarget, ne_eq, not_false_eq_true, true_and]
  constructor
  · rintro ((hnames | htouched) | haccepted)
    · exact .inl (.inl hnames)
    · exact .inr htouched
    · exact .inl (.inr (.inr haccepted))
  · rintro ((hnames | ⟨hid, m, hm, hnames, -, hsame⟩ | haccepted) | htouched)
    · exact .inl (.inl hnames)
    · exact .inl (.inr ⟨hid, m, hm, hnames, hsame⟩)
    · exact .inr haccepted
    · exact .inl (.inr htouched)

/-- Where no event mentions the target, none is relevant, and the early return loses nothing. -/
lemma explain_steps (htarget : target ≠ "") :
    (explain events target).steps = (events.filter (relevant events target)).map describe := by
  unfold explain
  split_ifs with hnone
  · have hsilent : ∀ m ∈ events, ¬Names target m := by
      simpa [htarget, Names] using hnone
    rw [List.filter_eq_nil_iff.mpr fun e he htaken => ?_, List.map_nil]
    obtain (hnames | ⟨-, m, hm, hnames, -⟩ | ⟨-, -, m, hm, hnames, -⟩) | ⟨-, m, hm, hnames, -⟩ :=
      (relevant_iff htarget).mp htaken
    · exact hsilent e he hnames
    all_goals exact hsilent m hm hnames
  · rfl

/-- **An explanation tells what concerns its target**, all of it, in order and nothing else,
exactly when every event whose proposal shares its id with one that touched the target concerns
the target itself. -/
theorem explain_iff (events : List Event) (target : String) :
    (explain events target).steps = (events.filter (Concerns events target ·)).map describe ↔
      ∀ e ∈ events, Touched events target e.proposalID → Concerns events target e := by
  by_cases htarget : target = ""
  · simp [explain, Concerns, Names, Touched, htarget]
  rw [explain_steps htarget]
  have hsub : (events.filter (Concerns events target ·)).Sublist
      (events.filter (relevant events target)) :=
    List.monotone_filter_right _ fun e he =>
      (relevant_iff htarget).mpr (.inl (of_decide_eq_true he))
  constructor
  · intro hsteps e he htouched
    -- a sublist of the same length is the whole list
    have hlength := congrArg List.length hsteps
    simp only [List.length_map] at hlength
    have hmem : e ∈ events.filter (relevant events target) :=
      List.mem_filter.mpr ⟨he, (relevant_iff htarget).mpr (.inr htouched)⟩
    rw [← hsub.eq_of_length hlength.symm] at hmem
    exact of_decide_eq_true (List.mem_filter.mp hmem).2
  · intro hshared
    congr 1
    refine List.filter_congr fun e he => ?_
    rw [Bool.eq_iff_iff, relevant_iff htarget, decide_eq_true_eq]
    exact or_iff_left_of_imp (hshared e he)

/-- Two goals are placed at the same revision. -/
def placements : List Event :=
  [{ sequence := 1, type_ := .actionDispatched, actor := "coordinator", goalID := "shop"
     proposalID := "placement-agent-r7", actionID := "create-web-0", target := "web-0"
     message := "create_allocation" },
   { sequence := 2, type_ := .proposalCreated, actor := "placement-agent", goalID := "blog"
     proposalID := "placement-agent-r7", message := "place missing replicas" }]

/-- The other goal's plan is told as part of the history of this one's allocation. -/
theorem explain_another_goal :
    (explain placements "web-0").steps = placements.map describe ∧
      placements.filter (Concerns placements "web-0" ·) = placements.take 1 := by
  decide +kernel

end A4s.Journal.History
