/-
Leases on mutation targets (`control/lease.go`).

A proposal claims every target it will mutate, or nothing at all, for a limited time. The
manager keeps one lease for each target and knows nothing of what its callers believe; what
they believe is the list of grants that stand beside it.

* `LeaseManager.acquire`, `LeaseManager.release`, `LeaseManager.holder`: the code.
* `get_acquire`, `get_release`: what is in the table afterwards.
* `leaseID_injective`: the name of a lease tells the proposal and the instant.
* `Desk`, `LeaseEvent`, `step`: callers that acquire, release and wait, in any order.
* `Proper`: what a call must meet; `Consistent` is the invariant it keeps.
* `leases_exclusive`: **no two holders hold one target.**
-/
import A4s.Control.Types
import A4s.Go.Run

namespace A4s

open Go

/-! ### The manager -/

/-- Exclusive intent to mutate one target. -/
structure Lease where
  target : String
  proposalID : String
  goalID : String
  id : String
  expiresAt : Time
  deriving DecidableEq

structure LeaseManager where
  leases : Table Lease := ∅
  ttl : Duration := 5 * minute
  deriving DecidableEq

/-- The Unix epoch, counted from the zero time. -/
def unixEpoch : Time := 62135596800 * second

/-- `time.Time.UnixNano`, which wraps. -/
def unixNano (t : Time) : Int64 := Int64.ofInt (t - unixEpoch)

def leaseID (proposalID : String) (now : Time) : String :=
  s!"lease-{proposalID}-{sprintInt (unixNano now)}"

namespace LeaseManager

/-- A target that another proposal has leased is refused; one's own lease is a retry. -/
def checkTarget (host : Host) (m : LeaseManager) (now : Time) (proposalID target : String) :
    Result Unit :=
  match m.leases[target]? with
  | none => .ok ()
  | some existing =>
    refuseIf (now < existing.expiresAt ∧ existing.proposalID ≠ proposalID)
      (s!"target {quote target} is leased by proposal {quote existing.proposalID} until " ++
        s!"{host.rfc3339 existing.expiresAt}")

/-- `Acquire`: every target is checked before the first is written. -/
def acquire (host : Host) (m : LeaseManager) (now : Time) (goalID proposalID : String)
    (targets : List String) : Result String × LeaseManager :=
  let ordered := targets.insertionSort (· ≤ ·)
  match ordered.forM (m.checkTarget host now proposalID) with
  | .error fault => (.error fault, m)
  | .ok () =>
    let id := leaseID proposalID now
    let lease (target : String) : Lease :=
      { target := target, proposalID := proposalID, goalID := goalID, id := id
        expiresAt := now + m.ttl }
    let leases :=
      ordered.foldl (fun leases target => leases.insert target (lease target)) m.leases
    (.ok id, { m with leases := leases })

/-- `Release`: drops every lease held under an id. -/
def release (m : LeaseManager) (id : String) : LeaseManager :=
  let dropped := (m.leases.toList.filter fun e => decide (e.2.id = id)).map (·.1)
  { m with leases := dropped.foldl (fun leases target => leases.erase target) m.leases }

/-- `Holder`: the live lease on a target. -/
def holder (m : LeaseManager) (now : Time) (target : String) : Option Lease :=
  m.leases[target]?.filter fun l => decide (now < l.expiresAt)

end LeaseManager

section Table

variable {host : Host} {m m' : LeaseManager} {now : Time} {goalID proposalID id : String}
  {targets : List String}

lemma get_foldl_insert {α : Type} (f : String → α) (keys : List String) (t : Table α) (j : String) :
    (keys.foldl (fun t k => t.insert k (f k)) t)[j]? =
      if j ∈ keys then some (f j) else t[j]? := by
  induction keys generalizing t with
  | nil => simp
  | cons k keys ih =>
    rw [List.foldl_cons, ih, get_insert]
    by_cases hj : j = k
    · simp [hj]
    · simp [hj]

/-- A refused call wrote nothing. -/
lemma acquire_error {fault : Fault}
    (h : m.acquire host now goalID proposalID targets = (.error fault, m')) : m' = m := by
  unfold LeaseManager.acquire at h
  dsimp only at h
  split at h <;> cases h
  rfl

/-- **What acquiring does**: no target was leased by another proposal, and every target is
leased now. -/
lemma acquire_ok (h : m.acquire host now goalID proposalID targets = (.ok id, m')) :
    id = leaseID proposalID now ∧ m'.ttl = m.ttl ∧
      (∀ target ∈ targets, ∀ l, m.leases[target]? = some l → now < l.expiresAt →
        l.proposalID = proposalID) ∧
      ∀ target, m'.leases[target]? =
        if target ∈ targets then some ⟨target, proposalID, goalID, id, now + m.ttl⟩
        else m.leases[target]? := by
  unfold LeaseManager.acquire at h
  dsimp only at h
  split at h <;> cases h
  rename_i hchecked
  refine ⟨rfl, rfl, fun target htarget l hl hlive => ?_, fun target => ?_⟩
  · have hcheck := forM_ok.mp hchecked target ((List.mem_insertionSort _).mpr htarget)
    rw [LeaseManager.checkTarget, hl, refuseIf_ok] at hcheck
    exact not_not.mp fun hne => hcheck ⟨hlive, hne⟩
  · rw [get_foldl_insert]
    simp only [List.mem_insertionSort]

lemma get_release (m : LeaseManager) (id target : String) :
    (m.release id).leases[target]? = m.leases[target]?.filter fun l => decide (l.id ≠ id) := by
  have hmem : target ∈ (m.leases.toList.filter fun e => decide (e.2.id = id)).map (·.1) ↔
      ∃ l, m.leases[target]? = some l ∧ l.id = id := by
    simp
  rw [LeaseManager.release, Table.get_foldl_erase]
  cases hget : m.leases[target]? with
  | none => simp
  | some l =>
    rw [hget] at hmem
    by_cases hid : l.id = id
    · rw [if_pos (hmem.mpr ⟨l, rfl, hid⟩), Option.filter_some_neg (by simpa using hid)]
    · rw [if_neg, Option.filter_some_pos (by simpa using hid)]
      rintro hdropped
      obtain ⟨l', hl', hid'⟩ := hmem.mp hdropped
      cases hl'
      exact hid hid'

end Table

/-- The clock reads an instant that Unix nanoseconds can express. -/
def Expressible (now : Time) : Prop := unixEpoch ≤ now ∧ now < unixEpoch + 2 ^ 63

/-- **The name of a lease tells the proposal and the instant.** -/
lemma leaseID_injective {p p' : String} {now now' : Time} (h : Expressible now)
    (h' : Expressible now') (heq : leaseID p now = leaseID p' now') : p = p' ∧ now = now' := by
  have hnano {t : Time} (ht : Expressible t) : (unixNano t).toInt = t - unixEpoch := by
    have hlow : (0 : ℤ) ≤ t - unixEpoch := Int.sub_nonneg.mpr ht.1
    have hhigh : (t - unixEpoch : ℤ) < 2 ^ 63 := Int.sub_left_lt_of_lt_add ht.2
    exact Int64.toInt_ofInt_of_le (by omega) (by omega)
  have hdash {t : Time} (ht : Expressible t) : '-' ∉ (sprintInt (unixNano t)).toList := by
    refine dash_not_mem_toString ?_
    rw [hnano ht]
    exact Int.sub_nonneg.mpr ht.1
  have hlists := congrArg String.toList heq
  simp only [leaseID, String.toList_append, List.append_assoc] at hlists
  have hrest := List.append_cancel_left hlists
  obtain ⟨hp, hnumber⟩ := append_sep_inj (hdash h) (hdash h') hrest
  refine ⟨String.toList_inj.mp hp, ?_⟩
  have hsame := congrArg sscanInt (String.toList_inj.mp hnumber)
  rw [sscanInt_sprintInt, sscanInt_sprintInt, Option.some.injEq] at hsame
  have htimes := congrArg Int64.toInt hsame
  rw [hnano h, hnano h'] at htimes
  exact sub_left_inj.mp htimes

/-! ### Callers -/

/-- Who acquires. -/
@[ext] structure Holder where
  goal : String
  proposal : String
  deriving DecidableEq

def Lease.holder (l : Lease) : Holder := ⟨l.goalID, l.proposalID⟩

/-- What a caller was granted and has not released. -/
structure Grant where
  holder : Holder
  id : String
  targets : List String
  acquiredAt : Time
  expiresAt : Time
  deriving DecidableEq

/-- The manager, its clock, and what its callers hold. -/
structure Desk where
  manager : LeaseManager := {}
  clock : Time
  granted : List Grant := []
  deriving DecidableEq

inductive LeaseEvent where
  | acquire (holder : Holder) (targets : List String)
  | release (holder : Holder) (id : String)
  | advance (nanoseconds : ℕ)

namespace Desk

/-- A caller releases only what it was granted and has not released. -/
def step (host : Host) (s : Desk) : LeaseEvent → Result Desk
  | .acquire holder targets =>
    match s.manager.acquire host s.clock holder.goal holder.proposal targets with
    | (.ok id, m) => .ok { s with
        manager := m
        granted := ⟨holder, id, targets, s.clock, s.clock + s.manager.ttl⟩ :: s.granted }
    | (.error _, m) => .ok { s with manager := m }
  | .release holder id => do
      refuseIf (¬∃ g ∈ s.granted, g.holder = holder ∧ g.id = id) "not granted"
      return { s with
        manager := s.manager.release id
        granted := s.granted.filter fun g => decide (¬(g.holder = holder ∧ g.id = id)) }
  | .advance nanoseconds => .ok { s with clock := s.clock + nanoseconds }

/-- The lease has not expired. -/
def Live (s : Desk) (g : Grant) : Prop := s.clock < g.expiresAt

/-- No two holders hold one target. -/
def Exclusive (s : Desk) : Prop :=
  ∀ g ∈ s.granted, ∀ g' ∈ s.granted, s.Live g → s.Live g' → g.holder ≠ g'.holder →
    ∀ target ∈ g.targets, target ∉ g'.targets

/-- What a call must meet. An acquisition: no other goal has a lease under the same proposal
id that it has not released, and the clock is expressible. A release: no other live lease of
the caller covers a target whose entry is the one that is released. -/
def Proper (s : Desk) : LeaseEvent → Prop
  | .acquire holder _ => Expressible s.clock ∧
      ∀ g ∈ s.granted, g.holder.proposal = holder.proposal → g.holder.goal = holder.goal
  | .release holder id => ∀ g ∈ s.granted, g.holder = holder → g.id ≠ id → s.Live g →
      ∀ target ∈ g.targets, ∀ l, s.manager.leases[target]? = some l → l.id ≠ id
  | .advance _ => True

/-- What links the callers to the table. -/
structure Consistent (s : Desk) : Prop where
  /-- every target of a live lease is leased to its holder, at least as long -/
  covered : ∀ g ∈ s.granted, s.Live g → ∀ target ∈ g.targets, ∃ l,
    s.manager.leases[target]? = some l ∧ l.holder = g.holder ∧ g.expiresAt ≤ l.expiresAt
  /-- every entry belongs to somebody -/
  owned : ∀ (target : String) (l : Lease), s.manager.leases[target]? = some l →
    ∃ g ∈ s.granted, g.id = l.id ∧ g.holder = l.holder
  /-- leases are named after the proposal and an instant -/
  named : ∀ g ∈ s.granted, Expressible g.acquiredAt ∧
    g.id = leaseID g.holder.proposal g.acquiredAt
  /-- a name belongs to one holder -/
  unique : ∀ g ∈ s.granted, ∀ g' ∈ s.granted, g.id = g'.id → g.holder = g'.holder
  /-- leases were granted in the past -/
  past : ∀ g ∈ s.granted, g.acquiredAt ≤ s.clock ∧
    g.expiresAt = g.acquiredAt + s.manager.ttl

/-- **Whoever holds a target is in the table**, so there is one holder only. -/
lemma Consistent.exclusive {s : Desk} (h : s.Consistent) : s.Exclusive := by
  intro g hg g' hg' hlive hlive' hne target htarget htarget'
  obtain ⟨l, hl, hholder, -⟩ := h.covered g hg hlive target htarget
  obtain ⟨l', hl', hholder', -⟩ := h.covered g' hg' hlive' target htarget'
  rw [hl] at hl'
  cases hl'
  exact hne (hholder.symm.trans hholder')

/-- Releasing removes the leases of the caller only. -/
lemma Consistent.released {s : Desk} (h : s.Consistent) {g : Grant} (hg : g ∈ s.granted)
    {target : String} {l : Lease} (hl : s.manager.leases[target]? = some l)
    (hid : l.id = g.id) : l.holder = g.holder := by
  obtain ⟨g', hg', hid', hholder⟩ := h.owned target l hl
  rw [← hholder]
  exact h.unique g' hg' g hg (hid'.trans hid)

section Step

variable {host : Host} {s t : Desk} {holder : Holder} {targets : List String} {id : String}

/-- **Acquiring keeps the callers and the table in line.** -/
lemma Consistent.acquire (h : s.Consistent) (hproper : s.Proper (.acquire holder targets))
    (hstep : s.step host (.acquire holder targets) = .ok t) : t.Consistent := by
  obtain ⟨hclock, hsolo⟩ := hproper
  rw [step] at hstep
  split at hstep <;> cases hstep
  · rename_i id m hacquired
    obtain ⟨rfl, httl, hfree, hleases⟩ := acquire_ok hacquired
    -- whoever holds one of the targets is the caller
    have hown : ∀ g ∈ s.granted, s.Live g → ∀ target ∈ g.targets, target ∈ targets →
        g.holder = holder := by
      intro g hg hlive target hmem htarget
      obtain ⟨l, hl, hholder, hexpires⟩ := h.covered g hg hlive target hmem
      have hproposal := hfree target htarget l hl (lt_of_lt_of_le hlive hexpires)
      have hsame : g.holder.proposal = holder.proposal := by
        rw [← hholder]
        exact hproposal
      exact Holder.ext (hsolo g hg hsame) hsame
    refine ⟨?_, ?_, ?_, ?_, ?_⟩
    · intro g hg hlive target hmem
      rw [hleases]
      rcases List.mem_cons.mp hg with rfl | hg
      · exact ⟨_, if_pos hmem, rfl, le_refl _⟩
      · by_cases htarget : target ∈ targets
        · refine ⟨_, if_pos htarget, (hown g hg hlive target hmem htarget).symm, ?_⟩
          rw [(h.past g hg).2]
          exact Int.add_le_add_right (h.past g hg).1 _
        · rw [if_neg htarget]
          exact h.covered g hg hlive target hmem
    · intro target l hl
      rw [hleases] at hl
      split_ifs at hl with htarget
      · cases hl
        exact ⟨_, List.mem_cons_self, rfl, rfl⟩
      · obtain ⟨g, hg, hid, hholder⟩ := h.owned target l hl
        exact ⟨g, List.mem_cons_of_mem _ hg, hid, hholder⟩
    · intro g hg
      rcases List.mem_cons.mp hg with rfl | hg
      · exact ⟨hclock, rfl⟩
      · exact h.named g hg
    · -- a name that is taken already was taken by the caller
      have hnew : ∀ g ∈ s.granted, g.id = leaseID holder.proposal s.clock → g.holder = holder := by
        intro g hg hid
        obtain ⟨hexpressible, hname⟩ := h.named g hg
        obtain ⟨hproposal, -⟩ := leaseID_injective hexpressible hclock (hname.symm.trans hid)
        exact Holder.ext (hsolo g hg hproposal) hproposal
      intro g hg g' hg' hid
      rcases List.mem_cons.mp hg with rfl | hg <;> rcases List.mem_cons.mp hg' with rfl | hg'
      · rfl
      · exact (hnew g' hg' hid.symm).symm
      · exact hnew g hg hid
      · exact h.unique g hg g' hg' hid
    · intro g hg
      dsimp only
      rw [httl]
      rcases List.mem_cons.mp hg with rfl | hg
      · exact ⟨le_refl _, rfl⟩
      · exact h.past g hg
  · rename_i hrefused
    rw [acquire_error hrefused]
    exact h

/-- **So does releasing.** -/
lemma Consistent.release (h : s.Consistent) (hproper : s.Proper (.release holder id))
    (hstep : s.step host (.release holder id) = .ok t) : t.Consistent := by
  rw [step, refuseIf_bind_ok, pure_ok, not_not] at hstep
  obtain ⟨⟨r, hr, hrholder, hrid⟩, rfl⟩ := hstep
  have hstays {g : Grant} (hg : g ∈ s.granted) (hne : ¬(g.holder = holder ∧ g.id = id)) :
      g ∈ s.granted.filter fun g => decide (¬(g.holder = holder ∧ g.id = id)) :=
    List.mem_filter.mpr ⟨hg, decide_eq_true hne⟩
  have hwas {g : Grant}
      (hg : g ∈ s.granted.filter fun g => decide (¬(g.holder = holder ∧ g.id = id))) :
      g ∈ s.granted ∧ ¬(g.holder = holder ∧ g.id = id) := by
    obtain ⟨hmem, hne⟩ := List.mem_filter.mp hg
    exact ⟨hmem, of_decide_eq_true hne⟩
  have hentry {target : String} {l : Lease} (hl : s.manager.leases[target]? = some l)
      (hid : l.id = id) : l.holder = holder := by
    rw [← hrholder]
    exact h.released hr hl (hid.trans hrid.symm)
  refine ⟨?_, ?_, ?_, ?_, ?_⟩
  · intro g hg hlive target hmem
    obtain ⟨hg, hother⟩ := hwas hg
    obtain ⟨l, hl, hholder, hexpires⟩ := h.covered g hg hlive target hmem
    -- an entry that is dropped would be the caller's, and so would be the lease it covers
    have hkept : l.id ≠ id := by
      intro hid
      have hcaller : g.holder = holder := hholder.symm.trans (hentry hl hid)
      exact hproper g hg hcaller (fun hgid => hother ⟨hcaller, hgid⟩) hlive target hmem l hl hid
    refine ⟨l, ?_, hholder, hexpires⟩
    rw [get_release]
    exact Option.filter_eq_some_iff.mpr ⟨hl, decide_eq_true hkept⟩
  · intro target l hl
    rw [get_release, Option.filter_eq_some_iff] at hl
    obtain ⟨hl, hkept⟩ := hl
    obtain ⟨g, hg, hid, hholder⟩ := h.owned target l hl
    refine ⟨g, hstays hg ?_, hid, hholder⟩
    rintro ⟨-, hgid⟩
    exact of_decide_eq_true hkept (hid.symm.trans hgid)
  · intro g hg
    exact h.named g (hwas hg).1
  · intro g hg g' hg'
    exact h.unique g (hwas hg).1 g' (hwas hg').1
  · intro g hg
    exact h.past g (hwas hg).1

/-- **Time passes** and fewer leases are live. -/
lemma Consistent.advance {nanoseconds : ℕ} (h : s.Consistent)
    (hstep : s.step host (.advance nanoseconds) = .ok t) : t.Consistent := by
  cases hstep
  have hlater : s.clock ≤ s.clock + nanoseconds := Int.le_add_of_nonneg_right (by simp)
  refine ⟨?_, h.owned, h.named, h.unique, ?_⟩
  · intro g hg hlive
    exact h.covered g hg (lt_of_le_of_lt hlater hlive)
  · intro g hg
    exact ⟨(h.past g hg).1.trans hlater, (h.past g hg).2⟩

lemma Consistent.step {event : LeaseEvent} (h : s.Consistent) (hproper : s.Proper event)
    (hstep : s.step host event = .ok t) : t.Consistent := by
  cases event with
  | acquire holder targets => exact h.acquire hproper hstep
  | release holder id => exact h.release hproper hstep
  | advance nanoseconds => exact h.advance hstep

end Step

/-- A desk nobody has come to. -/
def opened (ttl : Duration) (clock : Time) : Desk :=
  { manager := { ttl := ttl }, clock := clock }

lemma opened_consistent (ttl : Duration) (clock : Time) : (opened ttl clock).Consistent := by
  refine ⟨?_, fun target l hl => ?_, ?_, ?_, ?_⟩
  case refine_2 =>
    rw [opened, get_empty] at hl
    cases hl
  all_goals
    intro g hg
    exact absurd hg List.not_mem_nil

end Desk

/-- **Leases are exclusive** in every run of proper calls: no two holders have a live lease on
one target; an acquisition that is refused leaves the table alone; and a caller that releases
its lease removes no entry of another holder. -/
theorem leases_exclusive {host : Host} {ttl : Duration} {clock : Time} {events : List LeaseEvent}
    {s : Desk} (hrun : Run (Desk.step host) (.opened ttl clock) events s)
    (hproper : Run.Throughout (Desk.step host) Desk.Proper (.opened ttl clock) events) :
    s.Exclusive ∧
      (∀ (holder : Holder) (targets : List String) (fault : Fault) (m : LeaseManager),
        s.manager.acquire host s.clock holder.goal holder.proposal targets = (.error fault, m) →
        m = s.manager) ∧
      ∀ g ∈ s.granted, ∀ (target : String) (l : Lease), s.manager.leases[target]? = some l →
        (s.manager.release g.id).leases[target]? = none → l.holder = g.holder := by
  have hconsistent : s.Consistent :=
    hrun.invariant_throughout (fun h hq hstep => h.step hq hstep) hproper
      (Desk.opened_consistent ttl clock)
  refine ⟨hconsistent.exclusive, fun _ _ _ _ hrefused => acquire_error hrefused, ?_⟩
  intro g hg target l hl hnone
  refine hconsistent.released hg hl ?_
  rw [get_release, hl] at hnone
  by_contra hid
  rw [Option.filter_some_pos (by simpa using hid)] at hnone
  cases hnone

/-! ### Two goals, one proposal id -/

namespace Leasing

/-- Proposals are named after their agent and the revision they were made for. -/
def proposal : String := "placement-agent-r7"

def web : Holder := ⟨"web", proposal⟩

def shop : Holder := ⟨"shop", proposal⟩

def now : Time := unixEpoch + 1000

def desk : Desk := .opened (5 * minute) now

/-- The desk after one call. -/
def after (s : Desk) (event : LeaseEvent) : Desk := (s.step quietHost event).toOption.getD s

def one : Desk := after desk (.acquire web ["web-0"])

def both : Desk := after one (.acquire shop ["web-0"])

def grant (holder : Holder) : Grant :=
  ⟨holder, leaseID proposal now, ["web-0"], now, now + 5 * minute⟩

lemma run : Run (Desk.step quietHost) desk [.acquire web ["web-0"], .acquire shop ["web-0"]]
    both :=
  .cons (t := one) (by decide +kernel) (.cons (t := both) (by decide +kernel) (.nil _))

end Leasing

open Leasing

/-- Two goals whose proposals have the same id hold one target, and the lease the first one
releases is the other's. -/
theorem leases_shared :
    Run (Desk.step quietHost) desk [.acquire web ["web-0"], .acquire shop ["web-0"]] both ∧
      ¬both.Exclusive ∧
      grant web ∈ both.granted ∧
      (both.manager.leases["web-0"]?.map Lease.holder) = some shop ∧
      (both.manager.release (grant web).id).leases["web-0"]? = none := by
  have hweb : grant web ∈ both.granted := by decide +kernel
  have hshop : grant shop ∈ both.granted := by decide +kernel
  have hlive : ∀ holder, both.Live (grant holder) := by
    intro holder
    exact (by decide +kernel : both.clock < now + 5 * minute)
  refine ⟨run, fun hexclusive => ?_, hweb, by decide +kernel, by decide +kernel⟩
  exact hexclusive _ hweb _ hshop (hlive _) (hlive _) (by decide) "web-0" List.mem_cons_self
    List.mem_cons_self

namespace Leasing

/-- The other goal proposes at the next revision. -/
def next : Holder := ⟨"shop", "placement-agent-r8"⟩

def id : String := leaseID proposal now

/-- The second goal waits until the first has released the target. -/
def turns : List LeaseEvent :=
  [.acquire web ["web-0"], .acquire next ["web-0"], .release web id, .acquire next ["web-0"]]

def free : Desk := after one (.release web id)

def last : Desk := after free (.acquire next ["web-0"])

lemma turns_run : Run (Desk.step quietHost) desk turns last :=
  .cons (t := one) (by decide +kernel) (.cons (t := one) (by decide +kernel)
    (.cons (t := free) (by decide +kernel) (.cons (t := last) (by decide +kernel) (.nil _))))

lemma turns_proper : Run.Throughout (Desk.step quietHost) Desk.Proper desk turns := by
  have hclock : Expressible now := ⟨by decide, by decide⟩
  have hone : one.clock = now ∧ ∀ g ∈ one.granted, g.id = id ∧ g.holder.proposal = proposal := by
    decide +kernel
  have hfree : free.clock = now ∧ free.granted = [] := by decide +kernel
  refine Run.throughout_cons (t := one) (by decide +kernel) ⟨hclock, ?_⟩ ?_
  · exact fun g hg => absurd hg List.not_mem_nil
  refine Run.throughout_cons (t := one) (by decide +kernel) ⟨hone.1 ▸ hclock, ?_⟩ ?_
  · intro g hg hproposal
    rw [(hone.2 g hg).2] at hproposal
    exact absurd hproposal (by decide)
  refine Run.throughout_cons (t := free) (by decide +kernel) ?_ ?_
  · intro g hg _ hid
    exact absurd (hone.2 g hg).1 hid
  refine Run.throughout_cons (t := last) (by decide +kernel) ⟨hfree.1 ▸ hclock, ?_⟩
    (Run.throughout_nil _ _)
  rw [hfree.2]
  exact fun g hg => absurd hg List.not_mem_nil

end Leasing

theorem leases_exclusive_in_turn :
    last.Exclusive ∧
      ∀ g ∈ last.granted, ∀ (target : String) (l : Lease), last.manager.leases[target]? = some l →
        (last.manager.release g.id).leases[target]? = none → l.holder = g.holder := by
  obtain ⟨hexclusive, -, hreleases⟩ := leases_exclusive turns_run turns_proper
  exact ⟨hexclusive, hreleases⟩

end A4s
