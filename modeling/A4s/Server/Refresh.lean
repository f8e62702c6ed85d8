/-
Rounds of the engine that measure readiness (`refreshReadiness` of `control/engine.go`, the prober
of `control/probe.go`), and how long an allocation counts as ready after them.

* `MeasuredProber.probe`: the prober; `MeasuredProber.probe_reading`: what its evidence says.
* `solo`: the world as the engine finds it when nothing comes in between.
* `Tracks`: what a world remembers of an allocation; `tracks_of_target_ne`: evidence about
  something else leaves that alone.
* `refreshReadiness_meets`: **a round of the program is a round of the history**.
* `Course`: any number of rounds, with the other evidence that the engine applies.
* `ready_run_iff`: when the time from the first round on is what counts.
-/
import A4s.Control.Readiness
import A4s.Control.Repeatable
import A4s.Node.Runtime
import A4s.Server.Calls

namespace A4s

open Go Journal

/-! ### The prober -/

def ProbeKind.text : ProbeKind → String
  | .process => "process"
  | .tcp => "tcp"
  | .http => "http"
  | .database => "database"
  | .agent => "agent"

namespace Calls

/-- `MeasuredProber`. -/
structure MeasuredProber where
  observer : ProbeTarget → Result (Bool × Table String)
  targets : Table ProbeTarget
  ttl : Duration

namespace MeasuredProber

/-- How long a measurement is good. -/
def validity (p : MeasuredProber) : Duration :=
  if p.ttl ≤ 0 then Daemon.defaultReadinessTTL else p.ttl

/-- The evidence that answers a check. -/
def evidenceKind : CheckKind → Option EvidenceKind
  | .allocationReady => some .allocationReady
  | .agentReady => some .agentReady
  | _ => none

/-- What the world knows better than the declared target. -/
def located (target : ProbeTarget) (a : Allocation) : ProbeTarget :=
  { target with
    address := if target.address = "" then a.address else target.address
    node := if target.node = "" then a.node else target.node }

/-- `MeasuredProber.Probe`. -/
def probe (p : MeasuredProber) (now : Time) (w : World) (c : Check) : Option Evidence := do
  let kind ← evidenceKind c.kind
  let a ← w.allocations[c.target]?
  guard (a.phase = .running)
  let declared ← p.targets[c.target]?
  let target := located declared a
  -- a measurement that failed says nothing
  let (ready, observed) ← (p.observer target).toOption
  return { kind := kind
           target := c.target
           source := "prober:" ++ target.kind.text
           observedAt := now
           expiresAt := now + p.validity
           observed := (observed.insert "ready" (boolText ready)).insert "probe" target.kind.text }

end MeasuredProber

/-- Evidence that answers a check at a time, and is good for so long. -/
structure Reading (ttl : Duration) (t : Time) (c : Check) (e : Evidence) : Prop where
  kind : MeasuredProber.evidenceKind c.kind = some e.kind
  target : e.target = c.target
  observedAt : e.observedAt = t
  expiresAt : e.expiresAt = t + ttl

namespace MeasuredProber

variable {p : MeasuredProber} {now : Time} {w : World} {c : Check} {e : Evidence}

/-- The observer finds the allocation ready wherever it is. -/
def Finds (p : MeasuredProber) (id : String) : Prop :=
  ∃ declared, p.targets[id]? = some declared ∧
    ∀ a, ∃ observed, p.observer (located declared a) = .ok (true, observed)

/-- The evidence of the prober answers the check, and says what was measured. -/
lemma probe_reading (h : p.probe now w c = some e) :
    Reading p.validity now c e ∧ (p.Finds c.target → e.observe "ready" = "true") := by
  simp only [probe, Option.bind_eq_bind, Option.bind_eq_some_iff, Option.pure_def,
    Option.some.injEq] at h
  obtain ⟨kind, hkind, a, -, -, -, declared, hdeclared, ⟨ready, observed⟩, hobserver, rfl⟩ := h
  refine ⟨⟨hkind, rfl, rfl, rfl⟩, ?_⟩
  rintro ⟨declared', hdeclared', hfinds⟩
  cases hdeclared.symm.trans hdeclared'
  obtain ⟨observed', hready⟩ := hfinds a
  rw [hready] at hobserver
  cases hobserver
  rw [Evidence.observe, get_insert_of_ne (by decide), get_insert_self]
  rfl

/-- An allocation that is running and found ready is measured. -/
lemma probe_isSome (hfinds : p.Finds c.target) (hkind : (evidenceKind c.kind).isSome = true)
    {a : Allocation} (hget : w.allocations[c.target]? = some a) (hphase : a.phase = .running) :
    (p.probe now w c).isSome = true := by
  obtain ⟨declared, hdeclared, hready⟩ := hfinds
  obtain ⟨observed, hobserver⟩ := hready a
  obtain ⟨kind, hkind⟩ := Option.isSome_iff_exists.mp hkind
  simp only [probe, hkind, hget, hphase, hdeclared, hobserver, Option.bind_eq_bind,
    Option.bind_some, guard_true]
  rfl

end MeasuredProber

/-! ### What the world remembers -/

/-- The world has the allocation running for the workload, and remembers this of its
measurements. -/
def Tracks (id workload : String) (r : Readiness) (w : World) : Prop :=
  ∃ a, w.allocations[id]? = some a ∧ a.phase = .running ∧ a.workload = workload ∧ a.readiness = r

section Tracks

variable {id workload : String} {r : Readiness} {w w₁ : World} {e : Evidence}

/-- **Evidence about something else** leaves the allocation as it is remembered. -/
theorem tracks_of_target_ne (h : Tracks id workload r w) (hproject : project w e = .ok w₁)
    (hne : e.target ≠ id) : Tracks id workload r w₁ := by
  obtain ⟨a, hget, hphase, hworkload, hready⟩ := h
  -- attaching and detaching volumes is no matter
  obtain ⟨volumes, hget'⟩ := ((project_effect hproject).populates.of_get hget).resolve_right
    fun hsubject => hne hsubject.1.symm
  exact ⟨_, hget', hphase, hworkload, hready⟩

/-- The projection of a measurement. -/
lemma project_reading {ttl : Duration} {t : Time} {c : Check} (hreading : Reading ttl t c e)
    (hproject : project w e = .ok w₁) :
    ∃ a, w.allocations[e.target]? = some a ∧ advance w (applyReadiness w a e) e = w₁ := by
  have hkind : e.kind = .allocationReady ∨ e.kind = .agentReady := by
    have hcheck := hreading.kind
    unfold MeasuredProber.evidenceKind at hcheck
    split at hcheck <;> simp_all
  have hcase : observesNothing e.kind = false ∧ projectInto w e = projectReady w e := by
    rcases hkind with hkind | hkind
    · simp only [observesNothing, projectInto, hkind]
      exact ⟨by decide, trivial⟩
    · simp only [observesNothing, projectInto, hkind]
      exact ⟨by decide, trivial⟩
  obtain ⟨next, hinto, hnext⟩ := project_advance hcase.1 hproject
  rw [hcase.2] at hinto
  simp only [projectReady, knownAllocation, require_bind_ok, refuseIf_bind_ok, pure_ok] at hinto
  obtain ⟨a, hget, -, rfl⟩ := hinto
  exact ⟨a, hget, hnext⟩

lemma applyReadiness_observedAt (w : World) (a : Allocation) (e : Evidence) :
    (applyReadiness w a e).observedAt = w.observedAt := by
  rw [applyReadiness]
  dsimp only
  split_ifs <;> rfl

/-- The world is no further than the measurement. -/
lemma observedAt_reading {ttl : Duration} {t : Time} {c : Check} (hreading : Reading ttl t c e)
    (hproject : project w e = .ok w₁) (htime : w.observedAt ≤ t) : w₁.observedAt ≤ t := by
  obtain ⟨a, -, rfl⟩ := project_reading hreading hproject
  simp only [advance, applyReadiness_observedAt]
  split_ifs
  · exact hreading.observedAt.le
  · exact htime

lemma lapsed_iff {a : Allocation} : Lapsed a e ↔ ¬ a.readiness.holds e.observedAt = true := by
  rw [Readiness.holds_iff, not_and_or, not_or, Bool.not_eq_true, not_lt]
  exact Iff.rfl

/-- The run of readiness after a measurement that finds the allocation ready. -/
lemma readySinceAfter_eq {a : Allocation} (ttl : Duration) (hready : e.observe "ready" = "true") :
    readySinceAfter a e = (a.readiness.measured ttl e.observedAt).since := by
  change _ = if a.readiness.holds e.observedAt = true ∧ a.readySince ≠ 0 then a.readySince
    else e.observedAt
  rcases readySinceAfter_of_ready (a := a) hready with ⟨hnew, hsince⟩ | ⟨hold, hsince⟩
  · rw [hsince, if_neg]
    rintro ⟨hholds, hne⟩
    exact hnew.elim (fun hlapsed => lapsed_iff.mp hlapsed hholds) hne
  · rw [hsince, if_pos]
    rw [not_or, lapsed_iff, not_not] at hold
    exact hold

/-- **A measurement that finds the allocation ready** is remembered as one. -/
theorem tracks_reading {ttl : Duration} {t : Time} {c : Check} (h : Tracks id workload r w)
    (hreading : Reading ttl t c e) (htarget : e.target = id) (hready : e.observe "ready" = "true")
    (hproject : project w e = .ok w₁) : Tracks id workload (r.measured ttl t) w₁ := by
  obtain ⟨a, hget, hphase, hworkload, rfl⟩ := h
  obtain ⟨a', hget', rfl⟩ := project_reading hreading hproject
  rw [htarget] at hget'
  cases hget.symm.trans hget'
  refine ⟨probed a e, ?_, hphase, hworkload, ?_⟩
  · simp only [advance, applyReadiness_allocations, htarget, get_insert_self]
    rfl
  · have hsince := readySinceAfter_eq (a := a) ttl hready
    rw [hreading.observedAt] at hsince
    have hremembered : (probed a e).readiness =
        { ready := true, since := readySinceAfter a e, expires := e.expiresAt } := by
      simp only [Allocation.readiness, probed, hready, decide_true]
    rw [hremembered, hsince, hreading.expiresAt]
    rfl

end Tracks

/-! ### The engine alone -/

/-- What is known of the probers in a round: for how long a measurement is good, the allocation
that is looked at, and a prober that always has a measurement of it. -/
structure Sight where
  ttl : Duration
  id : String
  prober : ℕ

/-- The answers of the probers at a time: a measurement of the allocation finds it ready. -/
structure Sight.Reads (v : Sight) (t : Time) (prober : ℕ) (w : World) (c : Check)
    (answer : Option Evidence) : Prop where
  reading : ∀ e, answer = some e → Reading v.ttl t c e
  ready : ∀ e, answer = some e → c.target = v.id → e.observe "ready" = "true"
  measures : prober = v.prober → c.target = v.id →
    (MeasuredProber.evidenceKind c.kind).isSome = true →
    (∃ a, w.allocations[v.id]? = some a ∧ a.phase = .running) → answer.isSome = true

/-- A prober that finds the allocation ready answers so. -/
lemma Sight.reads_probe {v : Sight} {p : MeasuredProber} (httl : p.validity = v.ttl)
    (hfinds : p.Finds v.id) (t : Time) (prober : ℕ) (w : World) (c : Check) :
    v.Reads t prober w c (p.probe t w c) := by
  refine ⟨fun e h => ?_, fun e h htarget => ?_, fun _ htarget hkind ⟨a, hget, hphase⟩ => ?_⟩
  · rw [← httl]
    exact (MeasuredProber.probe_reading h).1
  · rw [← htarget] at hfinds
    exact (MeasuredProber.probe_reading h).2 hfinds
  · rw [← htarget] at hfinds hget
    exact MeasuredProber.probe_isSome hfinds hkind hget hphase

/-- The world after an operation. -/
def soloNote (w : World) : (op : Op) → Op.Answer op → World
  | .project e, .ok () => (project w e).toOption.getD w
  | _, _ => w

/-- The answers that the engine can get at a time when nothing comes in between. -/
def soloPossible (v : Sight) (t : Time) (w : World) : (op : Op) → Op.Answer op → Prop
  | .world, answer => answer = w
  | .project e, answer => answer = (project w e).map fun _ => ()
  | .ask .clock, answer => answer = t
  | .ask (.probe prober w c), answer => v.Reads t prober w c answer
  | _, _ => True

/-- The engine alone at a time: the world is what it has made of it. -/
def solo (v : Sight) (t : Time) : Discipline interface World :=
  { note := soloNote, may := fun _ _ => True, possible := soloPossible v t }

/-- The world, stamped with the time. -/
def stamped (w : World) (t : Time) : World :=
  if w.observedAt < t then { w with observedAt := t } else w

@[simp] lemma stamped_allocations (w : World) (t : Time) :
    (stamped w t).allocations = w.allocations := by
  rw [stamped]
  split_ifs <;> rfl

lemma stamped_now {w : World} {t : Time} (host : Host) (ht : 0 < t) (hle : w.observedAt ≤ t) :
    (stamped w t).now host.wall = t := by
  have hstamp : (stamped w t).observedAt = t := by
    rw [stamped]
    split_ifs with hlt
    · rfl
    · exact le_antisymm hle (not_lt.mp hlt)
  rw [World.now, hstamp, if_neg ht.ne']

section Solo

variable {α : Type} {v : Sight} {t : Time} {w : World}

lemma meets_observedWorld {f : World → Call α} {post : Result α → World → Prop}
    (h : Meets (solo v t) (f (stamped w t)).run w post) :
    Meets (solo v t) (observedWorld >>= f).run w post := by
  rw [meets_run_bind, observedWorld, world, meets_does_bind]
  refine ⟨trivial, ?_⟩
  rintro _ rfl
  rw [clock, meets_does_bind]
  refine ⟨trivial, ?_⟩
  rintro _ rfl
  exact h

/-- Asking does not change the world. -/
lemma meets_ask {q : Query} {f : q.Answer → Call α} {post : Result α → World → Prop}
    (h : ∀ answer, soloPossible v t w (.ask q) answer → Meets (solo v t) (f answer).run w post) :
    Meets (solo v t) (does (.ask q) >>= f).run w post := by
  rw [meets_does_bind]
  exact ⟨trivial, h⟩

/-- Evidence is applied, or refused and the call ends. -/
lemma meets_project {e : Evidence} {text : String} {f : Unit → Call α}
    {post : Result α → World → Prop} (herror : ∀ fault, post (.error fault) w)
    (hok : ∀ w₁, project w e = .ok w₁ → Meets (solo v t) (f ()).run w₁ post) :
    Meets (solo v t) (wrapped text (projectEvidence e) >>= f).run w post := by
  rw [meets_run_bind, wrapped, meets_run_bind, meets_attempt]
  refine ⟨trivial, fun answer hanswer => ?_⟩
  have hresult : answer = (project w e).map fun _ => () := hanswer
  cases hproject : project w e with
  | error fault =>
    rw [hproject] at hresult
    subst hresult
    cases fault <;> exact herror _
  | ok w₁ =>
    rw [hproject] at hresult
    subst hresult
    have hafter : soloNote w (.project e) (.ok ()) = w₁ := by
      rw [soloNote, hproject]
      rfl
    rw [← hafter] at hproject ⊢
    exact hok _ hproject

/-- Recording does not change the world. -/
lemma meets_record {event : Journal.Event} {post : Result Unit → World → Prop}
    (h : ∀ r, post r w) : Meets (solo v t) (record event).run w post := by
  rw [record, meets_does_bind]
  refine ⟨trivial, fun sequence _ => ?_⟩
  rw [clock, meets_does_bind]
  refine ⟨trivial, fun at_ _ => ?_⟩
  rw [world, meets_does_bind]
  refine ⟨trivial, ?_⟩
  rintro _ rfl
  rw [wrapped, meets_run_bind, meets_attempt]
  exact ⟨trivial, fun answer _ => h _⟩

end Solo

/-! ### Loops -/

section Loops

variable {G β : Type} {D : Discipline interface G} {P Q : G → Prop}

/-- The call keeps `P` and `Q`, and brings `Q` about if `done` and it returns no error. -/
def Marks (D : Discipline interface G) (P Q : G → Prop) (done : Prop) (c : Call Unit) : Prop :=
  ∀ g, P g → Meets D c.run g fun r g' => P g' ∧ (Q g ∨ done ∧ r = .ok () → Q g')

lemma Marks.mono {done done' : Prop} {c : Call Unit} (h : Marks D P Q done c)
    (hdone : done' → done) : Marks D P Q done' c := by
  intro g hP
  refine (h g hP).mono fun r g' ⟨hP', hQ'⟩ => ⟨hP', fun hQ => hQ' ?_⟩
  exact hQ.imp_right fun ⟨hd, hr⟩ => ⟨hdone hd, hr⟩

/-- **A loop brings about what one of its rounds does.** -/
theorem Marks.forM {xs : List β} {f : β → Call Unit} {done : β → Prop}
    (h : ∀ x ∈ xs, Marks D P Q (done x) (f x)) :
    Marks D P Q (∃ x ∈ xs, done x) (xs.forM f) := by
  induction xs with
  | nil =>
    intro g hP
    refine ⟨hP, ?_⟩
    rintro (hQ | ⟨⟨x, hx, -⟩, -⟩)
    · exact hQ
    · cases hx
  | cons x xs ih =>
    have hrest := ih fun y hy => h y (List.mem_cons_of_mem x hy)
    intro g hP
    rw [List.forM_eq_forM, List.forM_cons, meets_run_bind]
    refine (h x List.mem_cons_self g hP).mono fun r g' ⟨hP', hQ'⟩ => ?_
    cases r with
    | error fault =>
      refine ⟨hP', ?_⟩
      rintro (hQ | ⟨-, hr⟩)
      · exact hQ' (.inl hQ)
      · cases hr
    | ok u =>
      refine (hrest g' hP').mono fun r g'' ⟨hP'', hQ''⟩ => ⟨hP'', ?_⟩
      rintro (hQ | ⟨⟨y, hy, hdone⟩, hr⟩)
      · exact hQ'' (.inl (hQ' (.inl hQ)))
      · rcases List.mem_cons.mp hy with rfl | hy
        · exact hQ'' (.inl (hQ' (.inr ⟨hdone, rfl⟩)))
        · exact hQ'' (.inr ⟨⟨y, hy, hdone⟩, hr⟩)

end Loops

/-! ### A round -/

section Round

variable (engine : Engine) {v : Sight} {t : Time} {workload : String} {r : Readiness} {w : World}

/-- What is remembered of the allocation, in a world that is not ahead of the time. -/
def Sight.Sees (v : Sight) (t : Time) (workload : String) (r : Readiness) (w : World) : Prop :=
  Tracks v.id workload r w ∧ w.observedAt ≤ t

/-- What a measurement of the allocation is compared with. -/
lemma Sight.Sees.readyAt (h : v.Sees t workload r w) (ht : 0 < t) (host : Host) :
    ((stamped w t).allocations[v.id]?.any fun a => a.readyAt ((stamped w t).now host.wall)) =
      r.holds t := by
  obtain ⟨⟨a, hget, -, -, rfl⟩, htime⟩ := h
  rw [stamped_allocations, stamped_now host ht htime, hget]
  rfl

/-- A measurement that is applied. -/
lemma Sight.Sees.project (h : v.Sees t workload r w) {c : Check} {e : Evidence} {w₁ : World}
    (hreading : Reading v.ttl t c e) (hready : c.target = v.id → e.observe "ready" = "true")
    (hproject : project w e = .ok w₁) :
    c.target = v.id ∧ v.Sees t workload (r.measured v.ttl t) w₁ ∨
      c.target ≠ v.id ∧ v.Sees t workload r w₁ := by
  have htime := observedAt_reading hreading hproject h.2
  by_cases hid : c.target = v.id
  · have htarget : e.target = v.id := hreading.target.trans hid
    exact .inl ⟨hid, tracks_reading h.1 hreading htarget (hready hid) hproject, htime⟩
  · have htarget : e.target ≠ v.id := fun heq => hid (hreading.target.symm.trans heq)
    exact .inr ⟨hid, tracks_of_target_ne h.1 hproject htarget, htime⟩

/-- What one measurement leaves: what was remembered or, if it is of the allocation, what a round
makes of it. -/
lemma refreshWith_meets (ht : 0 < t) (httl : 0 < v.ttl) (goal : Goal) (id : String) (prober : ℕ)
    (h : v.Sees t workload r w) :
    Meets (solo v t) (refreshWith engine goal id prober).run w fun result w' =>
      (v.Sees t workload r w' ∨ v.Sees t workload (r.refreshed v.ttl t) w') ∧
        (id = v.id ∧ prober = v.prober ∧ result = .ok () →
          v.Sees t workload (r.refreshed v.ttl t) w') := by
  rw [refreshWith]
  refine meets_observedWorld ?_
  have hkind : (MeasuredProber.evidenceKind
      (if goal.workload.runtime.isSome then .agentReady else .allocationReady)).isSome = true := by
    split_ifs <;> rfl
  generalize (if goal.workload.runtime.isSome then CheckKind.agentReady else .allocationReady) =
    kind at hkind ⊢
  refine meets_ask fun answer hreads => ?_
  cases answer with
  | none =>
    refine ⟨.inl h, ?_⟩
    rintro ⟨hid, hprober, -⟩
    obtain ⟨a, hget, hphase, -⟩ := h.1
    cases hreads.measures hprober hid hkind ⟨a, by rw [stamped_allocations, hget], hphase⟩
  | some e =>
    have hreading := hreads.reading e rfl
    have hready := hreads.ready e rfl
    have hwillBe : id = v.id → (decide (e.observe "ready" = "true") &&
        (decide (e.expiresAt = 0) || decide (t < e.expiresAt))) = true := by
      intro hid
      rw [hready hid, hreading.expiresAt, decide_eq_true (lt_add_of_pos_right t httl)]
      simp
    dsimp only
    rw [stamped_now engine.host ht h.2]
    split_ifs with hsame
    · -- it tells nothing new
      refine ⟨.inl h, ?_⟩
      rintro ⟨rfl, -, -⟩
      have hholds : r.holds t = true := by
        rw [← h.readyAt ht engine.host, stamped_now engine.host ht h.2, hsame, hwillBe rfl]
      rw [Readiness.refreshed, if_pos hholds]
      exact h
    · refine meets_project (fun fault => ⟨.inl h, fun hend => by cases hend.2.2⟩) ?_
      intro w₁ hproject
      refine meets_record fun result => ?_
      rcases h.project hreading hready hproject with ⟨rfl, hseen⟩ | ⟨hother, hseen⟩
      · have hlapsed : ¬ r.holds t = true := by
          rw [← h.readyAt ht engine.host, stamped_now engine.host ht h.2]
          intro hwas
          exact hsame (hwas.trans (hwillBe rfl).symm)
        rw [Readiness.refreshed, if_neg hlapsed]
        exact ⟨.inr hseen, fun _ => hseen⟩
      · exact ⟨.inl hseen, fun hend => absurd hend.1 hother⟩

/-- What is remembered is as before the round or as after it, and a measurement of the prober makes
it the latter. -/
lemma refreshWith_marks (ht : 0 < t) (httl : 0 < v.ttl) (goal : Goal) (id : String) (prober : ℕ) :
    Marks (solo v t)
      (fun w => v.Sees t workload r w ∨ v.Sees t workload (r.refreshed v.ttl t) w)
      (v.Sees t workload (r.refreshed v.ttl t)) (id = v.id ∧ prober = v.prober)
      (refreshWith engine goal id prober) := by
  -- measuring again changes nothing
  have hagain : ∀ w, v.Sees t workload (r.refreshed v.ttl t) w →
      Meets (solo v t) (refreshWith engine goal id prober).run w fun _ w' =>
        v.Sees t workload (r.refreshed v.ttl t) w' := by
    intro w hseen
    refine (refreshWith_meets engine ht httl goal id prober hseen).mono fun result w' hseen' => ?_
    rw [Readiness.refreshed_again httl, or_self] at hseen'
    exact hseen'.1
  rintro w (hseen | hseen)
  · by_cases hdone : v.Sees t workload (r.refreshed v.ttl t) w
    · exact (hagain w hdone).mono fun result w' hseen' => ⟨.inr hseen', fun _ => hseen'⟩
    · refine (refreshWith_meets engine ht httl goal id prober hseen).mono
        fun result w' ⟨hseen', hmark⟩ => ⟨hseen', ?_⟩
      rintro (hdone' | ⟨⟨hid, hprober⟩, hresult⟩)
      · exact absurd hdone' hdone
      · exact hmark ⟨hid, hprober, hresult⟩
  · exact (hagain w hseen).mono fun result w' hseen' => ⟨.inr hseen', fun _ => hseen'⟩

/-- **A round of the program is a round of the history.** A round that finds the allocation ready
and returns no error leaves what `refreshed` says. -/
theorem refreshReadiness_meets (ht : 0 < t) (httl : 0 < v.ttl) (hprober : v.prober < engine.probers)
    (goal : Goal) (h : v.Sees t goal.workload.name r w) :
    Meets (solo v t) (refreshReadiness engine goal).run w fun result w' =>
      result = .ok () → v.Sees t goal.workload.name (r.refreshed v.ttl t) w' := by
  obtain ⟨a, hget, hphase, hworkload, -⟩ := h.1
  rw [refreshReadiness, if_neg (by omega)]
  refine meets_observedWorld ?_
  have hmember : v.id ∈ (((stamped w t).allocations.toList.filter fun x =>
      decide (x.2.workload = goal.workload.name ∧ x.2.phase = .running)).map (·.1)).insertionSort
        (· ≤ ·) := by
    rw [List.mem_insertionSort, stamped_allocations]
    refine List.mem_map.mpr ⟨(v.id, a), List.mem_filter.mpr ⟨?_, ?_⟩, rfl⟩
    · exact Table.mem_toList.mpr hget
    · exact decide_eq_true ⟨hworkload, hphase⟩
  have hmeasured : ∀ id, Marks (solo v t)
      (fun w => v.Sees t goal.workload.name r w ∨
        v.Sees t goal.workload.name (r.refreshed v.ttl t) w)
      (v.Sees t goal.workload.name (r.refreshed v.ttl t)) (id = v.id)
      ((List.range engine.probers).forM (refreshWith engine goal id)) := by
    intro id
    refine (Marks.forM fun prober _ => refreshWith_marks engine ht httl goal id prober).mono ?_
    exact fun hid => ⟨v.prober, List.mem_range.mpr hprober, hid, rfl⟩
  refine (Marks.forM (fun id _ => hmeasured id) w (.inl h)).mono
    fun result w' ⟨_, hmark⟩ hresult => ?_
  exact hmark (.inr ⟨⟨v.id, hmember, rfl⟩, hresult⟩)

end Round

/-! ### Rounds and what comes between them -/

/-- A course of the engine that looks at the allocation, with the measurements of it: rounds that
return no error, measurements that are recorded in any case, and other evidence that leaves what
is remembered of it alone. -/
inductive Course (engine : Engine) (v : Sight) (workload : String) :
    List Occasion → World → World → Prop
  | nil (w : World) : Course engine v workload [] w w
  | round {goal : Goal} {t : Time} {history : List Occasion} {w w₁ w' : World}
      (hgoal : goal.workload.name = workload) (htime : w.observedAt ≤ t)
      (hends : Ends (solo v t) (refreshReadiness engine goal).run w (.ok ()) w₁)
      (hrest : Course engine v workload history w₁ w') :
      Course engine v workload (.round t :: history) w w'
  | observed {c : Check} {t : Time} {e : Evidence} {history : List Occasion} {w w₁ w' : World}
      (hreading : Reading v.ttl t c e) (htarget : c.target = v.id)
      (hready : e.observe "ready" = "true") (hproject : project w e = .ok w₁)
      (hrest : Course engine v workload history w₁ w') :
      Course engine v workload (.observed t :: history) w w'
  | other {e : Evidence} {history : List Occasion} {w w₁ w' : World}
      (hproject : project w e = .ok w₁)
      (hleaves : ∀ r, Tracks v.id workload r w → Tracks v.id workload r w₁)
      (hrest : Course engine v workload history w₁ w') :
      Course engine v workload history w w'

/-- **A course of the engine** leaves what its history of measurements says. -/
theorem Course.tracks {engine : Engine} {v : Sight} {workload : String} {history : List Occasion}
    {w w' : World} (hcourse : Course engine v workload history w w') (httl : 0 < v.ttl)
    (hprober : v.prober < engine.probers) (htimes : ∀ o ∈ history, 0 < o.time) {r : Readiness}
    (h : Tracks v.id workload r w) : Tracks v.id workload (r.afterAll v.ttl history) w' := by
  induction hcourse generalizing r with
  | nil w => exact h
  | @round goal t history w w₁ w' hgoal htime hends _ ih =>
    subst hgoal
    have ht : 0 < t := htimes _ List.mem_cons_self
    have hround := refreshReadiness_meets engine ht httl hprober goal ⟨h, htime⟩
    exact ih (fun o ho => htimes o (List.mem_cons_of_mem _ ho)) (hround.ends hends rfl).1
  | @observed c t e history w w₁ w' hreading htarget hready hproject _ ih =>
    have hseen := tracks_reading h hreading (hreading.target.trans htarget) hready hproject
    exact ih (fun o ho => htimes o (List.mem_cons_of_mem _ ho)) hseen
  | other _ hleaves _ ih => exact ih htimes (hleaves r h)

/-- **How long an allocation counts as ready.** After a first round and a course in which every
measurement finds the allocation ready, the time since that round is what counts, for the
allocation and for the hold of a canary whose target it is, if and only if the run of readiness
begins there and every measurement comes before what is recorded runs out. -/
theorem ready_run_iff {engine : Engine} {v : Sight} {t : Time} {history : List Occasion}
    {w w' : World} {a : Allocation} (httl : 0 < v.ttl) (hprober : v.prober < engine.probers)
    (hget : w.allocations[v.id]? = some a) (hphase : a.phase = .running) (ht : 0 < t)
    (htimes : Increasing t history)
    (hcourse : Course engine v a.workload (.round t :: history) w w') :
    ∃ a', w'.allocations[v.id]? = some a' ∧
      (a'.readyFor (lastTime t history) = lastTime t history - t ↔
        Kept v.ttl a.readiness t history) ∧
      ∀ (host : Host) (goal : Goal), goal.canary ≠ none → goal.workload.name = a'.workload →
        goal.workload.image = a'.image → w'.observedAt ≤ lastTime t history →
        (∀ (id : String) (b : Allocation), w'.allocations[id]? = some b →
          b.OnTarget goal (lastTime t history) →
          a'.readyFor (lastTime t history) ≤ b.readyFor (lastTime t history)) →
        ((evaluateCanary host goal (stamped w' (lastTime t history))).heldFor =
          lastTime t history - t ↔ Kept v.ttl a.readiness t history) := by
  have hpos : ∀ o ∈ Occasion.round t :: history, 0 < o.time :=
    List.forall_mem_cons.mpr ⟨ht, htimes.pos ht⟩
  obtain ⟨a', hget', -, -, hready⟩ :=
    hcourse.tracks httl hprober hpos ⟨a, hget, hphase, rfl, rfl⟩
  have hlength := length_afterAll_iff (r := a.readiness) httl ht htimes
  rw [← hready] at hlength
  refine ⟨a', hget', hlength, ?_⟩
  intro host goal hcanary hworkload himage htime hleast
  have hlast : 0 < lastTime t history := by
    by_cases hnil : history = []
    · rw [hnil]
      exact ht
    · exact ht.trans (lastTime_gt htimes hnil)
  have hnow : (stamped w' (lastTime t history)).now host.wall = lastTime t history :=
    stamped_now host hlast htime
  have hholds : a'.readyAt (lastTime t history) = true := by
    change a'.readiness.holds _ = true
    rw [hready]
    change ((a.readiness.refreshed v.ttl t).afterAll v.ttl history).holds _ = true
    exact Readiness.afterAll_holds httl (Readiness.refreshed_holds httl)
  have hheld : (evaluateCanary host goal (stamped w' (lastTime t history))).heldFor =
      a'.readyFor (lastTime t history) := by
    rw [← hnow] at hholds hleast
    rw [← stamped_allocations w' (lastTime t history)] at hget' hleast
    rw [heldFor_eq hcanary hget' ⟨hworkload.symm, hholds, himage.symm⟩ hleast, hnow]
  rw [hheld]
  exact hlength

/-! ### Rounds that are shorter than a measurement is good -/

namespace Held

/-- Everything that is declared is found ready. -/
def prober : MeasuredProber :=
  { observer := fun _ => .ok (true, ∅)
    targets := Table.ofEntries [("web-1", { allocation := "web-1", kind := .tcp, port := 80 })]
    ttl := Daemon.defaultReadinessTTL }

def engine : Engine := { host := quietHost, kernel := { policy := {} }, agents := [], probers := 1 }

def sight : Sight := { ttl := Daemon.defaultReadinessTTL, id := "web-1", prober := 0 }

/-- A canary that waits for 30 seconds at each step. -/
def goal : Goal :=
  { id := "web", workload :=
      { name := "web", image := "web:2", replicas := 2, resources := ⟨100, 100⟩, port := 80 }
    canary := some { steps := [10, 50, 100], holdFor := 30 * second } }

/-- A replica of the new version that has not been measured. -/
def fresh : Allocation :=
  { id := "web-1", workload := "web", node := "n1", image := "web:2", phase := .running }

/-- One replica of the previous version is ready, one of the new version is running. -/
def start : World :=
  { allocations := Table.ofEntries
      [("web-0", { id := "web-0", workload := "web", node := "n1", image := "web:1"
                   phase := .running, ready := true, readySince := second }),
       ("web-1", fresh)] }

/-- The answers at a time, with nothing that goes wrong. -/
def reply (t : Time) (w : World) : (op : Op) → Op.Answer op
  | .lock => ()
  | .unlock => ()
  | .world => w
  | .project e => (project w e).map fun _ => ()
  | .nextSequence => 0
  | .append _ => .ok ()
  | .head => ⟨0, ""⟩
  | .witness _ => .ok ()
  | .ask .clock => t
  | .ask (.propose _ _ _) => .error (.other "")
  | .ask (.execute _) => fail ""
  | .ask (.probe _ w c) => prober.probe t w c
  | .ask (.acquire _ _ _) => fail ""
  | .ask (.release _) => ()
  | .ask (.order _) => []
  | .ask (.paced _ _) => none

/-- A round at a time. -/
def round (t : Time) (w : World) : Result Unit × World :=
  (refreshReadiness engine goal).run.exec (solo sight t) (reply t) w

lemma prober_finds : prober.Finds "web-1" :=
  ⟨{ allocation := "web-1", kind := .tcp, port := 80 }, by decide +kernel, fun _ => ⟨∅, rfl⟩⟩

lemma reply_possible (t : Time) (w : World) (op : Op) :
    (solo sight t).possible w op (reply t w op) := by
  cases op with
  | ask q =>
    cases q with
    | clock => rfl
    | probe prober w c => exact Sight.reads_probe (by decide) prober_finds t prober w c
    | _ => trivial
  | world => rfl
  | project e => rfl
  | _ => trivial

lemma course_round {t : Time} {w w' : World} {history : List Occasion} (htime : w.observedAt ≤ t)
    (hok : (round t w).1 = .ok ()) (hrest : Course engine sight "web" history (round t w).2 w') :
    Course engine sight "web" (.round t :: history) w w' := by
  have hends := Prog.ends_exec (D := solo sight t) (g := w) (reply_possible t)
    (refreshReadiness engine goal).run
  change Ends (solo sight t) _ w (round t w).1 (round t w).2 at hends
  rw [hok] at hends
  exact .round rfl htime hends hrest

/-- The world after rounds at 100 and 120 seconds. -/
def later : World := (round (120 * second) (round (100 * second) start).2).2

/-- The world after a third round at 140 seconds. -/
def latest : World := (round (140 * second) later).2

lemma course_later : Course engine sight "web"
    [.round (100 * second), .round (120 * second)] start later :=
  course_round (by decide +kernel) (by decide +kernel)
    (course_round (by decide +kernel) (by decide +kernel) (.nil _))

lemma course_latest : Course engine sight "web"
    [.round (100 * second), .round (120 * second), .round (140 * second)] start latest :=
  course_round (by decide +kernel) (by decide +kernel) (course_round (by decide +kernel)
    (by decide +kernel) (course_round (by decide +kernel) (by decide +kernel) (.nil _)))

end Held

open Held

/-- Two rounds in the time of one measurement: twenty seconds count. -/
theorem ready_run_twenty : ∃ a, later.allocations["web-1"]? = some a ∧
    a.readyFor (120 * second) = 20 * second := by
  have hget : start.allocations[sight.id]? = some fresh := by decide +kernel
  have htimes : Increasing (100 * second) ([120 * second].map .round) := ⟨by decide, trivial⟩
  obtain ⟨a, hget', hlength, -⟩ := ready_run_iff (by decide) (by decide) hget rfl (by decide) htimes
    course_later
  refine ⟨a, hget', hlength.mpr ?_⟩
  rw [Kept, if_neg (by decide)]
  exact (unbroken_rounds_iff htimes (.inr (by decide))).mpr (.inr (by decide))

/-- Three rounds twenty seconds apart, with measurements that are good for thirty: the third round
starts the run anew. The new version has been observed ready for forty seconds, and a canary that
holds for thirty is still at its first step. -/
theorem ready_run_restarted :
    Course engine sight "web" [.round (100 * second), .round (120 * second), .round (140 * second)]
        start latest ∧
      sight.ttl = 30 * second ∧
      latest.allocations["web-1"]?.map (fun a => a.readyFor (140 * second)) = some 0 ∧
      (evaluateCanary quietHost goal (stamped latest (140 * second))).heldFor = 0 ∧
      (evaluateCanary quietHost goal (stamped latest (140 * second))).step = 10 := by
  exact ⟨course_latest, rfl, by decide +kernel, by decide +kernel, by decide +kernel⟩

end Calls

end A4s
