/-
Reconciliations and operators on one server.

The calls of `A4s.Server.Calls` run side by side on one store. An append may be refused by the
database, and the anchor file may take a line badly.

* `Does`: what an operation does to the store; `system` are the calls on a server.
* `Careful`: no other call owes while evidence is written, and what a call that owes writes
  next succeeds.
* `Ledger`: the invariant; the log and the world differ by what one call owes.
* `live_world_recovers`: **in every careful run** the live world is the one that the log
  replays to whenever no call is in progress, and a server opened on the log starts with it.
-/
import A4s.Server.Debts

namespace A4s.Calls

open Go Journal

/-! ### What an operation does -/

/-- The store, and the call that holds the lock of the server. -/
structure Shared extends Store where
  holder : Option ℕ := none

/-- How the database and the anchor file take what is written. -/
structure Weather where
  database : Result Unit := .ok ()
  writing : Writing := .whole

/-- The anchor after a witness. -/
def witnessed (weather : Weather) (h : Head) (s : Shared) : Result Unit × Option Anchor :=
  match s.anchor with
  | none => (.ok (), none)
  | some a =>
    ((Journal.witness weather.writing h a).1, some (Journal.witness weather.writing h a).2)

/-- What an operation of a call does to the store, and what it answers. -/
inductive Does (eventHash : String → Journal.Event → String) :
    Shared → ℕ → (op : Op) → Weather → Op.Answer op → Shared → Prop
  | lock {s : Shared} {i : ℕ} {weather : Weather} (hfree : s.holder = none) :
      Does eventHash s i .lock weather () { s with holder := some i }
  | unlock {s : Shared} {i : ℕ} {weather : Weather} :
      Does eventHash s i .unlock weather () { s with holder := none }
  | world {s : Shared} {i : ℕ} {weather : Weather} : Does eventHash s i .world weather s.world s
  | projected {s : Shared} {i : ℕ} {weather : Weather} {e : Evidence} {next : World}
      (hok : A4s.project s.world e = .ok next) :
      Does eventHash s i (.project e) weather (.ok ()) { s with world := next }
  | unprojected {s : Shared} {i : ℕ} {weather : Weather} {e : Evidence} {fault : Fault}
      (herror : A4s.project s.world e = .error fault) :
      Does eventHash s i (.project e) weather (.error fault) s
  | nextSequence {s : Shared} {i : ℕ} {weather : Weather} :
      Does eventHash s i .nextSequence weather (Journal.nextSequence s.records) s
  | append {s : Shared} {i : ℕ} {weather : Weather} {event : Journal.Event} :
      Does eventHash s i (.append event) weather
        (Journal.append eventHash weather.database event s.records).1
        { s with records := (Journal.append eventHash weather.database event s.records).2 }
  | head {s : Shared} {i : ℕ} {weather : Weather} :
      Does eventHash s i .head weather (Journal.head s.records) s
  | witness {s : Shared} {i : ℕ} {weather : Weather} {h : Head} :
      Does eventHash s i (.witness h) weather (witnessed weather h s).1
        { s with anchor := (witnessed weather h s).2 }
  | ask {s : Shared} {i : ℕ} {weather : Weather} {q : Query} (answer : q.Answer) :
      Does eventHash s i (.ask q) weather answer s

/-! ### The calls on a server -/

/-- A call whose caller is answered. -/
def toProg {α : Type} (c : Call α) : Prog interface Unit := c.run >>= fun _ => pure ()

/-- The programs that run on a server. -/
inductive OnServer (site : Site) : Prog interface Unit → Prop
  | run (engine : Engine) (goal : Goal) (maxRounds : ℕ) :
      OnServer site (toProg (Calls.run engine goal maxRounds))
  | reconcile (engine : Engine) (goalID : String) :
      OnServer site (toProg (site.reconcile engine goalID))
  | approve (signed : SignedApproval) : OnServer site (toProg (site.approve signed))
  | revoke (signed : SignedApproval) : OnServer site (toProg (site.revoke signed))
  | cordon (nodeID reason operator : String) :
      OnServer site (toProg (site.cordon nodeID reason operator))
  | uncordon (nodeID operator : String) :
      OnServer site (toProg (site.uncordon nodeID operator))
  | observeNodes (connected : List String) :
      OnServer site (toProg (site.observeNodes connected))

def system (eventHash : String → Journal.Event → String) (site : Site) :
    System interface Shared Weather Notes :=
  { discipline := discipline, does := Does eventHash, starts := OnServer site, fresh := {} }

/-- The operation writes evidence, to the world or to the log. -/
def Op.Writes : Op → Prop
  | .project _ => True
  | .append event => event.evidence ≠ none
  | _ => False

/-- The condition on a step: evidence is written while no other call owes, and the append or
the witness of a call that owes is not turned away. -/
structure Careful (s : Shared) (notes : ℕ → Notes) (i : ℕ) (op : Op) (weather : Weather) :
    Prop where
  alone : op.Writes → ∀ j, j ≠ i → (notes j).debt = none
  appended : ∀ event, op = .append event → (notes i).debt ≠ none →
    event.sequence = nextSequence s.records ∧ weather.database = .ok ()
  witnessed : ∀ h a, op = .witness h → (notes i).debt ≠ none → s.anchor = some a →
    Witnessable a h ∧ weather.writing = .whole
  whole : weather.writing ≠ .torn

lemma meets_toProg {α : Type} {c : Call α} (h : Settles none c) :
    Meets discipline (toProg c) {} fun _ g => g.debt = none := by
  rw [toProg, meets_bind]
  exact (h {} rfl).mono fun _ _ hg => hg

/-- **Every call on a server pays.** -/
lemma onServer_settles {site : Site} {p : Prog interface Unit} (h : OnServer site p) :
    Meets discipline p {} fun _ g => g.debt = none := by
  cases h with
  | run engine goal maxRounds => exact meets_toProg (run_settles engine goal maxRounds)
  | reconcile engine goalID => exact meets_toProg (reconcile_settles engine goalID)
  | approve signed => exact meets_toProg (approve_settles signed)
  | revoke signed => exact meets_toProg (revoke_settles signed)
  | cordon nodeID reason operator =>
    exact meets_toProg (setCordon_settles nodeID reason operator true)
  | uncordon nodeID operator => exact meets_toProg (setCordon_settles nodeID "" operator false)
  | observeNodes connected => exact meets_toProg (observeNodes_settles connected)

/-! ### The ledger -/

/-- The log and the world differ by what is owed. -/
def Balanced (base : World) (s : Shared) : Option Debt → Prop
  | none => replay base s.records = .ok s.world
  | some (.record e) => ∃ w, replay base s.records = .ok w ∧ project w e = .ok s.world
  | some (.apply e) => ∃ next, replay base s.records = .ok next ∧ project s.world e = .ok next

/-- The head is that of a record, or of an empty log. -/
def Known (s : Shared) (h : Head) : Prop := h.hash = "" ∨ ∃ r ∈ s.records, h = r.head

/-- What holds between the operations of the calls. -/
structure Ledger (eventHash : String → Journal.Event → String) (base : World) (s : Shared)
    (notes : ℕ → Notes) : Prop where
  sound : Sound eventHash s.toStore
  based : s.base = base
  heads : ∀ i, ∀ h ∈ (notes i).heads, Known s h
  worlds : ∀ i, ∀ w ∈ (notes i).worlds, Evolved w s.world
  debtor : ∃ i, (∀ j, j ≠ i → (notes j).debt = none) ∧ Balanced base s (notes i).debt

section Ledger

variable {eventHash : String → Journal.Event → String} {base : World} {s s' : Shared}
  {notes : ℕ → Notes} {i : ℕ} {g : Notes}

/-- The call that steps is the only one that may owe. -/
lemma debtor_self (hothers : ∀ j, j ≠ i → (notes j).debt = none)
    (hbalanced : Balanced base s' g.debt) :
    ∃ k, (∀ j, j ≠ k → (Function.update notes i g j).debt = none) ∧
      Balanced base s' (Function.update notes i g k).debt := by
  refine ⟨i, fun j hj => ?_, ?_⟩
  · rw [Function.update_of_ne hj]
    exact hothers j hj
  · rwa [Function.update_self]

section Moves

variable (h : Ledger eventHash base s notes)

include h

/-- If the others owe nothing, the ledger is about this call. -/
lemma Ledger.balanced (hothers : ∀ j, j ≠ i → (notes j).debt = none) :
    Balanced base s (notes i).debt := by
  obtain ⟨k, hk, hbalanced⟩ := h.debtor
  by_cases hki : k = i
  · rwa [← hki]
  · rw [hothers k hki] at hbalanced
    rwa [hk i (Ne.symm hki)]

/-- If a call owes, the others owe nothing. -/
lemma Ledger.others (howes : (notes i).debt ≠ none) :
    ∀ j, j ≠ i → (notes j).debt = none := by
  obtain ⟨k, hk, -⟩ := h.debtor
  by_cases hik : i = k
  · rwa [hik]
  · exact absurd (hk i hik) howes

/-- What a step has to show. -/
lemma Ledger.step (hsound : Sound eventHash s'.toStore)
    (hbased : s'.base = s.base) (hgrows : s.records ⊆ s'.records)
    (hevolved : Evolved s.world s'.world) (hheads : ∀ x ∈ g.heads, Known s' x)
    (hworlds : ∀ w ∈ g.worlds, Evolved w s'.world)
    (hdebtor : ∃ k, (∀ j, j ≠ k → (Function.update notes i g j).debt = none) ∧
      Balanced base s' (Function.update notes i g k).debt) :
    Ledger eventHash base s' (Function.update notes i g) := by
  refine ⟨hsound, hbased.trans h.based, fun j x hx => ?_, fun j w hw => ?_, hdebtor⟩
  · by_cases hj : j = i
    · rw [hj, Function.update_self] at hx
      exact hheads x hx
    · rw [Function.update_of_ne hj] at hx
      refine (h.heads j x hx).imp_right ?_
      rintro ⟨r, hr, hhead⟩
      exact ⟨r, hgrows hr, hhead⟩
  · by_cases hj : j = i
    · rw [hj, Function.update_self] at hw
      exact hworlds w hw
    · rw [Function.update_of_ne hj] at hw
      exact (h.worlds j w hw).trans hevolved

/-- The debts are as they were, and so are the world and what the log replays to. -/
lemma Ledger.debtor_same (hdebt : g.debt = (notes i).debt)
    (hworld : s'.world = s.world) (hreplay : replay base s'.records = replay base s.records) :
    ∃ k, (∀ j, j ≠ k → (Function.update notes i g j).debt = none) ∧
      Balanced base s' (Function.update notes i g k).debt := by
  have hdebts : ∀ j, (Function.update notes i g j).debt = (notes j).debt := by
    intro j
    by_cases hj : j = i
    · rw [hj, Function.update_self, hdebt]
    · rw [Function.update_of_ne hj]
  obtain ⟨k, hk, hbalanced⟩ := h.debtor
  refine ⟨k, fun j hj => (hdebts j).trans (hk j hj), ?_⟩
  rw [hdebts k]
  cases hd : (notes k).debt with
  | none =>
    rw [hd] at hbalanced
    rw [Balanced, hworld, hreplay]
    exact hbalanced
  | some d =>
    rw [hd] at hbalanced
    cases d with
    | record e =>
      rw [Balanced, hworld, hreplay]
      exact hbalanced
    | apply e =>
      rw [Balanced, hworld, hreplay]
      exact hbalanced

/-- An operation that only looks. -/
lemma Ledger.looks (hstore : s'.toStore = s.toStore)
    (hdebt : g.debt = (notes i).debt) (hheads : ∀ x ∈ g.heads, Known s x)
    (hworlds : ∀ w ∈ g.worlds, Evolved w s.world) :
    Ledger eventHash base s' (Function.update notes i g) := by
  have hworld : s'.world = s.world := congrArg Store.world hstore
  have hrecords : s'.records = s.records := congrArg Store.records hstore
  refine h.step ?_ (congrArg Store.base hstore) ?_ ?_ ?_ ?_ ?_
  · rw [hstore]
    exact h.sound
  · rw [hrecords]
    exact List.Subset.refl _
  · rw [hworld]
    exact .refl
  · intro x hx
    rw [Known, hrecords]
    exact hheads x hx
  · rw [hworld]
    exact hworlds
  · exact h.debtor_same hdebt hworld (by rw [hrecords])

/-- An operation that only looks and leaves nothing to note. -/
lemma Ledger.passes (hstore : s'.toStore = s.toStore) :
    Ledger eventHash base s' (Function.update notes i (notes i)) :=
  h.looks hstore rfl (h.heads i) (h.worlds i)

/-- Evidence is applied: the call owes its record, or has paid. -/
lemma Ledger.projected {e : Evidence} {next : World}
    (hok : project s.world e = .ok next) (hmay : (notes i).may (.project e))
    (hothers : ∀ j, j ≠ i → (notes j).debt = none) :
    Ledger eventHash base { s with world := next }
      (Function.update notes i ((notes i).afterProject e)) := by
  have hseen : ((notes i).afterProject e).heads = (notes i).heads ∧
      ((notes i).afterProject e).worlds = (notes i).worlds := by
    rw [Notes.afterProject]
    cases (notes i).debt <;> exact ⟨rfl, rfl⟩
  refine h.step ⟨h.sound.chained, h.sound.witnessed⟩ rfl (List.Subset.refl _)
    (.single ⟨e, hok⟩) ?_ ?_ (debtor_self hothers ?_)
  · rw [hseen.1]
    exact h.heads i
  · rw [hseen.2]
    exact fun w hw => (h.worlds i w hw).tail ⟨e, hok⟩
  · have hbalanced := h.balanced hothers
    cases hdebt : (notes i).debt with
    | none =>
      rw [hdebt] at hbalanced
      simp only [Notes.afterProject, hdebt]
      exact ⟨s.world, hbalanced, hok⟩
    | some d =>
      rw [hdebt] at hbalanced
      simp only [Notes.may, hdebt] at hmay
      simp only [Notes.afterProject, hdebt]
      cases d with
      | record owed => exact hmay.elim
      | apply owed =>
        obtain ⟨w, hreplay, hproject⟩ := hbalanced
        rw [← hmay, hok] at hproject
        cases hproject
        exact hreplay

/-- What is owed to the world is taken by it. -/
lemma Ledger.not_refused {e : Evidence} {fault : Fault}
    (herror : project s.world e = .error fault) (hmay : (notes i).may (.project e)) :
    (notes i).debt = none := by
  by_contra howes
  have hbalanced := h.balanced (h.others howes)
  cases hdebt : (notes i).debt with
  | none => exact howes hdebt
  | some d =>
    rw [hdebt] at hbalanced
    simp only [Notes.may, hdebt] at hmay
    cases d with
    | record owed => exact hmay
    | apply owed =>
      obtain ⟨w, -, hproject⟩ := hbalanced
      rw [← hmay, herror] at hproject
      cases hproject

/-- An event is recorded. If it carries evidence, the call owes its application, or has
paid. -/
lemma Ledger.appended {event : Journal.Event} {r : Record}
    (hr : r.event = event) (hfits : Fits eventHash (nextSequence s.records) (head s.records).hash r)
    (hmay : (notes i).may (.append event))
    (hothers : event.evidence ≠ none → ∀ j, j ≠ i → (notes j).debt = none) :
    Ledger eventHash base { s with records := s.records ++ [r] }
      (Function.update notes i ((notes i).afterAppend event)) := by
  have hseen : ((notes i).afterAppend event).heads = (notes i).heads ∧
      ((notes i).afterAppend event).worlds = (notes i).worlds := by
    rw [Notes.afterAppend]
    cases (notes i).debt <;> cases event.evidence <;> exact ⟨rfl, rfl⟩
  have hgrows : s.records ⊆ s.records ++ [r] := List.subset_append_left _ _
  refine h.step (h.sound.append hfits) rfl hgrows .refl ?_ ?_ ?_
  · rw [hseen.1]
    rintro x hx
    refine (h.heads i x hx).imp_right ?_
    rintro ⟨r', hr', hhead⟩
    exact ⟨r', hgrows hr', hhead⟩
  · rw [hseen.2]
    exact h.worlds i
  cases hevidence : event.evidence with
  | none =>
    -- what a call owes is evidence, so this one owes nothing
    have hdebt : (notes i).debt = none := by
      cases hdebt : (notes i).debt with
      | none => rfl
      | some d => cases d <;> simp only [Notes.may, hdebt, hevidence] at hmay
    refine h.debtor_same ?_ rfl (replay_snoc_none (hr ▸ hevidence))
    simp only [Notes.afterAppend, hdebt, hevidence]
  | some e =>
    have hothers := hothers (by rw [hevidence]; exact Option.some_ne_none e)
    have hbalanced := h.balanced hothers
    refine debtor_self hothers ?_
    cases hdebt : (notes i).debt with
    | none =>
      rw [hdebt] at hbalanced
      simp only [Notes.may, hdebt, hevidence] at hmay
      obtain ⟨next, hnext⟩ := hmay s.world (h.worlds i)
      simp only [Notes.afterAppend, hdebt, hevidence]
      exact ⟨next, replay_snoc hbalanced (hr ▸ hevidence) hnext, hnext⟩
    | some d =>
      rw [hdebt] at hbalanced
      simp only [Notes.afterAppend, hdebt]
      cases d with
      | apply owed => simp only [Notes.may, hdebt, hevidence] at hmay
      | record owed =>
        simp only [Notes.may, hdebt, hevidence] at hmay
        obtain ⟨w, hreplay, hproject⟩ := hbalanced
        rw [← hmay] at hproject
        exact replay_snoc hreplay (hr ▸ hevidence) hproject

end Moves

variable {weather : Weather}

/-- A head is witnessed, or is not: the log and the world are as they were. -/
lemma Ledger.witnessed (h : Ledger eventHash base s notes) {x : Head} (hseen : x ∈ (notes i).heads)
    (hwhole : weather.writing ≠ .torn) :
    Ledger eventHash base { s with anchor := (Calls.witnessed weather x s).2 }
      (Function.update notes i (notes i)) := by
  have hsound : Sound eventHash { s.toStore with anchor := (Calls.witnessed weather x s).2 } := by
    unfold Calls.witnessed
    split
    · exact ⟨h.sound.chained, by simp⟩
    · rename_i a ha
      exact h.sound.witness (fun htorn => absurd htorn hwhole) (h.heads i x hseen) ha
  exact h.step hsound rfl (List.Subset.refl _) .refl (h.heads i) (h.worlds i)
    (h.debtor_same rfl rfl rfl)

/-- A head that can be witnessed is. -/
lemma witnessed_ok {x : Head} (hcan : ∀ a, s.anchor = some a → Witnessable a x)
    (hwhole : weather.writing = .whole) : (Calls.witnessed weather x s).1 = .ok () := by
  unfold Calls.witnessed
  split
  · rfl
  · rename_i a ha
    rw [hwhole, witness_of_witnessable .whole (hcan a ha), writeLine]
    split_ifs
    · rfl
    · rfl

lemma head_known (s : Shared) : Known s (Journal.head s.records) := by
  cases hlast : s.records.getLast? with
  | none => exact .inl (by rw [Journal.head, hlast]; rfl)
  | some r => exact .inr ⟨r, List.mem_of_getLast? hlast, by rw [Journal.head, hlast]; rfl⟩

/-- **One operation of a careful step keeps the ledger**, and a call that owes is not turned
away. -/
lemma Ledger.act {op : Op} {answer : Op.Answer op} (h : Ledger eventHash base s notes)
    (hmay : (notes i).may op) (hcareful : Careful s notes i op weather)
    (hdoes : Does eventHash s i op weather answer s') :
    (notes i).possible op answer ∧
      Ledger eventHash base s' (Function.update notes i ((notes i).note op answer)) := by
  cases hdoes with
  | lock hfree => exact ⟨trivial, h.passes rfl⟩
  | unlock => exact ⟨trivial, h.passes rfl⟩
  | nextSequence => exact ⟨trivial, h.passes rfl⟩
  | ask answer => exact ⟨trivial, h.passes rfl⟩
  | world =>
    refine ⟨trivial, h.looks rfl rfl (h.heads i) fun w hw => ?_⟩
    rcases List.mem_cons.mp hw with rfl | hw
    · exact .refl
    · exact h.worlds i w hw
  | head =>
    refine ⟨trivial, h.looks rfl rfl (fun x hx => ?_) (h.worlds i)⟩
    rcases List.mem_cons.mp hx with rfl | hx
    · exact head_known s
    · exact h.heads i x hx
  | projected hok => exact ⟨trivial, h.projected hok hmay (hcareful.alone trivial)⟩
  | unprojected herror => exact ⟨h.not_refused herror hmay, h.passes rfl⟩
  | @append _ event =>
    rcases append_cases eventHash s.records weather.database event with
      ⟨r, hr, hfits, -, -, happend⟩ | ⟨fault, happend, hfails⟩
    · rw [happend]
      exact ⟨trivial, h.appended hr hfits hmay hcareful.alone⟩
    · rw [happend]
      refine ⟨?_, h.passes rfl⟩
      by_contra howes
      exact hfails (hcareful.appended event rfl howes)
  | @witness _ x =>
    have hkept := h.witnessed hmay hcareful.whole
    have hok : (notes i).debt ≠ none → (Calls.witnessed weather x s).1 = .ok () := by
      intro howes
      cases hanchor : s.anchor with
      | none => rw [Calls.witnessed, hanchor]
      | some a =>
        obtain ⟨-, hwhole⟩ := hcareful.witnessed x a rfl howes hanchor
        exact witnessed_ok (fun a ha => (hcareful.witnessed x a rfl howes ha).1) hwhole
    generalize (Calls.witnessed weather x s).1 = result at hok
    cases result with
    | ok u => exact ⟨trivial, hkept⟩
    | error fault =>
      refine ⟨?_, hkept⟩
      by_contra howes
      cases hok howes

/-- A call that has ended owes nothing. -/
lemma Ledger.finish (h : Ledger eventHash base s notes) (hpaid : (notes i).debt = none) :
    Ledger eventHash base s (Function.update notes i {}) :=
  h.looks rfl hpaid.symm (by simp) (by simp)

end Ledger

/-! ### Careful runs -/

section Runs

variable {eventHash : String → Journal.Event → String} {site : Site} {base : World}
  {records : List Record} {file : Option (List (Option Head))} {writing : Writing} {s : Store}
  {c : Config interface Shared Notes}

/-- **The ledger holds in every careful run** of the calls on a server that has been opened. -/
lemma ledger_of_reaches (hopen : open_ eventHash base records file writing = .ok s)
    (hreach : Reaches (system eventHash site) Careful
      ((system eventHash site).initial { toStore := s }) c) :
    Ledger eventHash base c.shared c.notes ∧
      c.Disciplined (system eventHash site) fun g => g.debt = none := by
  obtain ⟨hsound, hbased, hreplay⟩ := open_sound hopen
  have hinit : Ledger eventHash base { toStore := s } fun _ => {} :=
    ⟨hsound, hbased, by simp, by simp, 0, fun _ _ => rfl, hreplay⟩
  exact Reaches.invariant (fun p hp => onServer_settles hp)
    (fun h hmay hcareful hdoes => h.act hmay hcareful hdoes) (fun h hpaid => h.finish hpaid)
    hreach hinit

/-- **The live world can be recovered**: in every careful run of reconciliations and operators
on a server, whenever no call is in progress, the log replays to the live world, and a server
opened on the log and the anchor file starts with it. -/
theorem live_world_recovers (hopen : open_ eventHash base records file writing = .ok s)
    (hreach : Reaches (system eventHash site) Careful
      ((system eventHash site).initial { toStore := s }) c)
    (hquiet : c.Quiet) :
    replay base c.shared.records = .ok c.shared.world ∧
      ∃ reopened, open_ eventHash base c.shared.records (c.shared.anchor.map Anchor.file) .whole =
        .ok reopened ∧ reopened.world = c.shared.world := by
  obtain ⟨hledger, hcalls⟩ := ledger_of_reaches hopen hreach
  have hpaid : ∀ i, (c.notes i).debt = none := by
    intro i
    have hi := hcalls i
    rw [hquiet i] at hi
    rw [hi]
    rfl
  have hbalanced := hledger.balanced (i := 0) fun j _ => hpaid j
  rw [hpaid 0] at hbalanced
  refine ⟨hbalanced, ?_⟩
  have hreplay : replay c.shared.base c.shared.records = .ok c.shared.world := by
    rw [hledger.based]
    exact hbalanced
  obtain ⟨reopened, hreopen, hworld, -⟩ := open_succeeds hledger.sound hreplay
  rw [hledger.based] at hreopen
  exact ⟨reopened, hreopen, hworld⟩

end Runs

namespace Cordoned

/-- A server with an anchor, and one node that it has observed. -/
def site : Site :=
  { host := quietHost, decode := fun _ => fail "no document", operatorKeys := ∅, goals := ∅
    anchored := true, maxRounds := 1 }

def base : World := { nodes := Table.ofEntries [("n1", { id := "n1", healthy := true })] }

def digest (_ : String) (_ : Journal.Event) : String := "digest"

def opened : Store := { base := base, world := base, anchor := some {} }

lemma opened_ok : open_ digest base [] (some []) .whole = .ok opened := rfl

/-- What the log holds of the cordon. -/
def entry : Record :=
  { sequence := 1, previousHash := "", hash := "digest"
    event :=
      { sequence := 1, at_ := 5, type_ := .observationRecorded, actor := "operator:ops"
        goalID := "", target := "n1", kind := "node.cordoned", message := "node cordoned"
        evidence := some (Site.cordoning "n1" "" "ops" true 5) } }

def cordoned : World :=
  { nodes := base.nodes.insert "n1" { id := "n1", healthy := true, cordoned := true }
    revision := 1, observedAt := 5 }

lemma replay_entry : replay base [entry] = .ok cordoned := rfl

/-- The line of the anchor cannot be written. -/
lemma unwitnessed : Alone (system digest site) (fun _ _ _ _ _ => True) 0 { toStore := opened } {}
    (toProg (site.cordon "n1" "" "ops")) { toStore := { opened with records := [entry] } } := by
  refine .call {} trivial (.lock rfl) ?_
  refine .call {} trivial .world ?_
  refine .call {} trivial (.ask (5 : Time)) ?_
  refine .call {} trivial .nextSequence ?_
  refine .call {} trivial .append ?_
  refine .call {} trivial .head ?_
  refine .call { writing := .nothing } trivial .witness ?_
  refine .call {} trivial .unlock ?_
  exact .ret

/-- The store after the cordon. -/
def done : Store :=
  { base := base, world := cordoned, records := [entry]
    anchor := some { file := [some ⟨1, "digest"⟩], last := ⟨1, "digest"⟩ } }

lemma careful_alone {s : Shared} {g : Notes} {op : Op}
    (happend : ∀ event, op = .append event → g.debt = none)
    (hwitness : ∀ h a, op = .witness h → s.anchor = some a → Witnessable a h) :
    Careful s (Function.update (fun _ => {}) 0 g) 0 op {} := by
  refine ⟨fun _ j hj => ?_, fun event hop howes => ?_, fun h a hop _ ha => ?_, by decide⟩
  · rw [Function.update_of_ne hj]
  · rw [Function.update_self] at howes
    exact absurd (happend event hop) howes
  · exact ⟨hwitness h a hop ha, rfl⟩

/-- The cordon is recorded, witnessed and applied. -/
lemma witnessed_alone : Alone (system digest site) Careful 0 { toStore := opened } {}
    (toProg (site.cordon "n1" "" "ops")) { toStore := done } := by
  refine .call {} (careful_alone (by simp) (by simp)) (.lock rfl) ?_
  refine .call {} (careful_alone (by simp) (by simp)) .world ?_
  refine .call {} (careful_alone (by simp) (by simp)) (.ask (5 : Time)) ?_
  refine .call {} (careful_alone (by simp) (by simp)) .nextSequence ?_
  refine .call {} (careful_alone (fun _ _ => rfl) (by simp)) .append ?_
  refine .call {} (careful_alone (by simp) (by simp)) .head ?_
  refine .call {} (careful_alone (by simp) ?_) .witness ?_
  · rintro h a ⟨⟩ ⟨⟩
    exact ⟨by decide, by decide, by decide⟩
  refine .call {} (careful_alone (by simp) (by simp)) (.projected rfl) ?_
  refine .call {} (careful_alone (by simp) (by simp)) .unlock ?_
  exact .ret

end Cordoned

open Cordoned

/-- **A witness that fails leaves the log ahead of the world**: an operator cordons a node, the
event is recorded and the anchor cannot be written. The live world goes on without the cordon,
and a server that is opened on the log has it. -/
theorem live_world_behind :
    open_ digest base [] (some []) .whole = .ok opened ∧
      ∃ c, Reaches (system digest site) (fun _ _ _ _ _ => True)
          ((system digest site).initial { toStore := opened }) c ∧
        c.Quiet ∧ replay base c.shared.records ≠ .ok c.shared.world ∧
        ∃ reopened, open_ digest base c.shared.records
          (c.shared.anchor.map Anchor.file) .whole = .ok reopened ∧
            reopened.world ≠ c.shared.world := by
  have hdiffers : cordoned ≠ base := by
    intro hsame
    have hrevision := congrArg World.revision hsame
    exact absurd hrevision (by decide)
  refine ⟨opened_ok, _, unwitnessed.reaches (OnServer.cordon "n1" "" "ops"),
    fun _ => rfl, ?_, done, rfl, hdiffers⟩
  intro hreplay
  have hsame := replay_entry.symm.trans hreplay
  exact hdiffers (Except.ok.inj hsame)

/-- The same cordon, with an anchor that is written. -/
theorem live_world_recovers_cordon :
    Reaches (system digest site) Careful ((system digest site).initial { toStore := opened })
        ((system digest site).initial { toStore := done }) ∧
      replay base done.records = .ok done.world ∧
      ∃ reopened, open_ digest base done.records
        (done.anchor.map Anchor.file) .whole = .ok reopened ∧
          reopened.world = done.world := by
  have hreach := witnessed_alone.reaches (OnServer.cordon "n1" "" "ops")
  exact ⟨hreach, live_world_recovers opened_ok hreach fun _ => rfl⟩

end A4s.Calls
