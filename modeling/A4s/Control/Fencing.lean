/-
Volume fencing.

A volume counts its generations, and an allocation remembers the generation it was
attached at. Whoever holds the current generation is the writer; a detachment or an
adoption moves the generation on, so that a writer that missed it is fenced.

* `Advances`: the evidence that moves a volume's generation on; `Effect.generation` says
  that nothing else touches generation or owner.
* `Effect.attachment`: an allocation remembers a generation from before or from an
  attachment that names it.
* `Fenced`: attached generations never exceed the volume's, and only the owner holds the
  current one.
* `fencing_run`: **volumes stay fenced in every run**, generations only grow, there is at
  most one writer, and a writer that lost the volume needs a new attachment.
-/
import A4s.Go.Run
import A4s.Control.Effect

namespace A4s

open Go

/-! ### What moves a generation -/

/-- The evidence moves the generation of the volume it targets on: an adoption, a release
that is not a fenced writer's, or an attachment to a new owner. -/
def Advances (v : Volume) (e : Evidence) : Prop :=
  match e.kind with
  | .volumeAdopted => True
  | .volumeDetached =>
    v.owner = "" ∨ e.observe "allocation" = "" ∨ v.owner = e.observe "allocation"
  | .volumeAttached => v.owner ≠ e.observe "allocation"
  | _ => False

section Effects

variable {w w' : World} {e : Evidence} {name : String} {v : Volume}

lemma Advances.kind (h : Advances v e) :
    e.kind = .volumeAdopted ∨ e.kind = .volumeDetached ∨ e.kind = .volumeAttached := by
  unfold Advances at h
  split at h
  · exact .inl ‹_›
  · exact .inr (.inl ‹_›)
  · exact .inr (.inr ‹_›)
  · exact h.elim

/-- Evidence of a kind that writes no volume advances none. -/
lemma not_advances {p : EvidenceKind → Bool} (hk : p e.kind = true)
    (hp : p .volumeAdopted = false ∧ p .volumeDetached = false ∧ p .volumeAttached = false) :
    ¬Advances v e := by
  intro h
  rcases h.kind with hkind | hkind | hkind <;> rw [hkind] at hk
  · exact absurd hk (by rw [hp.1]; decide)
  · exact absurd hk (by rw [hp.2.1]; decide)
  · exact absurd hk (by rw [hp.2.2]; decide)

/-- **Generations.** A volume stays, and its generation and owner with it, unless the
evidence advances it. -/
lemma Effect.generation (h : Effect w e w') (hv : w.volumes[name]? = some v) :
    ∃ v', w'.volumes[name]? = some v' ∧
      ((v'.generation = v.generation + 1 ∧ name = e.target ∧ Advances v e) ∨
        (v'.generation = v.generation ∧ v'.owner = v.owner ∧
          (name = e.target → ¬Advances v e))) := by
  -- what was not written is as it was
  have hkept : w'.volumes[name]? = w.volumes[name]? → (name = e.target → ¬Advances v e) →
      ∃ v', w'.volumes[name]? = some v' ∧
        ((v'.generation = v.generation + 1 ∧ name = e.target ∧ Advances v e) ∨
          (v'.generation = v.generation ∧ v'.owner = v.owner ∧
            (name = e.target → ¬Advances v e))) :=
    fun hsame hnot => ⟨v, hsame.trans hv, .inr ⟨rfl, rfl, hnot⟩⟩
  cases h with
  | unchanged hidle ha hvol =>
    refine hkept (by rw [hvol]) fun htarget hadv => ?_
    subst htarget
    rcases hadv.kind with hk | hk | hk <;> simp only [Idle, hk] at hidle
    obtain ⟨howner, hnamed, hother⟩ := hidle v hv
    simp only [Advances, hk] at hadv
    tauto
  | allocation a a' hk hget hup ha hvol =>
    exact hkept (by rw [hvol]) fun _ => not_advances hk ⟨rfl, rfl, rfl⟩
  | created node resources hk hnew hnode hres ha hvol =>
    exact hkept (by rw [hvol]) fun _ hadv => by simp [Advances, hk] at hadv
  | deleted a hk hget ha hvol =>
    exact hkept (by rw [hvol]) fun _ hadv => by simp [Advances, hk] at hadv
  | volume v₀ v' hk hget hname howner ha hvol hn hp hup =>
    by_cases htarget : name = e.target
    · subst htarget
      cases hget.symm.trans hv
      refine ⟨v', by rw [hvol, get_insert_self], ?_⟩
      by_cases hadopt : e.kind = .volumeAdopted
      · exact .inl ⟨by rw [hup.generation, if_pos hadopt], rfl, by simp [Advances, hadopt]⟩
      · refine .inr ⟨by rw [hup.generation, if_neg hadopt], howner, fun _ hadv => ?_⟩
        rcases hadv.kind with hkind | hkind | hkind
        · exact hadopt hkind
        · rw [hkind] at hk
          cases hk
        · rw [hkind] at hk
          cases hk
    · exact hkept (by rw [hvol, get_insert_of_ne htarget]) fun h => absurd h htarget
  | volumeCreated v₀ hk hnew hname hnode howner ha hvol =>
    have hother : name ≠ e.target := by
      rintro rfl
      rw [hnew] at hv
      cases hv
    exact hkept (by rw [hvol, get_insert_of_ne hother]) fun h => absurd h hother
  | attached v₀ v' a hk hget hown howner ha hvol hn hp hfree hne hheld =>
    by_cases htarget : name = e.target
    · subst htarget
      cases hget.symm.trans hv
      refine ⟨v', by rw [hvol, get_insert_self], ?_⟩
      by_cases hnew : v.owner ≠ e.observe "allocation"
      · rw [if_pos hnew] at hheld
        exact .inl ⟨by rw [hheld], rfl, by simpa [Advances, hk] using hnew⟩
      · rw [if_neg hnew] at hheld
        rw [hheld]
        exact .inr ⟨rfl, rfl, fun _ hadv => hnew (by simpa [Advances, hk] using hadv)⟩
    · exact hkept (by rw [hvol, get_insert_of_ne htarget]) fun h => absurd h htarget
  | detached v₀ v' hk hget hmay hgen howner ha hvol =>
    by_cases htarget : name = e.target
    · subst htarget
      cases hget.symm.trans hv
      exact ⟨v', by rw [hvol, get_insert_self],
        .inl ⟨hgen, rfl, by simpa [Advances, hk] using hmay⟩⟩
    · exact hkept (by rw [hvol, get_insert_of_ne htarget]) fun h => absurd h htarget
  | node id n n' hk hget hid ha hvol =>
    refine hkept (by rw [hvol]) fun _ => ?_
    rcases hk with ⟨hk, -⟩ | ⟨hk, -⟩
    · exact not_advances hk ⟨rfl, rfl, rfl⟩
    · exact not_advances hk ⟨rfl, rfl, rfl⟩
  | decision hk ha hvol =>
    exact hkept (by rw [hvol]) fun _ => not_advances hk ⟨rfl, rfl, rfl⟩

/-- **Attachments.** What an allocation remembers of a volume it remembered before, or
learns from an attachment that names it. -/
lemma Effect.attachment (h : Effect w e w') {id : String} {a' : Allocation} {g : UInt64}
    (ha' : w'.allocations[id]? = some a') (hg : a'.volumes[name]? = some g) :
    (e.kind = .volumeAttached ∧ e.target = name ∧ e.observe "allocation" = id ∧
        ∃ v', w'.volumes[name]? = some v' ∧ g = v'.generation ∧ v'.owner = id) ∨
      ∃ a, w.allocations[id]? = some a ∧ a.volumes[name]? = some g := by
  cases h with
  | unchanged | volume | volumeCreated | node | decision =>
    rw [‹w'.allocations = w.allocations›] at ha'
    exact .inr ⟨a', ha', hg⟩
  | allocation a a₁ hk hget hup ha =>
    rw [ha, get_insert] at ha'
    split_ifs at ha' with hid
    · cases ha'
      rw [hup.volumes] at hg
      exact .inr ⟨a, hid ▸ hget, hg⟩
    · exact .inr ⟨a', ha', hg⟩
  | created node resources hk hnew hnode hres ha =>
    rw [ha, get_insert] at ha'
    split_ifs at ha' with hid
    · cases ha'
      rw [get_empty] at hg
      cases hg
    · exact .inr ⟨a', ha', hg⟩
  | deleted a hk hget ha =>
    rw [ha, get_erase] at ha'
    split_ifs at ha'
    exact .inr ⟨a', ha', hg⟩
  | attached v v' a hk hget hown howner ha hvol =>
    rw [ha, get_insert] at ha'
    split_ifs at ha' with hid
    · cases ha'
      rw [get_insert] at hg
      split_ifs at hg with hname
      · cases hg
        subst hname
        exact .inl ⟨hk, rfl, hid.symm, v', by rw [hvol, get_insert_self], rfl,
          howner.trans hid.symm⟩
      · exact .inr ⟨a, hid ▸ hown, hg⟩
    · exact .inr ⟨a', ha', hg⟩
  | detached v v' hk hget hmay hgen howner ha =>
    rcases ha with ⟨-, ha⟩ | ⟨a, hown, ha⟩
    · rw [ha] at ha'
      exact .inr ⟨a', ha', hg⟩
    · rw [ha, get_insert] at ha'
      split_ifs at ha' with hid
      · cases ha'
        rw [get_erase] at hg
        split_ifs at hg
        exact .inr ⟨a, hid ▸ hown, hg⟩
      · exact .inr ⟨a', ha', hg⟩

end Effects

/-! ### Fencing -/

/-- Every attached generation is of a volume there is and at most the volume's, and only
the owner's is the volume's. -/
def Fenced (w : World) : Prop :=
  ∀ (id : String) a, w.allocations[id]? = some a → ∀ (name : String) g, a.volumes[name]? = some g →
    ∃ v, w.volumes[name]? = some v ∧ g ≤ v.generation ∧ (g = v.generation → v.owner = id)

/-- The allocation holds the current generation of the volume. -/
def HoldsCurrent (w : World) (id name : String) : Prop :=
  ∃ a v, w.allocations[id]? = some a ∧ w.volumes[name]? = some v ∧
    a.volumes[name]? = some v.generation

/-- The next generation, where one is due, is below `2^64`. -/
def Roomy (w : World) (e : Evidence) : Prop :=
  ∀ v, w.volumes[e.target]? = some v → Advances v e → v.generation + 1 ≠ 0

/-- The evidence takes the volume away from the allocation: it is adopted elsewhere, or
detached, and not by another allocation while this one owns it. -/
def Ousts (w : World) (e : Evidence) (id name : String) : Prop :=
  e.target = name ∧ (e.kind = .volumeAdopted ∨ e.kind = .volumeDetached ∧
    ∀ v, w.volumes[name]? = some v → v.owner = id →
      e.observe "allocation" = "" ∨ e.observe "allocation" = id)

/-- The evidence attaches the volume to the allocation. -/
def Attaches (e : Evidence) (id name : String) : Prop :=
  e.kind = .volumeAttached ∧ e.target = name ∧ e.observe "allocation" = id

lemma lt_succ_of_roomy {g : UInt64} (h : g + 1 ≠ 0) : g < g + 1 := by
  have hne : (g + 1).toNat ≠ 0 := fun hzero => h (UInt64.toNat_inj.mp (by simpa using hzero))
  have hlt := g.toNat_lt
  rw [UInt64.toNat_add] at hne
  rw [UInt64.lt_iff_toNat_lt, UInt64.toNat_add]
  have hone : (1 : UInt64).toNat = 1 := rfl
  omega

section Steps

variable {w w' : World} {e : Evidence} {id name : String}

/-- No generation goes back. -/
lemma generation_mono (hroomy : Roomy w e) (h : project w e = .ok w') {v : Volume}
    (hv : w.volumes[name]? = some v) :
    ∃ v', w'.volumes[name]? = some v' ∧ v.generation ≤ v'.generation := by
  obtain ⟨v', hv', ⟨hgen, rfl, hadv⟩ | ⟨hgen, -⟩⟩ := (project_effect h).generation hv
  · refine ⟨v', hv', ?_⟩
    rw [hgen]
    exact UInt64.le_of_lt (lt_succ_of_roomy (hroomy v hv hadv))
  · exact ⟨v', hv', hgen ▸ UInt64.le_refl _⟩

/-- What an allocation remembers across a step is of a volume that did not advance, or
is out of date. -/
lemma Fenced.remembered (h : Fenced w) (hroomy : Roomy w e) (hproject : project w e = .ok w')
    {a : Allocation} {g : UInt64} (ha : w.allocations[id]? = some a)
    (hg : a.volumes[name]? = some g) :
    ∃ v v', w.volumes[name]? = some v ∧ w'.volumes[name]? = some v' ∧ g ≤ v'.generation ∧
      (g = v'.generation → g = v.generation ∧ v.owner = id ∧ v'.owner = id ∧
        (name = e.target → ¬Advances v e)) := by
  obtain ⟨v, hv, hle, howner⟩ := h id a ha name g hg
  obtain ⟨v', hv', ⟨hgen, rfl, hadv⟩ | ⟨hgen, hkept, hnot⟩⟩ :=
    (project_effect hproject).generation hv
  · have hlt := lt_succ_of_roomy (hroomy v hv hadv)
    rw [← hgen] at hlt
    have hstale : g < v'.generation := UInt64.lt_of_le_of_lt hle hlt
    exact ⟨v, v', hv, hv', UInt64.le_of_lt hstale,
      fun heq => absurd heq (UInt64.ne_of_lt hstale)⟩
  · refine ⟨v, v', hv, hv', hgen ▸ hle, fun heq => ?_⟩
    have hsame : g = v.generation := heq.trans hgen
    exact ⟨hsame, howner hsame, hkept.trans (howner hsame), hnot⟩

/-- **A step keeps volumes fenced.** -/
lemma Fenced.step (h : Fenced w) (hroomy : Roomy w e) (hproject : project w e = .ok w') :
    Fenced w' := by
  intro id a' ha' name g hg
  rcases (project_effect hproject).attachment ha' hg with
    ⟨-, -, -, v', hv', hgen, howner⟩ | ⟨a, ha, hold⟩
  · exact ⟨v', hv', hgen ▸ UInt64.le_refl _, fun _ => howner⟩
  · obtain ⟨v, v', -, hv', hle, hcurrent⟩ := h.remembered hroomy hproject ha hold
    exact ⟨v', hv', hle, fun heq => (hcurrent heq).2.2.1⟩

/-- Only the owner writes. -/
lemma Fenced.writer (h : Fenced w) {id' : String} (hid : HoldsCurrent w id name)
    (hid' : HoldsCurrent w id' name) : id = id' := by
  obtain ⟨a, v, ha, hv, hg⟩ := hid
  obtain ⟨a', v', ha', hv', hg'⟩ := hid'
  cases hv.symm.trans hv'
  obtain ⟨u, hu, -, howner⟩ := h id a ha name _ hg
  obtain ⟨u', hu', -, howner'⟩ := h id' a' ha' name _ hg'
  cases hv.symm.trans hu
  cases hv.symm.trans hu'
  exact (howner rfl).symm.trans (howner' rfl)

/-- The current generation comes from an attachment, or was held before and not advanced. -/
lemma Fenced.holds (h : Fenced w) (hroomy : Roomy w e) (hproject : project w e = .ok w')
    (hholds : HoldsCurrent w' id name) :
    Attaches e id name ∨ HoldsCurrent w id name ∧
      ∃ v, w.volumes[name]? = some v ∧ v.owner = id ∧ (name = e.target → ¬Advances v e) := by
  obtain ⟨a', v', ha', hv', hg⟩ := hholds
  rcases (project_effect hproject).attachment ha' hg with ⟨hk, htarget, hnamed, -⟩ | ⟨a, ha, hold⟩
  · exact .inl ⟨hk, htarget, hnamed⟩
  · obtain ⟨v, u, hv, hu, -, hcurrent⟩ := h.remembered hroomy hproject ha hold
    cases hv'.symm.trans hu
    obtain ⟨hgen, howner, -, hnot⟩ := hcurrent rfl
    exact .inr ⟨⟨a, v, ha, hv, hgen ▸ hold⟩, v, hv, howner, hnot⟩

/-- Who is ousted does not hold the current generation. -/
lemma Fenced.ousted (h : Fenced w) (hroomy : Roomy w e) (hproject : project w e = .ok w')
    (housts : Ousts w e id name) : ¬HoldsCurrent w' id name := by
  intro hholds
  obtain ⟨rfl, hk | ⟨hk, hmay⟩⟩ := housts
  · rcases h.holds hroomy hproject hholds with ⟨hattach, -⟩ | ⟨-, v, hv, howner, hnot⟩
    · rw [hk] at hattach
      cases hattach
    · exact hnot rfl (by simp [Advances, hk])
  · rcases h.holds hroomy hproject hholds with ⟨hattach, -⟩ | ⟨-, v, hv, howner, hnot⟩
    · rw [hk] at hattach
      cases hattach
    · refine hnot rfl ?_
      simp only [Advances, hk]
      rcases hmay v hv howner with hnone | hown
      · exact .inr (.inl hnone)
      · exact .inr (.inr (howner.trans hown.symm))

end Steps

/-! ### Runs -/

section Runs

variable {w w' : World} {es : List Evidence} {id name : String}

/-- A run keeps volumes fenced. -/
lemma Fenced.run (h : Fenced w) (hrun : Run project w es w')
    (hroomy : Run.Throughout project Roomy w es) : Fenced w' :=
  hrun.invariant_throughout (I := Fenced) (fun h hroomy hproject => h.step hroomy hproject)
    hroomy h

/-- No generation goes back in a run. -/
lemma generation_run (hrun : Run project w es w') (hroomy : Run.Throughout project Roomy w es)
    {v : Volume} (hv : w.volumes[name]? = some v) :
    ∃ v', w'.volumes[name]? = some v' ∧ v.generation ≤ v'.generation := by
  induction hrun generalizing v with
  | nil w => exact ⟨v, hv, UInt64.le_refl _⟩
  | cons hproject _ ih =>
    obtain ⟨v₁, hv₁, hle⟩ := generation_mono hroomy.head hproject hv
    obtain ⟨v', hv', hle'⟩ := ih (hroomy.tail hproject) hv₁
    exact ⟨v', hv', UInt64.le_trans hle hle'⟩

/-- An allocation that does not hold the current generation comes to hold it by an
attachment that names it. -/
lemma Fenced.regains (h : Fenced w) (hrun : Run project w es w')
    (hroomy : Run.Throughout project Roomy w es) (hnot : ¬HoldsCurrent w id name)
    (hholds : HoldsCurrent w' id name) : ∃ e ∈ es, Attaches e id name := by
  induction hrun with
  | nil w => exact absurd hholds hnot
  | cons hproject hrest ih =>
    rename_i w₀ w₁ _ e rest
    by_cases hnow : HoldsCurrent w₁ id name
    · rcases h.holds hroomy.head hproject hnow with hattaches | ⟨hbefore, -⟩
      · exact ⟨e, List.mem_cons_self, hattaches⟩
      · exact absurd hbefore hnot
    · obtain ⟨e', hmem, hattaches⟩ :=
        ih (h.step hroomy.head hproject) (hroomy.tail hproject) hnow hholds
      exact ⟨e', List.mem_cons_of_mem e hmem, hattaches⟩

end Runs

/-- **Volume fencing.** From a world where volumes are fenced, every run that accepts a
sequence of evidence, with generations below `2^64`, ends in a world where they are
fenced; no generation has gone back; at most one allocation holds the current generation
of a volume; and an allocation that was detached from the volume, or superseded by an
adoption, at some point of the run holds the current generation again only after a new
attachment that names it. -/
theorem fencing_run {w w' : World} {es : List Evidence} (hfenced : Fenced w)
    (hrun : Run project w es w') (hroomy : Run.Throughout project Roomy w es) :
    Fenced w' ∧
      (∀ (name : String) v, w.volumes[name]? = some v →
        ∃ v', w'.volumes[name]? = some v' ∧ v.generation ≤ v'.generation) ∧
      (∀ id id' name, HoldsCurrent w' id name → HoldsCurrent w' id' name → id = id') ∧
      ∀ before e after t id name, es = before ++ e :: after → Run project w before t →
        Ousts t e id name → HoldsCurrent w' id name → ∃ e' ∈ after, Attaches e' id name := by
  have hend : Fenced w' := hfenced.run hrun hroomy
  refine ⟨hend, fun name v hv => generation_run hrun hroomy hv,
    fun id id' name hid hid' => hend.writer hid hid', ?_⟩
  intro before e after t id name hsplit hbefore housts hholds
  subst hsplit
  obtain ⟨t', hbefore', hrest⟩ := hrun.split
  cases hbefore.unique hbefore'
  have hroomy' := hroomy.drop hbefore
  cases hrest with
  | cons hproject hafter =>
    have ht : Fenced t := hfenced.run hbefore hroomy.take
    have hout := ht.ousted hroomy'.head hproject housts
    exact (ht.step hroomy'.head hproject).regains hafter (hroomy'.tail hproject) hout hholds

namespace Fencing

def world : World :=
  { nodes := Table.ofEntries [("n1", { id := "n1" })]
    volumes := Table.ofEntries [("data", { name := "data", node := "n1" })]
    allocations := Table.ofEntries
      [("db-0", { id := "db-0", workload := "db", node := "n1", phase := .created })] }

def attach : Evidence :=
  { kind := .volumeAttached, target := "data"
    observed := Table.ofEntries [("allocation", "db-0")] }

def detach : Evidence :=
  { kind := .volumeDetached, target := "data"
    observed := Table.ofEntries [("allocation", "db-0")] }

def attached : World := (project world attach).toOption.getD {}

def detached : World := (project attached detach).toOption.getD {}

lemma attached_eq : project world attach = .ok attached := by decide

lemma detached_eq : project attached detach = .ok detached := by decide

lemma fenced : Fenced world := by
  intro id a ha name g hg
  rw [world, get_ofEntries_cons] at ha
  split_ifs at ha
  · cases ha
    rw [get_empty] at hg
    cases hg
  · cases ha

lemma roomy : Run.Throughout project Roomy world [attach, detach] := by
  refine Run.throughout_cons attached_eq ?_ (Run.throughout_cons detached_eq ?_
    (Run.throughout_nil _ _))
  · intro v hv _
    have hget : world.volumes["data"]? = some { name := "data", node := "n1" } := by decide
    cases hget.symm.trans hv
    decide
  · intro v hv _
    have hget : attached.volumes["data"]? =
        some { name := "data", node := "n1", owner := "db-0", generation := 1 } := by
      decide
    cases hget.symm.trans hv
    decide

end Fencing

open Fencing

/-- A database takes its volume and gives it back. -/
theorem fencing_run_database :
    Fenced detached ∧
      (∀ (name : String) v, world.volumes[name]? = some v →
        ∃ v', detached.volumes[name]? = some v' ∧ v.generation ≤ v'.generation) ∧
      (∀ id id' name, HoldsCurrent detached id name →
        HoldsCurrent detached id' name → id = id') ∧
      ∀ before e after t id name, [attach, detach] = before ++ e :: after →
        Run project world before t → Ousts t e id name →
        HoldsCurrent detached id name → ∃ e' ∈ after, Attaches e' id name :=
  fencing_run fenced (.cons attached_eq (.cons detached_eq (.nil _))) roomy

end A4s
