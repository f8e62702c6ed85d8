/-
Runs of a function that may refuse its input.

`step : σ → ι → Result σ` takes a state and an input to the next state or an error.
`Run step s is t` is the run that accepts the inputs `is` one after the other.

* `Run.append`, `Run.split`, `Run.unique`: runs compose, come apart and are
  determined by their inputs.
* `Run.invariant`, `Run.invariant_throughout`: what every step keeps, or every step that
  meets a condition, a run keeps; `Run.invariant_history`: the same for a property that
  also speaks about the inputs so far.
* `Run.always_iff`: if a step keeps `P` exactly when it meets `Q`, then `P` holds
  throughout a run exactly when every step of it meets `Q`.
-/
import A4s.Go.Result

namespace Go

variable {σ ι : Type} {step : σ → ι → Result σ}

/-- The run that accepts the inputs in order. -/
inductive Run (step : σ → ι → Result σ) : σ → List ι → σ → Prop
  | nil (s : σ) : Run step s [] s
  | cons {s t u : σ} {i : ι} {rest : List ι} (hstep : step s i = .ok t)
      (hrest : Run step t rest u) : Run step s (i :: rest) u

namespace Run

variable {s t u : σ} {i : ι} {before after : List ι}

lemma append (h : Run step s before t) (h' : Run step t after u) :
    Run step s (before ++ after) u := by
  induction h with
  | nil s => exact h'
  | cons hstep _ ih => exact .cons hstep (ih h')

lemma snoc (h : Run step s before t) (hstep : step t i = .ok u) :
    Run step s (before ++ [i]) u :=
  h.append (.cons hstep (.nil u))

lemma split (h : Run step s (before ++ after) u) :
    ∃ t, Run step s before t ∧ Run step t after u := by
  induction before generalizing s with
  | nil => exact ⟨s, .nil s, h⟩
  | cons i rest ih =>
    cases h with
    | cons hstep hrest =>
      obtain ⟨t, hbefore, hafter⟩ := ih hrest
      exact ⟨t, .cons hstep hbefore, hafter⟩

lemma unique (h : Run step s before t) (h' : Run step s before u) : t = u := by
  induction h generalizing u with
  | nil s =>
    cases h'
    rfl
  | cons hstep _ ih =>
    cases h' with
    | cons hstep' hrest' =>
      rw [hstep] at hstep'
      cases hstep'
      exact ih hrest'

/-- A run takes a step at every input. -/
lemma step_at {inputs : List ι} (h : Run step s inputs u) (hsplit : inputs = before ++ i :: after)
    (hbefore : Run step s before t) : ∃ t', step t i = .ok t' := by
  rw [hsplit] at h
  obtain ⟨t₀, hbefore', hrest⟩ := h.split
  cases hbefore.unique hbefore'
  cases hrest with
  | cons hstep => exact ⟨_, hstep⟩

/-- What every step keeps, a run keeps. -/
lemma invariant {I : σ → Prop} (hI : ∀ {s t : σ} {i : ι}, I s → step s i = .ok t → I t)
    (h : Run step s before t) (hs : I s) : I t := by
  induction h with
  | nil s => exact hs
  | cons hstep _ ih => exact ih (hI hs hstep)

/-- The property holds in every state of the run. -/
def Always (step : σ → ι → Result σ) (P : σ → Prop) (s : σ) (inputs : List ι) : Prop :=
  ∀ before after t, inputs = before ++ after → Run step s before t → P t

/-- Every step of the run meets the condition, in the state it is taken in. -/
def Throughout (step : σ → ι → Result σ) (Q : σ → ι → Prop) (s : σ) (inputs : List ι) : Prop :=
  ∀ before i after t, inputs = before ++ i :: after → Run step s before t → Q t i

lemma Throughout.take {Q : σ → ι → Prop} (hall : Throughout step Q s (before ++ after)) :
    Throughout step Q s before := by
  intro before' i after' u hsplit hrun
  refine hall before' i (after' ++ after) u ?_ hrun
  rw [hsplit, List.append_assoc, List.cons_append]

/-- What a run meets throughout, the rest of it meets. -/
lemma Throughout.drop {Q : σ → ι → Prop} (hall : Throughout step Q s (before ++ after))
    (h : Run step s before t) : Throughout step Q t after := by
  intro before' i after' u hsplit hrun
  refine hall (before ++ before') i after' u ?_ (h.append hrun)
  rw [hsplit, List.append_assoc]

lemma Throughout.head {Q : σ → ι → Prop} (hall : Throughout step Q s (i :: after)) : Q s i :=
  hall [] i after s rfl (.nil s)

lemma Throughout.tail {Q : σ → ι → Prop} (hall : Throughout step Q s (i :: after))
    (hstep : step s i = .ok t) : Throughout step Q t after :=
  (show Throughout step Q s ([i] ++ after) from hall).drop (.cons hstep (.nil t))

lemma throughout_nil (Q : σ → ι → Prop) (s : σ) : Throughout step Q s [] := by
  intro before i after t hsplit
  simp at hsplit

lemma throughout_cons {Q : σ → ι → Prop} (hstep : step s i = .ok t) (hhead : Q s i)
    (htail : Throughout step Q t after) : Throughout step Q s (i :: after) := by
  rintro (_ | ⟨j, before⟩) k after' u hsplit hrun
  · cases hsplit
    cases hrun
    exact hhead
  · cases hsplit
    cases hrun with
    | cons hstep' hrest =>
      cases hstep.symm.trans hstep'
      exact htail before k after' u rfl hrest

/-- What every step that meets `Q` keeps, a run of such steps keeps. -/
lemma invariant_throughout {I : σ → Prop} {Q : σ → ι → Prop}
    (hI : ∀ {s t : σ} {i : ι}, I s → Q s i → step s i = .ok t → I t)
    (h : Run step s before t) (hall : Throughout step Q s before) (hs : I s) : I t := by
  induction h with
  | nil s => exact hs
  | cons hstep _ ih => exact ih (hall.tail hstep) (hI hs hall.head hstep)

/-- A property of the state and the inputs that led to it, kept by every step that meets
`Q`, holds at the end of a run of such steps. -/
lemma invariant_history {I : List ι → σ → Prop} {Q : σ → ι → Prop} (hs : I [] s)
    (hI : ∀ {history : List ι} {t u : σ} {i : ι}, Run step s history t → I history t → Q t i →
      step t i = .ok u → I (history ++ [i]) u)
    (h : Run step s before t) (hall : Throughout step Q s before) : I before t := by
  -- induction on the inputs from the last one
  induction before using List.reverseRecOn generalizing t with
  | nil =>
    cases h
    exact hs
  | append_singleton history i ih =>
    obtain ⟨t', hhistory, hlast⟩ := h.split
    cases hlast with
    | cons hnext hnil =>
      cases hnil
      exact hI hhistory (ih hhistory hall.take) (hall.drop hhistory).head hnext

lemma throughout_append {Q : σ → ι → Prop} (hrun : Run step s before t)
    (hbefore : Throughout step Q s before) (hafter : Throughout step Q t after) :
    Throughout step Q s (before ++ after) := by
  induction hrun with
  | nil s => exact hafter
  | cons hstep _ ih =>
    exact throughout_cons hstep hbefore.head (ih (hbefore.tail hstep) hafter)

/-- **If a step keeps `P` exactly when it meets `Q`, a run keeps `P` throughout exactly
when all its steps meet `Q`.** -/
theorem always_iff {I P : σ → Prop} {Q : σ → ι → Prop}
    (hI : ∀ {s t : σ} {i : ι}, I s → step s i = .ok t → I t)
    (hstep : ∀ {s t : σ} {i : ι}, I s → P s → step s i = .ok t → (P t ↔ Q s i))
    {inputs : List ι} (h : Run step s inputs u) (hs : I s) (hP : P s) :
    Always step P s inputs ↔ Throughout step Q s inputs := by
  constructor
  · intro halways before i after t hsplit hrun
    obtain ⟨t', hnext⟩ := h.step_at hsplit hrun
    have hthere : P t := halways before (i :: after) t hsplit hrun
    have hnextP := halways (before ++ [i]) after _ (by rw [hsplit]; simp) (hrun.snoc hnext)
    exact (hstep (hrun.invariant hI hs) hthere hnext).mp hnextP
  · intro hall before
    -- induction on the length of the prefix, from its last step
    induction before using List.reverseRecOn with
    | nil =>
      intro after t _ hrun
      cases hrun
      exact hP
    | append_singleton before i ih =>
      intro after t hsplit hrun
      obtain ⟨t', hbefore, hlast⟩ := hrun.split
      cases hlast with
      | cons hnext hnil =>
        cases hnil
        have hsplit' : inputs = before ++ i :: after := by rw [hsplit]; simp
        have hthere : P t' := ih (i :: after) t' hsplit' hbefore
        exact (hstep (hbefore.invariant hI hs) hthere hnext).mpr
          (hall before i after t' hsplit' hbefore)

end Run

end Go
