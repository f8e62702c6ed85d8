/-
Go methods with state.

A method on a pointer receiver changes the receiver as it goes and may return an
`error` halfway: what it wrote before the error stays written. `Proc σ α` is such a
method on a receiver of type `σ`.

* `Proc.Returns`: the call returned a value and left a receiver.
* `returns_bind`, `returns_guard`, `returns_lift`, `returns_modify`: the inversion
  rules; a body that returned passed each of its statements in turn.
* `ends_bind`: how a body may end, if it does not return.
* `Proc.Keeps`: what a method does not write, whether it returns or not, with the
  rules `keeps_bind`, `keeps_onField` and their like.
* `Proc.FailsClean`: a method that has written nothing when it fails.
* `Proc.Preserves`: a property of the receiver that a method keeps, however it ends.
-/
import A4s.Go.Result

namespace Go

/-- A method: the result handed back, and the receiver it leaves. -/
def Proc (σ α : Type) : Type := σ → Result α × σ

namespace Proc

variable {σ α β : Type}

instance : Monad (Proc σ) where
  pure a := fun s => (.ok a, s)
  bind x f := fun s =>
    match x s with
    | (.ok a, s') => f a s'
    | (.error e, s') => (.error e, s')

/-- Reading a field of the receiver. -/
def read (f : σ → α) : Proc σ α := fun s => (.ok (f s), s)

/-- Assigning to the receiver. -/
def modify (f : σ → σ) : Proc σ Unit := fun s => (.ok (), f s)

/-- A call that does not touch the receiver. -/
def lift (r : Result α) : Proc σ α := fun s => (r, s)

/-- `if c { return fmt.Errorf(text) }`. -/
def guard (c : Prop) [Decidable c] (text : String) : Proc σ Unit := lift (refuseIf c text)

/-- `if c { x() }`. -/
def when (c : Bool) (x : Proc σ Unit) : Proc σ Unit := if c then x else pure ()

/-- `return fmt.Errorf(text + "%w", err)` around a call. -/
def wrapped (text : String) (x : Proc σ α) : Proc σ α := fun s => (wrapError text (x s).1, (x s).2)

/-- The method of a field, on the record that holds it. -/
def onField {τ : Type} (field : σ → τ) (set : σ → τ → σ) (x : Proc τ α) : Proc σ α := fun s =>
  ((x (field s)).1, set s (x (field s)).2)

/-- `_ = x()`: the error is dropped, what was done stays. -/
def ignore (x : Proc σ α) : Proc σ Unit := fun s => (.ok (), (x s).2)

/-- `if err := x(); err != nil { cleanup(); return err }`. -/
def onError (x : Proc σ α) (cleanup : Proc σ Unit) : Proc σ α := fun s =>
  match x s with
  | (.ok a, s') => (.ok a, s')
  | (.error e, s') => (.error e, (cleanup s').2)

/-- `defer cleanup()` in front of the rest of a body. -/
def deferred (cleanup : Proc σ Unit) (x : Proc σ α) : Proc σ α := fun s =>
  ((x s).1, (cleanup (x s).2).2)

/-- The call returned `a` and left the receiver `s'`. -/
def Returns (x : Proc σ α) (s : σ) (a : α) (s' : σ) : Prop := x s = (.ok a, s')

/-- The method does not change what `f` reads of the receiver. -/
def Keeps {τ : Type} (f : σ → τ) (x : Proc σ α) : Prop := ∀ s, f (x s).2 = f s

lemma Keeps.returns {τ : Type} {f : σ → τ} {x : Proc σ α} {s s' : σ} {a : α}
    (h : Keeps f x) (hx : Returns x s a s') :
    f s' = f s := by
  have hkept := h s
  rw [hx] at hkept
  exact hkept

/-- A call that did not return left what `f` reads of the receiver. -/
def FailsClean {τ : Type} (f : σ → τ) (x : Proc σ α) : Prop :=
  ∀ s, f (x s).2 = f s ∨ ∃ a, Returns x s a (x s).2

/-- The method keeps a property of the receiver, whether it returns or not. -/
def Preserves (I : σ → Prop) (x : Proc σ α) : Prop := ∀ s, I s → I (x s).2

lemma Preserves.returns {I : σ → Prop} {x : Proc σ α} {s s' : σ} {a : α} (h : Preserves I x)
    (hx : Returns x s a s') (hI : I s) : I s' := by
  have hkept := h s hI
  rw [hx] at hkept
  exact hkept

end Proc

open Proc (Returns Keeps FailsClean Preserves)

variable {σ α β : Type}

section Inversion

variable {x : Proc σ α} {f : α → Proc σ β} {s s' : σ} {a : α} {b : β}

@[simp] lemma returns_pure {a' : α} : Returns (pure a' : Proc σ α) s a s' ↔ a' = a ∧ s = s' := by
  simp [Returns, pure]

lemma returns_bind : Returns (x >>= f) s b s' ↔
    ∃ a s₁, Returns x s a s₁ ∧ Returns (f a) s₁ b s' := by
  unfold Returns
  change (match x s with
    | (.ok a, s₁) => f a s₁
    | (.error e, s₁) => (.error e, s₁)) = _ ↔ _
  rcases hx : x s with ⟨_ | a, s₁⟩
  · simp
  · constructor
    · exact fun h => ⟨a, s₁, rfl, h⟩
    · rintro ⟨a', s₂, heq, h⟩
      cases heq
      exact h

@[simp] lemma returns_read {g : σ → α} : Returns (Proc.read g) s a s' ↔ g s = a ∧ s = s' := by
  simp [Returns, Proc.read]

@[simp] lemma returns_modify {g : σ → σ} {u : Unit} :
    Returns (Proc.modify g) s u s' ↔ g s = s' := by
  simp [Returns, Proc.modify]

@[simp] lemma returns_lift {r : Result α} : Returns (Proc.lift r : Proc σ α) s a s' ↔
    r = .ok a ∧ s = s' := by
  simp [Returns, Proc.lift]

@[simp] lemma returns_guard {c : Prop} [Decidable c] {text : String} {u : Unit} :
    Returns (Proc.guard c text : Proc σ Unit) s u s' ↔ ¬c ∧ s = s' := by
  simp [Proc.guard]

@[simp] lemma returns_when {c : Bool} {y : Proc σ Unit} {u : Unit} :
    Returns (Proc.when c y) s u s' ↔ (c = true ∧ Returns y s u s') ∨ (c = false ∧ s = s') := by
  cases c
  · simp [Proc.when]
  · simp [Proc.when]

@[simp] lemma returns_wrapped {text : String} :
    Returns (Proc.wrapped text x) s a s' ↔ Returns x s a s' := by
  simp only [Returns, Proc.wrapped, Prod.ext_iff, wrapError_ok]

@[simp] lemma returns_ignore {u : Unit} : Returns (Proc.ignore x) s u s' ↔ (x s).2 = s' := by
  simp [Returns, Proc.ignore]

@[simp] lemma returns_onError {cleanup : Proc σ Unit} :
    Returns (Proc.onError x cleanup) s a s' ↔ Returns x s a s' := by
  unfold Returns Proc.onError
  rcases x s with ⟨_ | b, s₁⟩ <;> simp

@[simp] lemma returns_deferred {cleanup : Proc σ Unit} :
    Returns (Proc.deferred cleanup x) s a s' ↔ ∃ s₁, Returns x s a s₁ ∧ (cleanup s₁).2 = s' := by
  simp only [Returns, Proc.deferred, Prod.mk.injEq]
  constructor
  · rintro ⟨hok, hleft⟩
    exact ⟨(x s).2, by rw [← hok], hleft⟩
  · rintro ⟨s₁, hx, hleft⟩
    rw [hx]
    exact ⟨rfl, hleft⟩

@[simp] lemma returns_onField {τ : Type} {field : σ → τ} {set : σ → τ → σ} {y : Proc τ α} :
    Returns (Proc.onField field set y) s a s' ↔ ∃ t, Returns y (field s) a t ∧ set s t = s' := by
  simp only [Returns, Proc.onField, Prod.mk.injEq]
  constructor
  · rintro ⟨hok, hset⟩
    exact ⟨(y (field s)).2, by rw [← hok], hset⟩
  · rintro ⟨t, hy, hset⟩
    rw [hy]
    exact ⟨rfl, hset⟩

end Inversion

/-- A body stops at its first statement or runs on into the rest of it. -/
lemma bind_cases (x : Proc σ α) (f : α → Proc σ β) (s : σ) :
    (∃ e s₁, x s = (.error e, s₁) ∧ (x >>= f) s = (.error e, s₁)) ∨
      ∃ a s₁, Returns x s a s₁ ∧ (x >>= f) s = f a s₁ := by
  have hbind : (x >>= f) s = match x s with
    | (.ok a, s₁) => f a s₁
    | (.error e, s₁) => (.error e, s₁) := rfl
  rcases hxs : x s with ⟨e | a, s₁⟩
  · exact .inl ⟨e, s₁, rfl, by rw [hbind, hxs]⟩
  · exact .inr ⟨a, s₁, hxs, by rw [hbind, hxs]⟩

/-- The rest of a body, after a statement that has returned. -/
lemma bind_of_returns {x : Proc σ α} {f : α → Proc σ β} {s s₁ : σ} {a : α}
    (h : Returns x s a s₁) : (x >>= f) s = f a s₁ := by
  rcases bind_cases x f s with ⟨e, s₂, hstop, -⟩ | ⟨b, s₂, hreturns, hend⟩
  · rw [Returns, hstop] at h
    cases h
  · rw [Returns, hreturns] at h
    cases h
    exact hend

/-- A statement that fails ends the body. -/
lemma bind_of_stops {x : Proc σ α} {f : α → Proc σ β} {s s₁ : σ} {e : Fault}
    (h : x s = (.error e, s₁)) : (x >>= f) s = (.error e, s₁) := by
  rcases bind_cases x f s with ⟨e', s₂, hstop, hend⟩ | ⟨b, s₂, hreturns, -⟩
  · rw [hstop] at h
    cases h
    exact hend
  · rw [Returns, h] at hreturns
    cases hreturns

/-- However a body ends, it ends after its first statement or in the rest of it. -/
lemma ends_bind {P : σ → Prop} {x : Proc σ α} {f : α → Proc σ β} {s : σ} (hx : P (x s).2)
    (hf : ∀ a s₁, Returns x s a s₁ → P (f a s₁).2) : P ((x >>= f) s).2 := by
  rcases bind_cases x f s with ⟨e, s₁, hstop, hend⟩ | ⟨a, s₁, hreturns, hend⟩
  · rw [hend]
    rw [hstop] at hx
    exact hx
  · rw [hend]
    exact hf a s₁ hreturns

section Frame

variable {τ υ : Type} {f : σ → τ}

lemma keeps_pure (a : α) : Keeps f (pure a : Proc σ α) := fun _ => rfl

lemma keeps_read (g : σ → α) : Keeps f (Proc.read g) := fun _ => rfl

lemma keeps_lift (r : Result α) : Keeps f (Proc.lift r : Proc σ α) := fun _ => rfl

lemma keeps_guard (c : Prop) [Decidable c] (text : String) :
    Keeps f (Proc.guard c text : Proc σ Unit) := fun _ => rfl

lemma keeps_modify {g : σ → σ} (h : ∀ s, f (g s) = f s) : Keeps f (Proc.modify g) := h

lemma keeps_when (c : Bool) {y : Proc σ Unit} (hy : Keeps f y) : Keeps f (Proc.when c y) := by
  cases c
  · exact keeps_pure ()
  · exact hy

lemma keeps_wrapped (text : String) {x : Proc σ α} (hx : Keeps f x) :
    Keeps f (Proc.wrapped text x) := hx

lemma keeps_onField {field : σ → υ} {set : σ → υ → σ} (y : Proc υ α)
    (h : ∀ s t, f (set s t) = f s) : Keeps f (Proc.onField field set y) := fun s => h s _

/-- What every statement keeps, the body keeps. -/
lemma keeps_bind {x : Proc σ α} {g : α → Proc σ β} (hx : Keeps f x) (hg : ∀ a, Keeps f (g a)) :
    Keeps f (x >>= g) := by
  intro s
  refine ends_bind (P := fun s' => f s' = f s) (hx s) fun a s₁ hreturns => ?_
  rw [hg a s₁, hx.returns hreturns]

end Frame

section Failure

variable {τ : Type} {f : σ → τ} {x : Proc σ α}

lemma failsClean_modify (g : σ → σ) : FailsClean f (Proc.modify g) := fun _ => .inr ⟨(), rfl⟩

/-- As long as only the last statement writes, a failed body has written nothing. -/
lemma failsClean_bind {g : α → Proc σ β} (hx : Keeps f x) (hg : ∀ a, FailsClean f (g a)) :
    FailsClean f (x >>= g) := by
  intro s
  rcases bind_cases x g s with ⟨e, s₁, hstop, hend⟩ | ⟨a, s₁, hreturns, hend⟩
  · left
    have hkept := hx s
    rw [hstop] at hkept
    rw [hend]
    exact hkept
  · rw [hend, ← hx.returns hreturns]
    refine (hg a s₁).imp_right fun ⟨b, hb⟩ => ⟨b, ?_⟩
    rw [Returns, hend]
    exact hb

/-- Handing back a value after the last write changes nothing. -/
lemma failsClean_return (hx : FailsClean f x) (b : β) :
    FailsClean f (x >>= fun _ => pure b) := by
  intro s
  rcases bind_cases x (fun _ => pure b) s with ⟨e, s₁, hstop, hend⟩ | ⟨a, s₁, -, hend⟩
  · left
    rcases hx s with hkept | ⟨a, ha⟩
    · rw [hend]
      rw [hstop] at hkept
      exact hkept
    · rw [Returns, hstop] at ha
      cases ha
  · right
    refine ⟨b, ?_⟩
    rw [Returns, hend]
    rfl

end Failure

section Invariant

variable {I : σ → Prop} {x : Proc σ α}

lemma preserves_when (c : Bool) {y : Proc σ Unit} (hy : Preserves I y) :
    Preserves I (Proc.when c y) := by
  cases c
  · exact fun _ hI => hI
  · exact hy

lemma preserves_bind {f : α → Proc σ β} (hx : Preserves I x) (hf : ∀ a, Preserves I (f a)) :
    Preserves I (x >>= f) := by
  intro s hI
  exact ends_bind (hx s hI) fun a s₁ hreturns => hf a s₁ (hx.returns hreturns hI)

end Invariant

end Go
