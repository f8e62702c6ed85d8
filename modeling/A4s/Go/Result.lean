/-
Results of Go functions.

A Go function that can fail returns a value or an `error`, and may also panic.
`Result` keeps the two apart, so that "the call was refused" and "the process
went down" are different outcomes.

* `refuseIf` and `require`: the two guards Go code is written with, an early
  `return fmt.Errorf(…)` under a condition and after a failed map lookup.
* `bind_ok`, `refuseIf_bind_ok`, `require_bind_ok`: the inversion
  rules; a chain of guards that returned `ok` passed every one of them, and so did a
  loop of checks (`forM_ok`) or of conversions (`mapM_ok`).
* `Ensures`: what holds of every value a computation may return, read off its text; `Safe`: the
  computation does not panic.
-/
import Mathlib.Tactic

namespace Go

/-- Why a call did not return a value: an `error` with its text, or a panic. -/
inductive Fault where
  | error (text : String)
  | panic (text : String)
  deriving DecidableEq, Repr

/-- What a fallible Go function hands back. -/
abbrev Result (α : Type) := Except Fault α

/-- Returning an `error`. -/
def fail {α : Type} (text : String) : Result α := .error (.error text)

/-- Panicking. -/
def crash {α : Type} (text : String) : Result α := .error (.panic text)

/-- `if c { return fmt.Errorf(text) }`. -/
def refuseIf (c : Prop) [Decidable c] (text : String) : Result Unit :=
  if c then fail text else .ok ()

/-- `x, ok := …; if !ok { return fmt.Errorf(text) }`. -/
def require {α : Type} (o : Option α) (text : String) : Result α :=
  match o with
  | some x => .ok x
  | none => fail text

/-- `fmt.Errorf("context: %w", err)`: an error gains the context, a panic passes
through. -/
def wrapError {α : Type} (context : String) : Result α → Result α
  | .error (.error text) => fail (context ++ text)
  | r => r

section Inversion

variable {α β : Type}

lemma bind_ok {x : Result α} {f : α → Result β} {r : β} :
    (x >>= f) = .ok r ↔ ∃ a, x = .ok a ∧ f a = .ok r := by
  cases x with
  | error e => simp [Bind.bind, Except.bind]
  | ok a => simp [Bind.bind, Except.bind]

@[simp] lemma pure_ok {a b : α} : (pure a : Result α) = .ok b ↔ a = b := by
  simp [pure, Except.pure]

@[simp] lemma fail_ne_ok {text : String} {r : α} : fail text ≠ .ok r := by
  simp [fail]

@[simp] lemma fail_inj {text text' : String} :
    (fail text : Result α) = fail text' ↔ text = text' := by
  simp [fail]

@[simp] lemma crash_ne_ok {text : String} {r : α} : crash text ≠ .ok r := by
  simp [crash]

@[simp] lemma refuseIf_ok {c : Prop} [Decidable c] {text : String} {u : Unit} :
    refuseIf c text = .ok u ↔ ¬ c := by
  unfold refuseIf
  split_ifs with h <;> simp [h]

@[simp] lemma require_ok {o : Option α} {text : String} {x : α} :
    require o text = .ok x ↔ o = some x := by
  cases o <;> simp [require]

lemma toOption_eq_some {ε : Type*} {x : Except ε α} {a : α} : x.toOption = some a ↔ x = .ok a := by
  cases x <;> simp [Except.toOption]

lemma ok_of_isSome {ε : Type*} {x : Except ε α} (h : x.toOption.isSome = true) : ∃ a, x = .ok a :=
  (Option.isSome_iff_exists.mp h).imp fun _ => toOption_eq_some.mp

/-- A guard in front of a computation: the computation ran, so the guard let it
through. -/
@[simp] lemma refuseIf_bind_ok {c : Prop} [Decidable c] {text : String}
    {f : Unit → Result β} {r : β} :
    (refuseIf c text >>= f) = .ok r ↔ ¬ c ∧ f () = .ok r := by
  rw [bind_ok]
  exact ⟨fun ⟨_, hc, hf⟩ => ⟨refuseIf_ok.mp hc, hf⟩,
    fun ⟨hc, hf⟩ => ⟨(), refuseIf_ok.mpr hc, hf⟩⟩

@[simp] lemma require_bind_ok {o : Option α} {text : String} {f : α → Result β} {r : β} :
    (require o text >>= f) = .ok r ↔ ∃ x, o = some x ∧ f x = .ok r := by
  simp [bind_ok]

/-- A check in front of a body. -/
lemma check_bind_ok {x : Result Unit} {f : Unit → Result β} {r : β} :
    (x >>= f) = .ok r ↔ x = .ok () ∧ f () = .ok r := by
  rw [bind_ok]
  constructor
  · rintro ⟨⟨⟩, hx, hf⟩
    exact ⟨hx, hf⟩
  · rintro ⟨hx, hf⟩
    exact ⟨(), hx, hf⟩

lemma refuseIf_of {c : Prop} [Decidable c] {text : String} (h : c) :
    refuseIf c text = fail text := if_pos h

lemma refuseIf_of_not {c : Prop} [Decidable c] {text : String} (h : ¬c) :
    refuseIf c text = .ok () := if_neg h

lemma fail_bind {text : String} {f : α → Result β} :
    ((fail text : Result α) >>= f) = fail text := rfl

lemma ok_bind (x : α) (f : α → Result β) : ((.ok x : Result α) >>= f) = f x := rfl

lemma require_some_bind (x : α) (text : String) (f : α → Result β) :
    (require (some x) text >>= f) = f x := rfl

/-- A check that is made under a condition, and what comes after it. -/
lemma refuseIf_guarded {c d : Prop} [Decidable c] [Decidable d] {text : String} {y : Result α}
    {r : α} :
    (if c then refuseIf d text >>= fun _ => y else y) = .ok r ↔ (c → ¬d) ∧ y = .ok r := by
  split_ifs with h <;> simp [h]

/-- A loop of checks passed exactly if every check did. -/
lemma forM_ok {f : α → Result Unit} {l : List α} {u : Unit} :
    l.forM f = .ok u ↔ ∀ x ∈ l, f x = .ok () := by
  induction l with
  | nil => simp [List.forM]
  | cons x l ih =>
    rw [List.forM, check_bind_ok, List.forall_mem_cons, ← ih]

/-- A loop that maps succeeded exactly if it did on every element. -/
lemma mapM_ok {f : α → Result β} {l : List α} {values : List β} :
    l.mapM f = .ok values ↔ List.Forall₂ (fun x y => f x = .ok y) l values := by
  induction l generalizing values with
  | nil => cases values <;> simp [pure_ok]
  | cons x l ih =>
    rw [List.mapM_cons, bind_ok, List.forall₂_cons_left_iff]
    constructor
    · rintro ⟨y, hy, hrest⟩
      obtain ⟨ys, hys, hvalues⟩ := bind_ok.mp hrest
      exact ⟨y, ys, hy, ih.mp hys, (pure_ok.mp hvalues).symm⟩
    · rintro ⟨y, ys, hy, hys, rfl⟩
      exact ⟨y, hy, bind_ok.mpr ⟨ys, ih.mpr hys, rfl⟩⟩

@[simp] lemma wrapError_ok {context : String} {x : Result α} {r : α} :
    wrapError context x = .ok r ↔ x = .ok r := by
  rcases x with (_ | _) | _ <;> simp [wrapError]

end Inversion

/-! ### What a computation ensures -/

/-- Whatever a computation returns has a property. -/
def Ensures {α : Type} (P : α → Prop) (r : Result α) : Prop := ∀ x, r = .ok x → P x

namespace Ensures

variable {α β : Type} {P : α → Prop}

lemma ok {x : α} (h : P x) : Ensures P (.ok x : Result α) := by
  intro y hy
  cases hy
  exact h

lemma ret {x : α} (h : P x) : Ensures P (pure x : Result α) := ok h

lemma fail (text : String) : Ensures P (Go.fail text) := fun _ h => absurd h fail_ne_ok

lemma bind {x : Result β} {f : β → Result α} (h : ∀ y, Ensures P (f y)) :
    Ensures P (x >>= f) := by
  intro z hz
  obtain ⟨y, -, hy⟩ := bind_ok.mp hz
  exact h y z hy

lemma ite {c : Prop} [Decidable c] {x y : Result α} (hx : Ensures P x) (hy : Ensures P y) :
    Ensures P (if c then x else y) := by
  split_ifs
  · exact hx
  · exact hy

end Ensures

/-- The computation does not panic. -/
def Safe {α : Type} (r : Result α) : Prop := ∀ text, r ≠ .error (.panic text)

namespace Safe

variable {α β : Type}

lemma ok (x : α) : Safe (.ok x : Result α) := by simp [Safe]

lemma ret (x : α) : Safe (pure x : Result α) := ok x

lemma fail (text : String) : Safe (Go.fail text : Result α) := by simp [Safe, Go.fail]

lemma not_crash (text : String) : ¬Safe (crash text : Result α) := by simp [Safe, crash]

lemma refuseIf (c : Prop) [Decidable c] (text : String) : Safe (Go.refuseIf c text) := by
  rw [Go.refuseIf]
  split_ifs
  · exact fail text
  · exact ok ()

lemma require (o : Option α) (text : String) : Safe (Go.require o text) := by
  cases o with
  | none => exact fail text
  | some x => exact ok x

lemma bind_iff {x : Result α} {f : α → Result β} :
    Safe (x >>= f) ↔ Safe x ∧ ∀ a, x = .ok a → Safe (f a) := by
  rcases x with (_ | _) | _ <;> simp [Safe, Bind.bind, Except.bind]

lemma ite_iff {c : Prop} [Decidable c] {x y : Result α} :
    Safe (if c then x else y) ↔ (c → Safe x) ∧ (¬c → Safe y) := by
  split_ifs with h <;> simp [h]

end Safe

end Go
