/-
Calls that run side by side.

A call performs one operation on shared objects after the other, and what it does next may
depend on the answers. Calls run side by side on one shared state: a step of the whole is one
operation of one call, and the others may have stepped in between.

* `Prog`: the program of a call, over the operations of an `Interface`.
* `Discipline`: an auxiliary variable of a call (what it has done so far, as far as it
  matters), the operations it may perform next, and the answers that can come back.
* `Meets`: the program keeps to the discipline, with a condition on its end; `meets_bind`
  composes programs. `Ends` says where a program can end, and `Prog.exec` runs it.
* `Step`, `Reaches`: the interleaving, with the steps restricted to those of a condition.
* `Alone`: the special case of a call that nothing comes in between; `Prog.play` computes it where
  the operations are functions. `Serial`: such calls one after the other.
* `Reaches.invariant`: **the rule for interleaved calls**. What the disciplined operations of
  one call keep, every run keeps, and every call stays disciplined. `Serial.invariant` is the
  rule for calls one after the other.
-/
import A4s.Go.Result

namespace Go

/-- Operations on shared objects, and what each answers. -/
structure Interface where
  Op : Type
  Answer : Op → Type

/-- A program: it ends with a value, or performs an operation and goes on with the answer. -/
inductive Prog (I : Interface) (α : Type) : Type
  | ret (a : α)
  | call (op : I.Op) (next : I.Answer op → Prog I α)

namespace Prog

variable {I : Interface} {α β : Type}

/-- One program after another. -/
def bind : Prog I α → (α → Prog I β) → Prog I β
  | ret a, f => f a
  | call op next, f => call op fun answer => (next answer).bind f

instance : Monad (Prog I) where
  pure := ret
  bind := bind

/-- A single operation. -/
def perform (op : I.Op) : Prog I (I.Answer op) := call op ret

end Prog

/-! ### Disciplines -/

/-- An auxiliary variable of a call: how an operation and its answer change it, the operations
the call may perform at a value of it, and the answers that can come back there. -/
structure Discipline (I : Interface) (G : Type) where
  note : G → (op : I.Op) → I.Answer op → G
  may : G → I.Op → Prop
  possible : G → (op : I.Op) → I.Answer op → Prop

variable {I : Interface} {G α β : Type}

/-- The program keeps to the discipline, and ends as the condition says. -/
def Meets (D : Discipline I G) : Prog I α → G → (α → G → Prop) → Prop
  | .ret a, g, post => post a g
  | .call op next, g, post => D.may g op ∧
      ∀ answer, D.possible g op answer → Meets D (next answer) (D.note g op answer) post

section Meets

variable {D : Discipline I G} {g : G}

/-- A program that ends in more than is asked for. -/
lemma Meets.mono {p : Prog I α} {post post' : α → G → Prop} (h : Meets D p g post)
    (hpost : ∀ a g, post a g → post' a g) : Meets D p g post' := by
  induction p generalizing g with
  | ret a => exact hpost a g h
  | call op next ih => exact ⟨h.1, fun answer hanswer => ih answer (h.2 answer hanswer)⟩

/-- One program after another. -/
lemma meets_bind {p : Prog I α} {f : α → Prog I β} {post : β → G → Prop} :
    Meets D (p >>= f) g post ↔ Meets D p g fun a g' => Meets D (f a) g' post := by
  induction p generalizing g with
  | ret a => exact Iff.rfl
  | call op next ih => exact and_congr_right fun _ => forall₂_congr fun answer _ => ih answer

/-- The program ends with the value if the answers come back that can. -/
def Ends (D : Discipline I G) : Prog I α → G → α → G → Prop
  | .ret a, g, a', g' => a = a' ∧ g = g'
  | .call op next, g, a', g' => ∃ answer, D.possible g op answer ∧
      Ends D (next answer) (D.note g op answer) a' g'

/-- **What a program meets holds wherever it ends.** -/
theorem Meets.ends {p : Prog I α} {post : α → G → Prop} (h : Meets D p g post) {a : α} {g' : G}
    (hends : Ends D p g a g') : post a g' := by
  induction p generalizing g with
  | ret b =>
    obtain ⟨rfl, rfl⟩ := hends
    exact h
  | call op next ih =>
    obtain ⟨answer, hanswer, hends⟩ := hends
    exact ih answer (h.2 answer hanswer) hends

/-- The end of a program that is answered by a function. -/
def Prog.exec (D : Discipline I G) (reply : G → (op : I.Op) → I.Answer op) : Prog I α → G → α × G
  | .ret a, g => (a, g)
  | .call op next, g => (next (reply g op)).exec D reply (D.note g op (reply g op))

lemma Prog.ends_exec {reply : G → (op : I.Op) → I.Answer op}
    (h : ∀ g op, D.possible g op (reply g op)) (p : Prog I α) :
    Ends D p g (p.exec D reply g).1 (p.exec D reply g).2 := by
  induction p generalizing g with
  | ret a => exact ⟨rfl, rfl⟩
  | call op next ih => exact ⟨reply g op, h g op, ih (reply g op)⟩

end Meets

/-! ### Interleaving -/

/-- The shared state, what each call that is in progress has left to do, and the auxiliary
variables of the calls. -/
structure Config (I : Interface) (σ G : Type) where
  shared : σ
  calls : ℕ → Option (Prog I Unit)
  notes : ℕ → G

section Interleaving

variable {σ ι : Type}

/-- A system of calls: what an operation does under an input from outside, which programs may
be started, and the value of the auxiliary variable of a call that is not in progress. -/
structure System (I : Interface) (σ ι G : Type) where
  discipline : Discipline I G
  does : σ → ℕ → (op : I.Op) → ι → I.Answer op → σ → Prop
  starts : Prog I Unit → Prop
  fresh : G

/-- A step of the whole: a call is started, performs an operation under an input that meets
the condition, or comes to its end. -/
inductive Step (S : System I σ ι G) (careful : σ → (ℕ → G) → ℕ → I.Op → ι → Prop) :
    Config I σ G → Config I σ G → Prop
  | start {c : Config I σ G} {i : ℕ} {p : Prog I Unit} (hidle : c.calls i = none)
      (hp : S.starts p) :
      Step S careful c { c with calls := Function.update c.calls i (some p) }
  | act {c : Config I σ G} {i : ℕ} {op : I.Op} {next : I.Answer op → Prog I Unit} {input : ι}
      {answer : I.Answer op} {s' : σ} (hcall : c.calls i = some (.call op next))
      (hcareful : careful c.shared c.notes i op input)
      (hdoes : S.does c.shared i op input answer s') :
      Step S careful c
        { shared := s'
          calls := Function.update c.calls i (some (next answer))
          notes := Function.update c.notes i (S.discipline.note (c.notes i) op answer) }
  | finish {c : Config I σ G} {i : ℕ} (hcall : c.calls i = some (.ret ())) :
      Step S careful c
        { c with
          calls := Function.update c.calls i none
          notes := Function.update c.notes i S.fresh }

/-- No call is in progress. -/
def Config.Quiet (c : Config I σ G) : Prop := ∀ i, c.calls i = none

/-- The shared state before any call. -/
def System.initial (S : System I σ ι G) (s : σ) : Config I σ G :=
  { shared := s, calls := fun _ => none, notes := fun _ => S.fresh }

/-- A run of any length. -/
def Reaches (S : System I σ ι G) (careful : σ → (ℕ → G) → ℕ → I.Op → ι → Prop) :
    Config I σ G → Config I σ G → Prop :=
  Relation.ReflTransGen (Step S careful)

/-- The calls keep to the discipline, and those that are not in progress are at their start. -/
def Config.Disciplined (S : System I σ ι G) (settled : G → Prop) (c : Config I σ G) : Prop :=
  ∀ i, match c.calls i with
    | none => c.notes i = S.fresh
    | some p => Meets S.discipline p (c.notes i) fun _ g => settled g

variable {S : System I σ ι G} {careful : σ → (ℕ → G) → ℕ → I.Op → ι → Prop}
  {settled : G → Prop} {Inv : σ → (ℕ → G) → Prop} {c c' : Config I σ G}

/-- The calls other than the one that steps are as they were. -/
lemma Config.Disciplined.update (h : c.Disciplined S settled) (i : ℕ) (s' : σ)
    (call : Option (Prog I Unit)) {g : G}
    (hi : match call with
      | none => g = S.fresh
      | some p => Meets S.discipline p g fun _ g => settled g) :
    Config.Disciplined S settled
      { shared := s'
        calls := Function.update c.calls i call
        notes := Function.update c.notes i g } := by
  intro j
  by_cases hj : j = i
  · subst hj
    simpa only [Function.update_self] using hi
  · simpa only [Function.update_of_ne hj] using h j

section Invariant

variable {s : σ} (hstarts : ∀ p, S.starts p → Meets S.discipline p S.fresh fun _ g => settled g)
  (hact : ∀ {s notes i op input answer s'}, Inv s notes → S.discipline.may (notes i) op →
    careful s notes i op input → S.does s i op input answer s' →
    S.discipline.possible (notes i) op answer ∧
      Inv s' (Function.update notes i (S.discipline.note (notes i) op answer)))
  (hfinish : ∀ {s notes i}, Inv s notes → settled (notes i) →
    Inv s (Function.update notes i S.fresh))

include hstarts hact hfinish

/-- One step keeps what disciplined operations keep. -/
lemma Step.invariant (hstep : Step S careful c c') (hinv : Inv c.shared c.notes)
    (hcalls : c.Disciplined S settled) : Inv c'.shared c'.notes ∧ c'.Disciplined S settled := by
  cases hstep with
  | @start i p hidle hp =>
    have hfresh : c.notes i = S.fresh := by
      have hi := hcalls i
      rwa [hidle] at hi
    refine ⟨hinv, ?_⟩
    have hmeets := hcalls.update i c.shared (some p) (hstarts p hp)
    rwa [← hfresh, Function.update_eq_self] at hmeets
  | @act i op next input answer s' hcall hcareful hdoes =>
    have hi := hcalls i
    rw [hcall] at hi
    obtain ⟨hpossible, hinv'⟩ := hact hinv hi.1 hcareful hdoes
    exact ⟨hinv', hcalls.update i s' (some (next answer)) (hi.2 answer hpossible)⟩
  | @finish i hcall =>
    have hi := hcalls i
    rw [hcall] at hi
    exact ⟨hfinish hinv hi, hcalls.update i c.shared none rfl⟩

/-- **The rule for interleaved calls**: what every operation keeps that a disciplined call may
perform, every run from a state without calls keeps, and the calls keep to the discipline. -/
theorem Reaches.invariant (hreach : Reaches S careful (S.initial s) c)
    (hinit : Inv s fun _ => S.fresh) : Inv c.shared c.notes ∧ c.Disciplined S settled := by
  induction hreach with
  | refl => exact ⟨hinit, fun _ => rfl⟩
  | tail _ hstep ih => exact hstep.invariant hstarts hact hfinish ih.1 ih.2

end Invariant

/-! ### A call that runs alone -/

/-- The call performs its operations one after the other, and no other call is in progress. -/
inductive Alone (S : System I σ ι G) (careful : σ → (ℕ → G) → ℕ → I.Op → ι → Prop) (i : ℕ) :
    σ → G → Prog I Unit → σ → Prop
  | ret {s : σ} {g : G} : Alone S careful i s g (.ret ()) s
  | call {s s' s'' : σ} {g : G} {op : I.Op} {next : I.Answer op → Prog I Unit}
      {answer : I.Answer op} (input : ι)
      (hcareful : careful s (Function.update (fun _ => S.fresh) i g) i op input)
      (hdoes : S.does s i op input answer s')
      (hnext : Alone S careful i s' (S.discipline.note g op answer) (next answer) s'') :
      Alone S careful i s g (.call op next) s''

/-- Calls one after the other: each one starts when the one before it has come to its end. -/
inductive Serial (S : System I σ ι G) (careful : σ → (ℕ → G) → ℕ → I.Op → ι → Prop) : σ → σ → Prop
  | done {s : σ} : Serial S careful s s
  | call {s s' s'' : σ} (i : ℕ) {p : Prog I Unit} (hp : S.starts p)
      (hcall : Alone S careful i s S.fresh p s') (hrest : Serial S careful s' s'') :
      Serial S careful s s''

section Serial

variable {Keeps : σ → G → Prop} {s s' : σ} {g : G} {p : Prog I Unit}

/-- What disciplined operations keep holds where the call comes to its end. -/
lemma Alone.invariant {i : ℕ}
    (hact : ∀ {s g op input answer s'}, Keeps s g → S.discipline.may g op →
      careful s (Function.update (fun _ => S.fresh) i g) i op input →
      S.does s i op input answer s' →
      S.discipline.possible g op answer ∧ Keeps s' (S.discipline.note g op answer))
    (h : Alone S careful i s g p s') (hmeets : Meets S.discipline p g fun _ g => settled g)
    (hkeeps : Keeps s g) : ∃ g', settled g' ∧ Keeps s' g' := by
  induction h with
  | ret => exact ⟨_, hmeets, hkeeps⟩
  | call input hcareful hdoes _ ih =>
    obtain ⟨hpossible, hkeeps'⟩ := hact hkeeps hmeets.1 hcareful hdoes
    exact ih (hmeets.2 _ hpossible) hkeeps'

/-- **The rule for calls one after the other**: only the auxiliary variable of the call in progress
matters. -/
theorem Serial.invariant
    (hstarts : ∀ p, S.starts p → Meets S.discipline p S.fresh fun _ g => settled g)
    (hact : ∀ {s i g op input answer s'}, Keeps s g → S.discipline.may g op →
      careful s (Function.update (fun _ => S.fresh) i g) i op input →
      S.does s i op input answer s' →
      S.discipline.possible g op answer ∧ Keeps s' (S.discipline.note g op answer))
    (hfinish : ∀ {s g}, Keeps s g → settled g → Keeps s S.fresh)
    (h : Serial S careful s s') (hkeeps : Keeps s S.fresh) : Keeps s' S.fresh := by
  induction h with
  | done => exact hkeeps
  | call i hp hcall _ ih =>
    obtain ⟨g, hsettled, hend⟩ := hcall.invariant hact (hstarts _ hp) hkeeps
    exact ih (hfinish hend hsettled)

end Serial

/-- The state in which a program ends, if each operation is a function of an input from outside,
and the inputs are given. -/
def Prog.play {α : Type} (act : ι → (op : I.Op) → σ → I.Answer op × σ) (inputs : ℕ → ι) :
    Prog I α → ℕ → σ → σ
  | .ret _, _, s => s
  | .call op next, k, s =>
    (next (act (inputs k) op s).1).play act inputs (k + 1) (act (inputs k) op s).2

/-- The condition holds at each operation. -/
def Prog.along {α : Type} (act : ι → (op : I.Op) → σ → I.Answer op × σ) (inputs : ℕ → ι)
    (ok : σ → I.Op → ι → Bool) : Prog I α → ℕ → σ → Bool
  | .ret _, _, _ => true
  | .call op next, k, s => ok s op (inputs k) &&
      (next (act (inputs k) op s).1).along act inputs ok (k + 1) (act (inputs k) op s).2

/-- **Playing a program is running it alone.** -/
lemma Prog.alone_play {act : ι → (op : I.Op) → σ → I.Answer op × σ} {inputs : ℕ → ι}
    {ok : σ → I.Op → ι → Bool}
    (hdoes : ∀ s i op input, S.does s i op input (act input op s).1 (act input op s).2)
    (hok : ∀ s notes i op input, ok s op input = true → careful s notes i op input) (i : ℕ)
    (p : Prog I Unit) (k : ℕ) (s : σ) (g : G) (halong : p.along act inputs ok k s = true) :
    Alone S careful i s g p (p.play act inputs k s) := by
  induction p generalizing k s g with
  | ret a => exact .ret
  | call op next ih =>
    rw [Prog.along, Bool.and_eq_true] at halong
    exact .call (inputs k) (hok _ _ _ _ _ halong.1) (hdoes s i op (inputs k))
      (ih _ (k + 1) _ _ halong.2)

/-- A call in progress, with the others at their start. -/
def System.busy (S : System I σ ι G) (i : ℕ) (s : σ) (g : G) (p : Prog I Unit) : Config I σ G :=
  { shared := s
    calls := Function.update (fun _ => none) i (some p)
    notes := Function.update (fun _ => S.fresh) i g }

lemma System.busy_calls (S : System I σ ι G) (i : ℕ) (s : σ) (g : G) (p : Prog I Unit) :
    (S.busy i s g p).calls i = some p := by
  simp only [System.busy, Function.update_self]

lemma Alone.reaches_end {i : ℕ} {s s' : σ} {g : G} {p : Prog I Unit}
    (h : Alone S careful i s g p s') : Reaches S careful (S.busy i s g p) (S.initial s') := by
  induction h with
  | @ret s g =>
    have hstep : Step S careful (S.busy i s g (.ret ())) _ := .finish (S.busy_calls i s g _)
    refine .single ?_
    simpa [System.busy, System.initial, Function.update_idem, Function.update_eq_self] using hstep
  | @call s s' s'' g op next answer input hcareful hdoes _ ih =>
    have hstep := Step.act (S.busy_calls i s g (.call op next)) hcareful hdoes
    refine .head ?_ ih
    simpa [System.busy, Function.update_idem] using hstep

/-- **A call that runs alone** is a run of the system. -/
lemma Alone.reaches {i : ℕ} {s s' : σ} {p : Prog I Unit} (hp : S.starts p)
    (h : Alone S careful i s S.fresh p s') : Reaches S careful (S.initial s) (S.initial s') := by
  have hstart : Step S careful (S.initial s) _ := .start (i := i) (rfl : none = none) hp
  refine .head ?_ h.reaches_end
  simpa [System.busy, System.initial, Function.update_eq_self] using hstart

end Interleaving

end Go
