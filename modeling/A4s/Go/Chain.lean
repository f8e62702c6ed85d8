/-
Hash chains.

Records in a row, each of which fits after the one before it: it carries the next number and
commits to the tip of the record before it. What a record is and how it commits is left open.

* `Links.Linked`: a list of records is a chain; `linked_snoc`: a chain with one more record.
* `sequences`, `eq_of_sequence`, `getElem?_sequence`: the records of a chain are numbered from
  one on, and a record is known by its number.
* `Binding`, `eq_of_tipOf`: as long as no two commitments collide, a chain is known by its last
  tip, and the tip of a record by all the records before it (`take_eq_of_tip`).
-/
import Mathlib.Tactic

namespace Go

/-- How the records of a chain are linked: their number, the tip that the next record commits
to, and when a record fits at a place of the chain. -/
structure Links (ρ η : Type) where
  sequence : ρ → ℕ
  tip : ρ → η
  Fits : ℕ → η → ρ → Prop
  sequence_eq : ∀ {n : ℕ} {previous : η} {r : ρ}, Fits n previous r → sequence r = n

namespace Links

variable {ρ η : Type} (L : Links ρ η)

/-- A chain that goes on after `n` records and the tip `previous`. -/
def LinkedFrom : ℕ → η → List ρ → Prop
  | _, _, [] => True
  | n, previous, r :: rest => L.Fits (n + 1) previous r ∧ LinkedFrom (n + 1) (L.tip r) rest

/-- A chain from its start. -/
def Linked (start : η) (records : List ρ) : Prop := L.LinkedFrom 0 start records

/-- The tip of the last record. -/
def tipOf (start : η) (records : List ρ) : η := (records.getLast?.map L.tip).getD start

variable {L} {start : η} {records records' : List ρ} {r r' : ρ}

@[simp] lemma tipOf_nil : L.tipOf start [] = start := rfl

@[simp] lemma tipOf_snoc : L.tipOf start (records ++ [r]) = L.tip r := by
  simp [tipOf]

@[simp] lemma tipOf_cons : L.tipOf start (r :: records) = L.tipOf (L.tip r) records := by
  cases records with
  | nil => rfl
  | cons second rest =>
    rw [tipOf, tipOf, List.getLast?_cons_cons, List.getLast?_eq_some_getLast (by simp)]
    rfl

lemma linkedFrom_snoc {n : ℕ} {previous : η} :
    L.LinkedFrom n previous (records ++ [r]) ↔
      L.LinkedFrom n previous records ∧
        L.Fits (n + records.length + 1) (L.tipOf previous records) r := by
  induction records generalizing n previous with
  | nil => simp [LinkedFrom]
  | cons first rest ih =>
    have hlength : n + 1 + rest.length + 1 = n + (first :: rest).length + 1 := by
      rw [List.length_cons]
      omega
    rw [List.cons_append, LinkedFrom, LinkedFrom, ih, and_assoc, tipOf_cons, hlength]

/-- A chain with one more record. -/
lemma linked_snoc : L.Linked start (records ++ [r]) ↔
    L.Linked start records ∧ L.Fits (records.length + 1) (L.tipOf start records) r := by
  rw [Linked, linkedFrom_snoc, Nat.zero_add]
  exact Iff.rfl

lemma Linked.left (h : L.Linked start (records ++ records')) : L.Linked start records := by
  induction records' using List.reverseRecOn with
  | nil => simpa using h
  | append_singleton rest last ih =>
    rw [← List.append_assoc] at h
    exact ih (linked_snoc.mp h).1

section Linked

variable (h : L.Linked start records)

include h

lemma Linked.take (n : ℕ) : L.Linked start (records.take n) := by
  rw [← List.take_append_drop n records] at h
  exact h.left

/-- The records of a chain are numbered from one on. -/
lemma sequences : records.map L.sequence = List.range' 1 records.length := by
  induction records using List.reverseRecOn with
  | nil => rfl
  | append_singleton rest last ih =>
    obtain ⟨hrest, hfits⟩ := linked_snoc.mp h
    rw [List.map_append, ih hrest, List.length_append, List.length_singleton, List.range'_concat,
      List.map_singleton, L.sequence_eq hfits, Nat.one_mul, Nat.add_comm 1]

/-- A record of a chain is known by its number. -/
lemma eq_of_sequence (hr : r ∈ records) (hr' : r' ∈ records)
    (hsame : L.sequence r = L.sequence r') : r = r' := by
  have hnodup : (records.map L.sequence).Nodup := by
    rw [sequences h]
    exact List.nodup_range'
  exact List.inj_on_of_nodup_map hnodup hr hr' hsame

/-- The number of a record says where it stands. -/
lemma getElem?_sequence {i : ℕ} (hr : records[i]? = some r) : L.sequence r = i + 1 := by
  have hat : (records.map L.sequence)[i]? = some (L.sequence r) := by
    rw [List.getElem?_map, hr]
    rfl
  obtain ⟨hlt, -⟩ := List.getElem?_eq_some_iff.mp hr
  rw [sequences h, List.getElem?_range' hlt] at hat
  have hvalue := Option.some.inj hat
  omega

/-- A record stands at the place its number says. -/
lemma getElem?_of_mem (hr : r ∈ records) :
    0 < L.sequence r ∧ records[L.sequence r - 1]? = some r := by
  obtain ⟨i, hi⟩ := List.mem_iff_getElem?.mp hr
  have hsequence := getElem?_sequence h hi
  have hplace : L.sequence r - 1 = i := by omega
  refine ⟨by omega, ?_⟩
  rw [hplace, hi]

lemma sequence_le_length (hr : r ∈ records) : L.sequence r ≤ records.length := by
  obtain ⟨-, hplace⟩ := getElem?_of_mem h hr
  obtain ⟨hlt, -⟩ := List.getElem?_eq_some_iff.mp hplace
  omega

/-- The records up to a record of the chain end in it. -/
lemma take_sequence (hr : r ∈ records) :
    records.take (L.sequence r) = records.take (L.sequence r - 1) ++ [r] := by
  obtain ⟨hpos, hplace⟩ := getElem?_of_mem h hr
  have hsplit : records.take (L.sequence r - 1 + 1) = _ := List.take_add_one
  rw [Nat.sub_add_cancel hpos, hplace] at hsplit
  exact hsplit

/-- Every record of a chain fits where it stands. -/
lemma fits_of_mem (hr : r ∈ records) : ∃ previous, L.Fits (L.sequence r) previous r := by
  have hupTo := h.take (L.sequence r)
  rw [take_sequence h hr] at hupTo
  obtain ⟨-, hfits⟩ := linked_snoc.mp hupTo
  have hnumber := L.sequence_eq hfits
  rw [← hnumber] at hfits
  exact ⟨_, hfits⟩

end Linked

/-! ### What a tip commits to -/

/-- No two commitments collide: behind the tips that the chain can be at, the tip of a record
tells the record and the tip before it, and is not the start. -/
structure Binding (L : Links ρ η) (start : η) (Reached : η → Prop) : Prop where
  start_reached : Reached start
  tip_reached : ∀ {n : ℕ} {previous : η} {r : ρ}, L.Fits n previous r → Reached (L.tip r)
  tip_ne : ∀ {n : ℕ} {previous : η} {r : ρ}, L.Fits n previous r → L.tip r ≠ start
  eq_of_tip : ∀ {n n' : ℕ} {previous previous' : η} {r r' : ρ}, Reached previous →
    Reached previous' → L.Fits n previous r → L.Fits n' previous' r' → L.tip r = L.tip r' →
    previous = previous' ∧ r = r'

section Binding

variable {Reached : η → Prop}

lemma Binding.reached (hL : L.Binding start Reached) (h : L.Linked start records) :
    Reached (L.tipOf start records) := by
  induction records using List.reverseRecOn with
  | nil => exact hL.start_reached
  | append_singleton rest last _ =>
    rw [tipOf_snoc]
    exact hL.tip_reached (linked_snoc.mp h).2

/-- **A chain is known by its last tip.** -/
theorem Binding.eq_of_tipOf (hL : L.Binding start Reached) (h : L.Linked start records)
    (h' : L.Linked start records') (hsame : L.tipOf start records = L.tipOf start records') :
    records = records' := by
  -- induction back along the first chain; the second one comes apart with it
  induction records using List.reverseRecOn generalizing records' with
  | nil =>
    rcases List.eq_nil_or_concat records' with rfl | ⟨rest', last', rfl⟩
    · rfl
    · rw [List.concat_eq_append] at h' hsame
      rw [tipOf_snoc] at hsame
      exact absurd hsame.symm (hL.tip_ne (linked_snoc.mp h').2)
  | append_singleton rest last ih =>
    obtain ⟨hrest, hfits⟩ := linked_snoc.mp h
    rcases List.eq_nil_or_concat records' with rfl | ⟨rest', last', rfl⟩
    · rw [tipOf_snoc] at hsame
      exact absurd hsame (hL.tip_ne hfits)
    · rw [List.concat_eq_append] at h' hsame ⊢
      rw [tipOf_snoc, tipOf_snoc] at hsame
      obtain ⟨hrest', hfits'⟩ := linked_snoc.mp h'
      obtain ⟨hprevious, hlast⟩ :=
        hL.eq_of_tip (hL.reached hrest) (hL.reached hrest') hfits hfits' hsame
      rw [ih hrest hrest' hprevious, hlast]

/-- **Two chains that hold records with the same tip agree up to them.** -/
theorem Binding.take_eq_of_tip (hL : L.Binding start Reached) (h : L.Linked start records)
    (h' : L.Linked start records') (hr : r ∈ records) (hr' : r' ∈ records')
    (hsame : L.tip r = L.tip r') :
    records.take (L.sequence r) = records'.take (L.sequence r') := by
  refine hL.eq_of_tipOf (h.take _) (h'.take _) ?_
  rw [take_sequence h hr, take_sequence h' hr', tipOf_snoc, tipOf_snoc, hsame]

end Binding

end Links

end Go
