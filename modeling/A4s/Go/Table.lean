/-
Go maps with string keys.

`Table α` stands for `map[string]α`. It is the extensional ordered map of the
standard library: two tables with the same entries are equal, a lookup of a
missing key is `none`, and listing runs in key order, so that a definition that
lists a table and sorts the keys agrees with one that only lists it.

* `get_insert`, `get_erase`: lookups after a write, with the keys compared by
  equality.
* `toList_insert_perm`, `toList_erase_perm`: what a write does to the list of
  entries, up to order; every count or sum over a table follows from these.
* `count`: counting the entries with a property.
* `sum`, `sum_erase`, `sum_insert_new`: summing a value over the entries.
* `insert_insert`, `foldl_erase_again`: writes that repeat.
* `Ranges`: the orders in which a `range` loop may visit a map, what a search in such an
  order may find (`Ranges.find`, `exists_ranges_find`), and when a loop of checks passes
  (`Ranges.forM_ok`).
* `count_le_of_slots`, `count_eq_of_slots`: a pigeonhole bound; entries that hold pairwise
  distinct slots below `n` number at most `n`, and exactly `n` if they hold all of them.
-/
import Mathlib.Tactic
import Mathlib.Data.Finset.Card
import Mathlib.Data.List.Perm.Basic
import A4s.Go.Result

namespace Go

/-- `map[string]α`. -/
abbrev Table (α : Type) := Std.ExtTreeMap String α compare

variable {α : Type}

/-- A map literal. -/
def Table.ofEntries : List (String × α) → Table α
  | [] => ∅
  | (k, v) :: entries => (ofEntries entries).insert k v

open Table (ofEntries)

lemma get_insert (t : Table α) (k j : String) (v : α) :
    (t.insert k v)[j]? = if j = k then some v else t[j]? := by
  rw [Std.ExtTreeMap.getElem?_insert]
  simp only [Std.LawfulEqCmp.compare_eq_iff_eq, @eq_comm _ k j]

@[simp] lemma get_insert_self {t : Table α} {k : String} {v : α} :
    (t.insert k v)[k]? = some v := by
  rw [get_insert, if_pos rfl]

lemma get_insert_of_ne {t : Table α} {k j : String} {v : α} (h : j ≠ k) :
    (t.insert k v)[j]? = t[j]? := by
  rw [get_insert, if_neg h]

lemma get_erase (t : Table α) (k j : String) :
    (t.erase k)[j]? = if j = k then none else t[j]? := by
  rw [Std.ExtTreeMap.getElem?_erase]
  simp only [Std.LawfulEqCmp.compare_eq_iff_eq, @eq_comm _ k j]

lemma get_erase_of_ne {t : Table α} {k j : String} (h : j ≠ k) :
    (t.erase k)[j]? = t[j]? := by
  rw [get_erase, if_neg h]

@[simp] lemma get_empty (k : String) : (∅ : Table α)[k]? = none :=
  Std.ExtTreeMap.getElem?_empty

@[simp] lemma get_ofEntries_nil (j : String) : (ofEntries ([] : List (String × α)))[j]? = none :=
  get_empty j

@[simp] lemma get_ofEntries_cons (k j : String) (v : α) (entries : List (String × α)) :
    (ofEntries ((k, v) :: entries))[j]? = if j = k then some v else (ofEntries entries)[j]? :=
  get_insert _ _ _ _

namespace Table

/-- Two tables with the same lookups are equal. -/
lemma ext {s t : Table α} (h : ∀ k : String, s[k]? = t[k]?) : s = t :=
  Std.ExtTreeMap.ext_getElem? h

/-- Writing back what a table already holds changes nothing. -/
lemma insert_get_self {t : Table α} {k : String} {v : α} (h : t[k]? = some v) :
    t.insert k v = t := by
  refine ext fun j => ?_
  rw [get_insert]
  split_ifs with hj
  · rw [hj, h]
  · rfl

lemma mem_toList {t : Table α} {k : String} {v : α} : (k, v) ∈ t.toList ↔ t[k]? = some v :=
  Std.ExtTreeMap.mem_toList_iff_getElem?_eq_some

/-- An entry is listed once. -/
lemma nodup_toList (t : Table α) : t.toList.Nodup := by
  refine List.Pairwise.imp ?_ (Std.ExtTreeMap.distinct_keys_toList (t := t))
  rintro a b hab rfl
  exact hab Std.ReflCmp.compare_self

/-- What a write does to the listing, up to order. -/
lemma toList_insert_perm (t : Table α) (k : String) (v : α) :
    (t.insert k v).toList.Perm ((k, v) :: (t.erase k).toList) := by
  have hnew : (k, v) ∉ (t.erase k).toList := by
    rw [mem_toList, get_erase, if_pos rfl]
    simp
  refine (List.perm_ext_iff_of_nodup (nodup_toList _)
    (List.nodup_cons.mpr ⟨hnew, nodup_toList _⟩)).mpr ?_
  rintro ⟨j, u⟩
  rw [mem_toList, get_insert, List.mem_cons, mem_toList, get_erase]
  by_cases hj : j = k
  · simp [hj, eq_comm]
  · simp [hj]

/-- What a removal does to the listing, up to order. -/
lemma toList_erase_perm {t : Table α} {k : String} {v : α} (h : t[k]? = some v) :
    t.toList.Perm ((k, v) :: (t.erase k).toList) := by
  have := toList_insert_perm t k v
  rwa [insert_get_self h] at this

lemma erase_of_absent {t : Table α} {k : String} (h : t[k]? = none) : t.erase k = t := by
  refine ext fun j => ?_
  rw [get_erase]
  split_ifs with hj
  · rw [hj, h]
  · rfl

/-- The number of entries with a property. -/
def count (p : String → α → Bool) (t : Table α) : ℕ := t.toList.countP fun e => p e.1 e.2

section Slots

variable {p : String → α → Bool} {t : Table α} {n : ℕ} (slot : α → ℕ)

/-- The slots of the counted entries. -/
def slots (p : String → α → Bool) (t : Table α) : List ℕ :=
  (t.toList.filter fun e => p e.1 e.2).map fun e => slot e.2

lemma mem_slots {i : ℕ} : i ∈ slots slot p t ↔
    ∃ (k : String) (v : α), t[k]? = some v ∧ p k v ∧ slot v = i := by
  simp only [slots, List.mem_map, List.mem_filter, Prod.exists, mem_toList, and_assoc]

lemma length_slots : (slots slot p t).length = count p t := by
  rw [slots, List.length_map, count, List.countP_eq_length_filter]

/-- Entries with distinct slots make a list without repetition. -/
lemma nodup_slots (hinj : ∀ (k j : String) (v u : α), t[k]? = some v → t[j]? = some u → p k v →
    p j u → slot v = slot u → k = j) : (slots slot p t).Nodup := by
  have hmem : ∀ e ∈ t.toList.filter fun e => p e.1 e.2, t[e.1]? = some e.2 ∧ p e.1 e.2 := by
    intro e he
    obtain ⟨hl, hp⟩ := List.mem_filter.mp he
    exact ⟨mem_toList.mp hl, hp⟩
  refine List.Nodup.map_on ?_ ((nodup_toList t).filter _)
  intro e he e' he' heq
  obtain ⟨hg, hp⟩ := hmem e he
  obtain ⟨hg', hp'⟩ := hmem e' he'
  have hk := hinj _ _ _ _ hg hg' hp hp' heq
  have hv : e.2 = e'.2 := by
    rw [hk, hg'] at hg
    exact (Option.some.inj hg).symm
  exact Prod.ext hk hv

/-- **Pigeonhole**: if the counted entries hold pairwise distinct slots below
`n`, there are at most `n` of them. -/
lemma count_le_of_slots
    (hlt : ∀ (k : String) (v : α), t[k]? = some v → p k v → slot v < n)
    (hinj : ∀ (k j : String) (v u : α), t[k]? = some v → t[j]? = some u → p k v → p j u →
      slot v = slot u → k = j) :
    count p t ≤ n := by
  have hsub : (slots slot p t).toFinset ⊆ Finset.range n := by
    intro i hi
    obtain ⟨k, v, hg, hp, rfl⟩ := (mem_slots slot).mp (List.mem_toFinset.mp hi)
    exact Finset.mem_range.mpr (hlt k v hg hp)
  have hcard := Finset.card_le_card hsub
  rwa [List.toFinset_card_of_nodup (nodup_slots slot hinj), length_slots,
    Finset.card_range] at hcard

/-- If every slot below `n` is held as well, there are exactly `n` of them. -/
lemma count_eq_of_slots
    (hlt : ∀ (k : String) (v : α), t[k]? = some v → p k v → slot v < n)
    (hinj : ∀ (k j : String) (v u : α), t[k]? = some v → t[j]? = some u → p k v → p j u →
      slot v = slot u → k = j)
    (hsurj : ∀ i < n, ∃ (k : String) (v : α), t[k]? = some v ∧ p k v ∧ slot v = i) :
    count p t = n := by
  refine le_antisymm (count_le_of_slots slot hlt hinj) ?_
  have hsub : Finset.range n ⊆ (slots slot p t).toFinset := by
    intro i hi
    exact List.mem_toFinset.mpr ((mem_slots slot).mpr (hsurj i (Finset.mem_range.mp hi)))
  have hcard := Finset.card_le_card hsub
  rwa [List.toFinset_card_of_nodup (nodup_slots slot hinj), length_slots,
    Finset.card_range] at hcard

end Slots

section Sum

variable {M : Type} [AddCommMonoid M] {f : String → α → M} {t : Table α} {k : String} {v v' : α}

/-- The sum of a value over the entries. -/
def sum (f : String → α → M) (t : Table α) : M := (t.toList.map fun e => f e.1 e.2).sum

/-- A removal takes the entry's value off the sum. -/
lemma sum_erase (h : t[k]? = some v) : sum f t = f k v + sum f (t.erase k) := by
  rw [sum, ((toList_erase_perm h).map _).sum_eq, List.map_cons, List.sum_cons, sum]

lemma sum_insert (t : Table α) (k : String) (v : α) :
    sum f (t.insert k v) = f k v + sum f (t.erase k) := by
  rw [sum, ((toList_insert_perm t k v).map _).sum_eq, List.map_cons, List.sum_cons, sum]

/-- A new entry adds its value to the sum. -/
lemma sum_insert_new (h : t[k]? = none) (v : α) : sum f (t.insert k v) = f k v + sum f t := by
  rw [sum_insert, erase_of_absent h]

/-- An entry replaced by one of the same value keeps the sum. -/
lemma sum_insert_same (h : t[k]? = some v) (hf : f k v' = f k v) :
    sum f (t.insert k v') = sum f t := by
  rw [sum_erase h, sum_insert, hf]

end Sum

/-- Replacing an entry keeps what is read of the entries, if it is kept of the entry. -/
lemma map_get_insert {β : Type} {f : α → β} {t : Table α} {k : String} {v v' : α}
    (hget : t[k]? = some v) (hf : f v' = f v) (j : String) :
    (t.insert k v')[j]?.map f = t[j]?.map f := by
  rw [get_insert]
  split_ifs with h
  · rw [h, hget, Option.map_some, Option.map_some, hf]
  · rfl

/-- Replacing an entry keeps the keys. -/
lemma isSome_insert {t : Table α} {k : String} {v : α} (hget : t[k]? = some v) (v' : α)
    (j : String) : (t.insert k v')[j]?.isSome = t[j]?.isSome := by
  have hmap : (t.insert k v')[j]?.map (fun _ => ()) = t[j]?.map fun _ => () :=
    map_get_insert hget (by rfl) j
  rw [← Option.isSome_map, hmap, Option.isSome_map]

/-- The keys of the entries that `count` counts. -/
def keysWhere (p : String → α → Bool) (t : Table α) : Finset String :=
  ((t.toList.filter fun e => p e.1 e.2).map Prod.fst).toFinset

lemma mem_keysWhere {p : String → α → Bool} {t : Table α} {k : String} :
    k ∈ keysWhere p t ↔ ∃ v, t[k]? = some v ∧ p k v := by
  simp only [keysWhere, List.mem_toFinset, List.mem_map, List.mem_filter]
  constructor
  · rintro ⟨e, ⟨hl, hp⟩, rfl⟩
    exact ⟨e.2, mem_toList.mp hl, hp⟩
  · rintro ⟨v, hg, hp⟩
    exact ⟨(k, v), ⟨mem_toList.mpr hg, hp⟩, rfl⟩

lemma count_eq_card (p : String → α → Bool) (t : Table α) :
    count p t = (keysWhere p t).card := by
  have hnodup : ((t.toList.filter fun e => p e.1 e.2).map Prod.fst).Nodup := by
    refine List.Nodup.map_on ?_ ((nodup_toList t).filter _)
    intro e he e' he' heq
    have hg := mem_toList.mp (List.mem_filter.mp he).1
    have hg' := mem_toList.mp (List.mem_filter.mp he').1
    rw [heq, hg'] at hg
    exact Prod.ext heq (Option.some.inj hg).symm
  rw [keysWhere, List.toFinset_card_of_nodup hnodup, List.length_map, count,
    List.countP_eq_length_filter]

/-! ### Repeated writes -/

lemma insert_insert (t : Table α) (k : String) (v v' : α) :
    (t.insert k v).insert k v' = t.insert k v' := by
  refine ext fun j => ?_
  rw [get_insert, get_insert, get_insert]
  split_ifs <;> rfl

/-- Lookups after a list of keys was removed. -/
lemma get_foldl_erase (keys : List String) (t : Table α) (j : String) :
    (keys.foldl (fun t k => t.erase k) t)[j]? = if j ∈ keys then none else t[j]? := by
  induction keys generalizing t with
  | nil => simp
  | cons k keys ih =>
    rw [List.foldl_cons, ih, get_erase]
    by_cases hj : j = k
    · simp [hj]
    · simp [hj]

lemma foldl_erase_eq_self_iff {keys : List String} {t : Table α} :
    keys.foldl (fun t k => t.erase k) t = t ↔ ∀ k ∈ keys, t[k]? = none := by
  constructor
  · intro h k hk
    rw [← h, get_foldl_erase, if_pos hk]
  · intro h
    refine ext fun j => ?_
    rw [get_foldl_erase]
    split_ifs with hj
    · exact (h j hj).symm
    · rfl

/-- Keys that have been removed can be removed again. -/
lemma foldl_erase_again (keys : List String) (t : Table α) :
    keys.foldl (fun t k => t.erase k) (keys.foldl (fun t k => t.erase k) t) =
      keys.foldl (fun t k => t.erase k) t := by
  rw [foldl_erase_eq_self_iff]
  intro k hk
  rw [get_foldl_erase, if_pos hk]

/-! ### Iteration order -/

/-- An order in which `for k, v := range t` may visit the entries. -/
def Ranges (t : Table α) (order : List (String × α)) : Prop := order.Perm t.toList

lemma ranges_toList (t : Table α) : Ranges t t.toList := .refl _

/-- A search that stops at the first match finds one of the matches, in whatever order. -/
lemma Ranges.find {t : Table α} {order : List (String × α)} (h : Ranges t order)
    (p : String × α → Bool) :
    (order.find? p = none ∧ ∀ k v, t[k]? = some v → p (k, v) = false) ∨
      ∃ k v, order.find? p = some (k, v) ∧ t[k]? = some v ∧ p (k, v) = true := by
  cases hfind : order.find? p with
  | none =>
    refine .inl ⟨rfl, fun k v hget => ?_⟩
    have hmem : (k, v) ∈ order := h.mem_iff.mpr (mem_toList.mpr hget)
    simpa using List.find?_eq_none.mp hfind (k, v) hmem
  | some entry =>
    obtain ⟨k, v⟩ := entry
    have hmem : (k, v) ∈ t.toList := h.mem_iff.mp (List.mem_of_find?_eq_some hfind)
    exact .inr ⟨k, v, rfl, mem_toList.mp hmem, List.find?_some hfind⟩

/-- A loop of checks passes exactly if every entry does, in whatever order. -/
lemma Ranges.forM_ok {t : Table α} {order : List (String × α)} (h : Ranges t order)
    {f : String × α → Result Unit} {u : Unit} :
    order.forM f = .ok u ↔ ∀ k v, t[k]? = some v → f (k, v) = .ok () := by
  rw [Go.forM_ok]
  constructor
  · intro hall k v hget
    exact hall (k, v) (h.mem_iff.mpr (mem_toList.mpr hget))
  · rintro hall ⟨k, v⟩ hentry
    exact hall k v (mem_toList.mp (h.mem_iff.mp hentry))

/-- Every match is the first one in some order. -/
lemma exists_ranges_find {t : Table α} {k : String} {v : α} {p : String × α → Bool}
    (hget : t[k]? = some v) (hp : p (k, v) = true) :
    ∃ order, Ranges t order ∧ order.find? p = some (k, v) := by
  obtain ⟨before, after, hsplit⟩ := List.append_of_mem (mem_toList.mpr hget)
  refine ⟨(k, v) :: (before ++ after), ?_, List.find?_cons_of_pos hp⟩
  rw [Ranges, hsplit]
  exact List.perm_middle.symm

end Table

end Go
