/-
A whole number shared out over places: the quotient to each, one more to the first ones as long as
the remainder lasts, and never less than one.

* `shareOf`: what a place gets.
* `sum_shareOf`: together the places get the number, or one each if there are more of them.
* `shareOf_differ_iff`: when two places get different shares.
-/
import Mathlib.Tactic
import Mathlib.Algebra.BigOperators.Intervals

namespace Go

/-- What the place `i` of `n` gets of the share. -/
def shareOf (share n i : ℕ) : ℕ := max 1 (share / n + if i < share % n then 1 else 0)

lemma shareOf_pos (share n i : ℕ) : 0 < shareOf share n i := by
  unfold shareOf
  omega

/-- With fewer units than places, every place gets one. -/
lemma shareOf_of_lt {share n i : ℕ} (h : share < n) : shareOf share n i = 1 := by
  unfold shareOf
  rw [Nat.div_eq_of_lt h]
  split <;> rfl

lemma shareOf_of_le {share n i : ℕ} (hn : 0 < n) (h : n ≤ share) :
    shareOf share n i = share / n + if i < share % n then 1 else 0 := by
  have hquotient : 0 < share / n := Nat.div_pos h hn
  unfold shareOf
  omega

/-- **The places get the share together**, or one each. -/
theorem sum_shareOf (share n : ℕ) (hn : 0 < n) :
    ∑ i ∈ Finset.range n, shareOf share n i = max share n := by
  by_cases h : share < n
  · have hone : ∀ i ∈ Finset.range n, shareOf share n i = 1 := fun i _ => shareOf_of_lt h
    rw [Finset.sum_congr rfl hone, Finset.sum_const, Finset.card_range, smul_eq_mul, mul_one,
      max_eq_right h.le]
  · rw [not_lt] at h
    have hfirst : (Finset.range n).filter (· < share % n) = Finset.range (share % n) := by
      ext i
      have hmod := Nat.mod_lt share hn
      simp only [Finset.mem_filter, Finset.mem_range]
      omega
    calc ∑ i ∈ Finset.range n, shareOf share n i
        = ∑ i ∈ Finset.range n, (share / n + if i < share % n then 1 else 0) :=
          Finset.sum_congr rfl fun i _ => shareOf_of_le hn h
      _ = n * (share / n) + share % n := by
          rw [Finset.sum_add_distrib, Finset.sum_const, Finset.card_range, smul_eq_mul,
            Finset.sum_boole, hfirst, Finset.card_range]
          rfl
      _ = max share n := by rw [Nat.div_add_mod, max_eq_left h]

/-- Two places get different shares exactly if there is a remainder, and a unit for every place. -/
lemma shareOf_differ_iff {share n : ℕ} (hn : 0 < n) :
    (∃ i < n, shareOf share n i ≠ shareOf share n 0) ↔ n < share ∧ share % n ≠ 0 := by
  constructor
  · rintro ⟨i, hi, hdiffer⟩
    by_cases h : share < n
    · exact absurd (by rw [shareOf_of_lt h, shareOf_of_lt h]) hdiffer
    · rw [not_lt] at h
      rw [shareOf_of_le hn h, shareOf_of_le hn h] at hdiffer
      have hremainder : share % n ≠ 0 := by
        intro hzero
        simp [hzero] at hdiffer
      refine ⟨lt_of_le_of_ne h ?_, hremainder⟩
      rintro rfl
      exact hremainder (Nat.mod_self _)
  · rintro ⟨hlt, hremainder⟩
    have hmod := Nat.mod_lt share hn
    refine ⟨share % n, hmod, ?_⟩
    rw [shareOf_of_le hn hlt.le, shareOf_of_le hn hlt.le, if_neg (lt_irrefl _),
      if_pos (Nat.pos_of_ne_zero hremainder)]
    omega

/-- Two sides that get at least one for each keep a proportion exactly if it needs no more than
that, or their sizes are in it. -/
theorem proportion_iff {s r n m : ℕ} (hs : 0 < s) (hr : 0 < r) :
    (s + r) * max s n = s * (max s n + max r m) ↔ n ≤ s ∧ m ≤ r ∨ (s + r) * n = s * (n + m) := by
  -- both equations only compare the parts outside the side's own square
  have hcross : ∀ a b : ℕ, (s + r) * a = s * (a + b) ↔ r * a = s * b := by
    intro a b
    rw [add_mul, mul_add]
    omega
  rw [hcross, hcross]
  rcases le_or_gt n s with hn | hn <;> rcases le_or_gt m r with hm | hm
  · rw [max_eq_left hn, max_eq_left hm]
    exact iff_of_true (mul_comm r s) (.inl ⟨hn, hm⟩)
  · have hsmall : r * n ≤ s * r := by rw [mul_comm s r]; exact Nat.mul_le_mul_left r hn
    have hlarge : s * r < s * m := Nat.mul_lt_mul_of_pos_left hm hs
    rw [max_eq_left hn, max_eq_right hm.le, mul_comm r s]
    refine iff_of_false hlarge.ne ?_
    rintro (⟨-, hle⟩ | heq) <;> omega
  · have hsmall : s * m ≤ r * s := by rw [mul_comm r s]; exact Nat.mul_le_mul_left s hm
    have hlarge : r * s < r * n := Nat.mul_lt_mul_of_pos_left hn hr
    rw [max_eq_right hn.le, max_eq_left hm, mul_comm s r]
    refine iff_of_false hlarge.ne' ?_
    rintro (⟨hle, -⟩ | heq) <;> omega
  · rw [max_eq_right hn.le, max_eq_right hm.le]
    refine ⟨.inr, ?_⟩
    rintro (⟨hle, -⟩ | heq)
    · omega
    · exact heq

end Go
