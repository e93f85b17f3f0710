import Mathlib.Algebra.Order.Floor.Ring
import Mathlib.Algebra.Order.Ring.Int
import Mathlib.Algebra.Ring.Int.Parity
import Mathlib.Tactic.Linarith

/-!
# Rounding to the nearest integer

A number is rounded to the nearest integer, and halfway between two integers to the even one
(`nearestEven`). Rounding does not pass an integer bound (`nearestEven_le`), and stays strictly
below one unless the number is within a half of it (`nearestEven_lt_iff`).
-/

namespace Rounding

variable {α : Type*} [Field α] [LinearOrder α] [IsStrictOrderedRing α] [FloorRing α] {x : α} {n : ℤ}

/-- The integer next to `x`, and of two such integers the even one. -/
def nearestEven (x : α) : ℤ :=
  if 2 * (x - ⌊x⌋) < 1 ∨ 2 * (x - ⌊x⌋) = 1 ∧ Even ⌊x⌋ then ⌊x⌋ else ⌊x⌋ + 1

theorem nearestEven_lt_iff :
    nearestEven x < n ↔ 1 < 2 * (n - x) ∨ 2 * (n - x) = 1 ∧ ¬Even n := by
  have hlow := Int.floor_le x
  have hhigh := Int.lt_floor_add_one x
  unfold nearestEven
  generalize ⌊x⌋ = k at *
  have hcases : n ≤ k ∨ n = k + 1 ∨ k + 2 ≤ n := by omega
  rcases hcases with hn | rfl | hn
  · -- the bound is not above the number
    have hcast : (n : α) ≤ k := by exact_mod_cast hn
    have hfalse : ¬(1 < 2 * (n - x) ∨ 2 * (n - x) = 1 ∧ ¬Even n) := by
      rintro (h | ⟨h, -⟩) <;> linarith
    refine iff_of_false ?_ hfalse
    split_ifs <;> omega
  · -- the bound is the next integer, which is taken when it is nearer
    push_cast
    rw [Int.even_add_one, not_not]
    split_ifs with h
    · refine iff_of_true (by omega) ?_
      rcases h with h | ⟨h, heven⟩
      · exact .inl (by linarith)
      · exact .inr ⟨by linarith, heven⟩
    · refine iff_of_false (by omega) ?_
      rintro (h' | ⟨h', heven⟩)
      · exact h (.inl (by linarith))
      · exact h (.inr ⟨by linarith, heven⟩)
  · have hcast : (k : α) + 2 ≤ n := by exact_mod_cast hn
    refine iff_of_true ?_ (.inl (by linarith))
    split_ifs <;> omega

theorem nearestEven_le (h : x ≤ n) : nearestEven x ≤ n := by
  rw [← Int.lt_add_one_iff, nearestEven_lt_iff]
  push_cast
  exact .inl (by linarith)

theorem nearestEven_nonneg (h : 0 ≤ x) : 0 ≤ nearestEven x := by
  rw [← not_lt, nearestEven_lt_iff]
  push_cast
  rintro (h' | ⟨h', -⟩) <;> linarith

end Rounding
