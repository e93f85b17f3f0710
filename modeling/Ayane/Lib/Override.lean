import Mathlib.Data.List.Count

/-!
# Settings that entries override

A list of entries, each of which may set a value. A later value replaces an earlier one, so
that what counts is the last (`last`). Values that are adjoined to a list instead pile up,
each once, from the entry on that replaced the list (`since`).
-/

namespace Override

variable {α β : Type*}

/-- The last value that an entry sets. -/
def last (f : β → Option α) (xs : List β) : Option α := (xs.filterMap f).getLast?

@[simp] theorem last_nil (f : β → Option α) : last f [] = none := rfl

theorem last_cons (f : β → Option α) (x : β) (xs : List β) :
    last f (x :: xs) = (last f xs).or (f x) := by
  cases hx : f x with
  | none => simp [last, hx]
  | some a => simp [last, hx, List.getLast?_cons, Option.or_some]

/-- Folding with the later value first keeps the last one. -/
theorem foldl_or (f : β → Option α) (xs : List β) (init : Option α) :
    xs.foldl (fun acc x => (f x).or acc) init = (last f xs).or init := by
  induction xs generalizing init with
  | nil => rfl
  | cons x xs ih => rw [List.foldl_cons, ih, last_cons, Option.or_assoc]

/-- The entries from the one on that sets the last value, or all of them when none does. -/
def since (f : β → Option α) : List β → List β
  | [] => []
  | x :: xs => if (last f xs).isSome then since f xs else x :: xs

theorem since_of_last_eq_none {f : β → Option α} {xs : List β} (h : last f xs = none) :
    since f xs = xs := by
  cases xs with
  | nil => rfl
  | cons x xs =>
    rw [last_cons, Option.or_eq_none_iff] at h
    simp [since, h.1]

theorem since_subset (f : β → Option α) (xs : List β) : since f xs ⊆ xs := by
  induction xs with
  | nil => simp [since]
  | cons x xs ih =>
    cases h : last f xs with
    | none => simp [since, h]
    | some a => simpa [since, h] using List.subset_cons_of_subset x ih

/-! ## Adjoining -/

section Adjoin

variable [DecidableEq α]

/-- Put `x` at the end, unless it is there. -/
def adjoin (xs : List α) (x : α) : List α := if x ∈ xs then xs else xs ++ [x]

theorem mem_adjoin {xs : List α} {x y : α} : y ∈ adjoin xs x ↔ y ∈ xs ∨ y = x := by
  unfold adjoin
  split_ifs with h
  · constructor
    · exact .inl
    · rintro (hy | rfl)
      · exact hy
      · exact h
  · simp

theorem count_adjoin {xs : List α} {x y : α} :
    (adjoin xs x).count y = max (xs.count y) (if y = x then 1 else 0) := by
  unfold adjoin
  by_cases hxy : y = x
  · subst hxy
    rw [if_pos rfl]
    by_cases h : y ∈ xs
    · rw [if_pos h]
      exact (Nat.max_eq_left (List.one_le_count_iff.mpr h)).symm
    · simp [h, List.count_eq_zero.mpr h]
  · by_cases h : x ∈ xs <;> simp [h, hxy, Ne.symm hxy]

theorem mem_foldl_adjoin {xs added : List α} {y : α} :
    y ∈ added.foldl adjoin xs ↔ y ∈ xs ∨ y ∈ added := by
  induction added generalizing xs with
  | nil => simp
  | cons x added ih => rw [List.foldl_cons, ih, mem_adjoin, List.mem_cons, or_assoc]

/-- What is adjoined is there at least once, and not more often than before otherwise. -/
theorem count_foldl_adjoin {xs added : List α} {y : α} :
    (added.foldl adjoin xs).count y = max (xs.count y) (if y ∈ added then 1 else 0) := by
  induction added generalizing xs with
  | nil => simp
  | cons x added ih =>
    rw [List.foldl_cons, ih, count_adjoin, Nat.max_assoc]
    congr 1
    by_cases hxy : y = x
    · subst hxy
      by_cases hmem : y ∈ added <;> simp [hmem]
    · simp [hxy]

/-- Entries that may replace the list and then adjoin to it: what is left is the last replacement
with what was adjoined since. -/
theorem foldl_replace_adjoin (set : β → Option (List α)) (added : β → List α) (xs : List β)
    (init : List α) :
    xs.foldl (fun acc x => (added x).foldl adjoin ((set x).getD acc)) init =
      ((since set xs).flatMap added).foldl adjoin ((last set xs).getD init) := by
  induction xs generalizing init with
  | nil => rfl
  | cons x xs ih =>
    rw [List.foldl_cons, ih, last_cons]
    cases h : last set xs with
    | none =>
      rw [since_of_last_eq_none h]
      simp [since, h]
    | some as => simp [since, h]

end Adjoin

end Override
