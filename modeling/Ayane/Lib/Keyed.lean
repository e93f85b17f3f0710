import Mathlib.Data.List.Nodup

/-!
# Lists with a key

A list whose elements have a key is edited by key: elements are removed by their key,
or put in place of those that have it. What a list holds under a key (`under`) after an
edit is computed from what it held before, and no two elements share a key exactly when
every key has at most one.
-/

namespace Keyed

variable {α κ : Type*} [DecidableEq κ] (key : α → κ)

/-- The elements with the key `k`, in order. -/
def under (xs : List α) (k : κ) : List α := xs.filter fun x => key x = k

def remove (xs : List α) (k : κ) : List α := xs.filter fun x => key x ≠ k

/-- Put `x` in place of the elements with its key. -/
def upsert (xs : List α) (x : α) : List α := remove key xs (key x) ++ [x]

def upsertAll (xs ys : List α) : List α := ys.foldl (upsert key) xs

/-- No two elements have one key. -/
def Distinct (xs : List α) : Prop := (xs.map key).Nodup

variable {key} {xs ys : List α} {x : α} {j k : κ}

@[simp] theorem under_append : under key (xs ++ ys) k = under key xs k ++ under key ys k :=
  List.filter_append ..

@[simp] theorem under_singleton : under key [x] k = if key x = k then [x] else [] := by
  by_cases h : key x = k <;> simp [under, h]

@[simp] theorem under_remove : under key (remove key xs j) k = if j = k then [] else under key xs k := by
  unfold under remove
  rw [List.filter_filter]
  split_ifs with h
  · subst h
    simp
  · refine List.filter_congr fun x _ => ?_
    by_cases hx : key x = k
    · simp [hx, Ne.symm h]
    · simp [hx]

@[simp] theorem under_upsert : under key (upsert key xs x) k = if key x = k then [x] else under key xs k := by
  unfold upsert
  rw [under_append, under_remove, under_singleton]
  split_ifs with h <;> simp

/-- Of several elements put under one key the last one stays. -/
theorem under_upsertAll : under key (upsertAll key xs ys) k =
    match (under key ys k).getLast? with
    | some y => [y]
    | none => under key xs k := by
  unfold upsertAll
  induction ys generalizing xs with
  | nil => rfl
  | cons y ys ih =>
    rw [List.foldl_cons, ih, under_upsert]
    by_cases hy : key y = k
    · have hcons : under key (y :: ys) k = y :: under key ys k := by simp [under, hy]
      rw [hcons, List.getLast?_cons]
      cases (under key ys k).getLast? <;> simp [hy]
    · have hcons : under key (y :: ys) k = under key ys k := by simp [under, hy]
      rw [hcons, if_neg hy]

theorem mem_under : x ∈ under key xs k ↔ x ∈ xs ∧ key x = k := by
  simp [under]

/-- The elements under a key are found by the first of them. -/
theorem find?_eq_head? : xs.find? (fun x => key x = k) = (under key xs k).head? :=
  List.head?_filter.symm

omit [DecidableEq κ] in
theorem distinct_nil : Distinct key ([] : List α) := List.nodup_nil

theorem Distinct.remove (h : Distinct key xs) : Distinct key (remove key xs k) :=
  h.sublist (List.filter_sublist.map _)

omit [DecidableEq κ] in
theorem Distinct.append_singleton (h : Distinct key xs) (hx : ∀ y ∈ xs, key y ≠ key x) :
    Distinct key (xs ++ [x]) := by
  unfold Distinct
  rw [List.map_append]
  refine h.append (List.nodup_singleton _) ?_
  simpa [List.disjoint_singleton] using hx

theorem Distinct.upsert (h : Distinct key xs) : Distinct key (upsert key xs x) := by
  refine (h.remove).append_singleton fun y hy => ?_
  simpa using (List.mem_filter.mp hy).2

theorem Distinct.upsertAll (h : Distinct key xs) : Distinct key (upsertAll key xs ys) := by
  unfold Keyed.upsertAll
  induction ys generalizing xs with
  | nil => exact h
  | cons y ys ih => exact ih h.upsert

/-! ## Looking up -/

theorem Distinct.length_under_le_one (h : Distinct key xs) : (under key xs k).length ≤ 1 := by
  have hsub : ((under key xs k).map key).Nodup := h.sublist (List.filter_sublist.map _)
  have hk : (under key xs k).map key = List.replicate (under key xs k).length k :=
    List.eq_replicate_iff.mpr ⟨List.length_map _, fun j hj => by
      obtain ⟨x, hx, rfl⟩ := List.mem_map.mp hj
      exact (mem_under.mp hx).2⟩
  rw [hk] at hsub
  exact List.nodup_replicate.mp hsub

/-- Under distinct keys, what is found by its key does not depend on the order. -/
theorem Distinct.find?_eq_of_perm (h : Distinct key xs) (hperm : xs.Perm ys) :
    xs.find? (fun x => key x = k) = ys.find? (fun x => key x = k) := by
  rw [find?_eq_head?, find?_eq_head?]
  have hfilter : (under key xs k).Perm (under key ys k) := hperm.filter _
  have hlength := @Distinct.length_under_le_one _ _ _ _ _ k h
  generalize under key xs k = as at hfilter hlength
  match as, hlength with
  | [], _ => rw [hfilter.nil_eq]
  | [x], _ => rw [hfilter.singleton_eq]

end Keyed
