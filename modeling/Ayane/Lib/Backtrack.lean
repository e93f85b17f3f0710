import Mathlib.Data.List.Basic
import Mathlib.Order.Basic
import Mathlib.Data.Nat.Find

/-!
# Bounded path search through classes of interchangeable vertices

A search walks a graph in which vertices of one class may stand in for each
other: from a vertex `c` it may continue from any `t` of the class of `c`. The
walk ends at a goal vertex, and only live vertices may be used. `Reaches k c`
says that a goal is `k` climbs away from `c`.

A depth-first search that cuts loops by refusing a class already on its path
loses nothing: `IsRank` counts the climbs of a shortest walk, and along such a
walk the rank falls by one at each climb (`IsRank.climb`), so no class repeats.

The second half is about searches that keep their path in mutable state: an
action `Restores` the state when it fails, and a loop over such actions finds a
success exactly when one of them succeeds from the state the loop started in.
-/

namespace Backtrack

variable {α κ : Type*}

/-- The vertices a search may use, how they climb and where the search ends. -/
structure Problem (α κ : Type*) where
  cls : α → κ
  live : α → Prop
  goal : α → Prop
  climb : α → α → Prop

/-- A goal lies `k` climbs above `c`, or above a vertex of its class. -/
inductive Reaches (P : Problem α κ) : ℕ → α → Prop where
  | here {c t : α} : P.cls t = P.cls c → P.live t → P.goal t → Reaches P 0 c
  | climb {k : ℕ} {c t d : α} : P.cls t = P.cls c → P.live t → P.climb t d →
      Reaches P k d → Reaches P (k + 1) c

variable {P : Problem α κ}

/-- Vertices of one class reach the same goals. -/
theorem Reaches.congr {k : ℕ} {c d : α} (h : Reaches P k c) (e : P.cls c = P.cls d) :
    Reaches P k d := by
  cases h with
  | here ht live goal => exact .here (ht.trans e) live goal
  | climb ht live up rest => exact .climb (ht.trans e) live up rest

/-- `Walk P k c t`: the vertices `c 0, …, c k` the walk climbs to and the vertices
`t 0, …, t k` it continues from. -/
structure Walk (P : Problem α κ) (k : ℕ) (c t : ℕ → α) : Prop where
  twin : ∀ i ≤ k, P.cls (t i) = P.cls (c i)
  live : ∀ i ≤ k, P.live (t i)
  climb : ∀ i < k, P.climb (t i) (c (i + 1))
  goal : P.goal (t k)

/-- A nonempty walk is one climb followed by the rest of the walk. -/
theorem Walk.tail {k : ℕ} {c t : ℕ → α} (w : Walk P (k + 1) c t) :
    Walk P k (fun i => c (i + 1)) (fun i => t (i + 1)) where
  twin i hi := w.twin (i + 1) (by omega)
  live i hi := w.live (i + 1) (by omega)
  climb i hi := w.climb (i + 1) (by omega)
  goal := w.goal

theorem Walk.reaches {k : ℕ} {c t : ℕ → α} (w : Walk P k c t) : Reaches P k (c 0) := by
  induction k generalizing c t with
  | zero => exact .here (w.twin 0 le_rfl) (w.live 0 le_rfl) w.goal
  | succ k ih =>
    exact .climb (w.twin 0 (by omega)) (w.live 0 (by omega)) (w.climb 0 (by omega)) (ih w.tail)

theorem Reaches.walk {k : ℕ} {a : α} (h : Reaches P k a) :
    ∃ c t : ℕ → α, c 0 = a ∧ Walk P k c t := by
  induction h with
  | @here c t ht live goal =>
    exact ⟨fun _ => c, fun _ => t, rfl, fun _ _ => ht, fun _ _ => live, fun _ hi => by omega, goal⟩
  | @climb k a u d ht live up _ ih =>
    obtain ⟨c, t, hc, w⟩ := ih
    refine ⟨fun i => i.casesOn a c, fun i => i.casesOn u t, rfl, ?_, ?_, ?_, w.goal⟩
    · rintro (_ | i) hi
      · exact ht
      · exact w.twin i (by omega)
    · rintro (_ | i) hi
      · exact live
      · exact w.live i (by omega)
    · rintro (_ | i) hi
      · simpa [hc] using up
      · exact w.climb i (by omega)

/-! ## Shortest walks -/

/-- `k` is the number of climbs of a shortest walk from `c`. -/
def IsRank (P : Problem α κ) (k : ℕ) (c : α) : Prop :=
  Reaches P k c ∧ ∀ j < k, ¬ Reaches P j c

theorem Reaches.exists_rank {k : ℕ} {c : α} (h : Reaches P k c) :
    ∃ j ≤ k, IsRank P j c := by
  classical
  have hex : ∃ j, Reaches P j c := ⟨k, h⟩
  exact ⟨Nat.find hex, Nat.find_min' hex h, Nat.find_spec hex, fun j hj => Nat.find_min hex hj⟩

/-- Along a shortest walk the rank falls by exactly one at each climb. -/
theorem IsRank.climb {k : ℕ} {c : α} (h : IsRank P (k + 1) c) :
    ∃ t d, P.cls t = P.cls c ∧ P.live t ∧ P.climb t d ∧ IsRank P k d := by
  obtain ⟨hr, least⟩ := h
  cases hr with
  | climb ht live up rest =>
    refine ⟨_, _, ht, live, up, rest, fun j hj hd => ?_⟩
    exact least (j + 1) (by omega) (.climb ht live up hd)

/-! ## Searches that keep their path in mutable state -/

section State

variable {σ β : Type}

/-- When the action fails it leaves the state as it found it. -/
def Restores (x : StateM σ Bool) : Prop :=
  ∀ s, (x.run s).1 = false → (x.run s).2 = s

theorem restores_pure (b : Bool) : Restores (pure b : StateM σ Bool) := fun _ _ => rfl

theorem anyM_cons_run (f : β → StateM σ Bool) (x : β) (xs : List β) (s : σ) :
    ((x :: xs).anyM f).run s =
      if ((f x).run s).1 then (true, ((f x).run s).2) else (xs.anyM f).run ((f x).run s).2 := by
  simp only [List.anyM, StateT.run_bind]
  cases h : ((f x).run s).1 with
  | true => simp [bind, h]; rfl
  | false => simp [bind, h]

/-- A loop over restoring actions succeeds exactly when one of them succeeds from
the state in which the loop starts, and restores that state when none does. -/
theorem anyM_spec (f : β → StateM σ Bool) (xs : List β) (h : ∀ x ∈ xs, Restores (f x)) (s : σ) :
    (((xs.anyM f).run s).1 = true ↔ ∃ x ∈ xs, ((f x).run s).1 = true) ∧
      (((xs.anyM f).run s).1 = false → ((xs.anyM f).run s).2 = s) := by
  induction xs with
  | nil => exact ⟨iff_of_false Bool.false_ne_true (by simp), fun _ => rfl⟩
  | cons x xs ih =>
    have ih := ih fun y hy => h y (List.mem_cons_of_mem _ hy)
    rw [anyM_cons_run]
    cases hx : ((f x).run s).1 with
    | true => simp [hx]
    | false =>
      have hs : ((f x).run s).2 = s := h x List.mem_cons_self s hx
      simpa [hx, hs] using ih

theorem anyM_eq_true (f : β → StateM σ Bool) {xs : List β} (h : ∀ x ∈ xs, Restores (f x)) (s : σ) :
    ((xs.anyM f).run s).1 = true ↔ ∃ x ∈ xs, ((f x).run s).1 = true :=
  (anyM_spec f xs h s).1

theorem restores_anyM (f : β → StateM σ Bool) {xs : List β} (h : ∀ x ∈ xs, Restores (f x)) :
    Restores (xs.anyM f) :=
  fun s => (anyM_spec f xs h s).2

end State

end Backtrack
