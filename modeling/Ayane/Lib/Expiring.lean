import Mathlib.Logic.Function.Basic
import Mathlib.Order.Lattice

/-!
# Values that expire

A store keeps values with the time each expires. A read sees a value before its time
only, so it does not matter when a value whose time has come is really removed: stores
that differ in such values answer every later read alike (`Drops`).
-/

namespace Expiring

variable {κ β τ : Type*} [LinearOrder τ]

/-- The value for each key, with the time it expires. -/
abbrev Entries (κ β τ : Type*) := κ → Option (β × τ)

/-- The value that is read at the time `now`. -/
def read (m : Entries κ β τ) (k : κ) (now : τ) : Option β :=
  match m k with
  | some (b, expires) => if now < expires then some b else none
  | none => none

/-- Some of the values whose time has come may be gone in `m'`. -/
def Drops (now : τ) (m m' : Entries κ β τ) : Prop :=
  ∀ k, m' k = m k ∨ m' k = none ∧ ∀ b expires, m k = some (b, expires) → expires ≤ now

variable {m m' m'' : Entries κ β τ} {k : κ} {now now' : τ}

theorem read_eq_some {b : β} :
    read m k now = some b ↔ ∃ expires, m k = some (b, expires) ∧ now < expires := by
  unfold read
  cases m k with
  | none => simp
  | some entry =>
    obtain ⟨b', expires⟩ := entry
    change (if now < expires then some b' else none) = some b ↔ _
    by_cases hlt : now < expires
    · rw [if_pos hlt]
      constructor
      · rintro ⟨⟩
        exact ⟨expires, rfl, hlt⟩
      · rintro ⟨_, ⟨⟩, -⟩
        rfl
    · rw [if_neg hlt]
      constructor
      · rintro ⟨⟩
      · rintro ⟨_, ⟨⟩, h⟩
        exact absurd h hlt

/-- A read depends on nothing but the entry of its key. -/
theorem read_congr (h : m' k = m k) : read m' k now = read m k now := by
  unfold read
  rw [h]

/-- A value that is put is read until its time has come. -/
theorem read_put [DecidableEq κ] (b : β) (expires : τ) :
    read (Function.update m k (some (b, expires))) k now = if now < expires then some b else none := by
  unfold read
  rw [Function.update_self]

theorem Drops.refl (now : τ) (m : Entries κ β τ) : Drops now m m := fun _ => .inl rfl

theorem Drops.trans (h : Drops now m m') (h' : Drops now' m' m'') (hle : now ≤ now') :
    Drops now' m m'' := by
  intro k
  rcases h' k with hsame | ⟨hnone, hexpired⟩
  · rw [hsame]
    rcases h k with hkept | ⟨hgone, hexpired⟩
    · exact .inl hkept
    · exact .inr ⟨hgone, fun b expires hb => (hexpired b expires hb).trans hle⟩
  · refine .inr ⟨hnone, ?_⟩
    rcases h k with hkept | ⟨-, hexpired'⟩
    · rwa [← hkept]
    · exact fun b expires hb => (hexpired' b expires hb).trans hle

theorem Drops.mono (h : Drops now m m') (hle : now ≤ now') : Drops now' m m' :=
  h.trans (.refl now' m') hle

/-- A value that is put replaces what was there, expired or not. -/
theorem Drops.put [DecidableEq κ] (h : Drops now m m') (k : κ) (entry : β × τ) :
    Drops now (Function.update m k (some entry)) (Function.update m' k (some entry)) := by
  intro k'
  by_cases hk : k' = k
  · subst hk
    simp
  · simpa [Function.update_of_ne hk] using h k'

/-- Values that are removed when their time has come are not missed. -/
theorem Drops.read_eq (h : Drops now m m') (hle : now ≤ now') : read m' k now' = read m k now' := by
  unfold read
  rcases h k with hsame | ⟨hnone, hexpired⟩
  · rw [hsame]
  · rw [hnone]
    cases hentry : m k with
    | none => rfl
    | some entry =>
      obtain ⟨b, expires⟩ := entry
      have hpast : ¬ now' < expires := not_lt.mpr ((hexpired b expires hentry).trans hle)
      simp [hpast]

end Expiring
