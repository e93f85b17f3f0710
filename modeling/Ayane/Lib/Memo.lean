import Mathlib.Logic.Function.Basic

/-!
# Memoized values

A memo keeps a value for some keys. Values are dropped at any time, and one is put in place
of what was there. What is true of every value that is put is true of every value that is
kept (`Holds`).
-/

namespace Memo

variable {κ β : Type*}

/-- The value that is kept for each key. -/
abbrev Entries (κ β : Type*) := κ → Option β

/-- Values may have been dropped, and none was put. -/
def Shrinks (m m' : Entries κ β) : Prop := ∀ k, m' k = none ∨ m' k = m k

/-- Every value that is kept is as `P` says. -/
def Holds (P : κ → β → Prop) (m : Entries κ β) : Prop := ∀ k b, m k = some b → P k b

theorem Shrinks.refl (m : Entries κ β) : Shrinks m m := fun _ => .inr rfl

theorem Shrinks.trans {m m' m'' : Entries κ β} (h : Shrinks m m') (h' : Shrinks m' m'') :
    Shrinks m m'' := by
  intro k
  obtain hnone | hsame := h' k
  · exact .inl hnone
  · rw [hsame]
    exact h k

theorem Shrinks.eq_some {m m' : Entries κ β} (h : Shrinks m m') {k : κ} {b : β}
    (hb : m' k = some b) : m k = some b := by
  obtain hnone | hsame := h k
  · cases hnone.symm.trans hb
  · rw [← hsame, hb]

theorem Holds.shrinks {P : κ → β → Prop} {m m' : Entries κ β} (h : Holds P m)
    (hshrinks : Shrinks m m') : Holds P m' :=
  fun k b hb => h k b (hshrinks.eq_some hb)

/-- A value that is put, when what is said of the others still holds. -/
theorem Holds.put [DecidableEq κ] {P Q : κ → β → Prop} {m : Entries κ β} (h : Holds P m) {k : κ}
    {b : β} (hb : Q k b) (hother : ∀ k' ≠ k, ∀ b', P k' b' → Q k' b') :
    Holds Q (Function.update m k (some b)) := by
  intro k' b' hb'
  by_cases hk : k' = k
  · subst hk
    rw [Function.update_self] at hb'
    cases hb'
    exact hb
  · rw [Function.update_of_ne hk] at hb'
    exact hother k' hk b' (h k' b' hb')

end Memo
