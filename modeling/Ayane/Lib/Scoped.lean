import Mathlib.Data.List.Infix

/-!
# Names in front of values

Values of several sources share one space of keys when each source puts its name and a
separator in front of them. Nothing is escaped, so a key does not say where its name
ends. Two sources can produce one key exactly when their names overlap: they are equal,
or one is the other with a separator and more behind it.
-/

namespace Scoped

variable {α : Type*} (sep : α)

/-- A value under a name. -/
def under (name value : List α) : List α := name ++ sep :: value

/-- One name is the other, or goes on after a separator. -/
def Overlap (a b : List α) : Prop := a = b ∨ a ++ [sep] <+: b ∨ b ++ [sep] <+: a

instance [DecidableEq α] (a b : List α) : Decidable (Overlap sep a b) :=
  inferInstanceAs (Decidable (_ ∨ _ ∨ _))

variable {sep} {a b v w : List α}

theorem Overlap.refl (a : List α) : Overlap sep a a := .inl rfl

theorem Overlap.symm (h : Overlap sep a b) : Overlap sep b a := by
  rcases h with h | h | h
  · exact .inl h.symm
  · exact .inr (.inr h)
  · exact .inr (.inl h)

theorem under_left_inj : under sep a v = under sep a w ↔ v = w := by
  simp [under]

/-- Of two readings of one key, one name ends first; the other goes on after a separator. -/
theorem overlap_of_under_eq (h : under sep a v = under sep b w) : Overlap sep a b := by
  have cut : ∀ {x y u z : List α}, y = x ++ u → sep :: v = u ++ sep :: z ∨ sep :: w = u ++ sep :: z →
      x = y ∨ x ++ [sep] <+: y := by
    intro x y u z hy hrest
    cases u with
    | nil => exact .inl (by simpa using hy.symm)
    | cons c u =>
      have hc : c = sep := by
        rcases hrest with hrest | hrest
        · exact (List.cons.inj hrest).1.symm
        · exact (List.cons.inj hrest).1.symm
      refine .inr ⟨u, ?_⟩
      simp [hy, hc]
  rcases List.append_eq_append_iff.mp h with ⟨u, hb, hrest⟩ | ⟨u, ha, hrest⟩
  · rcases cut hb (.inl hrest) with h | h
    · exact .inl h
    · exact .inr (.inl h)
  · rcases cut ha (.inr hrest) with h | h
    · exact .inl h.symm
    · exact .inr (.inr h)

/-- Names overlap exactly when some values under them have one key. -/
theorem overlap_iff_exists : Overlap sep a b ↔ ∃ v w, under sep a v = under sep b w := by
  constructor
  · rintro (rfl | ⟨u, rfl⟩ | ⟨u, rfl⟩)
    · exact ⟨[], [], rfl⟩
    · exact ⟨u ++ [sep], [], by simp [under]⟩
    · exact ⟨[], u ++ [sep], by simp [under]⟩
  · rintro ⟨v, w, h⟩
    exact overlap_of_under_eq h

theorem overlap_append_left {c : List α} : Overlap sep (c ++ a) (c ++ b) ↔ Overlap sep a b := by
  simp [Overlap, List.append_assoc, List.prefix_append_right_inj]

/-! ## Several sources -/

variable {ι : Type*} {name : ι → List α}

/-- The key of a value of one of the sources. -/
def key (sep : α) (name : ι → List α) (p : ι × List α) : List α := under sep (name p.1) p.2

/-- The keys tell source and value exactly when no two sources' names overlap. -/
theorem key_injective_iff :
    Function.Injective (key sep name) ↔ ∀ i j, i ≠ j → ¬ Overlap sep (name i) (name j) := by
  constructor
  · intro hinj i j hij hoverlap
    obtain ⟨v, w, h⟩ := overlap_iff_exists.mp hoverlap
    have hpair : (i, v) = (j, w) := hinj h
    exact hij (congrArg Prod.fst hpair)
  · rintro hapart ⟨i, v⟩ ⟨j, w⟩ h
    by_cases hij : i = j
    · subst hij
      have hvalue : v = w := under_left_inj.mp h
      subst hvalue
      rfl
    · exact absurd (overlap_of_under_eq h) (hapart i j hij)

end Scoped
