import Mathlib.Logic.Function.Basic
import Mathlib.Order.Basic

/-!
# Leases

A registry of leases says which keys are held, and until when. A key may be
taken again once its lease has ended, so what a registry guarantees about a
key is that nobody else gets it before then. That guarantee survives any sequence
of steps that neither turn the clock back nor end a lease early (`Evolves`).
-/

namespace Lease

variable {κ τ : Type*} [Preorder τ]

/-- The end of the lease on each key that is held. -/
abbrev Held (κ τ : Type*) := κ → Option τ

/-- No lease on `k` lasts beyond `now`. -/
def Free (held : Held κ τ) (now : τ) (k : κ) : Prop :=
  ∀ u, held k = some u → u ≤ now

/-- A lease on `k` until `u` has not been cut short: `k` is held at least until then, or that
moment has come. -/
def Lasts (held : Held κ τ) (now : τ) (k : κ) (u : τ) : Prop :=
  (∃ v, held k = some v ∧ u ≤ v) ∨ u ≤ now

/-- From `held` at `now` to `held'` at `now'`, every lease is kept to its end. -/
structure Evolves (held held' : Held κ τ) (now now' : τ) : Prop where
  clock : now ≤ now'
  keeps : ∀ k u, held k = some u → held' k = some u ∨ u ≤ now'

/-- Only leases that have ended at `now` are dropped, and none is granted. -/
def Expires (held held' : Held κ τ) (now : τ) : Prop :=
  ∀ k, held' k = held k ∨ held' k = none ∧ Free held now k

section

variable {held held' held'' : Held κ τ} {now now' now'' u : τ} {k : κ}

theorem free_of_none (h : held k = none) : Free held now k := by
  intro u hu
  rw [h] at hu
  cases hu

theorem free_iff_of_some (h : held k = some u) : Free held now k ↔ u ≤ now := by
  simp [Free, h]

theorem Free.mono (h : Free held now k) (hnow : now ≤ now') : Free held now' k :=
  fun u hu => (h u hu).trans hnow

/-- Whoever gets a key gets it after the leases on it have ended. -/
theorem Lasts.le_of_free (h : Lasts held now k u) (hfree : Free held now k) : u ≤ now := by
  obtain ⟨v, hv, huv⟩ | hlapsed := h
  · exact huv.trans (hfree v hv)
  · exact hlapsed

/-- A lease that lasts until `u` lasts until any earlier moment. -/
theorem Lasts.earlier {u' : τ} (h : Lasts held now k u) (hu : u' ≤ u) : Lasts held now k u' := by
  obtain ⟨v, hv, huv⟩ | hlapsed := h
  · exact .inl ⟨v, hv, hu.trans huv⟩
  · exact .inr (hu.trans hlapsed)

theorem Evolves.refl (held : Held κ τ) (now : τ) : Evolves held held now now :=
  ⟨le_rfl, fun _ _ h => .inl h⟩

theorem Evolves.trans (h : Evolves held held' now now') (h' : Evolves held' held'' now' now'') :
    Evolves held held'' now now'' where
  clock := h.clock.trans h'.clock
  keeps k u hu := by
    obtain hkeep | hlapsed := h.keeps k u hu
    · exact h'.keeps k u hkeep
    · exact .inr (hlapsed.trans h'.clock)

/-- Time passes and nothing is released. -/
theorem Evolves.wait (held : Held κ τ) (h : now ≤ now') : Evolves held held now now' :=
  ⟨h, fun _ _ hu => .inl hu⟩

theorem Evolves.lasts (h : Evolves held held' now now') (hlasts : Lasts held now k u) :
    Lasts held' now' k u := by
  obtain ⟨v, hv, huv⟩ | hlapsed := hlasts
  · obtain hkeep | hend := h.keeps k v hv
    · exact .inl ⟨v, hkeep, huv⟩
    · exact .inr (huv.trans hend)
  · exact .inr (hlapsed.trans h.clock)

theorem Expires.refl (held : Held κ τ) (now : τ) : Expires held held now := fun _ => .inl rfl

theorem Expires.evolves (h : Expires held held' now') (hclock : now ≤ now') :
    Evolves held held' now now' where
  clock := hclock
  keeps k u hu := by
    obtain hsame | ⟨-, hfree⟩ := h k
    · exact .inl (hsame.trans hu)
    · exact .inr (hfree u hu)

/-- A lease that lasts beyond `now` does not expire. -/
theorem Expires.held_iff (h : Expires held held' now) (hu : ¬u ≤ now) :
    held' k = some u ↔ held k = some u := by
  obtain hsame | ⟨hnone, hfree⟩ := h k
  · rw [hsame]
  · rw [hnone]
    constructor
    · intro hu'
      cases hu'
    · intro hu'
      exact absurd (hfree u hu') hu

/-- What expires leaves free keys free, at every moment. -/
theorem Expires.free (h : Expires held held' now') (hfree : Free held now k) :
    Free held' now k := by
  obtain hsame | ⟨hnone, -⟩ := h k
  · intro u hu
    exact hfree u (hsame.symm.trans hu)
  · exact free_of_none hnone

variable [DecidableEq κ]

/-- A key that is free is leased. -/
theorem Free.evolves_update (hfree : Free held now' k) (hclock : now ≤ now') (u : τ) :
    Evolves held (Function.update held k (some u)) now now' where
  clock := hclock
  keeps j v hv := by
    by_cases hj : j = k
    · subst hj
      exact .inr (hfree v hv)
    · exact .inl (by rw [Function.update_of_ne hj, hv])

theorem lasts_update (held : Held κ τ) (now : τ) (k : κ) {u v : τ} (h : u ≤ v) :
    Lasts (Function.update held k (some v)) now k u :=
  .inl ⟨v, Function.update_self .., h⟩

end

/-! ## Several leases in a row -/

/-- A lease on `key`, granted at `now` until `ends`. -/
structure Grant (κ τ : Type*) where
  key : κ
  now : τ
  ends : τ

section

variable [DecidableEq κ] {held : Held κ τ} {gs : List (Grant κ τ)}

def Grant.apply (g : Grant κ τ) (held : Held κ τ) : Held κ τ :=
  Function.update held g.key (some g.ends)

def applyAll (held : Held κ τ) (gs : List (Grant κ τ)) : Held κ τ :=
  gs.foldl (fun held g => g.apply held) held

omit [Preorder τ] in
/-- A row changes the keys of its leases and no others. -/
theorem applyAll_of_notMem {k : κ} (h : ∀ g ∈ gs, g.key ≠ k) : applyAll held gs k = held k := by
  induction gs generalizing held with
  | nil => rfl
  | cons g gs ih =>
    obtain ⟨hg, hgs⟩ := List.forall_mem_cons.mp h
    have hsame : g.apply held k = held k := Function.update_of_ne hg.symm _ _
    exact (ih hgs).trans hsame

/-- Every lease of the row finds its key free when its turn comes. -/
def Grantable : Held κ τ → List (Grant κ τ) → Prop
  | _, [] => True
  | held, g :: gs => Free held g.now g.key ∧ Grantable (g.apply held) gs

/-- After `g`, its own key is free again when its lease has ended, and others as before. -/
theorem free_apply {g : Grant κ τ} {now : τ} {k : κ} (hnow : g.now ≤ now)
    (hg : Free held g.now g.key) :
    Free (g.apply held) now k ↔ Free held now k ∧ (g.key = k → g.ends ≤ now) := by
  by_cases hk : k = g.key
  · subst hk
    have hends : Free (g.apply held) now g.key ↔ g.ends ≤ now :=
      free_iff_of_some (Function.update_self ..)
    rw [hends]
    constructor
    · intro h
      exact ⟨hg.mono hnow, fun _ => h⟩
    · rintro ⟨-, h⟩
      exact h rfl
  · have hsame : g.apply held k = held k := Function.update_of_ne hk _ _
    simp only [Free, hsame]
    constructor
    · intro h
      exact ⟨h, fun heq => absurd heq.symm hk⟩
    · rintro ⟨h, -⟩
      exact h

/-- A row can be granted exactly when every key is free beforehand, and no lease of the row is
on a key that an earlier one still holds. -/
theorem grantable_iff (hsorted : gs.Pairwise fun g g' => g.now ≤ g'.now) :
    Grantable held gs ↔ (∀ g ∈ gs, Free held g.now g.key) ∧
      gs.Pairwise fun g g' => g.key = g'.key → g.ends ≤ g'.now := by
  induction gs generalizing held with
  | nil => simp [Grantable]
  | cons g gs ih =>
    obtain ⟨hle, hsorted⟩ := List.pairwise_cons.mp hsorted
    rw [Grantable, List.pairwise_cons, List.forall_mem_cons]
    constructor
    · rintro ⟨hg, hrest⟩
      obtain ⟨hfree, hpairs⟩ := (ih hsorted).mp hrest
      have hafter := fun g' hg' => (free_apply (hle g' hg') hg).mp (hfree g' hg')
      exact ⟨⟨hg, fun g' hg' => (hafter g' hg').1⟩, fun g' hg' => (hafter g' hg').2, hpairs⟩
    · rintro ⟨⟨hg, hfree⟩, hown, hpairs⟩
      refine ⟨hg, (ih hsorted).mpr ⟨fun g' hg' => ?_, hpairs⟩⟩
      exact (free_apply (hle g' hg') hg).mpr ⟨hfree g' hg', hown g' hg'⟩

end

end Lease
