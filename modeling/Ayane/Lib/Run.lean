import Mathlib.Algebra.Order.Ring.Int
import Mathlib.Data.List.Count
import Mathlib.Logic.Relation

/-!
# Runs of a transition system

A run is a sequence of steps. What one step preserves, a run preserves. The second
rule is for properties that hold only of runs whose end is good: it needs that a
step from a bad state leads to a bad one, so that every state before a good end is
good. A run that is determined by its events is a history, and a property of each
event in the state it meets is a property along the history.
-/

namespace Runs

variable {σ : Type*} {Step : σ → σ → Prop}

abbrev Run (Step : σ → σ → Prop) : σ → σ → Prop := Relation.ReflTransGen Step

theorem invariant {Inv : σ → Prop} {s s' : σ} (hrun : Run Step s s') (h : Inv s)
    (hstep : ∀ ⦃s s'⦄, Step s s' → Inv s → Inv s') : Inv s' := by
  induction hrun with
  | refl => exact h
  | tail _ hlast ih => exact hstep hlast ih

theorem invariant_of_good {Good Inv : σ → Prop} {s s' : σ} (hrun : Run Step s s') (hgood : Good s')
    (h : Inv s) (hback : ∀ ⦃s s'⦄, Step s s' → Good s' → Good s)
    (hstep : ∀ ⦃s s'⦄, Step s s' → Good s' → Inv s → Inv s') : Inv s' := by
  induction hrun with
  | refl => exact h
  | tail _ hlast ih => exact hstep hlast hgood (ih (hback hlast hgood))

/-- In a log in which no two entries clash, at most one entry is of a kind whose entries clash. -/
theorem countP_le_one {α : Type*} {Clash : α → α → Prop} {log : List α} {p : α → Bool}
    (hlog : log.Pairwise fun a b => ¬Clash a b) (hp : ∀ a b, p a → p b → Clash a b) :
    log.countP p ≤ 1 := by
  induction log with
  | nil => simp
  | cons a log ih =>
    obtain ⟨ha, hlog⟩ := List.pairwise_cons.mp hlog
    by_cases hpa : p a = true
    · have hnone : log.countP p = 0 :=
        List.countP_eq_zero.mpr fun b hb hpb => ha b hb (hp a b hpa hpb)
      simp [hpa, hnone]
    · simpa [List.countP_cons, hpa] using ih hlog

/-- Entries that are a gap apart, the latest first, are at most as many as gaps fit in. -/
theorem length_mul_le_of_spaced {α : Type*} {time : α → ℤ} {gap : ℕ} {log : List α} {start finish : ℤ}
    (hspaced : log.Pairwise fun a b => time b + gap ≤ time a)
    (hrange : ∀ a ∈ log, start ≤ time a ∧ time a ≤ finish) (hle : start ≤ finish) :
    (log.length * gap : ℤ) ≤ finish - start + gap := by
  induction log generalizing finish with
  | nil => simp only [List.length_nil]; omega
  | cons a log ih =>
    obtain ⟨hfirst, hrest⟩ := List.pairwise_cons.mp hspaced
    obtain ⟨ha, hlog⟩ := List.forall_mem_cons.mp hrange
    rw [List.length_cons]
    push_cast
    rw [add_mul, one_mul]
    rcases log.eq_nil_or_concat with rfl | ⟨_, b, rfl⟩
    · simp only [List.length_nil]
      omega
    · -- the entries before `a` are within the time up to a gap before it
      have hb := hlog b (by simp)
      have hgap := hfirst b (by simp)
      have := ih hrest (fun c hc => ⟨(hlog c hc).1, le_sub_iff_add_le.mpr (hfirst c hc)⟩) (by omega)
      omega

/-- In a log with the latest entry first, every entry is as `P` says of those before it. -/
def Explained {α : Type*} (P : α → List α → Prop) : List α → Prop
  | [] => True
  | a :: log => P a log ∧ Explained P log

theorem Explained.of_append {α : Type*} {P : α → List α → Prop} {after before : List α} {a : α}
    (h : Explained P (after ++ a :: before)) : P a before := by
  induction after with
  | nil => exact h.1
  | cons b after ih => exact ih h.2

/-! ## Histories -/

section

variable {ε : Type*} {after : σ → ε → σ} {P Q : σ → ε → Prop}

/-- Every event of a history has `P` in the state it meets. -/
def Along (after : σ → ε → σ) (P : σ → ε → Prop) : σ → List ε → Prop
  | _, [] => True
  | s, e :: es => P s e ∧ Along after P (after s e) es

/-- What follows from an invariant of the state and the events to come holds along the history. -/
theorem along (Inv : σ → List ε → Prop) {s : σ} {es : List ε} (h : Inv s es)
    (hP : ∀ s e es, Inv s (e :: es) → P s e) (hstep : ∀ s e es, Inv s (e :: es) → Inv (after s e) es) :
    Along after P s es := by
  induction es generalizing s with
  | nil => trivial
  | cons e es ih => exact ⟨hP s e es h, ih (hstep s e es h)⟩

/-- Two properties hold along the same histories if under an invariant they hold of the same
events, and an event that has them preserves the invariant. -/
theorem along_iff (Inv : σ → List ε → Prop) {s : σ} {es : List ε} (h : Inv s es)
    (hsame : ∀ s e es, Inv s (e :: es) → (P s e ↔ Q s e))
    (hstep : ∀ s e es, Inv s (e :: es) → P s e → Inv (after s e) es) :
    Along after P s es ↔ Along after Q s es := by
  induction es generalizing s with
  | nil => exact Iff.rfl
  | cons e es ih =>
    unfold Along
    rw [← hsame s e es h]
    refine and_congr_right fun hp => ?_
    exact ih (hstep s e es h hp)

end

end Runs
