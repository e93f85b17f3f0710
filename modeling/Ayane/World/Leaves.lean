import Ayane.Lib.Rely
import Ayane.World.Thread

/-!
# What threads leave behind

Threads are put together as actions are. What is said of a thread is how it can end and the storage at
that time, when others only change the storage within `R`; it is said of its parts, and then of the
whole. A part whose outcome does not matter is quiet: it keeps `R`, and a relation on what the request
has for itself.
-/

namespace Ayane

open Ayane.Action Effect Interleave

namespace Thread

variable {α β γ : Type}

/-! ## Putting threads together -/

instance : LawfulMonad Thread := by
  have hbind {α β : Type} (t : Thread α) (f : α → Thread β) (o : Own) : (t >>= f) o = (t o).bind fun
      | .ok a o' => f a o'
      | .error abort o' => .done (.error abort o') := rfl
  refine LawfulMonad.mk' _ (fun t => ?_) (fun _ _ => rfl) (fun t f g => ?_)
  · funext o
    refine Eq.trans (congrArg (t o).bind (funext fun r => ?_)) (t o).bind_done
    cases r <;> rfl
  · funext o
    rw [hbind, hbind, hbind, Prog.bind_assoc]
    congr 1
    funext r
    cases r <;> rfl

/-- A value of what the request has for itself. -/
def reads (f : Own → α) : Thread α := fun o => .done (.ok (f o) o)

/-- A result, without a step. -/
def ofResult : Result α → Thread α
  | .ok a => pure a
  | .error e => fun o => .done (.error (.error e) o)

@[simp] theorem alone_reads (f : Own → α) :
    alone (reads f) = do let w ← get; return f w.own := rfl

@[simp] theorem alone_ofResult (r : Result α) : alone (ofResult r) = Action.ofResult r := by
  cases r <;> rfl

theorem attempt_reads_bind (f : Own → α) (t : α → Thread β) :
    attempt (reads f >>= t) = reads f >>= fun a => attempt (t a) := rfl

theorem attempt_map (t : Thread α) (f : α → β) :
    attempt (t >>= fun a => pure (f a)) = attempt t >>= fun r => pure (r.map f) := by
  funext o
  refine ((t o).bind_assoc _ _).trans (Eq.trans ?_ ((t o).bind_assoc _ _).symm)
  congr 1
  funext r
  rcases r with ⟨a, o'⟩ | ⟨_ | _, o'⟩ <;> rfl

/-! ## Quiet threads -/

/-- Every step keeps `R`, and however the thread ends, `S` relates what the request has for itself before
and after. -/
structure Quiet (R : Storage → Storage → Prop) (S : Own → Own → Prop) (t : Thread α) : Prop where
  silent : ∀ o, (t o).Silent R
  own : ∀ o r, (t o).Ends r → S o (final r)

/-- From `w` to `w'` the storage keeps `R`, and what the request has for itself keeps `S`. -/
structure Kept (R : Storage → Storage → Prop) (S : Own → Own → Prop) (w w' : World) : Prop where
  storage : R w.storage w'.storage
  own : S w.own w'.own

section

variable {R : Storage → Storage → Prop} {S : Own → Own → Prop}

instance [Std.Refl R] [Std.Refl S] : Std.Refl (Kept R S) :=
  ⟨fun w => ⟨Std.Refl.refl w.storage, Std.Refl.refl w.own⟩⟩

instance [IsTrans Storage R] [IsTrans Own S] : IsTrans World (Kept R S) :=
  ⟨fun _ _ _ h h' => ⟨trans_of R h.storage h'.storage, trans_of S h.own h'.own⟩⟩

theorem Quiet.mono {R' : Storage → Storage → Prop} {t : Thread α} (h : Quiet R S t)
    (hR : ∀ s s', R s s' → R' s s') : Quiet R' S t :=
  ⟨fun o => (h.silent o).mono hR, h.own⟩

theorem quiet_atomic {x : Action α} (h : Within (Kept R S) x) : Quiet R S (atomic x) where
  silent o := silent_atomic fun s => (h (o.over s)).storage
  own o r hends := by
    obtain ⟨s, rfl⟩ := hends
    have hrun := (h (o.over s)).own
    cases hx : x.run (o.over s) <;> rw [hx] at hrun <;> exact hrun

theorem quiet_pure [Std.Refl S] (a : α) : Quiet R S (pure a) where
  silent _ := trivial
  own o r hends := by
    obtain rfl := hends
    exact Std.Refl.refl o

theorem quiet_bind [IsTrans Own S] {t : Thread α} {f : α → Thread β} (ht : Quiet R S t)
    (hf : ∀ a, Quiet R S (f a)) : Quiet R S (t >>= f) where
  silent o := silent_bind (ht.silent o) fun a o' _ => (hf a).silent o'
  own o r hends := by
    obtain ⟨r₁, hfirst, hrest⟩ := Prog.ends_bind.mp hends
    cases r₁ with
    | ok a o' => exact trans_of S (ht.own o _ hfirst) ((hf a).own o' r hrest)
    | error abort o' =>
      cases hrest
      exact ht.own o _ hfirst

theorem quiet_forM [Std.Refl S] [IsTrans Own S] {xs : List γ} {f : γ → Thread PUnit}
    (h : ∀ x ∈ xs, Quiet R S (f x)) : Quiet R S (xs.forM f) := by
  induction xs with
  | nil => exact quiet_pure _
  | cons x xs ih =>
    exact quiet_bind (h x List.mem_cons_self) fun _ => ih fun y hy => h y (List.mem_cons_of_mem _ hy)

end

/-! ## What is left behind -/

/-- What the thread leaves behind of what the request had when it began, from a storage on. -/
structure Leaves (R : Storage → Storage → Prop) (Q : EStateM.Result Abort Own α → Storage → Prop)
    (t : Thread α) (o : Own) (s : Storage) : Prop where
  prog : (t o).Leaves R Q s

section

variable {R : Storage → Storage → Prop} {P P' : EStateM.Result Abort Own α → Storage → Prop}
  {Q : EStateM.Result Abort Own β → Storage → Prop} {t : Thread α} {f : α → Thread β} {o : Own}
  {s : Storage}

theorem Leaves.mono (h : t.Leaves R P o s) (hP : ∀ r s, P r s → P' r s) : t.Leaves R P' o s :=
  ⟨h.prog.mono hP⟩

theorem leaves_pure {a : α} (h : P (.ok a o) s) : (pure a : Thread α).Leaves R P o s := ⟨h⟩

theorem leaves_atomic {x : Action α} (h : ∀ s', R s s' →
    P (ownResult (x.run (o.over s'))) (final (x.run (o.over s'))).storage) :
    (atomic x).Leaves R P o s := ⟨h⟩

theorem leaves_bind (h : t.Leaves R P o s)
    (hok : ∀ a o' s, P (.ok a o') s → (f a).Leaves R Q o' s)
    (herror : ∀ abort o' s, P (.error abort o') s → Q (.error abort o') s) :
    (t >>= f).Leaves R Q o s := by
  refine ⟨h.prog.bind fun r s hP => ?_⟩
  cases r with
  | ok a o' => exact (hok a o' s hP).prog
  | error abort o' => exact herror abort o' s hP

theorem leaves_reads {γ : Type} {g : Own → γ} {t : γ → Thread α} (h : (t (g o)).Leaves R P o s) :
    (reads g >>= t).Leaves R P o s := ⟨h.prog⟩

/-- What is said of a thread, of an attempt at it: an error is an outcome. -/
def Attempted (Q : EStateM.Result Abort Own α → Prop) : EStateM.Result Abort Own (Result α) → Prop
  | .ok (.ok a) o => Q (.ok a o)
  | .ok (.error e) o => Q (.error (.error e) o)
  | .error (.error _) _ => False
  | .error (.panic message) o => Q (.error (.panic message) o)

theorem leaves_attempt (h : t.Leaves R P o s) :
    (attempt t).Leaves R (fun r s => Attempted (P · s) r) o s := by
  refine ⟨h.prog.bind fun r s hP => ?_⟩
  rcases r with ⟨a, o'⟩ | ⟨_ | _, o'⟩ <;> exact hP

/-- A quiet thread leaves behind what `R` keeps of the storage. -/
theorem Quiet.leaves {S : Own → Own → Prop} {I : Storage → Prop} (h : Quiet R S t)
    (hI : ∀ s s', R s s' → I s → I s') (hs : I s) :
    t.Leaves R (fun r s => ((t o).Ends r ∧ S o (final r)) ∧ I s) o s :=
  ⟨(h.silent o).leaves (fun r hends => ⟨hends, h.own o r hends⟩) hI hs⟩

end

/-! ## What a thread answers for -/

section

variable {A : Storage → γ → Prop} {P : γ → EStateM.Result Abort Own α → Prop}
  {Q : γ → EStateM.Result Abort Own β → Prop} {t : Thread α} {f : α → Thread β} {o : Own}

/-- For what a run of the action makes true of the storage, it answers by how it ends. -/
def Answers (A : Storage → γ → Prop) (P : γ → EStateM.Result Abort Own α → Prop) (x : Action α)
    (w : World) : Prop :=
  ∀ y, A (final (x.run w)).storage y → A w.storage y ∨ P y (ownResult (x.run w))

/-- An action after one that adds nothing. -/
theorem answers_bind {R : World → World → Prop} {x : Action α} {f : α → Action β} {w : World}
    (hx : Within R x) (hR : ∀ w w', R w w' → ∀ y, A w'.storage y → A w.storage y)
    (hf : ∀ a w', x.run w = .ok a w' → Answers A Q (f a) w') : Answers A Q (x >>= f) w := by
  intro y hy
  cases hrun : x.run w with
  | ok a w' =>
    rw [run_bind_of_ok hrun] at hy ⊢
    exact (hf a w' hrun y hy).imp_left (hR w w' (hx.of_ok hrun) y)
  | error abort w' =>
    rw [run_bind_of_error hrun] at hy
    exact .inl (hR w w' (hx.of_error hrun) y hy)

theorem answersFor_atomic {x : Action α} (h : ∀ s, Answers A P x (o.over s)) :
    (atomic x o).AnswersFor A P := by
  refine fun s => ⟨fun y hy => (h s y hy).imp_right fun hP r hends => ?_, trivial⟩
  obtain rfl := hends
  exact hP

theorem answersFor_bind (ht : (t o).AnswersFor A P)
    (hf : ∀ a o', (t o).Ends (.ok a o') → (f a o').AnswersFor A Q)
    (hok : ∀ y a o', P y (.ok a o') → ∀ r, (f a o').Ends r → Q y r)
    (herror : ∀ y abort o', P y (.error abort o') → Q y (.error abort o')) :
    ((t >>= f) o).AnswersFor A Q := by
  refine Prog.AnswersFor.bind ht (fun r hends => ?_) fun y r _ hP r' hr' => ?_
  · cases r with
    | ok a o' => exact hf a o' hends
    | error abort o' => trivial
  · cases r with
    | ok a o' => exact hok y a o' hP r' hr'
    | error abort o' =>
      obtain rfl := hr'
      exact herror y abort o' hP

/-- A thread after one that adds nothing. -/
theorem answersFor_after {R : Storage → Storage → Prop} (ht : (t o).Silent R)
    (hA : ∀ s s', R s s' → ∀ y, A s' y → A s y)
    (hf : ∀ a o', (t o).Ends (.ok a o') → (f a o').AnswersFor A Q) : ((t >>= f) o).AnswersFor A Q :=
  @answersFor_bind α β γ A (fun _ _ => False) Q t f o (ht.answersFor hA) hf
    (fun _ _ _ h => h.elim) fun _ _ _ h => h.elim

theorem answersFor_attempt (ht : (t o).AnswersFor A P) :
    (attempt t o).AnswersFor A fun y => Attempted (P y) := by
  refine Prog.AnswersFor.bind ht (fun r _ => ?_) fun y r _ hP r' hr' => ?_
  · rcases r with _ | ⟨_ | _, _⟩ <;> trivial
  · rcases r with ⟨a, o'⟩ | ⟨_ | _, o'⟩ <;> obtain rfl := hr' <;> exact hP

end

end Thread

end Ayane
