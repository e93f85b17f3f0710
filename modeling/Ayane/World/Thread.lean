import Ayane.Lib.Interleave
import Ayane.World.Run

/-!
# Requests whose steps interleave

An `Action` has the storage for itself until it ends. A `Thread` is a request that shares
the storage with others: it is a sequence of actions, each of which is one step, and
between two of them others may take their turns. The clock, the interactions and what the
request keeps are its own. A thread that has the storage for itself is the action that
runs its steps in order (`alone`).
-/

namespace Ayane

open Ayane.Action Effect Interleave

/-- What a request has for itself of its world: all but the storage. -/
structure Own where
  clock : SystemTime
  interactions : ℕ
  consultations : List Consultation
  audit : List AuditEvent

def World.own (w : World) : Own where
  clock := w.clock
  interactions := w.interactions
  consultations := w.consultations
  audit := w.audit

/-- The world of a request that finds the storage `s`. -/
def Own.over (o : Own) (s : Storage) : World where
  storage := s
  clock := o.clock
  interactions := o.interactions
  consultations := o.consultations
  audit := o.audit

@[simp] theorem Own.storage_over (o : Own) (s : Storage) : (o.over s).storage = s := rfl

@[simp] theorem World.over_own (w : World) : w.own.over w.storage = w := rfl

/-- How a run ends for the request itself. -/
def ownResult {α : Type} : EStateM.Result Abort World α → EStateM.Result Abort Own α
  | .ok a w => .ok a w.own
  | .error abort w => .error abort w.own

theorem ownResult_eq_ok {α : Type} {r : EStateM.Result Abort World α} {a : α} {o : Own} :
    ownResult r = .ok a o ↔ ∃ w, r = .ok a w ∧ w.own = o := by
  cases r <;> simp [ownResult]

theorem ownResult_eq_error {α : Type} {r : EStateM.Result Abort World α} {abort : Abort} {o : Own} :
    ownResult r = .error abort o ↔ ∃ w, r = .error abort w ∧ w.own = o := by
  cases r <;> simp [ownResult]

/-- A request whose steps interleave with those of others. -/
def Thread (α : Type) : Type := Own → Prog Storage (EStateM.Result Abort Own α)

namespace Thread

variable {α β : Type}

instance : Monad Thread where
  pure a := fun o => .done (.ok a o)
  bind t f := fun o => (t o).bind fun
    | .ok a o' => f a o'
    | .error abort o' => .done (.error abort o')

/-- An action as one step. -/
def atomic (x : Action α) : Thread α := fun o =>
  .step (fun s => (final (x.run (o.over s))).storage) fun s => .done (ownResult (x.run (o.over s)))

/-- How a thread returns; a panic unwinds past this. -/
def attempt (t : Thread α) : Thread (Result α) := fun o => (t o).bind fun
  | .ok a o' => .done (.ok (.ok a) o')
  | .error (.error e) o' => .done (.ok (.error e) o')
  | .error (.panic message) o' => .done (.error (.panic message) o')

/-! ## Threads that are alone -/

/-- The thread when nobody else uses the storage. -/
def alone (t : Thread α) : Action α := fun w =>
  match (t w.own).alone w.storage with
  | (.ok a o, s) => .ok a (o.over s)
  | (.error abort o, s) => .error abort (o.over s)

@[simp] theorem alone_pure (a : α) : alone (pure a) = pure a := rfl

@[simp] theorem alone_bind (t : Thread α) (f : α → Thread β) :
    alone (t >>= f) = alone t >>= fun a => alone (f a) := by
  funext w
  change alone (t >>= f) w = (alone t >>= fun a => alone (f a)).run w
  rw [run_bind]
  simp only [alone, EStateM.run, bind, Prog.alone_bind]
  rcases (t w.own).alone w.storage with ⟨_ | _, s⟩ <;> rfl

@[simp] theorem alone_atomic (x : Action α) : alone (atomic x) = x := by
  funext w
  simp only [alone, atomic, Prog.alone, World.over_own]
  change _ = x.run w
  cases x.run w <;> rfl

@[simp] theorem alone_attempt (t : Thread α) : alone (attempt t) = Action.attempt (alone t) := by
  funext w
  simp only [alone, attempt, Action.attempt, EStateM.run, Prog.alone_bind]
  rcases (t w.own).alone w.storage with ⟨_ | ⟨_ | _, _⟩, s⟩ <;> rfl

theorem alone_forM {γ : Type} (xs : List γ) (f : γ → Thread PUnit) :
    alone (xs.forM f) = xs.forM fun x => alone (f x) := by
  induction xs with
  | nil => rfl
  | cons x xs ih =>
    have hcons : List.forM (x :: xs) f = (f x >>= fun _ => xs.forM f) := rfl
    rw [hcons, alone_bind]
    exact congrArg (alone (f x) >>= ·) (funext fun _ => ih)

/-! ## How threads can end -/

variable {R : Storage → Storage → Prop} {x : Action α} {t : Thread α} {f : α → Thread β} {o : Own}

theorem ends_atomic {r : EStateM.Result Abort Own α} :
    (atomic x o).Ends r ↔ ∃ s, ownResult (x.run (o.over s)) = r := Iff.rfl

theorem ends_bind {b : β} {o' : Own} :
    ((t >>= f) o).Ends (.ok b o') ↔
      ∃ a o₁, (t o).Ends (.ok a o₁) ∧ (f a o₁).Ends (.ok b o') := by
  refine Prog.ends_bind.trans ⟨?_, ?_⟩
  · rintro ⟨_ | _, hends, hrest⟩
    · exact ⟨_, _, hends, hrest⟩
    · cases hrest
  · rintro ⟨a, o₁, hends, hrest⟩
    exact ⟨_, hends, hrest⟩

/-! ## Threads that others do not see -/

theorem silent_atomic (h : ∀ s, R s (final (x.run (o.over s))).storage) : (atomic x o).Silent R :=
  ⟨h, fun _ => trivial⟩

theorem silent_bind (ht : (t o).Silent R)
    (hf : ∀ a o', (t o).Ends (.ok a o') → (f a o').Silent R) : ((t >>= f) o).Silent R := by
  refine Prog.Silent.bind ht fun r hends => ?_
  cases r with
  | ok a o' => exact hf a o' hends
  | error abort o' => exact trivial

theorem silent_attempt (h : (t o).Silent R) : (attempt t o).Silent R := by
  refine Prog.Silent.bind h fun r _ => ?_
  rcases r with _ | ⟨_ | _, _⟩ <;> exact trivial

theorem silent_forM {γ : Type} {xs : List γ} {f : γ → Thread PUnit}
    (h : ∀ x ∈ xs, ∀ o, (f x o).Silent R) : (xs.forM f o).Silent R := by
  induction xs generalizing o with
  | nil => exact trivial
  | cons x xs ih =>
    exact silent_bind (h x List.mem_cons_self o) fun _ o' _ =>
      @ih o' fun y hy => h y (List.mem_cons_of_mem _ hy)

/-! ## Threads that see only what a relation shows -/

/-- On storages that `R` relates the action does the same, and leaves storages that `R` relates. -/
def Respects (R : Storage → Storage → Prop) (x : Action α) (o : Own) : Prop :=
  ∀ s s', R s s' → ownResult (x.run (o.over s)) = ownResult (x.run (o.over s')) ∧
    R (final (x.run (o.over s))).storage (final (x.run (o.over s'))).storage

theorem respects_pure (a : α) : Respects R (pure a) o := fun _ _ h => ⟨rfl, h⟩

theorem respects_throw (abort : Abort) : Respects R (throw abort : Action α) o := fun _ _ h => ⟨rfl, h⟩

theorem respects_ofOutcome (r : Outcome α) : Respects R (ofOutcome r) o := by
  cases r with
  | ok a => exact respects_pure a
  | error abort => exact respects_throw abort

theorem respects_ofResult (r : Result α) : Respects R (ofResult r) o := respects_ofOutcome _

theorem respects_interact (rt : Runtime) : Respects R (interact rt) o := fun _ _ h => ⟨rfl, h⟩

theorem respects_systemTimeNow (rt : Runtime) : Respects R (systemTimeNow rt) o :=
  fun _ _ h => ⟨rfl, h⟩

theorem respects_emit (event : AuditEvent) : Respects R (emit event) o := fun _ _ h => ⟨rfl, h⟩

theorem respects_bind {f : α → Action β} (hx : Respects R x o)
    (hf : ∀ a o', (atomic x o).Ends (.ok a o') → Respects R (f a) o') : Respects R (x >>= f) o := by
  intro s s' hs
  obtain ⟨hresult, hstorage⟩ := hx s s' hs
  rw [run_bind, run_bind]
  cases hrun : x.run (o.over s) with
  | ok a w =>
    rw [hrun] at hresult hstorage
    obtain ⟨w', hrun', hown⟩ := ownResult_eq_ok.mp hresult.symm
    rw [hrun'] at hstorage ⊢
    have hends : (atomic x o).Ends (.ok a w.own) := ⟨s, congrArg ownResult hrun⟩
    have hrest := hf a w.own hends _ _ hstorage
    have hworld : w.own.over w'.storage = w' := hown ▸ w'.over_own
    simp only [final_ok, World.over_own, hworld] at hrest
    exact hrest
  | error abort w =>
    rw [hrun] at hresult hstorage
    obtain ⟨w', hrun', hown⟩ := ownResult_eq_error.mp hresult.symm
    rw [hrun'] at hstorage ⊢
    exact ⟨congrArg (EStateM.Result.error abort) hown.symm, hstorage⟩

theorem respects_attempt (hx : Respects R x o) : Respects R (Action.attempt x) o := by
  intro s s' hs
  obtain ⟨hresult, hstorage⟩ := hx s s' hs
  refine ⟨?_, by rwa [final_attempt, final_attempt]⟩
  cases hrun : x.run (o.over s) with
  | ok a w =>
    rw [hrun] at hresult
    obtain ⟨w', hrun', hown⟩ := ownResult_eq_ok.mp hresult.symm
    rw [run_attempt_of_ok hrun, run_attempt_of_ok hrun']
    exact congrArg (EStateM.Result.ok (Except.ok a)) hown.symm
  | error abort w =>
    rw [hrun] at hresult
    obtain ⟨w', hrun', hown⟩ := ownResult_eq_error.mp hresult.symm
    cases abort with
    | error e =>
      rw [run_attempt_of_error hrun, run_attempt_of_error hrun']
      exact congrArg (EStateM.Result.ok (Except.error e)) hown.symm
    | panic message =>
      rw [run_attempt_of_panic hrun, run_attempt_of_panic hrun']
      exact congrArg (EStateM.Result.error (Abort.panic message)) hown.symm

theorem respects_withKey (rt : Runtime) (f : ℕ → Digest 19 → Outcome α) :
    Respects R (withKey rt f) o :=
  respects_bind (respects_interact rt) fun _ _ _ => respects_ofOutcome _

/-- A step on the storage that does the same to storages that `R` relates. -/
theorem respects_onStorage (rt : Runtime) {f : Storage → Outcome α × Storage}
    (h : ∀ s s', R s s' → (f s).1 = (f s').1 ∧ R (f s).2 (f s').2) : Respects R (onStorage rt f) o := by
  intro s s' hs
  obtain ⟨houtcome, hstorage⟩ := h s s' hs
  rw [final_onStorage, final_onStorage, run_onStorage, run_onStorage]
  refine ⟨?_, hstorage⟩
  simp only [Own.storage_over, houtcome]
  cases (f s').1 <;> rfl

theorem faithful_atomic (h : Respects R x o) : (atomic x o).Faithful R := by
  refine ⟨fun s s' hs => ?_, fun _ => trivial⟩
  obtain ⟨hresult, hstorage⟩ := h s s' hs
  exact ⟨hstorage, congrArg Prog.done hresult⟩

theorem faithful_bind (ht : (t o).Faithful R)
    (hf : ∀ a o', (t o).Ends (.ok a o') → (f a o').Faithful R) : ((t >>= f) o).Faithful R := by
  refine Prog.Faithful.bind ht fun r hends => ?_
  cases r with
  | ok a o' => exact hf a o' hends
  | error abort o' => exact trivial

theorem faithful_attempt (h : (t o).Faithful R) : (attempt t o).Faithful R := by
  refine Prog.Faithful.bind h fun r _ => ?_
  rcases r with _ | ⟨_ | _, _⟩ <;> exact trivial

theorem faithful_forM {γ : Type} {xs : List γ} {f : γ → Thread PUnit}
    (h : ∀ x ∈ xs, ∀ o, (f x o).Faithful R) : (xs.forM f o).Faithful R := by
  induction xs generalizing o with
  | nil => exact trivial
  | cons x xs ih =>
    exact faithful_bind (h x List.mem_cons_self o) fun _ o' _ =>
      @ih o' fun y hy => h y (List.mem_cons_of_mem _ hy)

end Thread

end Ayane
