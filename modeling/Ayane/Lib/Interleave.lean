import Mathlib.Logic.Function.Basic

/-!
# Interleaved programs on a shared state

A program steps on a state that it shares with others, and goes on by what it found
there. Any number of programs take turns, among turns of their environment. To compare
runs in which different programs take part, the state is seen through a relation: some
programs go by nothing else than what it shows (`Faithful`), and the others do not change
what it shows (`Silent`). Then turns of the others can be left out of a run, and the
programs that are faithful do the same.
-/

namespace Interleave

variable {σ α β : Type}

/-- A program ends with a value, or steps on the state and goes on. -/
inductive Prog (σ α : Type) where
  | done (a : α)
  | step (write : σ → σ) (next : σ → Prog σ α)

namespace Prog

def bind (p : Prog σ α) (f : α → Prog σ β) : Prog σ β :=
  match p with
  | done a => f a
  | step write next => step write fun s => (next s).bind f

theorem bind_done (p : Prog σ α) : p.bind done = p := by
  induction p with
  | done a => rfl
  | step write next ih => exact congrArg (step write) (funext ih)

theorem bind_assoc {γ : Type} (p : Prog σ α) (f : α → Prog σ β) (g : β → Prog σ γ) :
    (p.bind f).bind g = p.bind fun a => (f a).bind g := by
  induction p with
  | done a => rfl
  | step write next ih => exact congrArg (step write) (funext ih)

/-- The run of a program that has the state for itself. -/
def alone : Prog σ α → σ → α × σ
  | done a, s => (a, s)
  | step write next, s => (next s).alone (write s)

theorem alone_bind (p : Prog σ α) (f : α → Prog σ β) (s : σ) :
    (p.bind f).alone s = (f (p.alone s).1).alone (p.alone s).2 := by
  induction p generalizing s with
  | done a => rfl
  | step write next ih => exact ih s (write s)

/-- The program can end with a value, whatever is done to the state between its steps. -/
def Ends : Prog σ α → α → Prop
  | done a', a => a' = a
  | step _ next, a => ∃ s, (next s).Ends a

theorem ends_bind {p : Prog σ α} {f : α → Prog σ β} {b : β} :
    (p.bind f).Ends b ↔ ∃ a, p.Ends a ∧ (f a).Ends b := by
  induction p with
  | done a => simp [bind, Ends]
  | step write next ih =>
    constructor
    · rintro ⟨s, h⟩
      obtain ⟨a, ha, hb⟩ := (ih s).mp h
      exact ⟨a, ⟨s, ha⟩, hb⟩
    · rintro ⟨a, ⟨s, ha⟩, hb⟩
      exact ⟨s, (ih s).mpr ⟨a, ha, hb⟩⟩

/-- No step changes what `R` shows of the state. -/
def Silent (R : σ → σ → Prop) : Prog σ α → Prop
  | done _ => True
  | step write next => (∀ s, R s (write s)) ∧ ∀ s, (next s).Silent R

/-- Every step goes by what `R` shows of the state. -/
def Faithful (R : σ → σ → Prop) : Prog σ α → Prop
  | done _ => True
  | step write next =>
    (∀ s s', R s s' → R (write s) (write s') ∧ next s = next s') ∧ ∀ s, (next s).Faithful R

variable {R : σ → σ → Prop} {p : Prog σ α} {f : α → Prog σ β}

theorem Silent.bind (hp : p.Silent R) (hf : ∀ a, p.Ends a → (f a).Silent R) :
    (p.bind f).Silent R := by
  induction p with
  | done a => exact hf a rfl
  | step write next ih => exact ⟨hp.1, fun s => ih s (hp.2 s) fun a ha => hf a ⟨s, ha⟩⟩

theorem Faithful.bind (hp : p.Faithful R) (hf : ∀ a, p.Ends a → (f a).Faithful R) :
    (p.bind f).Faithful R := by
  induction p with
  | done a => exact hf a rfl
  | step write next ih =>
    refine ⟨fun s s' hs => ?_, fun s => ih s (hp.2 s) fun a ha => hf a ⟨s, ha⟩⟩
    obtain ⟨hwrite, hnext⟩ := hp.1 s s' hs
    exact ⟨hwrite, congrArg (Prog.bind · f) hnext⟩

/-- One step; a program that has ended stays as it is. -/
def turn : Prog σ α → σ → Prog σ α × σ
  | done a, s => (done a, s)
  | step write next, s => (next s, write s)

theorem Silent.turn (h : p.Silent R) (hrefl : ∀ s, R s s) (s : σ) :
    (p.turn s).1.Silent R ∧ R s (p.turn s).2 := by
  cases p with
  | done a => exact ⟨h, hrefl s⟩
  | step write next => exact ⟨h.2 s, h.1 s⟩

theorem Faithful.turn (h : p.Faithful R) {s s' : σ} (hs : R s s') :
    (p.turn s).1.Faithful R ∧ (p.turn s).1 = (p.turn s').1 ∧ R (p.turn s).2 (p.turn s').2 := by
  cases p with
  | done a => exact ⟨h, rfl, hs⟩
  | step write next =>
    obtain ⟨hwrite, hnext⟩ := h.1 s s' hs
    exact ⟨h.2 s, hnext, hwrite⟩

def result : Prog σ α → Option α
  | done a => some a
  | step _ _ => none

end Prog

/-! ## Taking turns -/

variable {ι ε : Type}

/-- A turn of one of the programs, or of the environment. -/
inductive Turn (ι ε : Type) where
  | prog (i : ι)
  | environment (e : ε)

/-- Some programs, and the state that they share. -/
structure System (ι σ α : Type) where
  progs : ι → Prog σ α
  state : σ

namespace System

section

variable [DecidableEq ι] (act : ε → σ → σ)

/-- One turn; `act` is what the environment does to the state. -/
def turn (c : System ι σ α) : Turn ι ε → System ι σ α
  | .prog i => {
      progs := Function.update c.progs i ((c.progs i).turn c.state).1
      state := ((c.progs i).turn c.state).2 }
  | .environment e => { c with state := act e c.state }

def after (c : System ι σ α) (turns : List (Turn ι ε)) : System ι σ α := turns.foldl (turn act) c

end

/-- Systems that look the same through `R`, with the same programs among those that are watched. -/
structure Related (R : σ → σ → Prop) (watched : Set ι) (c c' : System ι σ α) : Prop where
  state : R c.state c'.state
  same : ∀ i ∈ watched, c.progs i = c'.progs i
  faithful : ∀ i ∈ watched, (c.progs i).Faithful R
  silent : ∀ i ∉ watched, (c.progs i).Silent R ∧ (c'.progs i).Silent R

variable {R : σ → σ → Prop} {watched : Set ι} {c c' : System ι σ α}

theorem Related.symm (h : Related R watched c c') (hR : Equivalence R) : Related R watched c' c where
  state := hR.symm h.state
  same i hi := (h.same i hi).symm
  faithful i hi := h.same i hi ▸ h.faithful i hi
  silent i hi := (h.silent i hi).symm

variable [DecidableEq ι] {act : ε → σ → σ}

/-- A turn of another program, in one of the systems only. -/
theorem Related.turn_left (h : Related R watched c c') (hR : Equivalence R) {i : ι}
    (hi : i ∉ watched) : Related R watched (c.turn act (.prog i)) c' := by
  obtain ⟨hprog, hstate⟩ := (h.silent i hi).1.turn hR.refl c.state
  have hother : ∀ j ∈ watched, (c.turn act (.prog i)).progs j = c.progs j := by
    intro j hj
    have hji : j ≠ i := fun hji => hi (hji ▸ hj)
    exact Function.update_of_ne hji _ _
  refine ⟨hR.trans (hR.symm hstate) h.state, ?_, ?_, ?_⟩
  · intro j hj
    rw [hother j hj]
    exact h.same j hj
  · intro j hj
    rw [hother j hj]
    exact h.faithful j hj
  · intro j hj
    refine ⟨?_, (h.silent j hj).2⟩
    by_cases hji : j = i
    · subst hji
      simpa [System.turn] using hprog
    · simpa [System.turn, hji] using (h.silent j hj).1

/-- A turn of a program that is watched, in both systems. -/
theorem Related.turn_watched (h : Related R watched c c') {i : ι} (hi : i ∈ watched) :
    Related R watched (c.turn act (.prog i)) (c'.turn act (.prog i)) := by
  obtain ⟨hprog, hsame, hstate⟩ := (h.faithful i hi).turn h.state
  rw [h.same i hi] at hsame hstate
  refine ⟨?_, ?_, ?_, ?_⟩
  · simpa [System.turn, h.same i hi] using hstate
  · intro j hj
    by_cases hji : j = i
    · subst hji
      simpa [System.turn, h.same j hj] using hsame
    · simpa [System.turn, hji] using h.same j hj
  · intro j hj
    by_cases hji : j = i
    · subst hji
      simpa [System.turn] using hprog
    · simpa [System.turn, hji] using h.faithful j hj
  · intro j hj
    have hji : j ≠ i := fun hji => hj (hji ▸ hi)
    simpa [System.turn, hji] using h.silent j hj

/-- The same turn in both systems. -/
theorem Related.turn (h : Related R watched c c') (hR : Equivalence R)
    (hact : ∀ e s s', R s s' → R (act e s) (act e s')) (t : Turn ι ε) :
    Related R watched (c.turn act t) (c'.turn act t) := by
  cases t with
  | environment e => exact ⟨hact e _ _ h.state, h.same, h.faithful, h.silent⟩
  | prog i =>
    by_cases hi : i ∈ watched
    · exact h.turn_watched hi
    · have hleft : Related R watched (c.turn act (.prog i)) c' := h.turn_left hR hi
      exact ((hleft.symm hR).turn_left hR hi).symm hR

end System

/-! ## Leaving programs out -/

open Classical in
/-- The turns that are left when some programs take no part. -/
noncomputable def without (hidden : Set ι) (turns : List (Turn ι ε)) : List (Turn ι ε) :=
  turns.filter fun
    | .prog i => i ∉ hidden
    | .environment _ => true

section

variable {hidden : Set ι} {turns : List (Turn ι ε)} {i : ι}

@[simp] theorem without_nil : without hidden ([] : List (Turn ι ε)) = [] := rfl

@[simp] theorem without_environment (e : ε) :
    without hidden (.environment e :: turns) = .environment e :: without hidden turns := by
  simp [without]

theorem without_of_mem (h : i ∈ hidden) :
    without hidden (.prog i :: turns) = without hidden turns := by
  simp [without, h]

theorem without_of_notMem (h : i ∉ hidden) :
    without hidden (.prog i :: turns) = .prog i :: without hidden turns := by
  simp [without, h]

end

/-- Programs that are watched do the same in a run that leaves others out. -/
theorem System.Related.after_without [DecidableEq ι] {R : σ → σ → Prop} {watched hidden : Set ι}
    {act : ε → σ → σ} {c c' : System ι σ α} (h : Related R watched c c') (hR : Equivalence R)
    (hact : ∀ e s s', R s s' → R (act e s) (act e s')) (hhidden : ∀ i ∈ hidden, i ∉ watched)
    (turns : List (Turn ι ε)) :
    Related R watched (c.after act turns) (c'.after act (without hidden turns)) := by
  induction turns generalizing c c' with
  | nil => exact h
  | cons t turns ih =>
    cases t with
    | environment e =>
      rw [without_environment]
      exact ih (h.turn hR hact (.environment e))
    | prog i =>
      by_cases hi : i ∈ hidden
      · rw [without_of_mem hi]
        exact ih (h.turn_left hR (hhidden i hi))
      · rw [without_of_notMem hi]
        exact ih (h.turn hR hact (.prog i))

end Interleave
