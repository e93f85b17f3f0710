import Ayane.Lib.Interleave
import Mathlib.Order.Defs.Unbundled

/-!
# What a program leaves behind among others

A program relies on what the others keep of the state (`R`), and is judged by the value it ends with
and the state at that time (`Leaves`). Programs are judged part by part. When all of them, and their
environment, keep `R`, and what was said of a program that has ended stays true under `R`, then it is
true in every run and from then on. The other way round, a program answers for what its steps make true
of the state (`AnswersFor`): what is new at the end of a run is found in how one of the programs ends.
-/

namespace Interleave

variable {σ α β γ ι ε : Type} {R : σ → σ → Prop}

namespace Prog

/-- From the state `s` on, among others that keep `R`, the program ends only with a value and in a
state for which `Q` holds. -/
def Leaves (R : σ → σ → Prop) (Q : α → σ → Prop) : Prog σ α → σ → Prop
  | done a, s => Q a s
  | step write next, s => ∀ s', R s s' → (next s').Leaves R Q (write s')

variable {Q Q' : α → σ → Prop} {p : Prog σ α} {s s' : σ}

theorem Leaves.mono (h : p.Leaves R Q s) (hQ : ∀ a s, Q a s → Q' a s) : p.Leaves R Q' s := by
  induction p generalizing s with
  | done a => exact hQ a s h
  | step write next ih => exact fun s' hs => ih s' (h s' hs)

theorem Leaves.bind {P : β → σ → Prop} {f : α → Prog σ β} (h : p.Leaves R Q s)
    (hf : ∀ a s, Q a s → (f a).Leaves R P s) : (p.bind f).Leaves R P s := by
  induction p generalizing s with
  | done a => exact hf a s h
  | step write next ih => exact fun s' hs => ih s' (h s' hs)

theorem Silent.mono {R' : σ → σ → Prop} (h : p.Silent R) (hR : ∀ s s', R s s' → R' s s') :
    p.Silent R' := by
  induction p with
  | done a => trivial
  | step write next ih => exact ⟨fun s => hR _ _ (h.1 s), fun s => ih s (h.2 s)⟩

/-- What holds however a program that keeps `R` ends, and what `R` keeps, are left behind. -/
theorem Silent.leaves {P : α → Prop} {I : σ → Prop} (h : p.Silent R) (hP : ∀ a, p.Ends a → P a)
    (hI : ∀ s s', R s s' → I s → I s') (hs : I s) : p.Leaves R (fun a s => P a ∧ I s) s := by
  induction p generalizing s with
  | done a => exact ⟨hP a rfl, hs⟩
  | step write next ih =>
    intro s' hrely
    exact ih s' (h.2 s') (fun a ha => hP a ⟨s', ha⟩) (hI _ _ (h.1 s') (hI _ _ hrely hs))

/-- Others that keep `R` do not disturb what is left behind, if they do not disturb `Q`. -/
theorem Leaves.among [IsTrans σ R] (h : p.Leaves R Q s) (hQ : ∀ a s s', R s s' → Q a s → Q a s')
    (hs : R s s') : p.Leaves R Q s' := by
  cases p with
  | done a => exact hQ a s s' hs h
  | step write next => exact fun s'' hs' => h s'' (trans_of R hs hs')

/-- A turn of the program itself. -/
theorem Leaves.turn [Std.Refl R] (h : p.Leaves R Q s) : (p.turn s).1.Leaves R Q (p.turn s).2 := by
  cases p with
  | done a => exact h
  | step write next => exact h s (Std.Refl.refl s)

theorem Leaves.of_result (h : p.Leaves R Q s) {a : α} (hresult : p.result = some a) : Q a s := by
  cases p with
  | done b =>
    cases hresult
    exact h
  | step write next => cases hresult

/-- A program can end somehow. -/
theorem exists_ends [Nonempty σ] (p : Prog σ α) : ∃ a, p.Ends a := by
  induction p with
  | done a => exact ⟨a, rfl⟩
  | step write next ih =>
    obtain ⟨a, ha⟩ := ih (Classical.arbitrary σ)
    exact ⟨a, Classical.arbitrary σ, ha⟩

/-- For what a step makes true of the state, the program answers: from there on it ends only with
values for which `Q` holds. -/
def AnswersFor (A : σ → γ → Prop) (Q : γ → α → Prop) : Prog σ α → Prop
  | done _ => True
  | step write next => ∀ s, (∀ x, A (write s) x → A s x ∨ ∀ a, (next s).Ends a → Q x a) ∧
      (next s).AnswersFor A Q

section

variable {A : σ → γ → Prop} {Q' : γ → α → Prop}

theorem AnswersFor.mono {P : γ → α → Prop} (h : p.AnswersFor A Q') (hQ : ∀ x a, Q' x a → P x a) :
    p.AnswersFor A P := by
  induction p with
  | done a => trivial
  | step write next ih =>
    intro s
    exact ⟨fun x hx => ((h s).1 x hx).imp_right fun hends a ha => hQ x a (hends a ha), ih s (h s).2⟩

theorem AnswersFor.bind {P : γ → β → Prop} {f : α → Prog σ β} (h : p.AnswersFor A Q')
    (hf : ∀ a, p.Ends a → (f a).AnswersFor A P)
    (hP : ∀ x a, p.Ends a → Q' x a → ∀ b, (f a).Ends b → P x b) : (p.bind f).AnswersFor A P := by
  induction p with
  | done a => exact hf a rfl
  | step write next ih =>
    intro s
    obtain ⟨hnew, hrest⟩ := h s
    refine ⟨fun x hx => (hnew x hx).imp_right fun hQ b hb => ?_, ?_⟩
    · obtain ⟨a, ha, hb⟩ := ends_bind.mp hb
      exact hP x a ⟨s, ha⟩ (hQ a ha) b hb
    · exact ih s hrest (fun a ha => hf a ⟨s, ha⟩) fun x a ha => hP x a ⟨s, ha⟩

/-- A program that makes nothing true answers for nothing. -/
theorem Silent.answersFor (h : p.Silent R) (hA : ∀ s s', R s s' → ∀ x, A s' x → A s x) :
    p.AnswersFor A Q' := by
  induction p with
  | done a => trivial
  | step write next ih => exact fun s => ⟨fun x hx => .inl (hA _ _ (h.1 s) x hx), ih s (h.2 s)⟩

theorem Ends.of_turn {a : α} (h : (p.turn s).1.Ends a) : p.Ends a := by
  cases p with
  | done b => exact h
  | step write next => exact ⟨s, h⟩

theorem AnswersFor.turn (h : p.AnswersFor A Q') (s : σ) : (p.turn s).1.AnswersFor A Q' ∧
    ∀ x, A (p.turn s).2 x → A s x ∨ ∀ a, (p.turn s).1.Ends a → Q' x a := by
  cases p with
  | done a => exact ⟨h, fun x hx => .inl hx⟩
  | step write next => exact ⟨(h s).2, (h s).1⟩

end

end Prog

namespace System

variable [DecidableEq ι] {act : ε → σ → σ} {Q : ι → α → σ → Prop}

/-- Each program leaves behind what it is said to, and all of them keep `R`. -/
structure Relying (R : σ → σ → Prop) (Q : ι → α → σ → Prop) (c : System ι σ α) : Prop where
  leaves : ∀ i, (c.progs i).Leaves R (Q i) c.state
  keeps : ∀ i, (c.progs i).Silent R

variable [Std.Refl R] [IsTrans σ R] {c : System ι σ α}

theorem Relying.turn (h : Relying R Q c) (hQ : ∀ i a s s', R s s' → Q i a s → Q i a s')
    (hact : ∀ e s, R s (act e s)) (t : Turn ι ε) : Relying R Q (c.turn act t) := by
  cases t with
  | environment e => exact ⟨fun i => (h.leaves i).among (hQ i) (hact e c.state), h.keeps⟩
  | prog i =>
    obtain ⟨hrest, hstep⟩ := (h.keeps i).turn Std.Refl.refl c.state
    refine ⟨fun j => ?_, fun j => ?_⟩
    · by_cases hj : j = i
      · subst hj
        simpa [System.turn] using (h.leaves j).turn
      · simpa [System.turn, hj] using (h.leaves j).among (hQ j) hstep
    · by_cases hj : j = i
      · subst hj
        simpa [System.turn] using hrest
      · simpa [System.turn, hj] using h.keeps j

theorem Relying.after (h : Relying R Q c) (hQ : ∀ i a s s', R s s' → Q i a s → Q i a s')
    (hact : ∀ e s, R s (act e s)) (turns : List (Turn ι ε)) : Relying R Q (c.after act turns) := by
  induction turns generalizing c with
  | nil => exact h
  | cons t turns ih => exact ih (h.turn hQ hact t)

/-- What a program that has ended was said to leave behind holds from then on. -/
theorem Relying.of_result (h : Relying R Q c) (hQ : ∀ i a s s', R s s' → Q i a s → Q i a s')
    (hact : ∀ e s, R s (act e s)) {turns : List (Turn ι ε)} {i : ι} {a : α}
    (hresult : ((c.after act turns).progs i).result = some a) : Q i a (c.after act turns).state :=
  ((h.after hQ hact turns).leaves i).of_result hresult

/-- What all programs and their environment keep is kept by a whole run. -/
theorem keeps_after (hprogs : ∀ i, (c.progs i).Silent R) (hact : ∀ e s, R s (act e s))
    (turns : List (Turn ι ε)) : R c.state (c.after act turns).state := by
  induction turns generalizing c with
  | nil => exact Std.Refl.refl c.state
  | cons t turns ih =>
    have hstep : (∀ i, ((c.turn act t).progs i).Silent R) ∧ R c.state (c.turn act t).state := by
      cases t with
      | environment e => exact ⟨hprogs, hact e c.state⟩
      | prog i =>
        obtain ⟨hrest, hstate⟩ := (hprogs i).turn Std.Refl.refl c.state
        refine ⟨fun j => ?_, hstate⟩
        by_cases hj : j = i
        · subst hj
          simpa [System.turn] using hrest
        · simpa [System.turn, hj] using hprogs j
    exact trans_of R hstep.2 (ih hstep.1)

omit [Std.Refl R] [IsTrans σ R]

/-- What is true of the state was so before, or there is a program that can only end accordingly. -/
structure Answering (A : σ → γ → Prop) (P : ι → γ → α → Prop) (old : γ → Prop) (c : System ι σ α) :
    Prop where
  answersFor : ∀ i, (c.progs i).AnswersFor A (P i)
  source : ∀ x, A c.state x → old x ∨ ∃ i, ∀ a, (c.progs i).Ends a → P i x a

variable {A : σ → γ → Prop} {P : ι → γ → α → Prop} {old : γ → Prop}

theorem Answering.turn (h : Answering A P old c) (hact : ∀ e s x, A (act e s) x → A s x)
    (t : Turn ι ε) : Answering A P old (c.turn act t) := by
  cases t with
  | environment e => exact ⟨h.answersFor, fun x hx => h.source x (hact e c.state x hx)⟩
  | prog i =>
    obtain ⟨hrest, hnew⟩ := (h.answersFor i).turn c.state
    have hprogs : ∀ j, (∀ a, ((c.turn act (.prog i)).progs j).Ends a → (c.progs j).Ends a) ∧
        ((c.turn act (.prog i)).progs j).AnswersFor A (P j) := by
      intro j
      by_cases hj : j = i
      · subst hj
        simpa [System.turn] using ⟨fun a => Prog.Ends.of_turn, hrest⟩
      · simpa [System.turn, hj] using h.answersFor j
    refine ⟨fun j => (hprogs j).2, fun x hx => ?_⟩
    obtain hx | hends := hnew x hx
    · refine (h.source x hx).imp_right ?_
      rintro ⟨j, hj⟩
      exact ⟨j, fun a ha => hj a ((hprogs j).1 a ha)⟩
    · refine .inr ⟨i, fun a ha => hends a ?_⟩
      simpa [System.turn] using ha

/-- What is new at the end of a run is answered for by one of the programs. -/
theorem Answering.after (h : Answering A P old c) (hact : ∀ e s x, A (act e s) x → A s x)
    (turns : List (Turn ι ε)) : Answering A P old (c.after act turns) := by
  induction turns generalizing c with
  | nil => exact h
  | cons t turns ih => exact ih (h.turn hact t)

end System

end Interleave
