import Ayane.Lib.Effect

/-!
# How computations fail

Of a computation that may fail, which failures it can end with. A sequence fails in some
way when its first part does, or when the part that follows a success does, so the
failures of a program are computed from those of its parts.
-/

namespace Effect

variable {ε σ α β : Type}

/-- `x` fails with an error that satisfies `P`. -/
def FailsWith (P : ε → Prop) (x : Except ε α) : Prop := ∃ e, x = .error e ∧ P e

/-- `x` fails from the state `s` with an error that satisfies `P`. -/
def FailsFrom (P : ε → Prop) (x : EStateM ε σ α) (s : σ) : Prop :=
  ∃ e s', x.run s = .error e s' ∧ P e

section

variable {P : ε → Prop}

@[simp] theorem failsWith_ok (a : α) : ¬FailsWith P (.ok a : Except ε α) := by
  rintro ⟨_, ⟨⟩, -⟩

@[simp] theorem failsWith_error {e : ε} : FailsWith P (.error e : Except ε α) ↔ P e := by
  constructor
  · rintro ⟨_, ⟨⟩, h⟩
    exact h
  · intro h
    exact ⟨e, rfl, h⟩

theorem not_failsWith_of_eq_ok {x : Except ε α} {a : α} (h : x = .ok a) : ¬FailsWith P x := by
  rw [h]
  exact failsWith_ok a

theorem failsWith_bind {x : Except ε α} {f : α → Except ε β} :
    FailsWith P (x >>= f) ↔ FailsWith P x ∨ ∃ a, x = .ok a ∧ FailsWith P (f a) := by
  cases x with
  | ok a => simp [bind, Except.bind]
  | error e => simp [bind, Except.bind]

variable {s : σ}

@[simp] theorem failsFrom_pure (a : α) : ¬FailsFrom P (pure a : EStateM ε σ α) s := by
  rintro ⟨_, _, ⟨⟩, -⟩

theorem not_failsFrom_of_ok {x : EStateM ε σ α} {a : α} {s' : σ} (h : x.run s = .ok a s') :
    ¬FailsFrom P x s := by
  rintro ⟨_, _, herror, -⟩
  cases h.symm.trans herror

theorem failsFrom_of_error {x : EStateM ε σ α} {e : ε} {s' : σ} (h : x.run s = .error e s') :
    FailsFrom P x s ↔ P e := by
  constructor
  · rintro ⟨_, _, herror, hP⟩
    cases h.symm.trans herror
    exact hP
  · intro hP
    exact ⟨e, s', h, hP⟩

theorem failsFrom_bind {x : EStateM ε σ α} {f : α → EStateM ε σ β} :
    FailsFrom P (x >>= f) s ↔
      FailsFrom P x s ∨ ∃ a s', x.run s = .ok a s' ∧ FailsFrom P (f a) s' := by
  cases hrun : x.run s with
  | ok a s' =>
    have hsame : FailsFrom P (x >>= f) s ↔ FailsFrom P (f a) s' := by
      unfold FailsFrom
      rw [run_bind_of_ok hrun]
    rw [hsame, or_iff_right (not_failsFrom_of_ok hrun)]
    constructor
    · intro h
      exact ⟨a, s', rfl, h⟩
    · rintro ⟨_, _, ⟨⟩, h⟩
      exact h
  | error e s' =>
    rw [failsFrom_of_error hrun, failsFrom_of_error (run_bind_of_error hrun f)]
    constructor
    · exact .inl
    · rintro (h | ⟨_, _, ⟨⟩, -⟩)
      exact h

end

/-- No run of `x` fails with an error that satisfies `P`. -/
def Avoids (P : ε → Prop) (x : EStateM ε σ α) : Prop := ∀ s, ¬FailsFrom P x s

section

variable {P : ε → Prop}

theorem avoids_pure (a : α) : Avoids P (pure a : EStateM ε σ α) := fun _ => failsFrom_pure a

theorem avoids_throw {e : ε} (h : ¬P e) : Avoids P (throw e : EStateM ε σ α) := by
  rintro s ⟨_, _, ⟨⟩, hP⟩
  exact h hP

theorem Avoids.bind {x : EStateM ε σ α} {f : α → EStateM ε σ β} (hx : Avoids P x)
    (hf : ∀ a, Avoids P (f a)) : Avoids P (x >>= f) := by
  intro s h
  obtain h | ⟨a, s', -, h⟩ := failsFrom_bind.mp h
  · exact hx s h
  · exact hf a s' h

theorem avoids_foldlM {f : β → α → EStateM ε σ β} {xs : List α} (h : ∀ b, ∀ x ∈ xs, Avoids P (f b x))
    (b : β) : Avoids P (xs.foldlM f b) := by
  induction xs generalizing b with
  | nil => exact avoids_pure b
  | cons x xs ih =>
    rw [List.foldlM_cons]
    exact (h b x List.mem_cons_self).bind fun b' =>
      ih (fun b y hy => h b y (List.mem_cons_of_mem _ hy)) b'

end

end Effect
