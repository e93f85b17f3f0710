import Mathlib.Data.List.Forall2
import Mathlib.Order.Defs.Unbundled

/-!
# Computations that fail and change a state

`Except ε` returns a value or fails; `EStateM ε σ` also changes a state, and keeps
what it changed when it fails. A successful run of a sequence splits into the
runs of its parts, and a relation between the states before and after a
computation (`Within`) passes from the parts to the whole whenever it is reflexive
and transitive, also along the runs that fail.
-/

namespace Effect

variable {ε σ α β : Type}

/-! ## Fallible computations -/

theorem except_bind_eq_ok {x : Except ε α} {f : α → Except ε β} {b : β} :
    x >>= f = .ok b ↔ ∃ a, x = .ok a ∧ f a = .ok b := by
  cases x with
  | error e => simp [bind, Except.bind]
  | ok a => simp [bind, Except.bind]

theorem except_bind_eq_error {x : Except ε α} {f : α → Except ε β} {e : ε} :
    x >>= f = .error e ↔ x = .error e ∨ ∃ a, x = .ok a ∧ f a = .error e := by
  cases x with
  | error e => simp [bind, Except.bind]
  | ok a => simp [bind, Except.bind]

/-- Fail with `e` unless `c` holds. -/
def ensure (c : Prop) [Decidable c] (e : ε) : Except ε Unit :=
  if c then .ok () else .error e

@[simp] theorem ensure_eq_ok {c : Prop} [Decidable c] {e : ε} {u : Unit} :
    ensure c e = .ok u ↔ c := by
  unfold ensure
  by_cases h : c <;> simp [h]

theorem mapM_cons_eq_ok {f : α → Except ε β} {x : α} {xs : List α} {ys : List β} :
    (x :: xs).mapM f = .ok ys ↔ ∃ y ys', f x = .ok y ∧ xs.mapM f = .ok ys' ∧ ys = y :: ys' := by
  rw [List.mapM_cons, except_bind_eq_ok]
  simp only [except_bind_eq_ok, pure, Except.pure, Except.ok.injEq]
  constructor
  · rintro ⟨y, hy, ys', hys, rfl⟩
    exact ⟨y, ys', hy, hys, rfl⟩
  · rintro ⟨y, ys', hy, hys, rfl⟩
    exact ⟨y, hy, ys', hys, rfl⟩

theorem mapM_append_eq_ok {f : α → Except ε β} {xs xs' : List α} {ys : List β} :
    (xs ++ xs').mapM f = .ok ys ↔
      ∃ zs zs', xs.mapM f = .ok zs ∧ xs'.mapM f = .ok zs' ∧ ys = zs ++ zs' := by
  rw [List.mapM_append]
  simp only [except_bind_eq_ok, pure, Except.pure, Except.ok.injEq]
  constructor
  · rintro ⟨zs, hzs, zs', hzs', rfl⟩
    exact ⟨zs, zs', hzs, hzs', rfl⟩
  · rintro ⟨zs, zs', hzs, hzs', rfl⟩
    exact ⟨zs, hzs, zs', hzs', rfl⟩

/-- A relation between the elements of a fold, the value before it and the value after it. -/
@[elab_as_elim] theorem foldlM_relates {R : List α → β → β → Prop} {f : β → α → Except ε β} (hnil : ∀ b, R [] b b)
    (hcons : ∀ x xs b b₁ b', f b x = .ok b₁ → R xs b₁ b' → R (x :: xs) b b') {xs : List α} {b b' : β}
    (h : xs.foldlM f b = .ok b') : R xs b b' := by
  induction xs generalizing b with
  | nil =>
    cases h
    exact hnil _
  | cons x xs ih =>
    rw [List.foldlM_cons, except_bind_eq_ok] at h
    obtain ⟨b₁, hx, hrest⟩ := h
    exact hcons x xs b b₁ b' hx (ih hrest)

/-- The results of a traversal are the results at its elements. -/
theorem mem_of_mapM {f : α → Except ε β} {xs : List α} {ys : List β} (h : xs.mapM f = .ok ys)
    {y : β} : y ∈ ys ↔ ∃ x ∈ xs, f x = .ok y := by
  induction xs generalizing ys with
  | nil =>
    simp only [List.mapM_nil, pure, Except.pure, Except.ok.injEq] at h
    subst h
    simp
  | cons x xs ih =>
    obtain ⟨z, zs, hz, hzs, rfl⟩ := mapM_cons_eq_ok.mp h
    rw [List.mem_cons, ih hzs]
    constructor
    · rintro (rfl | ⟨w, hw, hwy⟩)
      · exact ⟨x, List.mem_cons_self, hz⟩
      · exact ⟨w, List.mem_cons_of_mem _ hw, hwy⟩
    · rintro ⟨w, hw, hwy⟩
      rcases List.mem_cons.mp hw with rfl | hw
      · rw [hz] at hwy
        cases hwy
        exact .inl rfl
      · exact .inr ⟨w, hw, hwy⟩

theorem exists_of_mapM {f : α → Except ε β} {xs : List α} {ys : List β} (h : xs.mapM f = .ok ys)
    {x : α} (hx : x ∈ xs) : ∃ y, f x = .ok y := by
  induction xs generalizing ys with
  | nil => cases hx
  | cons z xs ih =>
    obtain ⟨y, ys', hy, hys, -⟩ := mapM_cons_eq_ok.mp h
    rcases List.mem_cons.mp hx with rfl | hx
    · exact ⟨y, hy⟩
    · exact ih hys hx

/-- A traversal succeeds when its function does at every element. -/
theorem exists_mapM {f : α → Except ε β} {xs : List α} (h : ∀ x ∈ xs, ∃ y, f x = .ok y) :
    ∃ ys, xs.mapM f = .ok ys := by
  induction xs with
  | nil => exact ⟨[], rfl⟩
  | cons x xs ih =>
    obtain ⟨y, hy⟩ := h x List.mem_cons_self
    obtain ⟨ys, hys⟩ := ih fun z hz => h z (List.mem_cons_of_mem _ hz)
    exact ⟨y :: ys, mapM_cons_eq_ok.mpr ⟨y, ys, hy, hys, rfl⟩⟩

/-- A traversal has a result for each of its elements, in order. -/
theorem forall₂_of_mapM {f : α → Except ε β} {xs : List α} {ys : List β} (h : xs.mapM f = .ok ys) :
    List.Forall₂ (fun x y => f x = .ok y) xs ys := by
  induction xs generalizing ys with
  | nil =>
    cases h
    exact .nil
  | cons x xs ih =>
    obtain ⟨y, ys', hy, hys, rfl⟩ := mapM_cons_eq_ok.mp h
    exact .cons hy (ih hys)

/-- A traversal without results succeeds when it does at every element. -/
theorem forM_eq_ok {f : α → Except ε Unit} {xs : List α} {u : Unit} :
    xs.forM f = .ok u ↔ ∀ x ∈ xs, f x = .ok () := by
  induction xs with
  | nil => simp [pure, Except.pure]
  | cons x xs ih =>
    rw [List.forall_mem_cons, ← ih]
    change (f x >>= fun _ => xs.forM f) = .ok u ↔ _
    rw [except_bind_eq_ok]
    constructor
    · rintro ⟨_, hx, hxs⟩
      exact ⟨hx, hxs⟩
    · rintro ⟨hx, hxs⟩
      exact ⟨_, hx, hxs⟩

/-- A traversal in another order gives its results in another order. -/
theorem exists_mapM_of_perm {f : α → Except ε β} {xs xs' : List α} {ys : List β} (hperm : xs.Perm xs')
    (h : xs.mapM f = .ok ys) : ∃ ys', xs'.mapM f = .ok ys' ∧ ys.Perm ys' := by
  induction hperm generalizing ys with
  | nil => exact ⟨ys, h, .rfl⟩
  | cons x _ ih =>
    obtain ⟨y, zs, hy, hzs, rfl⟩ := mapM_cons_eq_ok.mp h
    obtain ⟨zs', hzs', hperm⟩ := ih hzs
    exact ⟨y :: zs', mapM_cons_eq_ok.mpr ⟨y, zs', hy, hzs', rfl⟩, hperm.cons y⟩
  | swap x x' xs =>
    obtain ⟨y', _, hy', hrest, rfl⟩ := mapM_cons_eq_ok.mp h
    obtain ⟨y, zs, hy, hzs, rfl⟩ := mapM_cons_eq_ok.mp hrest
    exact ⟨y :: y' :: zs,
      mapM_cons_eq_ok.mpr ⟨y, _, hy, mapM_cons_eq_ok.mpr ⟨y', zs, hy', hzs, rfl⟩, rfl⟩, .swap y y' zs⟩
  | trans _ _ ih ih' =>
    obtain ⟨zs, hzs, hperm⟩ := ih h
    obtain ⟨zs', hzs', hperm'⟩ := ih' hzs
    exact ⟨zs', hzs', hperm.trans hperm'⟩

/-! ## Stateful computations -/

/-- The state a run ends in, whether it succeeds or fails. -/
def final : EStateM.Result ε σ α → σ
  | .ok _ s => s
  | .error _ s => s

@[simp] theorem final_ok (a : α) (s : σ) : final (.ok a s : EStateM.Result ε σ α) = s := rfl

@[simp] theorem final_error (e : ε) (s : σ) : final (.error e s : EStateM.Result ε σ α) = s := rfl

/-- The run of a sequence, by the run of its first part. -/
theorem run_bind (x : EStateM ε σ α) (f : α → EStateM ε σ β) (s : σ) :
    (x >>= f).run s = match x.run s with
      | .ok a s' => (f a).run s'
      | .error e s' => .error e s' := rfl

theorem run_bind_of_ok {x : EStateM ε σ α} {s s' : σ} {a : α} (h : x.run s = .ok a s')
    (f : α → EStateM ε σ β) : (x >>= f).run s = (f a).run s' := by
  rw [run_bind, h]

theorem run_bind_of_error {x : EStateM ε σ α} {s s' : σ} {e : ε} (h : x.run s = .error e s')
    (f : α → EStateM ε σ β) : (x >>= f).run s = .error e s' := by
  rw [run_bind, h]

theorem run_bind_congr {x y : EStateM ε σ α} {s : σ} (h : x.run s = y.run s)
    (f : α → EStateM ε σ β) : (x >>= f).run s = (y >>= f).run s := by
  rw [run_bind, run_bind, h]

theorem run_bind_assoc {γ : Type} (x : EStateM ε σ α) (f : α → EStateM ε σ β)
    (g : β → EStateM ε σ γ) (s : σ) : (x >>= fun a => f a >>= g).run s = ((x >>= f) >>= g).run s := by
  rw [run_bind, run_bind, run_bind]
  cases x.run s <;> rfl

theorem run_bind_eq_ok {x : EStateM ε σ α} {f : α → EStateM ε σ β} {s s'' : σ} {b : β} :
    (x >>= f).run s = .ok b s'' ↔ ∃ a s', x.run s = .ok a s' ∧ (f a).run s' = .ok b s'' := by
  rw [run_bind]
  cases x.run s with
  | ok a s' =>
    constructor
    · intro h
      exact ⟨a, s', rfl, h⟩
    · rintro ⟨_, _, h, hf⟩
      cases h
      exact hf
  | error e s' => simp

theorem run_bind_eq_error {x : EStateM ε σ α} {f : α → EStateM ε σ β} {s s'' : σ} {e : ε} :
    (x >>= f).run s = .error e s'' ↔
      x.run s = .error e s'' ∨ ∃ a s', x.run s = .ok a s' ∧ (f a).run s' = .error e s'' := by
  rw [run_bind]
  cases x.run s with
  | ok a s' =>
    constructor
    · intro h
      exact .inr ⟨a, s', rfl, h⟩
    · rintro (h | ⟨_, _, h, hf⟩)
      · cases h
      · cases h
        exact hf
  | error e' s' => simp

/-- What every step of a fold preserves, a successful fold preserves. -/
theorem foldlM_invariant {f : β → α → EStateM ε σ β} {P : β → σ → Prop} {xs : List α}
    (hstep : ∀ x ∈ xs, ∀ b s b' s', P b s → (f b x).run s = .ok b' s' → P b' s') {b b' : β}
    {s s' : σ} (h : P b s) (hrun : (xs.foldlM f b).run s = .ok b' s') : P b' s' := by
  induction xs generalizing b s with
  | nil =>
    cases hrun
    exact h
  | cons x xs ih =>
    rw [List.foldlM_cons, run_bind_eq_ok] at hrun
    obtain ⟨b₁, s₁, hx, hrest⟩ := hrun
    have h₁ := hstep x List.mem_cons_self b s b₁ s₁ h hx
    exact ih (fun y hy => hstep y (List.mem_cons_of_mem _ hy)) h₁ hrest

/-- Every run of `x` takes its state to one that `R` relates to it. -/
def Within (R : σ → σ → Prop) (x : EStateM ε σ α) : Prop :=
  ∀ s, R s (final (x.run s))

section

variable {R : σ → σ → Prop}

theorem Within.of_ok {x : EStateM ε σ α} (h : Within R x) {s s' : σ} {a : α}
    (hrun : x.run s = .ok a s') : R s s' := by
  have := h s
  rwa [hrun] at this

theorem Within.of_error {x : EStateM ε σ α} (h : Within R x) {s s' : σ} {e : ε}
    (hrun : x.run s = .error e s') : R s s' := by
  have := h s
  rwa [hrun] at this

theorem Within.mono {S : σ → σ → Prop} {x : EStateM ε σ α} (h : Within R x)
    (hRS : ∀ s s', R s s' → S s s') : Within S x :=
  fun s => hRS _ _ (h s)

theorem within_pure [Std.Refl R] (a : α) : Within R (pure a : EStateM ε σ α) :=
  fun s => Std.Refl.refl s

theorem within_throw [Std.Refl R] (e : ε) : Within R (throw e : EStateM ε σ α) :=
  fun s => Std.Refl.refl s

theorem Within.bind [IsTrans σ R] {x : EStateM ε σ α} {f : α → EStateM ε σ β}
    (hx : Within R x) (hf : ∀ a, Within R (f a)) : Within R (x >>= f) := by
  intro s
  have hs := hx s
  rw [run_bind]
  cases hrun : x.run s with
  | ok a s' =>
    rw [hrun] at hs
    exact trans_of R hs (hf a s')
  | error e s' =>
    rw [hrun] at hs
    exact hs

theorem Within.map [IsTrans σ R] [Std.Refl R] {x : EStateM ε σ α} (hx : Within R x) (f : α → β) :
    Within R (f <$> x) :=
  hx.bind fun a => within_pure (f a)

theorem within_forM [Std.Refl R] [IsTrans σ R] {f : α → EStateM ε σ PUnit} {xs : List α}
    (h : ∀ x ∈ xs, Within R (f x)) : Within R (xs.forM f) := by
  induction xs with
  | nil => exact within_pure _
  | cons x xs ih =>
    exact (h x List.mem_cons_self).bind fun _ =>
      ih fun y hy => h y (List.mem_cons_of_mem _ hy)

theorem within_foldlM [Std.Refl R] [IsTrans σ R] {f : β → α → EStateM ε σ β} {xs : List α}
    (h : ∀ b, ∀ x ∈ xs, Within R (f b x)) (b : β) : Within R (xs.foldlM f b) := by
  induction xs generalizing b with
  | nil => exact within_pure _
  | cons x xs ih =>
    rw [List.foldlM_cons]
    exact (h b x List.mem_cons_self).bind fun b' =>
      ih (fun b y hy => h b y (List.mem_cons_of_mem _ hy)) b'

end

end Effect
