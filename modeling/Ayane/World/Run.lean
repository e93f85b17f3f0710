import Ayane.Lib.Failure
import Ayane.World

/-!
# Runs of actions

What a run of each primitive action returns and leaves behind, and two preorders of
worlds. A part of a request that only reads waits (`Waits`): time passes, hooks answer,
and the storage stays as it was. Any part evolves the world (`Evolves`): it never turns
the clock back, ends a claim early or forgets what a hook answered.
-/

namespace Ayane

open Ayane.Action Effect

/-! ## What the primitives return -/

@[simp] theorem storage_tick (rt : Runtime) (w : World) : (w.tick rt).storage = w.storage := rfl

theorem le_clock_tick (rt : Runtime) (w : World) : w.clock ≤ (w.tick rt).clock :=
  w.clock.le_later _

@[simp] theorem run_ofOutcome_eq_ok {α : Type} {x : Outcome α} {w w' : World} {a : α} :
    (ofOutcome x).run w = .ok a w' ↔ x = .ok a ∧ w' = w := by
  cases x with
  | ok b =>
    change EStateM.Result.ok b w = .ok a w' ↔ _
    simp [eq_comm]
  | error e =>
    change EStateM.Result.error e w = .ok a w' ↔ _
    simp

@[simp] theorem run_ofResult_eq_ok {α : Type} {x : Result α} {w w' : World} {a : α} :
    (ofResult x).run w = .ok a w' ↔ x = .ok a ∧ w' = w := by
  simp [ofResult]

theorem run_ofOutcome_ok {α : Type} (a : α) (w : World) :
    (ofOutcome (.ok a)).run w = .ok a w := rfl

theorem run_ofOutcome_error {α : Type} (abort : Abort) (w : World) :
    (ofOutcome (.error abort : Outcome α)).run w = .error abort w := rfl

theorem failsFrom_ofOutcome {α : Type} {P : Abort → Prop} {x : Outcome α} {w : World} :
    FailsFrom P (ofOutcome x) w ↔ FailsWith P x := by
  cases x with
  | ok a => simp [ofOutcome]
  | error abort => rw [failsFrom_of_error (run_ofOutcome_error abort w), failsWith_error]

theorem run_ofResult_of_ok {α : Type} {x : Result α} {a : α} (h : x = .ok a) (w : World) :
    (ofResult x).run w = .ok a w :=
  run_ofResult_eq_ok.mpr ⟨h, rfl⟩

@[simp] theorem run_systemTimeNow (rt : Runtime) (w : World) :
    (systemTimeNow rt).run w = .ok (w.tick rt).clock (w.tick rt) := rfl

@[simp] theorem run_interact (rt : Runtime) (w : World) :
    (interact rt).run w = .ok w.interactions (w.tick rt) := rfl

theorem failsFrom_withKey {α : Type} {P : Abort → Prop} {rt : Runtime} {f : ℕ → Digest 19 → Outcome α}
    {w : World} :
    FailsFrom P (withKey rt f) w ↔ FailsWith P (f w.interactions (rt.entropy w.interactions)) := by
  rw [← @failsFrom_ofOutcome _ _ _ (w.tick rt)]
  unfold FailsFrom withKey
  rw [run_bind_of_ok (run_interact rt w)]

/-- The world after an atomic step on the storage. -/
def World.storing (rt : Runtime) (w : World) (s : Storage) : World :=
  { w.tick rt with storage := s }

theorem run_onStorage {α : Type} (rt : Runtime) (f : Storage → Outcome α × Storage) (w : World) :
    (onStorage rt f).run w =
      (ofOutcome (f w.storage).1).run (w.storing rt (f w.storage).2) := rfl

theorem run_onStorage_eq_ok {α : Type} {rt : Runtime} {f : Storage → Outcome α × Storage}
    {w w' : World} {a : α} :
    (onStorage rt f).run w = .ok a w' ↔
      (f w.storage).1 = .ok a ∧ w' = w.storing rt (f w.storage).2 := by
  rw [run_onStorage, run_ofOutcome_eq_ok]

theorem final_onStorage {α : Type} (rt : Runtime) (f : Storage → Outcome α × Storage) (w : World) :
    final ((onStorage rt f).run w) = w.storing rt (f w.storage).2 := by
  rw [run_onStorage]
  cases (f w.storage).1 <;> rfl

/-- `claim_token` reads the clock, and claims at a later interaction. -/
theorem run_claimToken (rt : Runtime) (jti : String) (expiresAt : SystemTime) (w : World) :
    (claimToken rt jti expiresAt).run w =
      (ofOutcome (w.storage.claimToken jti expiresAt (w.tick rt).clock).1).run
        ((w.tick rt).storing rt (w.storage.claimToken jti expiresAt (w.tick rt).clock).2) := rfl

/-- An answered hook is remembered. -/
theorem consultations_of_callHook {rt : Runtime} {hook : HookProvider} {provisioner : Option String}
    {request : HookRequest} {response : HookResponse} {w w' : World}
    (h : (callHook rt hook provisioner request).run w = .ok response w') :
    w'.consultations = ⟨hook, provisioner, response.allow⟩ :: w.consultations := by
  unfold callHook at h
  obtain ⟨n, w₁, hn, h⟩ := run_bind_eq_ok.mp h
  cases hn
  obtain ⟨answer, w₂, hanswer, h⟩ := run_bind_eq_ok.mp h
  obtain ⟨-, rfl⟩ := run_ofResult_eq_ok.mp hanswer
  cases h
  rfl

theorem run_attempt_of_ok {α : Type} {x : Action α} {w w' : World} {a : α}
    (h : x.run w = .ok a w') : (attempt x).run w = .ok (.ok a) w' := by
  simp only [EStateM.run, attempt] at h ⊢
  rw [h]

theorem run_attempt_of_error {α : Type} {x : Action α} {w w' : World} {e : Error}
    (h : x.run w = .error (.error e) w') : (attempt x).run w = .ok (.error e) w' := by
  simp only [EStateM.run, attempt] at h ⊢
  rw [h]

theorem run_attempt_of_panic {α : Type} {x : Action α} {w w' : World} {message : String}
    (h : x.run w = .error (.panic message) w') :
    (attempt x).run w = .error (.panic message) w' := by
  simp only [EStateM.run, attempt] at h ⊢
  rw [h]

theorem run_attempt_eq_ok {α : Type} {x : Action α} {w w' : World} {r : Result α} :
    (attempt x).run w = .ok r w' ↔
      (∃ a, r = .ok a ∧ x.run w = .ok a w') ∨ (∃ e, r = .error e ∧ x.run w = .error (.error e) w') := by
  cases hx : x.run w with
  | ok a w'' =>
    rw [run_attempt_of_ok hx]
    aesop
  | error abort w'' =>
    cases abort with
    | error e =>
      rw [run_attempt_of_error hx]
      aesop
    | panic message =>
      rw [run_attempt_of_panic hx]
      simp

theorem final_attempt {α : Type} (x : Action α) (w : World) :
    final ((attempt x).run w) = final (x.run w) := by
  cases hx : x.run w with
  | ok a w' => rw [run_attempt_of_ok hx, final_ok, final_ok]
  | error abort w' =>
    cases abort with
    | error e => rw [run_attempt_of_error hx, final_ok, final_error]
    | panic message => rw [run_attempt_of_panic hx, final_error, final_error]

/-! ## Waiting -/

/-- From `w` to `w'` time has passed and hooks may have answered. -/
structure World.Waits (w w' : World) : Prop where
  storage : w'.storage = w.storage
  clock : w.clock ≤ w'.clock
  consultations : w.consultations <:+ w'.consultations

instance : Std.Refl World.Waits := ⟨fun _ => ⟨rfl, le_rfl, List.suffix_rfl⟩⟩

instance : IsTrans World World.Waits :=
  ⟨fun _ _ _ h h' => ⟨h'.storage.trans h.storage, h.clock.trans h'.clock,
    h.consultations.trans h'.consultations⟩⟩

section

variable {R : World → World → Prop} [Std.Refl R]

theorem within_ofOutcome {α : Type} (x : Outcome α) : Within R (ofOutcome x) := by
  cases x with
  | ok a => exact within_pure a
  | error e => exact within_throw e

theorem within_ofResult {α : Type} (x : Result α) : Within R (ofResult x) := within_ofOutcome _

omit [Std.Refl R] in
theorem within_attempt {α : Type} {x : Action α} (h : Within R x) : Within R (attempt x) := by
  intro w
  rw [final_attempt]
  exact h w

end

theorem waits_tick (rt : Runtime) (w : World) : w.Waits (w.tick rt) :=
  ⟨rfl, le_clock_tick rt w, List.suffix_rfl⟩

theorem waits_interact (rt : Runtime) : Within World.Waits (interact rt) := waits_tick rt

theorem waits_systemTimeNow (rt : Runtime) : Within World.Waits (systemTimeNow rt) := waits_tick rt

theorem waits_withKey {α : Type} (rt : Runtime) (f : ℕ → Digest 19 → Outcome α) :
    Within World.Waits (withKey rt f) :=
  (waits_interact rt).bind fun _ => within_ofOutcome _

/-! ## Evolving -/

/-- From `w` to `w'` claims are kept to their ends, and answers are remembered. -/
structure World.Evolves (w w' : World) : Prop where
  claims : w.storage.Evolves w'.storage w.clock w'.clock
  clock : w.clock ≤ w'.clock
  consultations : w.consultations <:+ w'.consultations

instance : Std.Refl World.Evolves := ⟨fun _ => ⟨.refl _ _, le_rfl, List.suffix_rfl⟩⟩

instance : IsTrans World World.Evolves :=
  ⟨fun _ _ _ h h' => ⟨h.claims.trans h'.claims, h.clock.trans h'.clock,
    h.consultations.trans h'.consultations⟩⟩

theorem World.Waits.evolves {w w' : World} (h : w.Waits w') : w.Evolves w' where
  claims := by
    rw [h.storage]
    exact .wait _ (WithTop.coe_le_coe.mpr (unixSecs_mono h.clock))
  clock := h.clock
  consultations := h.consultations

theorem evolves_of_waits {α : Type} {x : Action α} (h : Within World.Waits x) :
    Within World.Evolves x :=
  h.mono fun _ _ => World.Waits.evolves

/-- A step on the storage evolves the world when it evolves the claims. -/
theorem evolves_onStorage {α : Type} (rt : Runtime) {f : Storage → Outcome α × Storage} {w : World}
    (h : w.storage.Evolves (f w.storage).2 w.clock (w.tick rt).clock) :
    w.Evolves (final ((onStorage rt f).run w)) := by
  rw [final_onStorage]
  exact ⟨h, le_clock_tick rt w, List.suffix_rfl⟩

/-- A step on the storage that leaves the claims alone. -/
theorem evolves_onStorage_of_eq {α : Type} (rt : Runtime) {f : Storage → Outcome α × Storage}
    (h : ∀ s, (f s).2.heldUntil = s.heldUntil) : Within World.Evolves (onStorage rt f) := by
  intro w
  apply evolves_onStorage
  rw [Storage.Evolves, h]
  exact .wait _ (WithTop.coe_le_coe.mpr (unixSecs_mono (le_clock_tick rt w)))

theorem evolves_recordCertificate (rt : Runtime) (record : CertificateRecord) :
    Within World.Evolves (recordCertificate rt record) :=
  evolves_onStorage_of_eq rt fun s => s.heldUntil_recordCertificate record

theorem evolves_revokeSerial (rt : Runtime) (record : RevocationRecord) :
    Within World.Evolves (revokeSerial rt record) :=
  evolves_onStorage_of_eq rt fun s => s.heldUntil_revoke record

theorem evolves_getCache (rt : Runtime) (key : String) : Within World.Evolves (getCache rt key) :=
  (evolves_of_waits (waits_systemTimeNow rt)).bind fun now =>
    evolves_onStorage_of_eq rt fun s => s.heldUntil_getCache key now

theorem evolves_setCache (rt : Runtime) (key : String) (value : Bytes) (expiresAt : SystemTime) :
    Within World.Evolves (setCache rt key value expiresAt) :=
  evolves_onStorage_of_eq rt fun s => s.heldUntil_setCache key value expiresAt

theorem evolves_claimToken (rt : Runtime) (jti : String) (expiresAt : SystemTime) :
    Within World.Evolves (claimToken rt jti expiresAt) := by
  intro w
  have htick := le_clock_tick rt (w.tick rt)
  refine trans_of World.Evolves (waits_tick rt w).evolves ?_
  exact evolves_onStorage rt (Storage.evolves_claimToken _ jti expiresAt htick htick)

theorem evolves_upkeep {w : World} {s' : Storage} (h : w.storage.Upkeep w.clock s') :
    w.Evolves { w with storage := s' } :=
  ⟨h.evolves le_rfl, le_rfl, List.suffix_rfl⟩

end Ayane
