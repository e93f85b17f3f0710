import Ayane.Hook.Gate
import Ayane.Service.Phases
import Ayane.Service.Issuance
import Ayane.Template.Validity

/-!
# Expiries in the range of the clock

The expiry of a claim is computed from claims of the token by additions that are not checked:
the leeway, and the buffer of one of the backends. A request panics exactly when one of the
claims that it gets to make has an expiry, or is made at an instant, from which they leave the
range of the clock.
-/

namespace Ayane

open Ayane.Action Effect

/-- The panic of a sum that leaves the range of the clock. -/
def Overflows (abort : Abort) : Prop := abort = .panic "overflow when adding duration to instant"

@[simp] theorem not_overflows_error (e : Error) : ¬Overflows (.error e) := nofun

theorem overflows_plus {t : SystemTime} {d : Duration} :
    FailsWith Overflows (t.plus d) ↔ timeLimit ≤ t.nanos + d := by
  unfold SystemTime.plus SystemTime.checkedAdd
  split_ifs with h
  · simpa using h
  · simp only [failsWith_error]
    exact ⟨fun _ => not_lt.mp h, fun _ => rfl⟩

@[simp] theorem not_overflows_addDurations {a b : Duration} :
    ¬FailsWith Overflows (addDurations a b) := by
  unfold addDurations
  split_ifs
  · exact failsWith_ok _
  · rw [failsWith_error]
    intro h
    exact absurd (Abort.panic.inj h) (by decide)

@[simp] theorem not_overflows_orAbort {α : Type} {x : Result α} : ¬FailsWith Overflows x.orAbort := by
  cases x <;> simp [Result.orAbort]

theorem avoids_ofOutcome {α : Type} {x : Outcome α} (h : ¬FailsWith Overflows x) :
    Avoids Overflows (ofOutcome x) :=
  fun _ hfails => h (failsFrom_ofOutcome.mp hfails)

theorem avoids_ofResult {α : Type} (x : Result α) : Avoids Overflows (ofResult x) :=
  avoids_ofOutcome not_overflows_orAbort

theorem avoids_systemTimeNow (rt : Runtime) : Avoids Overflows (systemTimeNow rt) :=
  fun w => not_failsFrom_of_ok (run_systemTimeNow rt w)

theorem overflows_attempt {α : Type} {x : Action α} {w : World} :
    FailsFrom Overflows (attempt x) w ↔ FailsFrom Overflows x w := by
  cases hrun : x.run w with
  | ok a w' =>
    rw [iff_false_left (not_failsFrom_of_ok (run_attempt_of_ok hrun))]
    exact not_failsFrom_of_ok hrun
  | error abort w' =>
    rw [failsFrom_of_error hrun]
    cases abort with
    | error e =>
      rw [iff_false_left (not_failsFrom_of_ok (run_attempt_of_error hrun))]
      exact not_overflows_error e
    | panic message => exact failsFrom_of_error (run_attempt_of_panic hrun)

/-! ## Claims -/

/-- What a backend adds to an expiry. -/
def Storage.buffer : Storage → Duration
  | .sqlite _ => 0
  | .dynamodb _ => DynamoDbStorage.ttlBuffer

/-- A claim that is made in `w` until `expiresAt`, and for the leeway from now at least, stays in the
range of the clock. -/
def World.Fits (rt : Runtime) (w : World) (expiresAt : SystemTime) : Prop :=
  max expiresAt.nanos ((w.tick rt).clock.nanos + replayLeeway) + w.storage.buffer < timeLimit

theorem overflows_prepareClaim {s : Storage} {jti : String} {expiresAt now : SystemTime} :
    FailsWith Overflows (s.prepareClaim jti expiresAt now) ↔ timeLimit ≤ expiresAt.nanos + s.buffer := by
  cases s with
  | sqlite db =>
    have hin := expiresAt.inRange.2
    simp only [Storage.prepareClaim, not_overflows_orAbort, Storage.buffer, false_iff]
    omega
  | dynamodb db =>
    unfold Storage.prepareClaim DynamoDbStorage.prepareClaim Storage.buffer
    rw [failsWith_bind, overflows_plus, or_iff_left]
    rintro ⟨padded, -, h⟩
    split at h <;> simp at h

theorem overflows_claimToken {rt : Runtime} {jti : String} {expiresAt : SystemTime} {w : World} :
    FailsFrom Overflows (claimToken rt jti expiresAt) w ↔
      timeLimit ≤ expiresAt.nanos + w.storage.buffer := by
  rw [← @overflows_prepareClaim w.storage jti expiresAt (w.tick rt).clock]
  have hrun : FailsFrom Overflows (claimToken rt jti expiresAt) w ↔
      FailsWith Overflows (w.storage.claimToken jti expiresAt (w.tick rt).clock).1 :=
    failsFrom_ofOutcome
  rw [hrun, Storage.claimToken]
  cases w.storage.prepareClaim jti expiresAt (w.tick rt).clock with
  | error abort => simp only [failsWith_error]
  | ok claim =>
    simp only [failsWith_ok, iff_false]
    exact not_overflows_orAbort

/-- A claim panics exactly when it does not fit. -/
theorem overflows_claimOnce_iff {rt : Runtime} {key msg : String} {expiresAt : SystemTime} {w : World} :
    FailsFrom Overflows (claimOnce rt key expiresAt msg) w ↔ ¬w.Fits rt expiresAt := by
  have hbuffer : (0 : ℤ) ≤ w.storage.buffer := Int.natCast_nonneg _
  have hin := expiresAt.inRange.2
  have hclaim : ∀ floor w', (w'.storage = w.storage) →
      (FailsFrom Overflows (attempt (claimToken rt key (max expiresAt floor)) >>= fun outcome =>
        ofResult (mapErr (surfaceConflict msg) outcome)) w' ↔
          timeLimit ≤ max expiresAt.nanos floor.nanos + w.storage.buffer) := by
    intro floor w' hstorage
    have hmax : (max expiresAt floor).nanos = max expiresAt.nanos floor.nanos := by
      rcases le_total expiresAt floor with h | h
      · rw [max_eq_right h, max_eq_right (SystemTime.le_def.mp h)]
      · rw [max_eq_left h, max_eq_left (SystemTime.le_def.mp h)]
    rw [failsFrom_bind, overflows_attempt, overflows_claimToken, hmax, hstorage]
    exact or_iff_left fun ⟨_, w', _, h⟩ => avoids_ofResult _ w' h
  unfold claimOnce World.Fits
  rw [not_lt, failsFrom_bind, or_iff_right (avoids_systemTimeNow rt w)]
  constructor
  · rintro ⟨_, _, ⟨⟩, h⟩
    rw [failsFrom_bind, failsFrom_ofOutcome, overflows_plus] at h
    obtain h | ⟨floor, _, hfloor, h⟩ := h
    · omega
    · obtain ⟨hplus, rfl⟩ := run_ofOutcome_eq_ok.mp hfloor
      rw [hclaim floor _ (storage_tick rt w), SystemTime.plus_eq_ok.mp hplus] at h
      exact h
  · intro h
    refine ⟨_, _, run_systemTimeNow rt w, ?_⟩
    rw [failsFrom_bind, failsFrom_ofOutcome, overflows_plus]
    cases hplus : (w.tick rt).clock.plus replayLeeway with
    | error abort =>
      refine .inl (not_lt.mp fun hlt => ?_)
      unfold SystemTime.plus SystemTime.checkedAdd at hplus
      rw [dif_pos hlt] at hplus
      cases hplus
    | ok floor =>
      refine .inr ⟨floor, _, run_ofOutcome_ok floor _, ?_⟩
      rw [hclaim floor _ (storage_tick rt w), SystemTime.plus_eq_ok.mp hplus]
      exact h

/-- Every scope that is reached fits, where one without an expiry is held until `defaultExpiry`. -/
def ScopesFit (rt : Runtime) (defaultExpiry : SystemTime) : List OnceClaim → World → Prop
  | [], _ => True
  | scope :: scopes, w =>
    w.Fits rt (scope.expiresAt.getD defaultExpiry) ∧
      ∀ w', (claimOnce rt scope.key (scope.expiresAt.getD defaultExpiry)
        "an issuance has already been performed for this scope").run w = .ok () w' →
          ScopesFit rt defaultExpiry scopes w'

theorem overflows_claimOnceScopes_iff {rt : Runtime} {scopes : List OnceClaim}
    {defaultExpiry : SystemTime} {w : World} :
    FailsFrom Overflows (claimOnceScopes rt scopes defaultExpiry) w ↔
      ¬ScopesFit rt defaultExpiry scopes w := by
  induction scopes generalizing w with
  | nil => simp [claimOnceScopes, ScopesFit]
  | cons scope scopes ih =>
    change FailsFrom Overflows (claimOnce rt scope.key _ _ >>= fun _ =>
      claimOnceScopes rt scopes defaultExpiry) w ↔ _
    rw [failsFrom_bind, overflows_claimOnce_iff, ScopesFit, not_and_or, not_forall]
    refine or_congr Iff.rfl ?_
    simp only [ih, Classical.not_imp]
    constructor
    · rintro ⟨_, w', hrun, h⟩
      exact ⟨w', hrun, h⟩
    · rintro ⟨w', hrun, h⟩
      exact ⟨(), w', hrun, h⟩

namespace Service

/-- The claim of a token that is made in `w` stays in the range of the clock: its `exp` leaves room for
the leeway and the buffer, and so does the time. -/
def TokenFits (rt : Runtime) (validated : ValidatedToken) (w : World) : Prop :=
  validated.claims.exp.toInt * 1000000000 + replayLeeway + w.storage.buffer < timeLimit ∧
    (w.tick rt).clock.nanos + replayLeeway + w.storage.buffer < timeLimit

theorem tokenFits_iff {rt : Runtime} {validated : ValidatedToken} {w : World} :
    TokenFits rt validated w ↔
      max (systemTimeFromEpoch validated.claims.exp).nanos (w.tick rt).clock.nanos + replayLeeway +
        w.storage.buffer < timeLimit := by
  have hexp : (systemTimeFromEpoch validated.claims.exp).nanos =
      max validated.claims.exp.toInt 0 * 1000000000 := by
    change ((fromSecs (max validated.claims.exp.toInt 0).toNat : ℕ) : ℤ) = _
    unfold fromSecs
    omega
  have hleeway : (replayLeeway : ℤ) = 60000000000 := rfl
  have hbuffer : (w.storage.buffer : ℤ) ≤ 3600000000000 := by
    cases w.storage with
    | sqlite db => exact show (0 : ℤ) ≤ 3600000000000 by decide
    | dynamodb db => exact le_of_eq rfl
  unfold TokenFits timeLimit
  omega

theorem overflows_signClaimJti_iff {rt : Runtime} {validated : ValidatedToken} {w : World} :
    FailsFrom Overflows (signClaimJti rt validated) w ↔ ¬TokenFits rt validated w := by
  have hbuffer : (0 : ℤ) ≤ w.storage.buffer := Int.natCast_nonneg _
  unfold signClaimJti claimJti
  rw [failsFrom_bind, failsFrom_ofOutcome, overflows_plus, tokenFits_iff, not_lt]
  constructor
  · rintro (h | ⟨expiresAt, _, hexpires, h⟩)
    · omega
    · obtain ⟨hplus, rfl⟩ := run_ofOutcome_eq_ok.mp hexpires
      rw [overflows_claimOnce_iff, World.Fits, SystemTime.plus_eq_ok.mp hplus] at h
      omega
  · intro h
    by_cases hfits : (systemTimeFromEpoch validated.claims.exp).nanos + replayLeeway < timeLimit
    · have hmin := (systemTimeFromEpoch validated.claims.exp).inRange.1
      have hplus : (systemTimeFromEpoch validated.claims.exp).plus replayLeeway =
          .ok ⟨_, ⟨by omega, hfits⟩⟩ := SystemTime.plus_eq_ok.mpr rfl
      refine .inr ⟨_, w, run_ofOutcome_eq_ok.mpr ⟨hplus, rfl⟩, ?_⟩
      rw [overflows_claimOnce_iff, World.Fits]
      dsimp only
      omega
    · exact .inl (not_lt.mp hfits)

end Service

/-! ## The other parts of a request -/

/-- The crates for dates panic in their own ways. -/
structure KeepsClock (crates : ServerCrates) : Prop where
  formatRfc3339 : ∀ t, ¬FailsWith Overflows (crates.times.formatRfc3339 t)
  dateTimeUtc : ∀ t, ¬FailsWith Overflows (crates.times.dateTimeUtc t)

section

variable {rt : Runtime} {service : Service} {w : World}

theorem not_overflows_validateSigned {crates : ServerCrates} {token audience issuer : String}
    {audiences : List String} {key : SigningKey} {leewaySecs : ℕ} {now : SystemTime} :
    ¬FailsWith Overflows (validateSigned crates token audience issuer audiences key leewaySecs now) := by
  have hcheck : ∀ v report payload, ¬FailsWith Overflows (crates.jwt.check v report payload now) := by
    intro v report payload
    unfold Jwt.check
    split
    · exact failsWith_ok _
    · rw [failsWith_error]
      exact not_overflows_error _
    · rw [failsWith_error]
      intro h
      exact absurd (Abort.panic.inj h) (by decide)
  simp [validateSigned, Jwt.decode, failsWith_bind, hcheck]

theorem avoids_verify (verifier : TokenVerifier) (token audience : String) :
    Avoids Overflows (verifier.verify rt token audience) := by
  have hvalidate : ∀ issuer audiences key now, Avoids Overflows (ofOutcome (validateSigned rt.crates token
      audience issuer audiences key TokenVerifier.leewaySecs now)) :=
    fun _ _ _ _ => avoids_ofOutcome not_overflows_validateSigned
  cases verifier with
  | jwk issuer audiences key => exact (avoids_systemTimeNow rt).bind fun _ => hvalidate _ _ _ _
  | jwks issuer audiences resolve =>
    refine (avoids_ofResult _).bind fun _ => Avoids.bind ?_ fun _ => (avoids_ofResult _).bind fun _ => ?_
    · exact fun w => not_failsFrom_of_ok (run_interact rt w)
    · exact (avoids_systemTimeNow rt).bind fun _ => hvalidate _ _ _ _

theorem avoids_validate (authorizer : ProvisionerAuthorizer) (token audience : String) :
    Avoids Overflows (authorizer.validate rt token audience) := by
  unfold ProvisionerAuthorizer.validate
  split
  · exact avoids_throw (not_overflows_error _)
  · exact (avoids_verify _ _ _).bind fun _ => avoids_pure _

theorem avoids_signAuthenticate (req : SignRequest) (requestUrl : String) :
    Avoids Overflows (service.signAuthenticate rt req requestUrl) := by
  refine (avoids_ofResult _).bind fun _ => (avoids_ofResult _).bind fun _ => ?_
  exact (avoids_validate _ _ _).bind fun _ => avoids_pure _

theorem not_overflows_computeValidity {template : CertificateTemplate} {now : SystemTime}
    {requestedNotBefore requestedNotAfter : Option SystemTime} :
    ¬FailsWith Overflows
      (template.computeValidity now requestedNotBefore requestedNotAfter) := by
  have hwindow : ∀ start requested,
      ¬FailsWith Overflows (CertificateTemplate.windowFrom template start requested) := by
    intro start requested
    unfold CertificateTemplate.windowFrom
    rw [failsWith_bind]
    rintro (h | ⟨_, -, h⟩)
    · exact not_overflows_addDurations h
    · split_ifs at h
      · simp at h
      · split at h <;> simp at h
  rw [CertificateTemplate.computeValidity_eq]
  cases requestedNotAfter with
  | none => simp [failsWith_bind, hwindow]
  | some na =>
    dsimp only
    split_ifs
    · exact hwindow _ _
    · simp

theorem avoids_consult (ctx : Context) (request : HookRequest) (acc : Customization × Bool)
    (hook : HookProvider) : Avoids Overflows (Hook.consult rt ctx request acc hook) := by
  have hcall : Avoids Overflows (callHook rt hook ctx.provisioner request) := by
    refine Avoids.bind (fun w => not_failsFrom_of_ok (run_interact rt w)) fun _ => ?_
    refine (avoids_ofResult _).bind fun _ => Avoids.bind ?_ fun _ => avoids_pure _
    rintro w ⟨_, _, ⟨⟩, -⟩
  unfold Hook.consult
  split_ifs
  · exact avoids_pure _
  · refine hcall.bind fun _ => ?_
    split_ifs
    · exact avoids_throw (not_overflows_error _)
    · exact (avoids_ofResult _).bind fun _ => avoids_pure _

variable (hclock : KeepsClock rt.crates)

include hclock

theorem avoids_hooks (hooks : List HookProvider) (ctx : Context) :
    Avoids Overflows (Hook.run rt hooks ctx) := by
  have hrequest : Avoids Overflows (Hook.request rt ctx) := by
    refine (avoids_systemTimeNow rt).bind fun _ => ?_
    refine (avoids_ofOutcome (hclock.dateTimeUtc _)).bind fun _ => ?_
    refine (avoids_ofOutcome (hclock.dateTimeUtc _)).bind fun _ => ?_
    exact (avoids_ofOutcome (hclock.dateTimeUtc _)).bind fun _ => avoids_pure _
  unfold Hook.run
  split_ifs
  · exact (avoids_ofResult _).bind fun _ => avoids_pure _
  · refine hrequest.bind fun _ => ?_
    refine (avoids_foldlM (fun acc hook _ => avoids_consult ctx _ acc hook) _).bind ?_
    rintro ⟨_, _⟩
    exact (avoids_ofResult _).bind fun _ => avoids_pure _

theorem avoids_signPlan (req : SignRequest) (csr : ParsedCsr) (validated : ValidatedToken) :
    Avoids Overflows (service.signPlan rt req csr validated) := by
  have hceiling : ∀ (template : CertificateTemplate) notBefore,
      ¬FailsWith Overflows (template.maxNotAfter notBefore) := by
    intro template notBefore
    simp [CertificateTemplate.maxNotAfter, failsWith_bind]
  refine (avoids_ofResult _).bind fun _ => (avoids_ofResult _).bind fun _ => ?_
  refine (avoids_ofResult _).bind fun _ => (avoids_ofResult _).bind fun template => ?_
  refine (avoids_systemTimeNow rt).bind fun _ => (avoids_ofResult _).bind fun _ => ?_
  refine (avoids_ofResult _).bind fun _ => (avoids_ofOutcome not_overflows_computeValidity).bind ?_
  rintro ⟨_, _⟩
  refine (avoids_hooks hclock _ _).bind fun _ => (avoids_ofOutcome (hceiling template _)).bind fun _ => ?_
  exact (avoids_ofResult _).bind fun _ => avoids_pure _

theorem avoids_eventNow (eventType outcome : String) :
    Avoids Overflows (eventNow rt eventType outcome) :=
  (avoids_systemTimeNow rt).bind fun _ =>
    (avoids_ofOutcome (hclock.formatRfc3339 _)).bind fun _ => avoids_pure _

theorem avoids_signIssue (plan : Service.SignPlan) (requestId : Option String) :
    Avoids Overflows (service.signIssue rt plan requestId) := by
  have hissue : ∀ n entropy, ¬FailsWith Overflows
      (service.ca.issue rt.crates n entropy plan.issueParams) := by
    intro n entropy
    simp [CertificateAuthority.issue, CertificateAuthority.build, failsWith_bind,
      hclock.formatRfc3339]
  refine Avoids.bind (fun w h => hissue _ _ (failsFrom_withKey.mp h)) fun _ => ?_
  refine (avoids_ofOutcome (hclock.formatRfc3339 _)).bind fun _ => ?_
  refine (avoids_ofOutcome (hclock.formatRfc3339 _)).bind fun _ => Avoids.bind ?_ fun _ => ?_
  · exact fun w h => not_overflows_orAbort (failsFrom_ofOutcome.mp h)
  · exact (avoids_eventNow hclock _ _).bind fun _ => avoids_pure _

/-- Reporting a request does not overflow by itself. -/
theorem overflows_audited {α : Type} {eventType : String} {requestId : Option String}
    {request : Action (α × AuditEvent)} :
    FailsFrom Overflows (audited rt eventType requestId request) w ↔ FailsFrom Overflows request w := by
  have hemit : ∀ event, Avoids Overflows (emit event) := by
    rintro event w ⟨_, _, ⟨⟩, -⟩
  have hdenied : ∀ e, Avoids Overflows (denial rt eventType requestId e >>= fun event =>
      emit event >>= fun _ => throw (.error e) : Action α) := by
    intro e
    refine ((avoids_eventNow hclock _ _).bind fun _ => avoids_pure _).bind fun event => ?_
    exact (hemit event).bind fun _ => avoids_throw (not_overflows_error e)
  unfold audited
  rw [failsFrom_bind, overflows_attempt]
  refine or_iff_left ?_
  rintro ⟨e | ⟨response, event⟩, w', -, h⟩
  · exact hdenied e w' h
  · exact ((hemit event).bind fun _ => avoids_pure _) w' h

end

/-! ## Whole requests -/

namespace Service

variable {rt : Runtime} {service : Service} {w : World}

/-- Every claim that a request to sign gets to make fits: the one of its token, and those of the
scopes of the token and of the hooks. -/
def SignFits (rt : Runtime) (service : Service) (req : SignRequest) (requestUrl : String) (w : World) :
    Prop :=
  ∀ csr validated w₁ plan w₂,
    (service.signAuthenticate rt req requestUrl).run w = .ok (csr, validated) w₁ →
    (service.signPlan rt req csr validated).run w₁ = .ok plan w₂ →
      TokenFits rt validated w₂ ∧ ∀ w₃, (signClaimJti rt validated).run w₂ = .ok () w₃ →
        ScopesFit rt plan.custom.notAfter plan.onceScopes w₃

/-- The claim of the token fits that a request to revoke is authorized by. -/
def RevokeFits (rt : Runtime) (service : Service) (req : RevokeRequest) (dpop : Option String)
    (requestUrl : String) (w : World) : Prop :=
  ∀ serial validated w₁, normalizeSerial rt.crates req.serialNumber = .ok serial →
    (service.revokeAuthenticate rt req dpop requestUrl serial (w.tick rt).clock).run (w.tick rt) =
      .ok (.token validated) w₁ → TokenFits rt validated w₁

theorem overflows_sign_iff (hclock : KeepsClock rt.crates) {req : SignRequest} {requestUrl : String}
    {requestId : Option String} :
    FailsFrom Overflows (service.sign rt req requestUrl requestId) w ↔
      ¬SignFits rt service req requestUrl w := by
  unfold sign trySign SignFits
  rw [overflows_audited hclock, failsFrom_bind, or_iff_right (avoids_signAuthenticate req requestUrl w)]
  push Not
  constructor
  · rintro ⟨⟨csr, validated⟩, w₁, hauth, h⟩
    obtain h | ⟨plan, w₂, hplan, h⟩ := failsFrom_bind.mp h
    · exact absurd h (avoids_signPlan hclock req csr validated w₁)
    · refine ⟨csr, validated, w₁, plan, w₂, hauth, hplan, fun hfits => ?_⟩
      obtain h | ⟨_, w₃, hjti, h⟩ := failsFrom_bind.mp h
      · exact absurd hfits (overflows_signClaimJti_iff.mp h)
      · obtain h | ⟨_, w₄, -, h⟩ := failsFrom_bind.mp h
        · exact ⟨w₃, hjti, overflows_claimOnceScopes_iff.mp h⟩
        · exact absurd h (avoids_signIssue hclock plan requestId w₄)
  · rintro ⟨csr, validated, w₁, plan, w₂, hauth, hplan, h⟩
    refine ⟨_, w₁, hauth, failsFrom_bind.mpr (.inr ⟨plan, w₂, hplan, failsFrom_bind.mpr ?_⟩)⟩
    by_cases hfits : TokenFits rt validated w₂
    · obtain ⟨w₃, hjti, hscopes⟩ := h hfits
      refine .inr ⟨(), w₃, hjti, failsFrom_bind.mpr (.inl ?_)⟩
      exact overflows_claimOnceScopes_iff.mpr hscopes
    · exact .inl (overflows_signClaimJti_iff.mpr hfits)

section

variable {req : RevokeRequest} {dpop : Option String} {requestUrl serial : String} {now : SystemTime}

theorem avoids_revokeAuthenticate (htoken : req.token.isSome) :
    Avoids Overflows (service.revokeAuthenticate rt req dpop requestUrl serial now) := by
  obtain ⟨token, htoken⟩ := Option.isSome_iff_exists.mp htoken
  unfold revokeAuthenticate
  rw [htoken]
  refine (avoids_validate _ _ _).bind fun _ => (avoids_ofResult _).bind fun _ => ?_
  exact (avoids_ofResult _).bind fun _ => avoids_pure _

/-- A revocation that presents a token is authorized by it. -/
theorem token_of_revokeAuthenticate (htoken : req.token.isSome) {auth : RevokeAuth} {w' : World}
    (h : (service.revokeAuthenticate rt req dpop requestUrl serial now).run w = .ok auth w') :
    ∃ validated, auth = .token validated := by
  obtain ⟨token, htoken⟩ := Option.isSome_iff_exists.mp htoken
  unfold revokeAuthenticate at h
  rw [htoken] at h
  obtain ⟨validated, _, -, h⟩ := run_bind_eq_ok.mp h
  obtain ⟨_, _, -, h⟩ := run_bind_eq_ok.mp h
  obtain ⟨_, _, -, h⟩ := run_bind_eq_ok.mp h
  cases h
  exact ⟨validated, rfl⟩

theorem avoids_revokeCommit (hclock : KeepsClock rt.crates) (auth : RevokeAuth)
    (requestId : Option String) : Avoids Overflows (revokeCommit rt req auth serial now requestId) := by
  refine (avoids_ofOutcome (hclock.formatRfc3339 _)).bind fun _ => Avoids.bind ?_ fun _ => ?_
  · exact fun w => not_failsFrom_of_ok (run_onStorage_eq_ok.mpr ⟨rfl, rfl⟩)
  · exact (avoids_eventNow hclock _ _).bind fun _ => avoids_pure _

theorem overflows_revoke_iff (hclock : KeepsClock rt.crates) (htoken : req.token.isSome)
    {requestId : Option String} :
    FailsFrom Overflows (service.revoke rt req dpop requestUrl requestId) w ↔
      ¬RevokeFits rt service req dpop requestUrl w := by
  unfold revoke tryRevoke RevokeFits
  rw [overflows_audited hclock, failsFrom_bind, or_iff_right (avoids_ofResult _ w)]
  push Not
  constructor
  · rintro ⟨serial, _, hrun, h⟩
    obtain ⟨hserial, rfl⟩ := run_ofResult_eq_ok.mp hrun
    obtain h | ⟨now, _, hnow, h⟩ := failsFrom_bind.mp h
    · exact absurd h (avoids_systemTimeNow rt _)
    · rw [run_systemTimeNow] at hnow
      obtain ⟨rfl, rfl⟩ := EStateM.Result.ok.inj hnow
      obtain h | ⟨auth, w₁, hauth, h⟩ := failsFrom_bind.mp h
      · exact absurd h (avoids_revokeAuthenticate htoken _)
      · obtain ⟨validated, rfl⟩ := token_of_revokeAuthenticate htoken hauth
        refine ⟨serial, validated, w₁, hserial, hauth, ?_⟩
        obtain h | ⟨_, w₂, -, h⟩ := failsFrom_bind.mp h
        · exact overflows_signClaimJti_iff.mp h
        · exact absurd h (avoids_revokeCommit hclock (.token validated) requestId w₂)
  · rintro ⟨serial, validated, w₁, hserial, hauth, h⟩
    refine ⟨serial, w, run_ofResult_of_ok hserial w, failsFrom_bind.mpr (.inr ?_)⟩
    refine ⟨_, _, run_systemTimeNow rt w, ?_⟩
    refine failsFrom_bind.mpr (.inr ⟨_, w₁, hauth, failsFrom_bind.mpr (.inl ?_)⟩)
    exact overflows_signClaimJti_iff.mpr h

end

/-- Requests that present a token end in no panic of the clock exactly when every claim that they get to
make fits. -/
theorem token_expiries_inRange_iff (rt : Runtime) (hclock : KeepsClock rt.crates) (service : Service) :
    (∀ req requestUrl requestId w,
      ¬FailsFrom Overflows (service.sign rt req requestUrl requestId) w ↔
        SignFits rt service req requestUrl w) ∧
    ∀ req dpop requestUrl requestId w, req.token.isSome →
      (¬FailsFrom Overflows (service.revoke rt req dpop requestUrl requestId) w ↔
        RevokeFits rt service req dpop requestUrl w) :=
  ⟨fun _ _ _ _ => not_iff_comm.mp (overflows_sign_iff hclock).symm,
    fun _ _ _ _ _ htoken => not_iff_comm.mp (overflows_revoke_iff hclock htoken).symm⟩

/-! ## A token of the last instant -/

/-- A run in which the payloads `1` and `2` end with the clock, and with the buffer before that. -/
def farRuntime : Runtime :=
  Testca.still (Testca.serverCrates [] [("csr", Testca.csr)]
    [([1], Testca.ottClaims "web" "t-1" 1000 (2 ^ 63 - 1)),
      ([2], Testca.ottClaims "web" "t-2" 1000 (2 ^ 63 - 1 - 60)),
      ([3], Testca.ottClaims "7" "t-3" 1000 (2 ^ 63 - 1))])

/-- Revoke the serial number 7. -/
def farRevocation : RevokeRequest where
  serialNumber := "7"
  reason := none
  reasonCode := none
  token := some (Testca.token "o" 3 [9])
  certificate := none

theorem keepsClock_farRuntime : KeepsClock farRuntime.crates :=
  ⟨fun _ => failsWith_ok _, fun _ => failsWith_ok _⟩

def sqliteWorld : World := Testca.world Testca.sqlite (Testca.instant 1000)

def dynamodbWorld : World := Testca.world (.dynamodb {}) (Testca.instant 1000)

/-- The second token fits one of the backends. -/
theorem token_expiries_inRange_iff_far :
    (¬FailsFrom Overflows ((Testca.service true []).sign farRuntime
        (Testca.signRequest (Testca.token "o" 2 [9])) "ca" none) sqliteWorld ↔
      SignFits farRuntime (Testca.service true []) (Testca.signRequest (Testca.token "o" 2 [9])) "ca"
        sqliteWorld) ∧
    (¬FailsFrom Overflows ((Testca.service true []).revoke farRuntime farRevocation none "ca" none)
        sqliteWorld ↔
      RevokeFits farRuntime (Testca.service true []) farRevocation none "ca" sqliteWorld) :=
  ⟨(token_expiries_inRange_iff farRuntime keepsClock_farRuntime (Testca.service true [])).1 _ _ _ _,
    (token_expiries_inRange_iff farRuntime keepsClock_farRuntime (Testca.service true [])).2 _ _ _ _ _
      rfl⟩

/-- Requests with an accepted token end in a panic of the clock. -/
theorem overflowing_far :
    (∃ accepted w₁ w₂,
      ((Testca.service true []).signAuthenticate farRuntime
        (Testca.signRequest (Testca.token "o" 1 [9])) "ca").run sqliteWorld = .ok accepted w₁ ∧
      ((Testca.service true []).sign farRuntime
        (Testca.signRequest (Testca.token "o" 1 [9])) "ca" none).run sqliteWorld =
          .error (.panic "overflow when adding duration to instant") w₂) ∧
    (∃ accepted w₁ w₂,
      ((Testca.service true []).signAuthenticate farRuntime
        (Testca.signRequest (Testca.token "o" 2 [9])) "ca").run dynamodbWorld = .ok accepted w₁ ∧
      ((Testca.service true []).sign farRuntime
        (Testca.signRequest (Testca.token "o" 2 [9])) "ca" none).run dynamodbWorld =
          .error (.panic "overflow when adding duration to instant") w₂) ∧
    ∃ w₂, ((Testca.service true []).revoke farRuntime farRevocation none "ca" none).run sqliteWorld =
      .error (.panic "overflow when adding duration to instant") w₂ :=
  ⟨⟨_, _, _, rfl, rfl⟩, ⟨_, _, _, rfl, rfl⟩, _, rfl⟩

end Service

end Ayane
