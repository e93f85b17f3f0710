import Ayane.Service
import Ayane.World.Run

/-!
# The parts of a request

What the parts of a request do to the world. Authenticating and planning only wait;
claiming and committing evolve the world. A claim of a one-time key is given a
specification of its own, on which every result about claims rests.
-/

namespace Ayane

open Ayane.Action Effect

/-! ## Authenticating and planning -/

section

variable {R : World → World → Prop} [Std.Refl R] [IsTrans World R] {rt : Runtime}

theorem TokenVerifier.within_verify (htick : ∀ w : World, R w (w.tick rt))
    (verifier : TokenVerifier) (token audience : String) :
    Within R (verifier.verify rt token audience) := by
  cases verifier with
  | jwk issuer audiences key =>
    exact Within.bind htick fun _ => within_ofOutcome _
  | jwks issuer audiences resolve =>
    refine (within_ofResult _).bind fun _ => Within.bind htick fun _ => ?_
    exact (within_ofResult _).bind fun _ => Within.bind htick fun _ => within_ofOutcome _

/-- Validating a token does nothing but read the clock and ask for keys. -/
theorem ProvisionerAuthorizer.within_validate (htick : ∀ w : World, R w (w.tick rt))
    (authorizer : ProvisionerAuthorizer) (token audience : String) :
    Within R (authorizer.validate rt token audience) := by
  unfold validate
  split
  · exact within_throw _
  · exact (TokenVerifier.within_verify htick _ token audience).bind fun _ => within_pure _

/-- `R` holds when time passes and when a hook answers. -/
structure Idle (R : World → World → Prop) (rt : Runtime) : Prop where
  tick : ∀ w : World, R w (w.tick rt)
  consulted : ∀ (w : World) (c : Consultation), R w { w with consultations := c :: w.consultations }

theorem idle_waits (rt : Runtime) : Idle World.Waits rt where
  tick := waits_tick rt
  consulted _ _ := ⟨rfl, le_rfl, List.suffix_cons _ _⟩

namespace Hook

theorem within_consult (hidle : Idle R rt) (ctx : Context) (request : HookRequest)
    (acc : Customization × Bool) (hook : HookProvider) :
    Within R (consult rt ctx request acc hook) := by
  unfold consult
  split
  · exact within_pure _
  · refine Within.bind (Within.bind hidle.tick fun n => (within_ofResult _).bind fun response => ?_) ?_
    · exact Within.bind (fun w => hidle.consulted w _) fun _ => within_pure _
    · intro response
      split
      · exact within_throw _
      · exact (within_ofResult _).bind fun _ => within_pure _

theorem within_request (hidle : Idle R rt) (ctx : Context) : Within R (request rt ctx) := by
  refine Within.bind hidle.tick fun _ => (within_ofOutcome _).bind fun _ => ?_
  exact (within_ofOutcome _).bind fun _ => (within_ofOutcome _).bind fun _ => within_pure _

theorem within_run (hidle : Idle R rt) (hooks : List HookProvider) (ctx : Context) :
    Within R (run rt hooks ctx) := by
  unfold run
  split
  · exact (within_ofResult _).bind fun _ => within_pure _
  · refine (within_request hidle ctx).bind fun request => ?_
    refine (within_foldlM (fun acc hook _ => within_consult hidle ctx request acc hook) _).bind ?_
    rintro ⟨_, _⟩
    exact (within_ofResult _).bind fun _ => within_pure _

end Hook

namespace Service

variable (service : Service) (hidle : Idle R rt)

include hidle

theorem within_signAuthenticate (req : SignRequest) (requestUrl : String) :
    Within R (service.signAuthenticate rt req requestUrl) := by
  refine (within_ofResult _).bind fun _ => (within_ofResult _).bind fun _ => ?_
  exact (service.authorizer.within_validate hidle.tick _ _).bind fun _ => within_pure _

theorem within_signPlan (req : SignRequest) (csr : ParsedCsr) (validated : ValidatedToken) :
    Within R (service.signPlan rt req csr validated) := by
  refine (within_ofResult _).bind fun _ => (within_ofResult _).bind fun _ => ?_
  refine (within_ofResult _).bind fun _ => (within_ofResult _).bind fun _ => ?_
  refine Within.bind hidle.tick fun _ => (within_ofResult _).bind fun _ => ?_
  refine (within_ofResult _).bind fun _ => (within_ofOutcome _).bind ?_
  rintro ⟨_, _⟩
  refine (Hook.within_run hidle _ _).bind fun _ => (within_ofOutcome _).bind fun _ => ?_
  exact (within_ofResult _).bind fun _ => within_pure _

theorem within_reissueAuthenticate (certificatePem : String) (dpop : Option String)
    (requestUrl : String) :
    Within R (service.reissueAuthenticate rt certificatePem dpop requestUrl) := by
  have hread : ∀ serial, Within R (getRevocation rt serial) := by
    intro serial w
    rw [getRevocation, final_onStorage]
    exact hidle.tick w
  unfold reissueAuthenticate
  refine (within_ofResult _).bind fun _ => (within_ofResult _).bind fun cert => ?_
  refine (within_ofResult _).bind fun _ => (hread _).bind fun _ => ?_
  refine (within_ofResult _).bind fun _ => (within_ofResult _).bind fun _ => ?_
  refine Within.bind hidle.tick fun _ => (within_ofResult _).bind fun _ => ?_
  exact (within_ofOutcome _).bind fun _ => within_pure _

theorem within_reissuePlan (auth : ReissueAuth) (newCsrPem : Option String) :
    Within R (service.reissuePlan rt auth newCsrPem) := by
  refine (within_ofResult _).bind ?_
  rintro ⟨_, _⟩
  refine (within_ofResult _).bind fun _ => (within_ofResult _).bind fun _ => ?_
  refine (within_ofResult _).bind fun _ => (Hook.within_run hidle _ _).bind fun _ => ?_
  exact (within_ofResult _).bind fun _ => within_pure _

theorem within_revokeAuthenticate (req : RevokeRequest) (dpop : Option String)
    (requestUrl serial : String) (now : SystemTime) :
    Within R (service.revokeAuthenticate rt req dpop requestUrl serial now) := by
  unfold revokeAuthenticate
  split
  · refine (service.authorizer.within_validate hidle.tick _ _).bind fun _ => ?_
    exact (within_ofResult _).bind fun _ => (within_ofResult _).bind fun _ => within_pure _
  · refine (within_ofResult _).bind fun _ => (within_ofResult _).bind fun _ => ?_
    refine (within_ofResult _).bind fun _ => (within_ofOutcome _).bind fun _ => within_pure _
  · exact within_throw _

end Service

end

/-- A token that `verify` accepted between `w` and `w'` was within its window at some instant
between the two. -/
def InWindow (w w' : World) (claims : OttClaims) : Prop :=
  ∃ now, w.clock ≤ now ∧ now ≤ w'.clock ∧ unixEpoch ≤ now ∧
    ∃ exp : ℕ, claims.exp.toInt = exp ∧ unixSecs now ≤ exp + 60

/-- A verifier accepts what validates for its issuer at some instant of its run. -/
theorem TokenVerifier.of_verify {rt : Runtime} {verifier : TokenVerifier}
    {token audience : String} {verified : VerifiedToken} {w w' : World}
    (h : (verifier.verify rt token audience).run w = .ok verified w') :
    ∃ audiences key now, w.clock ≤ now ∧ now ≤ w'.clock ∧
      validateSigned rt.crates token audience verifier.issuer audiences key leewaySecs now =
        .ok verified := by
  cases verifier with
  | jwk issuer audiences key =>
    obtain ⟨now, w₁, hnow, hrest⟩ := run_bind_eq_ok.mp h
    cases hnow
    obtain ⟨hsigned, rfl⟩ := run_ofOutcome_eq_ok.mp hrest
    exact ⟨_, _, _, le_clock_tick rt w, le_rfl, hsigned⟩
  | jwks issuer audiences resolve =>
    simp only [verify, run_bind_eq_ok, run_ofResult_eq_ok, run_ofOutcome_eq_ok] at h
    obtain ⟨_, _, ⟨-, rfl⟩, n, w₁, hn, key, _, ⟨-, rfl⟩, now, w₂, hnow, hsigned, rfl⟩ := h
    cases hn
    cases hnow
    exact ⟨_, _, _, (le_clock_tick rt _).trans (le_clock_tick rt _), le_rfl, hsigned⟩

/-- A token is accepted by the provisioner that it is routed to, under the policy of that one. -/
theorem ProvisionerAuthorizer.of_validate {rt : Runtime} {authorizer : ProvisionerAuthorizer}
    {token audience : String} {validated : ValidatedToken} {w w' : World}
    (h : (authorizer.validate rt token audience).run w = .ok validated w') :
    ∃ p verified,
      authorizer.provisioners.find? (fun p => p.verifier.claimsToken rt.crates token) = some p ∧
      (p.verifier.verify rt token audience).run w = .ok verified w' ∧
      validated = ⟨p.name, verified.claims, p.template, p.authorized, verified.replayId⟩ := by
  unfold validate at h
  split at h
  · cases h
  · rename_i p hfind
    obtain ⟨verified, w₁, hverify, hpure⟩ := run_bind_eq_ok.mp h
    cases hpure
    exact ⟨p, verified, hfind, hverify, rfl⟩

theorem ProvisionerAuthorizer.inWindow_of_validate {rt : Runtime}
    {authorizer : ProvisionerAuthorizer} {token audience : String} {validated : ValidatedToken}
    {w w' : World} (h : (authorizer.validate rt token audience).run w = .ok validated w') :
    InWindow w w' validated.claims := by
  obtain ⟨p, verified, -, hverify, rfl⟩ := of_validate h
  obtain ⟨audiences, key, now, hle, hle', hsigned⟩ := TokenVerifier.of_verify hverify
  exact ⟨now, hle, hle', validateSigned_window hsigned⟩

namespace Hook

theorem waits_consult (rt : Runtime) (ctx : Context) (request : HookRequest)
    (acc : Customization × Bool) (hook : HookProvider) :
    Within World.Waits (consult rt ctx request acc hook) :=
  within_consult (idle_waits rt) ctx request acc hook

theorem waits_request (rt : Runtime) (ctx : Context) : Within World.Waits (request rt ctx) :=
  within_request (idle_waits rt) ctx

end Hook

namespace Service

variable (rt : Runtime) (service : Service)

theorem waits_signAuthenticate (req : SignRequest) (requestUrl : String) :
    Within World.Waits (service.signAuthenticate rt req requestUrl) :=
  service.within_signAuthenticate (idle_waits rt) req requestUrl

theorem waits_signPlan (req : SignRequest) (csr : ParsedCsr) (validated : ValidatedToken) :
    Within World.Waits (service.signPlan rt req csr validated) :=
  service.within_signPlan (idle_waits rt) req csr validated

/-- What a request to sign puts to the hooks when the clock shows `now`. -/
def signContextAt (crates : ServerCrates) (service : Service) (req : SignRequest) (csr : ParsedCsr)
    (validated : ValidatedToken) (now : SystemTime) : Outcome Context := do
  (checkConfirmation crates validated.claims csr).orAbort
  let requested ← (csr.requestedSans crates).orAbort
  let sans ← (permittedSans validated.authorized validated.claims requested).orAbort
  let template ← (service.resolveTemplate validated.template).orAbort
  let requestedNotBefore ← (parseRfc3339 crates req.notBefore).orAbort
  let requestedNotAfter ← (parseRfc3339 crates req.notAfter).orAbort
  let (notBefore, notAfter) ← template.computeValidity now requestedNotBefore requestedNotAfter
  .ok (signContext validated csr sans notBefore notAfter)

variable {rt service} in
/-- What a successful plan is made of: the hooks are asked right after the clock is read, and
their window is clamped to the template's ceiling. -/
theorem of_signPlan {req : SignRequest} {csr : ParsedCsr} {validated : ValidatedToken}
    {plan : SignPlan} {w w' : World}
    (hrun : (service.signPlan rt req csr validated).run w = .ok plan w') :
    ∃ sans notBefore notAfter custom ceiling,
      plan.csr = csr ∧ plan.validated = validated ∧ plan.now = (w.tick rt).clock ∧
      signContextAt rt.crates service req csr validated (w.tick rt).clock =
        .ok (signContext validated csr sans notBefore notAfter) ∧
      (Hook.run rt service.hooks (signContext validated csr sans notBefore notAfter)).run
        (w.tick rt) = .ok custom w' ∧
      plan.template.maxNotAfter custom.notBefore = .ok ceiling ∧
      plan.custom = custom.clampTo ceiling ∧ plan.custom.checkWindow = .ok () ∧
      plan.onceScopes = plan.custom.onceClaims ++ (tokenScope validated).toList := by
  unfold signPlan at hrun
  simp only [run_bind_eq_ok, run_ofResult_eq_ok, run_ofOutcome_eq_ok] at hrun
  obtain ⟨_, _, ⟨hcnf, rfl⟩, requested, _, ⟨hrequested, rfl⟩, sans, _, ⟨hsans, rfl⟩, template, _,
    ⟨htemplate, rfl⟩, now, w₁, hnow, nb, _, ⟨hnb, rfl⟩, na, _, ⟨hna, rfl⟩, ⟨notBefore, notAfter⟩, _,
    ⟨hvalidity, rfl⟩, custom, w₂, hhooks, ceiling, _, ⟨hceiling, rfl⟩, _, _, ⟨hwindow, rfl⟩,
    hplan⟩ := hrun
  cases hnow
  cases hplan
  refine ⟨sans, notBefore, notAfter, custom, ceiling, rfl, rfl, rfl, ?_, hhooks, hceiling, rfl,
    hwindow, rfl⟩
  simp only [signContextAt, except_bind_eq_ok, Result.orAbort_eq_ok]
  exact ⟨_, hcnf, _, hrequested, _, hsans, _, htemplate, _, hnb, _, hna, _, hvalidity, rfl⟩

variable {rt service} in
theorem template_of_signPlan {req : SignRequest} {csr : ParsedCsr} {validated : ValidatedToken}
    {plan : SignPlan} {w w' : World}
    (hrun : (service.signPlan rt req csr validated).run w = .ok plan w') :
    service.resolveTemplate validated.template = .ok plan.template := by
  unfold signPlan at hrun
  simp only [run_bind_eq_ok, run_ofResult_eq_ok] at hrun
  obtain ⟨_, _, -, _, _, -, _, _, -, template, _, ⟨htemplate, -⟩, _, _, -, _, _, -, _, _, -, _, _, -, _, _,
    -, _, _, -, _, _, -, hplan⟩ := hrun
  cases hplan
  exact htemplate

theorem waits_reissueAuthenticate (certificatePem : String) (dpop : Option String)
    (requestUrl : String) :
    Within World.Waits (service.reissueAuthenticate rt certificatePem dpop requestUrl) :=
  service.within_reissueAuthenticate (idle_waits rt) certificatePem dpop requestUrl

theorem waits_reissuePlan (auth : ReissueAuth) (newCsrPem : Option String) :
    Within World.Waits (service.reissuePlan rt auth newCsrPem) :=
  service.within_reissuePlan (idle_waits rt) auth newCsrPem

theorem waits_revokeAuthenticate (req : RevokeRequest) (dpop : Option String)
    (requestUrl serial : String) (now : SystemTime) :
    Within World.Waits (service.revokeAuthenticate rt req dpop requestUrl serial now) :=
  service.within_revokeAuthenticate (idle_waits rt) req dpop requestUrl serial now

end Service

/-! ## Claiming a one-time key -/

/-- What `claim_once` is about to commit from `w`: two readings of the clock go before. -/
def World.prepareOnce (rt : Runtime) (w : World) (key : String) (expiresAt : SystemTime) :
    Outcome PendingClaim := do
  let floor ← (w.tick rt).clock.plus replayLeeway
  w.storage.prepareClaim key (max expiresAt floor) ((w.tick rt).tick rt).clock

/-- How `claim_once` ends: a prepared claim of a free key is committed, one of a key that is held is a
conflict, and one that could not be prepared fails for that reason. -/
theorem claimOnce_ends (rt : Runtime) (key msg : String) (expiresAt : SystemTime) (w : World) :
    (∃ claim, w.prepareOnce rt key expiresAt = .ok claim ∧ w.storage.Claimable claim.now key ∧
      (claimOnce rt key expiresAt msg).run w =
        .ok () (((w.tick rt).tick rt).storing rt (w.storage.commitClaim claim).2)) ∨
    (∃ claim w', w.prepareOnce rt key expiresAt = .ok claim ∧ ¬w.storage.Claimable claim.now key ∧
      (claimOnce rt key expiresAt msg).run w = .error (.error (.unauthorized msg)) w' ∧ w.Waits w') ∨
    (∃ abort abort' w', w.prepareOnce rt key expiresAt = .error abort ∧
      (abort' = abort ∨ ∃ e, abort = .error e ∧ abort' = .error (surfaceConflict msg e)) ∧
      (claimOnce rt key expiresAt msg).run w = .error abort' w' ∧ w.Waits w') := by
  have hwaits : w.Waits (((w.tick rt).tick rt).storing rt w.storage) :=
    trans_of World.Waits (waits_tick rt w) (trans_of World.Waits (waits_tick rt _) (waits_tick rt _))
  unfold World.prepareOnce claimOnce
  rw [run_bind_of_ok (run_systemTimeNow rt w)]
  cases hfloor : (w.tick rt).clock.plus replayLeeway with
  | error abort =>
    exact .inr (.inr ⟨abort, abort, w.tick rt, rfl, .inl rfl, rfl, waits_tick rt w⟩)
  | ok floor =>
    rw [run_bind_of_ok (run_ofOutcome_ok floor _)]
    simp only [bind, Except.bind]
    have hrun := run_claimToken rt key (max expiresAt floor) (w.tick rt)
    rw [storage_tick] at hrun
    cases hclaim : w.storage.prepareClaim key (max expiresAt floor) ((w.tick rt).tick rt).clock with
    | error abort =>
      rw [Storage.claimToken_of_unprepared hclaim] at hrun
      refine .inr (.inr ?_)
      cases abort with
      | panic message =>
        exact ⟨_, _, _, rfl, .inl rfl, run_bind_of_error (run_attempt_of_panic hrun) _, hwaits⟩
      | error e =>
        exact ⟨_, _, _, rfl, .inr ⟨e, rfl, rfl⟩, run_bind_of_ok (run_attempt_of_error hrun) _, hwaits⟩
    | ok claim =>
      by_cases hfree : w.storage.Claimable claim.now key
      · rw [Storage.claimToken_of_claimable hclaim hfree] at hrun
        exact .inl ⟨claim, rfl, hfree, run_bind_of_ok (run_attempt_of_ok hrun) _⟩
      · rw [Storage.claimToken_of_held hclaim hfree] at hrun
        exact .inr (.inl ⟨claim, _, rfl, hfree, run_bind_of_ok (run_attempt_of_error hrun) _, hwaits⟩)

/-- A claim is committed when it can be, and otherwise the storage stays as it was. -/
theorem claimOnce_cases (rt : Runtime) (key msg : String) (expiresAt : SystemTime) (w : World) :
    (∃ claim, w.prepareOnce rt key expiresAt = .ok claim ∧ w.storage.Claimable claim.now key ∧
      (claimOnce rt key expiresAt msg).run w =
        .ok () (((w.tick rt).tick rt).storing rt (w.storage.commitClaim claim).2)) ∨
    ((∀ claim, w.prepareOnce rt key expiresAt = .ok claim → ¬w.storage.Claimable claim.now key) ∧
      ∃ abort w', (claimOnce rt key expiresAt msg).run w = .error abort w' ∧ w.Waits w') := by
  obtain hcommitted | ⟨claim, w', hclaim, hheld, hrun, hwaits⟩ |
    ⟨abort, abort', w', hfails, -, hrun, hwaits⟩ := claimOnce_ends rt key msg expiresAt w
  · exact .inl hcommitted
  · refine .inr ⟨fun claim' hclaim' => ?_, _, w', hrun, hwaits⟩
    cases hclaim.symm.trans hclaim'
    exact hheld
  · refine .inr ⟨fun claim' hclaim' => ?_, abort', w', hrun, hwaits⟩
    cases hfails.symm.trans hclaim'

theorem run_claimOnce_eq_ok {rt : Runtime} {key msg : String} {expiresAt : SystemTime}
    {w w' : World} {u : Unit} :
    (claimOnce rt key expiresAt msg).run w = .ok u w' ↔
      ∃ claim, w.prepareOnce rt key expiresAt = .ok claim ∧ w.storage.Claimable claim.now key ∧
        w' = ((w.tick rt).tick rt).storing rt (w.storage.commitClaim claim).2 := by
  obtain ⟨claim, hclaim, hfree, hrun⟩ | ⟨hnot, abort, w'', hrun, -⟩ :=
    claimOnce_cases rt key msg expiresAt w
  · rw [hrun]
    constructor
    · intro h
      cases h
      exact ⟨claim, hclaim, hfree, rfl⟩
    · rintro ⟨claim', hclaim', -, rfl⟩
      rw [hclaim] at hclaim'
      cases hclaim'
      rfl
  · rw [hrun]
    constructor
    · intro h
      cases h
    · rintro ⟨claim, hclaim, hfree, -⟩
      exact absurd hfree (hnot claim hclaim)

/-- A prepared claim is for the key that was asked for, at the second reading of the clock. It
holds the key as long as it was asked to, and for the leeway after the first reading. -/
theorem of_prepareOnce {rt : Runtime} {w : World} {key : String} {expiresAt : SystemTime}
    {claim : PendingClaim} (h : w.prepareOnce rt key expiresAt = .ok claim) :
    claim.jti = key ∧ claim.now = unixSecs ((w.tick rt).tick rt).clock ∧
      unixSecs expiresAt ≤ claim.expiresAt ∧
      (unixEpoch ≤ (w.tick rt).clock → unixSecs (w.tick rt).clock + 60 ≤ claim.expiresAt) := by
  obtain ⟨floor, hfloor, hclaim⟩ := except_bind_eq_ok.mp h
  obtain ⟨hjti, hnow, hexp⟩ := Storage.of_prepareClaim hclaim
  rw [unixSecs_max] at hexp
  refine ⟨hjti, hnow, (le_max_left _ _).trans hexp, fun hepoch => ?_⟩
  rw [← unixSecs_of_plus hepoch (SystemTime.plus_eq_ok.mp hfloor)]
  exact (le_max_right _ _).trans hexp

/-- The leases after a successful claim. -/
theorem heldUntil_of_claimOnce {rt : Runtime} {w : World} {key : String} {expiresAt : SystemTime}
    {claim : PendingClaim} (h : w.prepareOnce rt key expiresAt = .ok claim)
    (hfree : w.storage.Claimable claim.now key) :
    (w.storage.commitClaim claim).2.heldUntil =
      Function.update w.storage.heldUntil key (some ↑claim.expiresAt) := by
  obtain ⟨rfl, -, -⟩ := of_prepareOnce h
  exact Storage.heldUntil_commitClaim hfree

theorem evolves_claimOnce (rt : Runtime) (key msg : String) (expiresAt : SystemTime) :
    Within World.Evolves (claimOnce rt key expiresAt msg) := by
  refine (evolves_of_waits (waits_systemTimeNow rt)).bind fun _ => (within_ofOutcome _).bind fun _ => ?_
  exact (within_attempt (evolves_claimToken rt _ _)).bind fun _ => within_ofResult _

theorem evolves_claimOnceScopes (rt : Runtime) (scopes : List OnceClaim)
    (defaultExpiry : SystemTime) : Within World.Evolves (claimOnceScopes rt scopes defaultExpiry) :=
  within_forM fun _ _ => evolves_claimOnce rt _ _ _

/-- A token that was validated in `w` can be claimed: its expiry can be stored, and its id is
unclaimed or expired. -/
def CanClaimToken (rt : Runtime) (w : World) (validated : ValidatedToken) : Prop :=
  ∃ expiresAt claim, (systemTimeFromEpoch validated.claims.exp).plus replayLeeway = .ok expiresAt ∧
    w.prepareOnce rt (jtiKey "ott" validated.replayId) expiresAt = .ok claim ∧
    w.storage.Claimable claim.now (jtiKey "ott" validated.replayId)

/-- The leases after a claim: the key was free, and is held as long as it was asked to and for
the leeway after the clock that was read first. -/
structure Claimed (rt : Runtime) (w w' : World) (key : String) (expiresAt : SystemTime) : Prop where
  free : w.storage.Claimable (unixSecs ((w.tick rt).tick rt).clock) key
  lasts : Lease.Lasts w'.storage.heldUntil (unixSecs w'.clock : WithTop ℕ) key (unixSecs expiresAt)
  floor : unixEpoch ≤ w.clock → Lease.Lasts w'.storage.heldUntil (unixSecs w'.clock : WithTop ℕ) key
    (unixSecs (w.tick rt).clock + 60 : ℕ)
  clock : w'.clock = (((w.tick rt).tick rt).tick rt).clock

theorem claimed_of_claimOnce {rt : Runtime} {key msg : String} {expiresAt : SystemTime}
    {w w' : World} {u : Unit} (h : (claimOnce rt key expiresAt msg).run w = .ok u w') :
    Claimed rt w w' key expiresAt := by
  obtain ⟨claim, hclaim, hfree, rfl⟩ := run_claimOnce_eq_ok.mp h
  obtain ⟨-, hnow, hexp, hfloor⟩ := of_prepareOnce hclaim
  have hheld : (((w.tick rt).tick rt).storing rt (w.storage.commitClaim claim).2).storage.heldUntil =
      Function.update w.storage.heldUntil key (some ↑claim.expiresAt) :=
    heldUntil_of_claimOnce hclaim hfree
  have hlasts : ∀ u ≤ claim.expiresAt, Lease.Lasts
      (((w.tick rt).tick rt).storing rt (w.storage.commitClaim claim).2).storage.heldUntil
      (unixSecs (((w.tick rt).tick rt).tick rt).clock : WithTop ℕ) key u := by
    intro u hu
    rw [hheld]
    exact Lease.lasts_update _ _ _ (WithTop.coe_le_coe.mpr hu)
  refine ⟨?_, hlasts _ hexp, fun hepoch => hlasts _ (hfloor (hepoch.trans (le_clock_tick rt w))), rfl⟩
  rw [← hnow]
  exact hfree

/-- Every scope of a row that is claimed is claimed at some point of the run. -/
theorem claimed_of_claimOnceScopes {rt : Runtime} {scopes : List OnceClaim}
    {defaultExpiry : SystemTime} {w w' : World} {u : Unit}
    (h : (claimOnceScopes rt scopes defaultExpiry).run w = .ok u w') {scope : OnceClaim}
    (hscope : scope ∈ scopes) :
    ∃ v v', w.Evolves v ∧ Claimed rt v v' scope.key (scope.expiresAt.getD defaultExpiry) ∧
      v'.Evolves w' := by
  induction scopes generalizing w with
  | nil => cases hscope
  | cons first rest ih =>
    obtain ⟨_, w₁, hfirst, hrest⟩ := run_bind_eq_ok.mp h
    rcases List.mem_cons.mp hscope with rfl | hmem
    · exact ⟨w, w₁, refl_of World.Evolves w, claimed_of_claimOnce hfirst,
        (evolves_claimOnceScopes rt rest defaultExpiry).of_ok hrest⟩
    · obtain ⟨v, v', hbefore, hclaimed, hafter⟩ := ih hrest hmem
      have hevolves : w.Evolves w₁ := (evolves_claimOnce rt _ _ _).of_ok hfirst
      exact ⟨v, v', trans_of World.Evolves hevolves hbefore, hclaimed, hafter⟩

theorem claimed_of_signClaimJti {rt : Runtime} {validated : ValidatedToken} {w w' : World} {u : Unit}
    (h : (Service.signClaimJti rt validated).run w = .ok u w') :
    ∃ expiresAt, (systemTimeFromEpoch validated.claims.exp).plus replayLeeway = .ok expiresAt ∧
      Claimed rt w w' (jtiKey "ott" validated.replayId) expiresAt := by
  obtain ⟨expiresAt, w₁, hplus, hclaim⟩ := run_bind_eq_ok.mp h
  obtain ⟨hexp, rfl⟩ := run_ofOutcome_eq_ok.mp hplus
  exact ⟨expiresAt, hexp, claimed_of_claimOnce hclaim⟩

/-- A token is claimed when it can be, and otherwise nothing is. -/
theorem signClaimJti_cases (rt : Runtime) (w : World) (validated : ValidatedToken) :
    (CanClaimToken rt w validated ∧ ∃ w', (Service.signClaimJti rt validated).run w = .ok () w') ∨
    (¬CanClaimToken rt w validated ∧
      ∃ abort w', (Service.signClaimJti rt validated).run w = .error abort w' ∧ w.Waits w') := by
  unfold Service.signClaimJti CanClaimToken
  cases hexp : (systemTimeFromEpoch validated.claims.exp).plus replayLeeway with
  | error abort =>
    refine .inr ⟨?_, abort, w, rfl, Std.Refl.refl w⟩
    rintro ⟨_, _, ⟨⟩, -⟩
  | ok expiresAt =>
    rw [run_bind_of_ok (run_ofOutcome_ok expiresAt w), claimJti]
    obtain ⟨claim, hclaim, hfree, hrun⟩ | ⟨hnot, hrun⟩ := claimOnce_cases rt
      (jtiKey "ott" validated.replayId) "token or proof has already been used" expiresAt w
    · exact .inl ⟨⟨expiresAt, claim, rfl, hclaim, hfree⟩, _, hrun⟩
    · refine .inr ⟨?_, hrun⟩
      rintro ⟨_, claim, ⟨⟩, hclaim, hfree⟩
      exact hnot claim hclaim hfree

/-! ## Committing, and whole requests -/

theorem waits_eventNow (rt : Runtime) (eventType outcome : String) :
    Within World.Waits (eventNow rt eventType outcome) :=
  (waits_systemTimeNow rt).bind fun _ => (within_ofOutcome _).bind fun _ => within_pure _

theorem waits_denial (rt : Runtime) (eventType : String) (requestId : Option String) (e : Error) :
    Within World.Waits (denial rt eventType requestId e) :=
  (waits_eventNow rt _ _).bind fun _ => within_pure _

theorem waits_emit (event : AuditEvent) : Within World.Waits (emit event) :=
  fun _ => ⟨rfl, le_rfl, List.suffix_rfl⟩

/-- Reporting a request only waits. -/
theorem waits_of_audited {α : Type} (rt : Runtime) (eventType : String) (requestId : Option String)
    (request : Action (α × AuditEvent)) (w : World) :
    (final (request.run w)).Waits (final ((audited rt eventType requestId request).run w)) := by
  unfold audited
  cases hrequest : request.run w with
  | ok served w' =>
    rw [run_bind_of_ok (run_attempt_of_ok hrequest)]
    exact ((waits_emit _).bind fun _ => within_pure _) w'
  | error abort w' =>
    cases abort with
    | error e =>
      rw [run_bind_of_ok (run_attempt_of_error hrequest)]
      refine ((waits_denial rt _ _ _).bind fun _ => ?_ : Within World.Waits _) w'
      exact (waits_emit _).bind fun _ => within_throw _
    | panic message =>
      rw [run_bind_of_error (run_attempt_of_panic hrequest)]
      exact Std.Refl.refl w'

/-- What signing, renewing and rekeying end with: a certificate is issued, its record is committed,
and it is returned with its event. -/
def Service.issueRecorded (rt : Runtime) (service : Service)
    (issue : ℕ → Digest 19 → Outcome IssuedCertificate) (notBefore now : SystemTime)
    (record : IssuedCertificate → String → String → CertificateRecord) (eventType : String)
    (describe : IssuedCertificate → AuditEvent → AuditEvent) :
    Action (CertificateResponse × AuditEvent) := do
  let issued ← withKey rt issue
  let notBefore ← ofOutcome (rt.crates.times.formatRfc3339 notBefore)
  let issuedAt ← ofOutcome (rt.crates.times.formatRfc3339 now)
  recordCertificate rt (record issued notBefore issuedAt)
  let event ← eventNow rt eventType "success"
  return (service.certificateResponse issued, describe issued event)

/-! ### What requests keep

A relation between worlds that waiting, claiming, recording and revoking keep is kept by
whole requests. -/

section

variable {R : World → World → Prop} [Std.Refl R] [IsTrans World R] {rt : Runtime}

omit [Std.Refl R] in
theorem within_audited {α : Type} (hwaits : ∀ ⦃w w'⦄, w.Waits w' → R w w') (eventType : String)
    (requestId : Option String) {request : Action (α × AuditEvent)} (h : Within R request) :
    Within R (audited rt eventType requestId request) :=
  fun w => trans_of R (h w) (hwaits (waits_of_audited rt eventType requestId request w))

namespace Service

variable (service : Service)

section

variable (hwaits : ∀ ⦃w w'⦄, w.Waits w' → R w w')
  (hclaim : ∀ key msg expiresAt, Within R (claimOnce rt key expiresAt msg))
  (hrecord : ∀ record, Within R (recordCertificate rt record))
  (hrevoke : ∀ record, Within R (revokeSerial rt record))

include hclaim

theorem within_claimOnceScopes (scopes : List OnceClaim) (defaultExpiry : SystemTime) :
    Within R (claimOnceScopes rt scopes defaultExpiry) :=
  within_forM fun _ _ => hclaim _ _ _

theorem within_signClaimJti (validated : ValidatedToken) : Within R (signClaimJti rt validated) :=
  (within_ofOutcome _).bind fun _ => hclaim _ _ _

theorem within_proofClaimJti (proof : Dpop.VerifiedProof) : Within R (proofClaimJti rt proof) :=
  (within_ofOutcome _).bind fun _ => hclaim _ _ _

omit hclaim
include hwaits hrecord

theorem within_issueRecorded (issue : ℕ → Digest 19 → Outcome IssuedCertificate)
    (notBefore now : SystemTime) (record : IssuedCertificate → String → String → CertificateRecord)
    (eventType : String) (describe : IssuedCertificate → AuditEvent → AuditEvent) :
    Within R (service.issueRecorded rt issue notBefore now record eventType describe) := by
  refine ((waits_withKey rt _).mono hwaits).bind fun _ => (within_ofOutcome _).bind fun _ => ?_
  refine (within_ofOutcome _).bind fun _ => (hrecord _).bind fun _ => ?_
  exact ((waits_eventNow rt _ _).mono hwaits).bind fun _ => within_pure _

theorem within_signIssue (plan : SignPlan) (requestId : Option String) :
    Within R (service.signIssue rt plan requestId) :=
  service.within_issueRecorded hwaits hrecord _ _ _ _ _ _

theorem within_reissueIssue (plan : ReissuePlan) (eventType : String) (requestId : Option String) :
    Within R (service.reissueIssue rt plan eventType requestId) :=
  service.within_issueRecorded hwaits hrecord _ _ _ _ _ _

include hclaim

theorem within_sign (req : SignRequest) (requestUrl : String) (requestId : Option String) :
    Within R (service.sign rt req requestUrl requestId) := by
  refine within_audited hwaits _ _ ?_
  refine ((service.waits_signAuthenticate rt req requestUrl).mono hwaits).bind ?_
  rintro ⟨csr, validated⟩
  refine ((service.waits_signPlan rt req csr validated).mono hwaits).bind fun plan => ?_
  refine (within_signClaimJti hclaim validated).bind fun _ => ?_
  refine (within_claimOnceScopes hclaim _ _).bind fun _ => ?_
  exact service.within_signIssue hwaits hrecord plan requestId

theorem within_tryRenewOrRekey (certificatePem : String) (newCsrPem dpop : Option String)
    (requestUrl : String) (requestId : Option String) :
    Within R (service.tryRenewOrRekey rt certificatePem newCsrPem dpop requestUrl requestId) := by
  refine ((service.waits_reissueAuthenticate rt _ _ _).mono hwaits).bind fun auth => ?_
  refine ((service.waits_reissuePlan rt auth newCsrPem).mono hwaits).bind fun plan => ?_
  refine (within_proofClaimJti hclaim _).bind fun _ => ?_
  refine (within_claimOnceScopes hclaim _ _).bind fun _ => ?_
  exact service.within_reissueIssue hwaits hrecord plan _ requestId

theorem within_renew (req : RenewRequest) (dpop : Option String) (requestUrl : String)
    (requestId : Option String) : Within R (service.renew rt req dpop requestUrl requestId) :=
  within_audited hwaits _ _ (service.within_tryRenewOrRekey hwaits hclaim hrecord _ _ _ _ _)

theorem within_rekey (req : RekeyRequest) (dpop : Option String) (requestUrl : String)
    (requestId : Option String) : Within R (service.rekey rt req dpop requestUrl requestId) :=
  within_audited hwaits _ _ (service.within_tryRenewOrRekey hwaits hclaim hrecord _ _ _ _ _)

omit hclaim hrecord
include hrevoke

theorem within_revokeCommit (req : RevokeRequest) (auth : RevokeAuth) (serial : String)
    (now : SystemTime) (requestId : Option String) :
    Within R (revokeCommit rt req auth serial now requestId) := by
  refine (within_ofOutcome _).bind fun _ => (hrevoke _).bind fun _ => ?_
  exact ((waits_eventNow rt _ _).mono hwaits).bind fun _ => within_pure _

include hclaim

theorem within_revoke (req : RevokeRequest) (dpop : Option String) (requestUrl : String)
    (requestId : Option String) : Within R (service.revoke rt req dpop requestUrl requestId) := by
  refine within_audited hwaits _ _ ((within_ofResult _).bind fun serial => ?_)
  refine ((waits_systemTimeNow rt).mono hwaits).bind fun now => ?_
  refine ((service.waits_revokeAuthenticate rt req dpop _ _ now).mono hwaits).bind fun auth => ?_
  have hcredential : Within R (revokeClaimJti rt auth) := by
    cases auth with
    | token validated => exact within_signClaimJti hclaim validated
    | proof verified => exact within_proofClaimJti hclaim verified
  exact hcredential.bind fun _ => within_revokeCommit hwaits hrevoke req auth serial now requestId

end

end Service

end

/-! ### Requests evolve the world -/

namespace Service

variable (rt : Runtime) (service : Service)

theorem evolves_signClaimJti (validated : ValidatedToken) :
    Within World.Evolves (signClaimJti rt validated) :=
  within_signClaimJti (evolves_claimOnce rt) validated

theorem evolves_signIssue (plan : SignPlan) (requestId : Option String) :
    Within World.Evolves (service.signIssue rt plan requestId) :=
  service.within_signIssue (fun _ _ => World.Waits.evolves) (evolves_recordCertificate rt) plan requestId

theorem evolves_sign (req : SignRequest) (requestUrl : String) (requestId : Option String) :
    Within World.Evolves (service.sign rt req requestUrl requestId) :=
  service.within_sign (fun _ _ => World.Waits.evolves) (evolves_claimOnce rt)
    (evolves_recordCertificate rt) req requestUrl requestId

theorem evolves_reissueIssue (plan : ReissuePlan) (eventType : String)
    (requestId : Option String) :
    Within World.Evolves (service.reissueIssue rt plan eventType requestId) :=
  service.within_reissueIssue (fun _ _ => World.Waits.evolves) (evolves_recordCertificate rt) plan
    eventType requestId

theorem evolves_renew (req : RenewRequest) (dpop : Option String) (requestUrl : String)
    (requestId : Option String) :
    Within World.Evolves (service.renew rt req dpop requestUrl requestId) :=
  service.within_renew (fun _ _ => World.Waits.evolves) (evolves_claimOnce rt)
    (evolves_recordCertificate rt) req dpop requestUrl requestId

theorem evolves_rekey (req : RekeyRequest) (dpop : Option String) (requestUrl : String)
    (requestId : Option String) :
    Within World.Evolves (service.rekey rt req dpop requestUrl requestId) :=
  service.within_rekey (fun _ _ => World.Waits.evolves) (evolves_claimOnce rt)
    (evolves_recordCertificate rt) req dpop requestUrl requestId

theorem evolves_revokeCommit (req : RevokeRequest) (auth : RevokeAuth) (serial : String)
    (now : SystemTime) (requestId : Option String) :
    Within World.Evolves (revokeCommit rt req auth serial now requestId) :=
  within_revokeCommit (fun _ _ => World.Waits.evolves) (evolves_revokeSerial rt) req auth serial now
    requestId

theorem evolves_revoke (req : RevokeRequest) (dpop : Option String) (requestUrl : String)
    (requestId : Option String) :
    Within World.Evolves (service.revoke rt req dpop requestUrl requestId) :=
  service.within_revoke (fun _ _ => World.Waits.evolves) (evolves_claimOnce rt)
    (evolves_revokeSerial rt) req dpop requestUrl requestId

end Service

end Ayane
