import Ayane.Service.Phases

/-!
# Requests that carry a token

A request to sign or to revoke, up to the validation of its token, up to the claim of the
token, and as a whole.
-/

namespace Ayane

open Ayane.Action Effect

inductive TokenRequest where
  | sign (req : SignRequest)
  | revoke (req : RevokeRequest) (token : String) (dpop : Option String)

namespace TokenRequest

variable (rt : Runtime) (service : Service) (requestUrl : String)

/-- The request up to the validation of its token. -/
def authenticate : TokenRequest → Action ValidatedToken
  | .sign req => do
    let (_, validated) ← service.signAuthenticate rt req requestUrl
    return validated
  | .revoke req token _ => do
    let _ ← ofResult (normalizeSerial rt.crates req.serialNumber)
    let _ ← systemTimeNow rt
    service.authorizer.validate rt token requestUrl

/-- The request up to the claim of its token. -/
def claim : TokenRequest → Action Unit
  | .sign req => do
    let (csr, validated) ← service.signAuthenticate rt req requestUrl
    let _ ← service.signPlan rt req csr validated
    Service.signClaimJti rt validated
  | .revoke req token dpop => do
    let serial ← ofResult (normalizeSerial rt.crates req.serialNumber)
    let now ← systemTimeNow rt
    let auth ← service.revokeAuthenticate rt { req with token := some token } dpop requestUrl serial now
    Service.revokeClaimJti rt auth

/-- The world after the request. -/
def after (requestId : Option String) (w : World) : TokenRequest → World
  | .sign req => final ((service.sign rt req requestUrl requestId).run w)
  | .revoke req token dpop =>
    final ((service.revoke rt { req with token := some token } dpop requestUrl requestId).run w)

/-- The request claims its token, or changes the storage in any other way. -/
def Acts (requestId : Option String) (w : World) (request : TokenRequest) : Prop :=
  (∃ w', (request.claim rt service requestUrl).run w = .ok () w') ∨
    (request.after rt service requestUrl requestId w).storage ≠ w.storage

theorem waits_authenticate (request : TokenRequest) :
    Within World.Waits (request.authenticate rt service requestUrl) := by
  cases request with
  | sign req =>
    exact (service.waits_signAuthenticate rt req requestUrl).bind fun _ => within_pure _
  | revoke req token dpop =>
    refine (within_ofResult _).bind fun _ => (waits_systemTimeNow rt).bind fun _ => ?_
    exact service.authorizer.within_validate (waits_tick rt) token requestUrl

theorem inWindow_of_authenticate {rt : Runtime} {service : Service} {requestUrl : String}
    {request : TokenRequest} {validated : ValidatedToken} {w w₁ : World}
    (h : (request.authenticate rt service requestUrl).run w = .ok validated w₁) :
    InWindow w w₁ validated.claims := by
  cases request with
  | sign req =>
    simp only [authenticate, Service.signAuthenticate, run_bind_eq_ok, run_ofResult_eq_ok] at h
    obtain ⟨⟨csr, v⟩, w₂, ⟨_, _, ⟨-, rfl⟩, _, _, ⟨-, rfl⟩, _, _, hvalid, hpure⟩, hreturn⟩ := h
    cases hpure
    cases hreturn
    exact ProvisionerAuthorizer.inWindow_of_validate hvalid
  | revoke req token dpop =>
    simp only [authenticate, run_bind_eq_ok, run_ofResult_eq_ok] at h
    obtain ⟨_, _, ⟨-, rfl⟩, now, w₂, hnow, hvalid⟩ := h
    cases hnow
    obtain ⟨now, hbefore, hrest⟩ := ProvisionerAuthorizer.inWindow_of_validate hvalid
    exact ⟨now, (le_clock_tick rt _).trans hbefore, hrest⟩

/-- A request that claims its token validated it first, and does nothing afterwards that ends a
claim early. -/
theorem of_claim {rt : Runtime} {service : Service} {requestUrl : String} {request : TokenRequest}
    {w w₂ : World} (h : (request.claim rt service requestUrl).run w = .ok () w₂)
    (requestId : Option String) :
    ∃ validated w₁ w₁', (request.authenticate rt service requestUrl).run w = .ok validated w₁ ∧
      w₁.Waits w₁' ∧ (Service.signClaimJti rt validated).run w₁' = .ok () w₂ ∧
      w₂.Evolves (request.after rt service requestUrl requestId w) := by
  cases request with
  | sign req =>
    obtain ⟨⟨csr, validated⟩, w₁, hvalid, hrest⟩ := run_bind_eq_ok.mp h
    obtain ⟨plan, w₁', hplan, hclaim⟩ := run_bind_eq_ok.mp hrest
    have hauthenticate : ((TokenRequest.sign req).authenticate rt service requestUrl).run w =
        .ok validated w₁ := run_bind_of_ok hvalid _
    refine ⟨validated, w₁, w₁', hauthenticate,
      (service.waits_signPlan rt req csr validated).of_ok hplan, hclaim, ?_⟩
    have htry : (service.trySign rt req requestUrl requestId).run w = _ :=
      (run_bind_of_ok hvalid _).trans ((run_bind_of_ok hplan _).trans (run_bind_of_ok hclaim _))
    have haudit := waits_of_audited rt "certificate.issued" requestId
      (service.trySign rt req requestUrl requestId) w
    rw [htry] at haudit
    have hrest : w₂.Evolves _ :=
      ((evolves_claimOnceScopes rt plan.onceScopes plan.custom.notAfter).bind fun _ =>
        service.evolves_signIssue rt plan requestId) w₂
    exact trans_of World.Evolves hrest haudit.evolves
  | revoke req token dpop =>
    obtain ⟨serial, w', hserial, hrest⟩ := run_bind_eq_ok.mp h
    obtain ⟨now, w'', hnow, hrest⟩ := run_bind_eq_ok.mp hrest
    obtain ⟨auth, w₁, hauth, hclaim⟩ := run_bind_eq_ok.mp hrest
    have htry : (service.tryRevoke rt { req with token := some token } dpop requestUrl requestId).run w =
        _ := (run_bind_of_ok hserial _).trans ((run_bind_of_ok hnow _).trans
          ((run_bind_of_ok hauth _).trans (run_bind_of_ok hclaim _)))
    obtain ⟨validated, v, hvalid, hchecks⟩ := run_bind_eq_ok.mp hauth
    simp only [run_bind_eq_ok, run_ofResult_eq_ok] at hchecks
    obtain ⟨tokenSerial, _, ⟨-, rfl⟩, _, _, ⟨-, rfl⟩, hpure⟩ := hchecks
    cases hpure
    have hauthenticate : ((TokenRequest.revoke req token dpop).authenticate rt service requestUrl).run w =
        .ok validated w₁ := (run_bind_of_ok hserial _).trans ((run_bind_of_ok hnow _).trans hvalid)
    refine ⟨validated, w₁, w₁, hauthenticate, Std.Refl.refl w₁, hclaim, ?_⟩
    have haudit := waits_of_audited rt "certificate.revoked" requestId
      (service.tryRevoke rt { req with token := some token } dpop requestUrl requestId) w
    rw [htry] at haudit
    have hcommit := Service.evolves_revokeCommit rt { req with token := some token }
      (.token validated) serial now requestId w₂
    exact trans_of World.Evolves hcommit haudit.evolves

end TokenRequest

end Ayane
