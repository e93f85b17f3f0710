import Ayane.Service.Issuance

/-!
# Requests that reissue

A request to renew or to rekey, and what is known of one that succeeded.
-/

namespace Ayane

open Ayane.Action Effect

inductive ReissueRequest where
  | renew (req : RenewRequest)
  | rekey (req : RekeyRequest)

namespace ReissueRequest

/-- The certificate that is presented. -/
def certificate : ReissueRequest → String
  | .renew req => req.certificate
  | .rekey req => req.certificate

/-- The request for a new key. -/
def newCsr : ReissueRequest → Option String
  | .renew _ => none
  | .rekey req => some req.csr

def run (rt : Runtime) (service : Service) (dpop : Option String) (requestUrl : String)
    (requestId : Option String) : ReissueRequest → Action CertificateResponse
  | .renew req => service.renew rt req dpop requestUrl requestId
  | .rekey req => service.rekey rt req dpop requestUrl requestId

/-- The parts of a request to renew or rekey that succeeded. -/
theorem of_run {rt : Runtime} {service : Service} {request : ReissueRequest} {dpop : Option String}
    {requestUrl : String} {requestId : Option String} {response : CertificateResponse} {w w' : World}
    (h : (request.run rt service dpop requestUrl requestId).run w = .ok response w') :
    ∃ eventType auth w₁ plan w₂ w₃ w₄ event w₅,
      (service.reissueAuthenticate rt request.certificate dpop requestUrl).run w = .ok auth w₁ ∧
      (service.reissuePlan rt auth request.newCsr).run w₁ = .ok plan w₂ ∧
      (Service.proofClaimJti rt auth.proof).run w₂ = .ok () w₃ ∧
      (claimOnceScopes rt plan.custom.onceClaims plan.custom.notAfter).run w₃ = .ok () w₄ ∧
      (service.reissueIssue rt plan eventType requestId).run w₄ = .ok (response, event) w₅ ∧
      w' = { w₅ with audit := event :: w₅.audit } := by
  cases request with
  | renew req =>
    obtain ⟨event, w₅, hserved, hw⟩ := of_audited h
    obtain ⟨eventType, auth, w₁, plan, w₂, w₃, w₄, hauth, hplan, hjti, hscopes, hissue⟩ :=
      Service.of_tryRenewOrRekey hserved
    exact ⟨eventType, auth, w₁, plan, w₂, w₃, w₄, event, w₅, hauth, hplan, hjti, hscopes, hissue, hw⟩
  | rekey req =>
    obtain ⟨event, w₅, hserved, hw⟩ := of_audited h
    obtain ⟨eventType, auth, w₁, plan, w₂, w₃, w₄, hauth, hplan, hjti, hscopes, hissue⟩ :=
      Service.of_tryRenewOrRekey hserved
    exact ⟨eventType, auth, w₁, plan, w₂, w₃, w₄, event, w₅, hauth, hplan, hjti, hscopes, hissue, hw⟩

theorem evolves_run (rt : Runtime) (service : Service) (request : ReissueRequest)
    (dpop : Option String) (requestUrl : String) (requestId : Option String) :
    Within World.Evolves (request.run rt service dpop requestUrl requestId) := by
  cases request with
  | renew req => exact service.evolves_renew rt req dpop requestUrl requestId
  | rekey req => exact service.evolves_rekey rt req dpop requestUrl requestId

end ReissueRequest

end Ayane
