import Ayane.Service.Agreement
import Ayane.Service.Lifetime
import Ayane.Template.Validity

/-!
# The lifetime of a signed certificate

Hooks may move both ends of the window of a certificate that is signed, but the later end is
clamped to the ceiling of the template after they have answered, counted from where they left
the start. Times are cut to whole seconds when they are encoded, which adds nothing to a
lifetime of whole seconds.
-/

namespace Ayane

open Ayane.Action Effect

/-- The end is no later than the longest span after the start, where that can be represented. -/
theorem Customization.notAfter_clampTo_le {template : CertificateTemplate} {custom : Customization}
    {ceiling : Option SystemTime} (hceiling : template.maxNotAfter custom.notBefore = .ok ceiling)
    (hfits : (custom.notBefore.checkedAdd template.longest).isSome) :
    (custom.clampTo ceiling).notAfter.nanos - custom.notBefore.nanos ≤ (template.longest : ℤ) := by
  obtain ⟨-, rfl⟩ := CertificateTemplate.maxNotAfter_eq_ok.mp hceiling
  obtain ⟨latest, hlatest⟩ := Option.isSome_iff_exists.mp hfits
  have hnanos := SystemTime.checkedAdd_eq_some.mp hlatest
  rw [clampTo_eq, hlatest]
  have hle : min custom.notAfter latest ≤ latest := min_le_right _ _
  rw [SystemTime.le_def] at hle
  dsimp only [Option.elim]
  omega

/-- A span of whole seconds is no longer once both of its ends are cut to seconds. -/
theorem SystemTime.secs_sub_le {s t : SystemTime} {d : ℕ}
    (h : t.nanos - s.nanos ≤ (d : ℤ)) (hwhole : d % 1000000000 = 0) :
    t.secs - s.secs ≤ (asSecs d : ℤ) := by
  unfold SystemTime.secs asSecs
  omega

namespace Service

variable {rt : Runtime} {service : Service} {w w' : World}

/-- A request to sign that is made in `w` gets as far as issuing: `plan` is what it asked of the CA,
and `issued` what the CA returned. -/
def IssuesOnSign (rt : Runtime) (service : Service) (req : SignRequest) (requestUrl : String)
    (w : World) (plan : SignPlan) (issued : IssuedCertificate) : Prop :=
  ∃ csr validated w₁ w₂ w₃ w₄ w₅,
    (service.signAuthenticate rt req requestUrl).run w = .ok (csr, validated) w₁ ∧
    (service.signPlan rt req csr validated).run w₁ = .ok plan w₂ ∧
    (signClaimJti rt validated).run w₂ = .ok () w₃ ∧
    (claimOnceScopes rt plan.onceScopes plan.custom.notAfter).run w₃ = .ok () w₄ ∧
    (withKey rt fun n entropy => service.ca.issue rt.crates n entropy plan.issueParams).run w₄ =
      .ok issued w₅

/-- The window that a certificate was built from, and the window encoded in it, are within the
lifetime of the template, unless the end of the longest window cannot be represented. -/
structure WithinLifetime (plan : SignPlan) (cert : Certificate) : Prop where
  ordered : plan.custom.notBefore < plan.custom.notAfter
  span : (plan.custom.notBefore.checkedAdd plan.template.longest).isSome →
    plan.custom.notAfter.nanos - plan.custom.notBefore.nanos ≤ (plan.template.longest : ℤ)
  encoded : (plan.custom.notBefore.checkedAdd plan.template.longest).isSome →
    plan.template.longest % 1000000000 = 0 → cert.lifetime ≤ (asSecs plan.template.longest : ℤ)

/-- The window of a plan, after the hooks and the clamp. -/
theorem window_of_signPlan {req : SignRequest} {csr : ParsedCsr} {validated : ValidatedToken}
    {plan : SignPlan} (h : (service.signPlan rt req csr validated).run w = .ok plan w') :
    plan.custom.notBefore < plan.custom.notAfter ∧
      ((plan.custom.notBefore.checkedAdd plan.template.longest).isSome →
        plan.custom.notAfter.nanos - plan.custom.notBefore.nanos ≤ (plan.template.longest : ℤ)) := by
  obtain ⟨_, _, _, custom, ceiling, -, -, -, -, -, hceiling, hcustom, hwindow, -⟩ := of_signPlan h
  have hstart : plan.custom.notBefore = custom.notBefore := by
    rw [hcustom, Customization.clampTo_eq]
  constructor
  · unfold Customization.checkWindow at hwindow
    split_ifs at hwindow with hcollapsed
    exact not_le.mp hcollapsed
  · intro hfits
    rw [hstart] at hfits ⊢
    rw [hcustom]
    exact Customization.notAfter_clampTo_le hceiling hfits

theorem withinLifetime_of_issues (hdate : DateTimeTruncates rt.crates) {req : SignRequest}
    {requestUrl : String} {plan : SignPlan} {issued : IssuedCertificate}
    (h : IssuesOnSign rt service req requestUrl w plan issued) :
    WithinLifetime plan issued.certificate := by
  obtain ⟨_, _, _, _, _, _, _, -, hplan, -, -, hkey⟩ := h
  obtain ⟨hissue, -⟩ := of_withKey hkey
  obtain ⟨_, _, -, hbuild⟩ := of_issue hissue
  obtain ⟨_, _, hvalidity, -, htbs, -⟩ := of_build hbuild
  obtain ⟨hstart, hend⟩ := of_validity hdate hvalidity
  obtain ⟨hordered, hspan⟩ := window_of_signPlan hplan
  refine ⟨hordered, hspan, fun hfits hwhole => ?_⟩
  have hlifetime : issued.certificate.lifetime = plan.custom.notAfter.secs - plan.custom.notBefore.secs := by
    rw [Certificate.lifetime, htbs]
    exact congrArg₂ _ hend hstart
  rw [hlifetime]
  exact SystemTime.secs_sub_le (hspan hfits) hwhole

/-- What a request returns was issued in this way. -/
theorem issues_of_trySign {req : SignRequest} {requestUrl : String} {requestId : Option String}
    {served : CertificateResponse × AuditEvent}
    (h : (service.trySign rt req requestUrl requestId).run w = .ok served w') :
    ∃ plan issued, IssuesOnSign rt service req requestUrl w plan issued ∧
      served.1 = service.certificateResponse issued := by
  unfold trySign at h
  simp only [run_bind_eq_ok] at h
  obtain ⟨⟨csr, validated⟩, w₁, hauth, plan, w₂, hplan, _, w₃, hjti, _, w₄, hscopes, hissue⟩ := h
  obtain ⟨issued, w₅, hkey, -⟩ := run_bind_eq_ok.mp hissue
  obtain ⟨issued', _, _, hissued, -, -, -, hserved⟩ := of_signIssue hissue
  obtain ⟨hissued', -⟩ := of_withKey hkey
  cases hissued.symm.trans hissued'
  exact ⟨plan, issued, ⟨csr, validated, w₁, w₂, w₃, w₄, w₅, hauth, hplan, hjti, hscopes, hkey⟩, hserved⟩

/-- The template of a plan is the one that the token names, or the default. -/
theorem template_of_issues {req : SignRequest} {requestUrl : String} {plan : SignPlan}
    {issued : IssuedCertificate} (h : IssuesOnSign rt service req requestUrl w plan issued) :
    ∃ csr validated w₁, (service.signAuthenticate rt req requestUrl).run w = .ok (csr, validated) w₁ ∧
      service.resolveTemplate validated.template = .ok plan.template := by
  obtain ⟨csr, validated, w₁, _, _, _, _, hauth, hplan, -⟩ := h
  exact ⟨csr, validated, w₁, hauth, template_of_signPlan hplan⟩

/-- No certificate that a request to sign issues exceeds the lifetime of the template of its token,
whatever the request asks for and the hooks answer. -/
theorem trySign_withinLifetime (rt : Runtime) (service : Service)
    (hdate : DateTimeTruncates rt.crates) (req : SignRequest) (requestUrl : String) (w : World) :
    (∀ plan issued, IssuesOnSign rt service req requestUrl w plan issued →
      WithinLifetime plan issued.certificate ∧
        ∃ csr validated w₁,
          (service.signAuthenticate rt req requestUrl).run w = .ok (csr, validated) w₁ ∧
          service.resolveTemplate validated.template = .ok plan.template) ∧
    ∀ requestId served w', (service.trySign rt req requestUrl requestId).run w = .ok served w' →
      ∃ plan issued, IssuesOnSign rt service req requestUrl w plan issued ∧
        served.1 = service.certificateResponse issued :=
  ⟨fun _ _ h => ⟨withinLifetime_of_issues hdate h, template_of_issues h⟩,
    fun _ _ _ h => issues_of_trySign h⟩

/-- What the small service issues for a token of the name `web`. -/
theorem issues_web :
    ∃ plan issued, IssuesOnSign legibleRuntime (templatedService true)
        (Testca.signRequest (Testca.token "o" 1 [9])) "ca"
        (Testca.world Testca.sqlite (Testca.instant 1000)) plan issued ∧
      issued.certificate.lifetime = 86460 :=
  ⟨_, _, ⟨_, _, _, _, _, _, _, rfl, rfl, rfl, rfl, rfl⟩, rfl⟩

/-- It is for a day and the minute before it. -/
theorem trySign_withinLifetime_web :
    ∃ plan issued, IssuesOnSign legibleRuntime (templatedService true)
        (Testca.signRequest (Testca.token "o" 1 [9])) "ca"
        (Testca.world Testca.sqlite (Testca.instant 1000)) plan issued ∧
      WithinLifetime plan issued.certificate ∧ issued.certificate.lifetime = 86460 := by
  obtain ⟨plan, issued, hissues, hlifetime⟩ := issues_web
  have hdate : DateTimeTruncates legibleRuntime.crates := dateTimeTruncates_closed [] [] []
  obtain ⟨hwithin, -⟩ := (trySign_withinLifetime legibleRuntime (templatedService true) hdate
    (Testca.signRequest (Testca.token "o" 1 [9])) "ca"
    (Testca.world Testca.sqlite (Testca.instant 1000))).1 plan issued hissues
  exact ⟨plan, issued, hissues, hwithin, hlifetime⟩

end Service

end Ayane
