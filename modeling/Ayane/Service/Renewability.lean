import Ayane.Service.ReissueRequest
import Ayane.Testca.Server

/-!
# The non-renewable marker

A certificate carries the marker when the token, or a hook that was asked, turned renewals
off, and then it is never reissued. Whether it may be renewed passes through the answers of
the hooks as a latch, and neither an extension that a hook adds nor one of the previous
certificate gets in the way: the marker is stripped and set again after both.
-/

namespace Ayane

open Ayane.Action Effect Keyed

/-- Decoding a boolean undoes encoding it. -/
def BoolRoundTrip (crates : ServerCrates) : Prop :=
  ∀ b der value, crates.serverDer.boolToDer b = .ok der → crates.serverDer.octetString der = .ok value →
    crates.serverDer.boolFromDer value = .ok b

section

variable {crates : ServerCrates} {cert : Certificate}

theorem isMarkedNonRenewable_eq (crates : ServerCrates) (cert : Certificate) :
    X509.isMarkedNonRenewable crates cert =
      match (extensionsUnder cert.extensions X509.nonRenewableOid).head? with
      | none => false
      | some ext =>
        match crates.serverDer.boolFromDer ext.extnValue with
        | .ok renewable => !renewable
        | .error _ => true := by
  unfold X509.isMarkedNonRenewable Certificate.extensions
  rw [extensionsUnder, ← find?_eq_head?]
  cases cert.tbsCertificate.extensions with
  | none => rfl
  | some exts => rfl

/-- A certificate with the markers for `renewable` is marked when it is not renewable. -/
theorem marked_of_marks (hbool : BoolRoundTrip crates) {renewable : Bool} {markers : List Extension}
    (hmarks : Marks crates renewable markers)
    (hunder : extensionsUnder cert.extensions X509.nonRenewableOid = markers) :
    X509.isMarkedNonRenewable crates cert = !renewable := by
  rw [isMarkedNonRenewable_eq, hunder]
  cases renewable with
  | true =>
    obtain rfl : markers = [] := hmarks
    rfl
  | false =>
    obtain ⟨marker, hmarker, rfl⟩ := hmarks
    obtain ⟨der, value, hder, hvalue, rfl⟩ := X509.extension_eq_ok.mp hmarker
    simp [hbool false der value hder hvalue]

end

section

variable {crates : ServerCrates} {ca : CertificateAuthority} {n : ℕ} {entropy : Digest 19}
  {issued : IssuedCertificate}

theorem markers_of_issue {params : IssueParams} (h : ca.issue crates n entropy params = .ok issued) :
    ∃ markers, Marks crates params.renewable markers ∧
      extensionsUnder issued.certificate.extensions X509.nonRenewableOid = markers := by
  obtain ⟨subject, exts, hcontents, hbuild⟩ := of_issue h
  obtain ⟨-, base, san, ski, aki, markers, -, -, -, -, -, hmarks, hexts⟩ := of_issueContents hcontents
  refine ⟨markers, hmarks, ?_⟩
  rw [(extensions_of_build hbuild).1, hexts]
  simp [hmarks.under]

theorem markers_of_reissue {params : ReissueParams}
    (h : ca.reissue crates n entropy params = .ok issued) :
    ∃ markers, Marks crates params.renewable markers ∧
      extensionsUnder issued.certificate.extensions X509.nonRenewableOid = markers := by
  obtain ⟨subject, exts, hcontents, hbuild⟩ := of_reissue h
  obtain ⟨-, san, overridden, ski, aki, markers, -, -, -, -, hski, haki, hmarks, hexts⟩ :=
    of_reissueContents hcontents
  have hoids : Oid.subjectKeyIdentifier ≠ X509.nonRenewableOid ∧
      Oid.authorityKeyIdentifier ≠ X509.nonRenewableOid := by decide
  refine ⟨markers, hmarks, ?_⟩
  rw [(extensions_of_build hbuild).1, hexts]
  simp [hski.extnId, haki.extnId, hoids.1, hoids.2, hmarks.under]

end

section

variable {rt : Runtime} {service : Service} {requestUrl : String} {requestId : Option String}
  {response : CertificateResponse} {w w' : World}

/-- The certificate of a response, marked as it was decided. -/
def MarkedAs (crates : ServerCrates) (response : CertificateResponse) (nonRenewable : Prop) : Prop :=
  ∃ cert, crates.serverDer.certificateToPem cert = .ok response.certificate ∧
    (extensionsUnder cert.extensions X509.nonRenewableOid).length ≤ 1 ∧
    (X509.isMarkedNonRenewable crates cert = true ↔ nonRenewable)

/-- A certificate with the markers for `renewable` is marked as it was decided. -/
theorem markedAs_of_marks (hbool : BoolRoundTrip rt.crates) {cert : Certificate}
    (hpem : rt.crates.serverDer.certificateToPem cert = .ok response.certificate) {renewable : Bool}
    {markers : List Extension} (hmarks : Marks rt.crates renewable markers)
    (hunder : extensionsUnder cert.extensions X509.nonRenewableOid = markers) :
    MarkedAs rt.crates response (renewable = false) := by
  refine ⟨cert, hpem, ?_, ?_⟩
  · rw [hunder]
    exact hmarks.extnId.1
  · rw [marked_of_marks hbool hmarks hunder, Bool.not_eq_true']

theorem sign_marked (hbool : BoolRoundTrip rt.crates) {req : SignRequest}
    (h : (service.sign rt req requestUrl requestId).run w = .ok response w') :
    ∃ csr validated w₁ ctx,
      (service.signAuthenticate rt req requestUrl).run w = .ok (csr, validated) w₁ ∧
      Service.signContextAt rt.crates service req csr validated (w₁.tick rt).clock = .ok ctx ∧
      MarkedAs rt.crates response
        (validated.claims.renew = false ∨ Hook.Disables rt service.hooks ctx (w₁.tick rt)) := by
  obtain ⟨csr, validated, w₁, plan, w₂, w₃, w₄, event, w₅, hauth, hplan, -, -, hissue, -⟩ :=
    Service.of_sign h
  obtain ⟨sans, notBefore, notAfter, custom, ceiling, -, -, -, hctx, hhooks, -, hcustom, -⟩ :=
    Service.of_signPlan hplan
  obtain ⟨issued, _, _, hissued, -, -, -, rfl⟩ := Service.of_signIssue hissue
  obtain ⟨_, _, -, hbuild⟩ := of_issue hissued
  obtain ⟨_, _, -, -, -, hpem, -⟩ := of_build hbuild
  obtain ⟨markers, hmarks, hunder⟩ := markers_of_issue hissued
  have hlatch := Hook.renewable_of_run hhooks
  have hmarked : MarkedAs rt.crates (service.certificateResponse issued)
      (plan.custom.renewable = false) := markedAs_of_marks hbool hpem hmarks hunder
  rw [hcustom, Customization.clampTo_eq, hlatch] at hmarked
  exact ⟨csr, validated, w₁, _, hauth, hctx, hmarked⟩

theorem reissue_marked (hbool : BoolRoundTrip rt.crates) {request : ReissueRequest}
    {dpop : Option String}
    (h : (request.run rt service dpop requestUrl requestId).run w = .ok response w') :
    ∃ auth w₁ ctx,
      (service.reissueAuthenticate rt request.certificate dpop requestUrl).run w = .ok auth w₁ ∧
      Service.reissueContextFor rt.crates auth request.newCsr = .ok ctx ∧
      MarkedAs rt.crates response (Hook.Disables rt service.hooks ctx w₁) := by
  obtain ⟨_, auth, w₁, plan, w₂, w₃, w₄, event, w₅, hauth, hplan, -, -, hissue, -⟩ :=
    ReissueRequest.of_run h
  obtain ⟨_, _, _, _, custom, -, -, -, hctx, hhooks, -, -, -, hcustom, -⟩ :=
    Service.of_reissuePlan hplan
  obtain ⟨issued, _, _, hissued, -, -, -, hresponse⟩ := Service.of_reissueIssue hissue
  obtain rfl : response = service.certificateResponse issued := hresponse
  obtain ⟨_, _, -, hbuild⟩ := of_reissue hissued
  obtain ⟨_, _, -, -, -, hpem, -⟩ := of_build hbuild
  obtain ⟨markers, hmarks, hunder⟩ := markers_of_reissue hissued
  have hlatch := Hook.renewable_of_run hhooks
  have hmarked : MarkedAs rt.crates (service.certificateResponse issued)
      (plan.custom.renewable = false) := markedAs_of_marks hbool hpem hmarks hunder
  rw [hcustom, Customization.clampTo_eq, hlatch] at hmarked
  refine ⟨auth, w₁, _, hauth, hctx, ?_⟩
  simpa [Service.reissueContext] using hmarked

/-- A marked certificate is not reissued. -/
theorem reissue_unmarked {request : ReissueRequest} {dpop : Option String}
    (h : (request.run rt service dpop requestUrl requestId).run w = .ok response w')
    {cert : Certificate}
    (hcert : X509.certificateFromPem rt.crates request.certificate = .ok cert) :
    X509.isMarkedNonRenewable rt.crates cert = false := by
  obtain ⟨_, auth, _, _, _, _, _, _, _, hauth, -⟩ := ReissueRequest.of_run h
  obtain ⟨hauthCert, -, -, hunmarked, -⟩ := Service.of_reissueAuthenticate hauth
  rw [hcert] at hauthCert
  cases hauthCert
  exact hunmarked

end

/-- The marker is faithful and final. A certificate carries it at most once, and counts as marked
exactly when the token turned renewals off or a hook that was asked did; on a reissue only a hook
can. A request that presents a marked certificate to renew or rekey does not succeed. -/
theorem marker_faithful (rt : Runtime) (service : Service) (hbool : BoolRoundTrip rt.crates) :
    (∀ req requestUrl requestId response w w',
      (service.sign rt req requestUrl requestId).run w = .ok response w' →
      ∃ csr validated w₁ ctx,
        (service.signAuthenticate rt req requestUrl).run w = .ok (csr, validated) w₁ ∧
        Service.signContextAt rt.crates service req csr validated (w₁.tick rt).clock = .ok ctx ∧
        MarkedAs rt.crates response
          (validated.claims.renew = false ∨ Hook.Disables rt service.hooks ctx (w₁.tick rt))) ∧
    (∀ (request : ReissueRequest) dpop requestUrl requestId response w w',
      (request.run rt service dpop requestUrl requestId).run w = .ok response w' →
      (∃ auth w₁ ctx,
        (service.reissueAuthenticate rt request.certificate dpop requestUrl).run w = .ok auth w₁ ∧
        Service.reissueContextFor rt.crates auth request.newCsr = .ok ctx ∧
        MarkedAs rt.crates response (Hook.Disables rt service.hooks ctx w₁)) ∧
      ∀ cert, X509.certificateFromPem rt.crates request.certificate = .ok cert →
        X509.isMarkedNonRenewable rt.crates cert = false) :=
  ⟨fun _ _ _ _ _ _ h => sign_marked hbool h,
    fun _ _ _ _ _ _ _ h => ⟨reissue_marked hbool h, fun _ hcert => reissue_unmarked h hcert⟩⟩

/-- A run with a token that turns renewals off. -/
def finalRuntime : Runtime :=
  Testca.still (Testca.serverCrates [] [("csr", Testca.csr)]
    [([1], .obj (Testca.ottFields "web" "t-1" 1000 1300 ++ [("renew", .bool false)]))])

theorem boolRoundTrip_testca : BoolRoundTrip finalRuntime.crates := by
  intro b der value hder hvalue
  cases hder
  cases hvalue
  cases b <;> rfl

theorem marker_faithful_final :
    ∃ response w', ((Testca.service true []).sign finalRuntime
        (Testca.signRequest (Testca.token "o" 1 [9])) "ca" none).run
          (Testca.world Testca.sqlite (Testca.instant 1000)) = .ok response w' ∧
      ∃ csr validated w₁ ctx,
        ((Testca.service true []).signAuthenticate finalRuntime
          (Testca.signRequest (Testca.token "o" 1 [9])) "ca").run
            (Testca.world Testca.sqlite (Testca.instant 1000)) = .ok (csr, validated) w₁ ∧
        Service.signContextAt finalRuntime.crates (Testca.service true [])
          (Testca.signRequest (Testca.token "o" 1 [9])) csr validated (w₁.tick finalRuntime).clock =
            .ok ctx ∧
        MarkedAs finalRuntime.crates response (validated.claims.renew = false ∨
          Hook.Disables finalRuntime (Testca.service true []).hooks ctx (w₁.tick finalRuntime)) :=
  ⟨_, _, rfl, (marker_faithful finalRuntime (Testca.service true []) boolRoundTrip_testca).1
    (Testca.signRequest (Testca.token "o" 1 [9])) "ca" none _ _ _ rfl⟩

end Ayane
