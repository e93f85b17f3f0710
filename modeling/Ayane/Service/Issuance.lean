import Ayane.Ca.Contents
import Ayane.Hook.Answers
import Ayane.Service.Phases

/-!
# Requests that issue

What is known of a request to sign, renew or rekey that succeeded: the runs of its parts,
what was asked of the CA, and the record that was committed before the response.
-/

namespace Ayane

open Ayane.Action Effect

/-- A request that is reported as a success is one, and the report changes no storage. -/
theorem of_audited {α : Type} {rt : Runtime} {eventType : String} {requestId : Option String}
    {request : Action (α × AuditEvent)} {a : α} {w w' : World}
    (h : (audited rt eventType requestId request).run w = .ok a w') :
    ∃ event w₁, request.run w = .ok (a, event) w₁ ∧ w' = { w₁ with audit := event :: w₁.audit } := by
  obtain ⟨outcome, w₁, hattempt, h⟩ := run_bind_eq_ok.mp h
  obtain ⟨⟨a', event⟩, rfl, hrequest⟩ | ⟨e, rfl, -⟩ := run_attempt_eq_ok.mp hattempt
  · cases h
    exact ⟨event, w₁, hrequest, rfl⟩
  · simp only [run_bind_eq_ok] at h
    obtain ⟨_, _, -, _, _, -, h⟩ := h
    cases h

theorem of_withKey {α : Type} {rt : Runtime} {f : ℕ → Digest 19 → Outcome α} {a : α} {w w' : World}
    (h : (withKey rt f).run w = .ok a w') :
    f w.interactions (rt.entropy w.interactions) = .ok a ∧ w' = w.tick rt := by
  obtain ⟨n, w₁, hn, h⟩ := run_bind_eq_ok.mp h
  cases hn
  exact run_ofOutcome_eq_ok.mp h

/-- A record that is committed. -/
theorem of_recordCertificate {rt : Runtime} {record : CertificateRecord} {w w' : World} {u : Unit}
    (h : (recordCertificate rt record).run w = .ok u w') :
    (w.storage.recordCertificate record).1 = .ok () ∧
      w' = w.storing rt (w.storage.recordCertificate record).2 := by
  obtain ⟨hok, rfl⟩ := run_onStorage_eq_ok.mp h
  exact ⟨(Result.orAbort_eq_ok _ _).mp hok, rfl⟩

theorem storage_of_eventNow {rt : Runtime} {eventType outcome : String} {event : AuditEvent}
    {w w' : World} (h : (eventNow rt eventType outcome).run w = .ok event w') :
    w'.storage = w.storage :=
  ((waits_eventNow rt eventType outcome).of_ok h).storage

/-- The clamp moves the end of the window only. -/
theorem Customization.clampTo_eq (c : Customization) (ceiling : Option SystemTime) :
    c.clampTo ceiling = { c with notAfter := ceiling.elim c.notAfter (min c.notAfter) } := by
  cases ceiling with
  | none => rfl
  | some ceiling =>
    unfold clampTo
    dsimp only [Option.elim]
    split_ifs with h
    · rw [min_eq_right h.le]
    · rw [min_eq_left (not_lt.mp h)]

namespace Service

variable {rt : Runtime} {service : Service} {w w' : World}

theorem of_issueRecorded {issue : ℕ → Digest 19 → Outcome IssuedCertificate}
    {notBefore now : SystemTime} {record : IssuedCertificate → String → String → CertificateRecord}
    {eventType : String} {describe : IssuedCertificate → AuditEvent → AuditEvent}
    {served : CertificateResponse × AuditEvent}
    (h : (service.issueRecorded rt issue notBefore now record eventType describe).run w =
      .ok served w') :
    ∃ issued starts issuedAt,
      issue w.interactions (rt.entropy w.interactions) = .ok issued ∧
      rt.crates.times.formatRfc3339 notBefore = .ok starts ∧
      (w.storage.recordCertificate (record issued starts issuedAt)).1 = .ok () ∧
      w'.storage = (w.storage.recordCertificate (record issued starts issuedAt)).2 ∧
      served.1 = service.certificateResponse issued := by
  unfold issueRecorded at h
  simp only [run_bind_eq_ok, run_ofOutcome_eq_ok] at h
  obtain ⟨issued, w₁, hissue, starts, _, ⟨hstarts, rfl⟩, issuedAt, _, ⟨-, rfl⟩, _, w₂, hrecord,
    event, w₃, hevent, hpure⟩ := h
  obtain ⟨hissued, rfl⟩ := of_withKey hissue
  obtain ⟨hstored, rfl⟩ := of_recordCertificate hrecord
  have hstorage := storage_of_eventNow hevent
  cases hpure
  exact ⟨issued, starts, issuedAt, hissued, hstarts, hstored, hstorage, rfl⟩

/-! ## Signing -/

/-- What is asked of the CA. -/
def SignPlan.issueParams (plan : SignPlan) : IssueParams where
  commonName := plan.commonName
  sans := plan.custom.sans
  publicKey := plan.csr.publicKey
  notBefore := plan.custom.notBefore
  notAfter := plan.custom.notAfter
  template := plan.template
  keyUsageOverride := plan.custom.keyUsage
  extendedKeyUsageOverride := plan.custom.extendedKeyUsage
  additionalExtensions := plan.custom.additionalExtensions
  renewable := plan.custom.renewable

/-- What is recorded of an issued certificate. -/
def SignPlan.record (plan : SignPlan) (issued : IssuedCertificate) (notBefore issuedAt : String) :
    CertificateRecord where
  serialNumber := issued.serialDecimal
  subject := plan.commonName
  sans := plan.custom.sans.map San.toString
  notBefore
  notAfter := issued.notAfterRfc3339
  issuedAt
  provisioner := some plan.validated.provisioner
  operation := "sign"
  renewable := plan.custom.renewable
  pem := issued.pem

theorem of_signIssue {plan : SignPlan} {requestId : Option String}
    {served : CertificateResponse × AuditEvent}
    (h : (service.signIssue rt plan requestId).run w = .ok served w') :
    ∃ issued notBefore issuedAt,
      service.ca.issue rt.crates w.interactions (rt.entropy w.interactions) plan.issueParams =
        .ok issued ∧
      rt.crates.times.formatRfc3339 plan.custom.notBefore = .ok notBefore ∧
      (w.storage.recordCertificate (plan.record issued notBefore issuedAt)).1 = .ok () ∧
      w'.storage = (w.storage.recordCertificate (plan.record issued notBefore issuedAt)).2 ∧
      served.1 = service.certificateResponse issued :=
  of_issueRecorded h

/-- The parts of a request to sign that succeeded. -/
theorem of_sign {req : SignRequest} {requestUrl : String} {requestId : Option String}
    {response : CertificateResponse}
    (h : (service.sign rt req requestUrl requestId).run w = .ok response w') :
    ∃ csr validated w₁ plan w₂ w₃ w₄ event w₅,
      (service.signAuthenticate rt req requestUrl).run w = .ok (csr, validated) w₁ ∧
      (service.signPlan rt req csr validated).run w₁ = .ok plan w₂ ∧
      (signClaimJti rt validated).run w₂ = .ok () w₃ ∧
      (claimOnceScopes rt plan.onceScopes plan.custom.notAfter).run w₃ = .ok () w₄ ∧
      (service.signIssue rt plan requestId).run w₄ = .ok (response, event) w₅ ∧
      w' = { w₅ with audit := event :: w₅.audit } := by
  obtain ⟨event, w₅, hserved, hw⟩ := of_audited h
  unfold trySign at hserved
  simp only [run_bind_eq_ok] at hserved
  obtain ⟨⟨csr, validated⟩, w₁, hauth, plan, w₂, hplan, _, w₃, hjti, _, w₄, hscopes, hissue⟩ :=
    hserved
  exact ⟨csr, validated, w₁, plan, w₂, w₃, w₄, event, w₅, hauth, hplan, hjti, hscopes, hissue, hw⟩

/-! ## Renewing and rekeying -/

/-- A certificate that may be reissued: one of the CA, not revoked when it was looked up, not
marked, not expired, with a proof of its key. -/
theorem of_reissueAuthenticate {certificatePem : String} {dpop : Option String}
    {requestUrl : String} {auth : ReissueAuth}
    (h : (service.reissueAuthenticate rt certificatePem dpop requestUrl).run w = .ok auth w') :
    X509.certificateFromPem rt.crates certificatePem = .ok auth.cert ∧
      service.ca.verifyIssued rt.crates auth.cert = .ok () ∧
      w.storage.getRevocation (serialToDecimal auth.cert.tbsCertificate.serialNumber) = .ok none ∧
      X509.isMarkedNonRenewable rt.crates auth.cert = false ∧
      auth.now < (certValidityWindow auth.cert).2 ∧
      ∃ proof, dpop = some proof ∧ Dpop.verify rt.crates proof auth.cert "POST" requestUrl dpopMaxAge
        auth.now = .ok auth.proof := by
  unfold reissueAuthenticate at h
  simp only [run_bind_eq_ok, run_ofResult_eq_ok, run_ofOutcome_eq_ok, ensure_eq_ok, okOr_eq_ok] at h
  obtain ⟨proof, _, ⟨hdpop, rfl⟩, cert, _, ⟨hcert, rfl⟩, _, _, ⟨hissued, rfl⟩, revocation, w₁,
    hrevocation, _, _, ⟨hunrevoked, rfl⟩, _, _, ⟨hunmarked, rfl⟩, now, w₂, -, _, _, ⟨hcurrent, rfl⟩,
    verified, _, ⟨hverify, rfl⟩, hpure⟩ := h
  obtain ⟨hlookup, -⟩ := run_onStorage_eq_ok.mp hrevocation
  cases hpure
  rw [Option.isNone_iff_eq_none.mp hunrevoked] at hlookup
  exact ⟨hcert, hissued, (Result.orAbort_eq_ok _ _).mp hlookup, hunmarked, hcurrent, proof, hdpop,
    hverify⟩

/-- What a request to renew or rekey puts to the hooks. -/
def reissueContextFor (crates : ServerCrates) (auth : ReissueAuth) (newCsrPem : Option String) :
    Result Context := do
  let (_, csrDer) ← reissueKey crates auth.cert newCsrPem
  let sans ← certSans crates auth.cert
  let notAfter ← okOr (.internal "renewal validity overflow")
    (auth.now.checkedAdd (originalDuration auth.cert))
  let certDer ← mapErr derError (crates.der.certificateToDer auth.cert)
  let subject := (subjectCommonName crates auth.cert.tbsCertificate.subject).getD ""
  .ok (reissueContext newCsrPem.isSome subject sans auth.now notAfter csrDer certDer)

/-- What a successful plan is made of: the hooks are asked about the window of the previous
certificate slid to the present, and theirs is clamped to its end. -/
theorem of_reissuePlan {auth : ReissueAuth} {newCsrPem : Option String} {plan : ReissuePlan}
    (h : (service.reissuePlan rt auth newCsrPem).run w = .ok plan w') :
    ∃ csrDer sans notAfter certDer custom,
      reissueKey rt.crates auth.cert newCsrPem = .ok (plan.publicKey, csrDer) ∧
      certSans rt.crates auth.cert = .ok sans ∧
      auth.now.checkedAdd (originalDuration auth.cert) = some notAfter ∧
      reissueContextFor rt.crates auth newCsrPem = .ok (reissueContext newCsrPem.isSome
        plan.baselineSubject sans auth.now notAfter csrDer certDer) ∧
      (Hook.run rt service.hooks (reissueContext newCsrPem.isSome plan.baselineSubject sans auth.now
        notAfter csrDer certDer)).run w = .ok custom w' ∧
      plan.auth = auth ∧ plan.isRekey = newCsrPem.isSome ∧
      plan.baselineSubject =
        (subjectCommonName rt.crates auth.cert.tbsCertificate.subject).getD "" ∧
      plan.custom = custom.clampTo (some notAfter) ∧ plan.custom.checkWindow = .ok () := by
  unfold reissuePlan at h
  simp only [run_bind_eq_ok, run_ofResult_eq_ok, okOr_eq_ok] at h
  obtain ⟨⟨publicKey, csrDer⟩, _, ⟨hkey, rfl⟩, sans, _, ⟨hsans, rfl⟩, notAfter, _, ⟨hna, rfl⟩, certDer,
    _, ⟨hder, rfl⟩, custom, w₁, hhooks, _, _, ⟨hwindow, rfl⟩, hpure⟩ := h
  cases hpure
  refine ⟨csrDer, sans, notAfter, certDer, custom, hkey, hsans, hna, ?_, hhooks, rfl, rfl, rfl, rfl,
    hwindow⟩
  simp only [reissueContextFor, except_bind_eq_ok, okOr_eq_ok]
  exact ⟨_, hkey, _, hsans, _, hna, _, hder, rfl⟩

/-- What is asked of the CA. -/
def ReissuePlan.reissueParams (plan : ReissuePlan) : ReissueParams where
  old := plan.auth.cert
  publicKey := plan.publicKey
  subjectCommonNameOverride := plan.custom.subjectCommonName
  sans := plan.custom.sans
  notBefore := plan.custom.notBefore
  notAfter := plan.custom.notAfter
  keyUsageOverride := plan.custom.keyUsage
  extendedKeyUsageOverride := plan.custom.extendedKeyUsage
  additionalExtensions := plan.custom.additionalExtensions
  renewable := plan.custom.renewable

/-- What is recorded of a reissued certificate. -/
def ReissuePlan.record (plan : ReissuePlan) (issued : IssuedCertificate)
    (notBefore issuedAt : String) : CertificateRecord where
  serialNumber := issued.serialDecimal
  subject := plan.subject
  sans := plan.custom.sans.map San.toString
  notBefore
  notAfter := issued.notAfterRfc3339
  issuedAt
  provisioner := none
  operation := if plan.isRekey then "rekey" else "renew"
  renewable := plan.custom.renewable
  pem := issued.pem

theorem of_reissueIssue {plan : ReissuePlan} {eventType : String} {requestId : Option String}
    {served : CertificateResponse × AuditEvent}
    (h : (service.reissueIssue rt plan eventType requestId).run w = .ok served w') :
    ∃ issued notBefore issuedAt,
      service.ca.reissue rt.crates w.interactions (rt.entropy w.interactions) plan.reissueParams =
        .ok issued ∧
      rt.crates.times.formatRfc3339 plan.custom.notBefore = .ok notBefore ∧
      (w.storage.recordCertificate (plan.record issued notBefore issuedAt)).1 = .ok () ∧
      w'.storage = (w.storage.recordCertificate (plan.record issued notBefore issuedAt)).2 ∧
      served.1 = service.certificateResponse issued :=
  of_issueRecorded h

/-- The parts of a request to renew or rekey that succeeded. -/
theorem of_tryRenewOrRekey {certificatePem : String} {newCsrPem dpop : Option String}
    {requestUrl : String} {requestId : Option String} {served : CertificateResponse × AuditEvent}
    (h : (service.tryRenewOrRekey rt certificatePem newCsrPem dpop requestUrl requestId).run w =
      .ok served w') :
    ∃ eventType auth w₁ plan w₂ w₃ w₄,
      (service.reissueAuthenticate rt certificatePem dpop requestUrl).run w = .ok auth w₁ ∧
      (service.reissuePlan rt auth newCsrPem).run w₁ = .ok plan w₂ ∧
      (proofClaimJti rt auth.proof).run w₂ = .ok () w₃ ∧
      (claimOnceScopes rt plan.custom.onceClaims plan.custom.notAfter).run w₃ = .ok () w₄ ∧
      (service.reissueIssue rt plan eventType requestId).run w₄ = .ok served w' := by
  unfold tryRenewOrRekey at h
  simp only [run_bind_eq_ok] at h
  obtain ⟨auth, w₁, hauth, plan, w₂, hplan, _, w₃, hjti, _, w₄, hscopes, hissue⟩ := h
  exact ⟨_, auth, w₁, plan, w₂, w₃, w₄, hauth, hplan, hjti, hscopes, hissue⟩

end Service

end Ayane
