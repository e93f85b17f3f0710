import Ayane.Service.Renewability
import Ayane.Storage.Certificates
import Ayane.Testca.Readable

/-!
# The inventory and the certificates

What is recorded of a certificate is taken from the request, and the certificate is built
from the same values by the CA. They agree up to three switches: a template that leaves the
common name out of the certificate, a hook that puts an extension of its own in place of
the names, and a serial number that is drawn a second time.
-/

namespace Ayane

open Ayane.Action Effect Keyed

/-! ## What a record says -/

/-- A record says of a certificate what the certificate says. -/
structure Describes (crates : ServerCrates) (record : CertificateRecord) (cert : Certificate) :
    Prop where
  subject : record.subject = (subjectCommonName crates cert.tbsCertificate.subject).getD ""
  sans : ∃ names, certSans crates cert = .ok names ∧ record.sans = names.map San.toString
  notBefore : crates.times.formatRfc3339 (certValidityWindow cert).1 = .ok record.notBefore
  notAfter : crates.times.formatRfc3339 (certValidityWindow cert).2 = .ok record.notAfter
  renewable : record.renewable = !X509.isMarkedNonRenewable crates cert

/-- The inventory holds one record of the certificate's serial number, which describes it. -/
def Storage.Agrees (crates : ServerCrates) (s : Storage) (cert : Certificate) : Prop :=
  ∃ record, s.certificatesOf (serialToDecimal cert.tbsCertificate.serialNumber) = [record] ∧
    Describes crates record cert

/-- Times are formatted by their second. -/
def FormatsSeconds (crates : ServerCrates) : Prop :=
  ∀ t d, crates.serverDer.dateTimeFromSystemTime t = .ok d →
    crates.times.formatRfc3339 d.toSystemTime = crates.times.formatRfc3339 t

/-- What the inventory relies on of the crates. -/
structure Legible (crates : ServerCrates) : Prop extends ReadsBack crates where
  pem : PemRoundTrip crates
  bool : BoolRoundTrip crates
  seconds : FormatsSeconds crates

/-- The last extension with names among those that are added, if there is one, reads as `sans`. -/
def ShowsNames (crates : ServerCrates) (additional : List Extension) (sans : List San) : Prop :=
  ∀ ext, (extensionsUnder additional Oid.subjectAltName).getLast? = some ext →
    ∃ names, crates.serverDer.subjectAltNameFromDer ext.extnValue = .ok names ∧
      (names.filterMap San.ofGeneralName).map San.toString = sans.map San.toString

section

variable {crates : ServerCrates} {ca : CertificateAuthority} {additional : List Extension}
  {san : Option Extension} {sans : List San}

/-- The extensions with names that a certificate ends up with. -/
def namesAfter (additional : List Extension) (san : Option Extension) : List Extension :=
  match (extensionsUnder additional Oid.subjectAltName).getLast? with
  | some ext => [ext]
  | none => san.toList

theorem showsNames_iff (hread : ReadsBack crates) {critical : Bool}
    (hsan : subjectAltNameExtension crates sans critical = .ok san) :
    (∃ names, sansOf crates (namesAfter additional san) = .ok names ∧
      sans.map San.toString = names.map San.toString) ↔ ShowsNames crates additional sans := by
  unfold ShowsNames namesAfter
  cases (extensionsUnder additional Oid.subjectAltName).getLast? with
  | none =>
    constructor
    · rintro - ext ⟨⟩
    · intro _
      exact ⟨sans, sansOf_subjectAltName hread hsan, rfl⟩
  | some ext =>
    constructor
    · rintro ⟨_, hnames, hsame⟩ _ ⟨⟩
      obtain ⟨names, hdecode, rfl⟩ := sansOf_singleton_eq_ok.mp hnames
      exact ⟨names, hdecode, hsame.symm⟩
    · intro h
      obtain ⟨names, hdecode, hsame⟩ := h ext rfl
      exact ⟨_, sansOf_singleton_eq_ok.mpr ⟨names, hdecode, rfl⟩, hsame.symm⟩

theorem under_upsertAll_names {exts : List Extension}
    (hexts : extensionsUnder exts Oid.subjectAltName = san.toList) :
    extensionsUnder (upsertAll Extension.extnId exts additional) Oid.subjectAltName =
      namesAfter additional san := by
  rw [extensionsUnder, under_upsertAll, namesAfter]
  cases (extensionsUnder additional Oid.subjectAltName).getLast? with
  | some ext => rfl
  | none => exact hexts

/-- The extensions with names of an issued certificate. -/
theorem names_of_issueContents {params : IssueParams} {subject : Name} {exts : List Extension}
    (h : ca.issueContents crates params = .ok (subject, exts)) :
    ∃ san critical, subjectAltNameExtension crates params.sans critical = .ok san ∧
      extensionsUnder exts Oid.subjectAltName = namesAfter params.additionalExtensions san := by
  obtain ⟨-, base, san, ski, aki, markers, -, hbase, hsan, hski, haki, hmarks, rfl⟩ :=
    of_issueContents h
  have hoids : Oid.subjectKeyIdentifier ≠ Oid.subjectAltName ∧
      Oid.authorityKeyIdentifier ≠ Oid.subjectAltName ∧
      X509.nonRenewableOid ≠ Oid.subjectAltName := by decide
  refine ⟨san, _, hsan, ?_⟩
  rw [← under_upsertAll_names
    (under_upsertOptional_of_nil hbase (extnId_of_subjectAltName hsan))]
  simp [hski.extnId, haki.extnId, hoids, hmarks.under, hoids.2.2.symm]

/-- The extensions with names of a reissued certificate. -/
theorem names_of_reissueContents {params : ReissueParams} {subject : Name} {exts : List Extension}
    (h : ca.reissueContents crates params = .ok (subject, exts)) :
    ∃ san critical, subjectAltNameExtension crates params.sans critical = .ok san ∧
      extensionsUnder exts Oid.subjectAltName = namesAfter params.additionalExtensions san := by
  obtain ⟨-, san, overridden, ski, aki, markers, hsan, -, hsame, -, hski, haki, hmarks, rfl⟩ :=
    of_reissueContents h
  have hoids : Oid.subjectKeyIdentifier ≠ Oid.subjectAltName ∧
      Oid.authorityKeyIdentifier ≠ Oid.subjectAltName ∧
      X509.nonRenewableOid ≠ Oid.subjectAltName := by decide
  have hkept : extensionsUnder (keptExtensions params.old) Oid.subjectAltName = [] :=
    under_keptExtensions_of_mem (by decide)
  refine ⟨san, _, hsan, ?_⟩
  rw [← under_upsertAll_names ((hsame Oid.subjectAltName (by decide) (by decide)).trans
    (under_upsertOptional_of_nil hkept (extnId_of_subjectAltName hsan)))]
  simp [hski.extnId, haki.extnId, hoids, hmarks.under, hoids.2.2.symm]

/-- The window of a certificate is formatted as the window it was built for. -/
theorem formatRfc3339_validity (hseconds : FormatsSeconds crates) {notBefore notAfter : SystemTime}
    {validity : Validity} (h : X509.validity crates notBefore notAfter = .ok validity) :
    crates.times.formatRfc3339 validity.notBefore.toSystemTime =
        crates.times.formatRfc3339 notBefore ∧
      crates.times.formatRfc3339 validity.notAfter.toSystemTime =
        crates.times.formatRfc3339 notAfter := by
  have hsame : ∀ t time, X509.toX509Time crates t = .ok time →
      crates.times.formatRfc3339 time.toSystemTime = crates.times.formatRfc3339 t := by
    intro t time htime
    simp only [X509.toX509Time, except_bind_eq_ok, mapErr_eq_ok, Except.ok.injEq] at htime
    obtain ⟨d, hd, rfl⟩ := htime
    rw [← hseconds t d hd]
    split_ifs <;> rfl
  simp only [X509.validity, except_bind_eq_ok, Except.ok.injEq] at h
  obtain ⟨nb, hnb, na, hna, rfl⟩ := h
  exact ⟨hsame _ _ hnb, hsame _ _ hna⟩

/-- What is recorded of a certificate that was built describes it when the subject is the same, and
the names are not replaced by others. -/
theorem describes_iff_of_build (hlegible : Legible crates) {n : ℕ} {entropy : Digest 19}
    {notBefore notAfter : SystemTime} {subject : Name} {publicKey : SubjectPublicKeyInfo}
    {exts markers : List Extension} {issued : IssuedCertificate} {record : CertificateRecord}
    {critical : Bool}
    (hbuild : ca.build crates n entropy notBefore notAfter subject publicKey exts = .ok issued)
    (hnotBefore : crates.times.formatRfc3339 notBefore = .ok record.notBefore)
    (hnotAfter : record.notAfter = issued.notAfterRfc3339)
    (hrecorded : record.sans = sans.map San.toString)
    (hsan : subjectAltNameExtension crates sans critical = .ok san)
    (hnames : extensionsUnder exts Oid.subjectAltName = namesAfter additional san)
    (hmarks : Marks crates record.renewable markers)
    (hmarkers : extensionsUnder exts X509.nonRenewableOid = markers) :
    Describes crates record issued.certificate ↔
      record.subject = (subjectCommonName crates subject).getD "" ∧
        ShowsNames crates additional sans := by
  obtain ⟨validity, serialNumber, hvalidity, -, htbs, -, hformatted, -⟩ := of_build hbuild
  obtain ⟨hstart, hend⟩ := formatRfc3339_validity hlegible.seconds hvalidity
  have hexts := (extensions_of_build hbuild).1
  rw [← showsNames_iff hlegible.toReadsBack hsan, ← hnames, ← hexts, ← certSans_eq, ← hrecorded]
  have hsubject : issued.certificate.tbsCertificate.subject = subject := by
    rw [htbs]
    rfl
  constructor
  · intro h
    exact ⟨hsubject ▸ h.subject, h.sans⟩
  · rintro ⟨hname, hsans⟩
    refine ⟨hsubject.symm ▸ hname, hsans, ?_, ?_, ?_⟩
    · rw [certValidityWindow, htbs]
      exact hstart.trans hnotBefore
    · rw [certValidityWindow, htbs, hnotAfter]
      exact hend.trans hformatted
    · rw [marked_of_marks hlegible.bool hmarks (hexts ▸ hmarkers), Bool.not_not]

theorem agrees_iff {s s' : Storage} {record : CertificateRecord} {cert : Certificate}
    (h : s'.certificatesOf (serialToDecimal cert.tbsCertificate.serialNumber) =
      record :: s.certificatesOf (serialToDecimal cert.tbsCertificate.serialNumber)) :
    s'.Agrees crates cert ↔
      s.certificatesOf (serialToDecimal cert.tbsCertificate.serialNumber) = [] ∧
        Describes crates record cert := by
  unfold Storage.Agrees
  rw [h]
  constructor
  · rintro ⟨record', hone, hdescribes⟩
    obtain ⟨rfl, hnone⟩ := List.cons.inj hone
    exact ⟨hnone, hdescribes⟩
  · rintro ⟨hnone, hdescribes⟩
    exact ⟨record, by rw [hnone], hdescribes⟩

end

/-! ## What requests leave of the inventory -/

/-- The same certificates are recorded. -/
def World.SameInventory (w w' : World) : Prop :=
  ∀ serial, w'.storage.certificatesOf serial = w.storage.certificatesOf serial

instance : Std.Refl World.SameInventory := ⟨fun _ _ => rfl⟩

instance : IsTrans World World.SameInventory :=
  ⟨fun _ _ _ h h' serial => (h' serial).trans (h serial)⟩

theorem sameInventory_of_waits {w w' : World} (h : w.Waits w') : w.SameInventory w' := by
  intro serial
  rw [h.storage]

theorem sameInventory_claimOnce (rt : Runtime) (key msg : String) (expiresAt : SystemTime) :
    Within World.SameInventory (claimOnce rt key expiresAt msg) := by
  intro w
  obtain ⟨claim, -, -, hrun⟩ | ⟨-, abort, w', hrun, hwaits⟩ := claimOnce_cases rt key msg expiresAt w
  · rw [hrun]
    exact fun serial => Storage.certificatesOf_commitClaim claim w.storage
  · rw [hrun]
    exact sameInventory_of_waits hwaits

section

variable {rt : Runtime} {service : Service} {requestUrl : String} {requestId : Option String}
  {response : CertificateResponse} {cert : Certificate} {w w' : World}

/-- No extension that the answers of the hooks add makes the certificate show other names than
those they leave. -/
def KeepsNames (rt : Runtime) (hooks : List HookProvider) (ctx : Context) (w : World) : Prop :=
  ∀ exts, (Hook.extensionsFrom rt hooks ctx w).mapM (RawExtension.toExtension rt.crates) = .ok exts →
    ShowsNames rt.crates exts (Hook.sansFrom rt hooks ctx w)

theorem keepsNames_iff {hooks : List HookProvider} {ctx : Context} {custom : Customization}
    (h : (Hook.run rt hooks ctx).run w = .ok custom w') (ceiling : Option SystemTime) :
    KeepsNames rt hooks ctx w ↔ ShowsNames rt.crates (custom.clampTo ceiling).additionalExtensions
      (custom.clampTo ceiling).sans := by
  obtain ⟨-, hsans, hexts⟩ := Hook.contents_of_run h
  rw [Customization.clampTo_eq, hsans]
  constructor
  · intro hkeeps
    exact hkeeps _ hexts
  · intro hshows exts hexts'
    cases hexts.symm.trans hexts'
    exact hshows

/-- When the inventory agrees with what a request to sign returns: the common name, if there is one,
goes into the certificate, the names are kept, and the serial number is new. -/
def SignMatches (rt : Runtime) (service : Service) (req : SignRequest) (requestUrl : String) (w : World)
    (serial : String) : Prop :=
  ∃ csr validated w₁ ctx template,
    (service.signAuthenticate rt req requestUrl).run w = .ok (csr, validated) w₁ ∧
    Service.signContextAt rt.crates service req csr validated (w₁.tick rt).clock = .ok ctx ∧
    service.resolveTemplate validated.template = .ok template ∧
    (template.setCommonName = true ∨
      (Hook.commonNameFrom rt service.hooks ctx (w₁.tick rt)).getD validated.claims.sub = "") ∧
    KeepsNames rt service.hooks ctx (w₁.tick rt) ∧ w.storage.certificatesOf serial = []

/-- When it agrees with what a request to renew or rekey returns: the names are kept, and the serial
number is new. -/
def ReissueMatches (rt : Runtime) (service : Service) (request : ReissueRequest) (dpop : Option String)
    (requestUrl : String) (w : World) (serial : String) : Prop :=
  ∃ auth w₁ ctx,
    (service.reissueAuthenticate rt request.certificate dpop requestUrl).run w = .ok auth w₁ ∧
    Service.reissueContextFor rt.crates auth request.newCsr = .ok ctx ∧
    KeepsNames rt service.hooks ctx w₁ ∧ w.storage.certificatesOf serial = []

theorem signMatches_iff {req : SignRequest} {csr : ParsedCsr} {validated : ValidatedToken} {w₁ : World}
    {ctx : Context} {template : CertificateTemplate} {serial : String}
    (hauth : (service.signAuthenticate rt req requestUrl).run w = .ok (csr, validated) w₁)
    (hctx : Service.signContextAt rt.crates service req csr validated (w₁.tick rt).clock = .ok ctx)
    (htemplate : service.resolveTemplate validated.template = .ok template) :
    SignMatches rt service req requestUrl w serial ↔
      (template.setCommonName = true ∨
        (Hook.commonNameFrom rt service.hooks ctx (w₁.tick rt)).getD validated.claims.sub = "") ∧
      KeepsNames rt service.hooks ctx (w₁.tick rt) ∧ w.storage.certificatesOf serial = [] := by
  constructor
  · rintro ⟨csr', validated', w₁', ctx', template', hauth', hctx', htemplate', hmatches⟩
    cases hauth.symm.trans hauth'
    cases hctx.symm.trans hctx'
    cases htemplate.symm.trans htemplate'
    exact hmatches
  · intro hmatches
    exact ⟨csr, validated, w₁, ctx, template, hauth, hctx, htemplate, hmatches⟩

theorem reissueMatches_iff {request : ReissueRequest} {dpop : Option String}
    {auth : Service.ReissueAuth} {w₁ : World} {ctx : Context} {serial : String}
    (hauth : (service.reissueAuthenticate rt request.certificate dpop requestUrl).run w = .ok auth w₁)
    (hctx : Service.reissueContextFor rt.crates auth request.newCsr = .ok ctx) :
    ReissueMatches rt service request dpop requestUrl w serial ↔
      KeepsNames rt service.hooks ctx w₁ ∧ w.storage.certificatesOf serial = [] := by
  constructor
  · rintro ⟨auth', w₁', ctx', hauth', hctx', hmatches⟩
    cases hauth.symm.trans hauth'
    cases hctx.symm.trans hctx'
    exact hmatches
  · intro hmatches
    exact ⟨auth, w₁, ctx, hauth, hctx, hmatches⟩

/-- The common name of an issued certificate is the one that is recorded, unless the template leaves
it out. -/
theorem commonName_iff (hread : ReadsBack rt.crates) {setCommonName : Bool} {cn : String}
    {subject : Name}
    (h : X509.nameWithCommonName rt.crates (if setCommonName then cn else "") = .ok subject) :
    cn = (subjectCommonName rt.crates subject).getD "" ↔ setCommonName = true ∨ cn = "" := by
  rw [subjectCommonName_of_nameWithCommonName hread h]
  cases setCommonName <;> simp

/-! ### The certificate and its record -/

/-- The certificate that is read back from a response is the one that was built, and its record is
one more of its serial number. -/
theorem recorded_of_build (hpem : PemRoundTrip rt.crates) {ca : CertificateAuthority} {n : ℕ}
    {entropy : Digest 19} {notBefore notAfter : SystemTime} {subject : Name}
    {publicKey : SubjectPublicKeyInfo} {exts : List Extension} {issued : IssuedCertificate}
    {record : CertificateRecord} {s s' : Storage}
    (hbuild : ca.build rt.crates n entropy notBefore notAfter subject publicKey exts = .ok issued)
    (hcert : X509.certificateFromPem rt.crates issued.pem = .ok cert)
    (hserial : record.serialNumber = issued.serialDecimal)
    (hstored : (s.recordCertificate record).1 = .ok ()) (hstorage : s' = (s.recordCertificate record).2) :
    cert = issued.certificate ∧
      s'.certificatesOf (serialToDecimal cert.tbsCertificate.serialNumber) =
        record :: s.certificatesOf (serialToDecimal cert.tbsCertificate.serialNumber) := by
  obtain ⟨_, serialNumber, -, -, htbs, hwritten, -, hdecimal⟩ := of_build hbuild
  cases hcert.symm.trans (hpem _ _ hwritten)
  have hnumber : serialToDecimal issued.certificate.tbsCertificate.serialNumber =
      record.serialNumber := by
    rw [hserial, htbs]
    exact hdecimal.symm
  refine ⟨rfl, ?_⟩
  rw [hnumber, hstorage]
  exact Storage.certificatesOf_recordCertificate hstored

theorem signIssue_agrees_iff (hlegible : Legible rt.crates) {plan : Service.SignPlan}
    {event : AuditEvent}
    (h : (service.signIssue rt plan requestId).run w = .ok (response, event) w')
    (hcert : X509.certificateFromPem rt.crates response.certificate = .ok cert) :
    w'.storage.Agrees rt.crates cert ↔
      w.storage.certificatesOf (serialToDecimal cert.tbsCertificate.serialNumber) = [] ∧
        (plan.template.setCommonName = true ∨ plan.commonName = "") ∧
        ShowsNames rt.crates plan.custom.additionalExtensions plan.custom.sans := by
  obtain ⟨issued, notBefore, issuedAt, hissued, hnotBefore, hstored, hstorage, hresponse⟩ :=
    Service.of_signIssue h
  obtain rfl : response = service.certificateResponse issued := hresponse
  obtain ⟨subject, exts, hcontents, hbuild⟩ := of_issue hissued
  obtain ⟨rfl, hcommitted⟩ := recorded_of_build hlegible.pem hbuild hcert rfl hstored hstorage
  obtain ⟨markers, hmarks, hmarkers⟩ := markers_of_issue hissued
  obtain ⟨san, critical, hsan, hnames⟩ := names_of_issueContents hcontents
  rw [(extensions_of_build hbuild).1] at hmarkers
  have hdescribes := @describes_iff_of_build _ _ _ _ _ hlegible _ _ _ _ _ _ _ _ _
    (plan.record issued notBefore issuedAt) _ hbuild hnotBefore rfl rfl hsan hnames hmarks hmarkers
  have hsubject : plan.commonName = (subjectCommonName rt.crates subject).getD "" ↔
      plan.template.setCommonName = true ∨ plan.commonName = "" :=
    commonName_iff hlegible.toReadsBack (of_issueContents hcontents).1
  rw [agrees_iff hcommitted, hdescribes, ← hsubject]
  rfl

/-- The common name of a reissued certificate is the one that is recorded. -/
theorem commonName_of_reissueSubject (hread : ReadsBack rt.crates) {plan : Service.ReissuePlan}
    {subject : Name}
    (hbaseline : plan.baselineSubject =
      (subjectCommonName rt.crates plan.auth.cert.tbsCertificate.subject).getD "")
    (h : reissueSubject rt.crates plan.reissueParams = .ok subject) :
    plan.subject = (subjectCommonName rt.crates subject).getD "" := by
  unfold reissueSubject at h
  unfold Service.ReissuePlan.subject
  cases hcn : plan.custom.subjectCommonName with
  | none =>
    simp only [Service.ReissuePlan.reissueParams, hcn, Except.ok.injEq] at h
    rw [Option.getD_none, ← h, hbaseline]
  | some cn =>
    simp only [Service.ReissuePlan.reissueParams, hcn] at h
    rw [Option.getD_some, subjectCommonName_of_nameWithCommonName hread h]

theorem reissueIssue_agrees_iff (hlegible : Legible rt.crates) {plan : Service.ReissuePlan}
    {eventType : String} {event : AuditEvent}
    (hbaseline : plan.baselineSubject =
      (subjectCommonName rt.crates plan.auth.cert.tbsCertificate.subject).getD "")
    (h : (service.reissueIssue rt plan eventType requestId).run w = .ok (response, event) w')
    (hcert : X509.certificateFromPem rt.crates response.certificate = .ok cert) :
    w'.storage.Agrees rt.crates cert ↔
      w.storage.certificatesOf (serialToDecimal cert.tbsCertificate.serialNumber) = [] ∧
        ShowsNames rt.crates plan.custom.additionalExtensions plan.custom.sans := by
  obtain ⟨issued, notBefore, issuedAt, hissued, hnotBefore, hstored, hstorage, hresponse⟩ :=
    Service.of_reissueIssue h
  obtain rfl : response = service.certificateResponse issued := hresponse
  obtain ⟨subject, exts, hcontents, hbuild⟩ := of_reissue hissued
  obtain ⟨rfl, hcommitted⟩ := recorded_of_build hlegible.pem hbuild hcert rfl hstored hstorage
  obtain ⟨markers, hmarks, hmarkers⟩ := markers_of_reissue hissued
  obtain ⟨san, critical, hsan, hnames⟩ := names_of_reissueContents hcontents
  have hsubject := commonName_of_reissueSubject hlegible.toReadsBack hbaseline
    (of_reissueContents hcontents).1
  rw [(extensions_of_build hbuild).1] at hmarkers
  have hdescribes := @describes_iff_of_build _ _ _ _ _ hlegible _ _ _ _ _ _ _ _ _
    (plan.record issued notBefore issuedAt) _ hbuild hnotBefore rfl rfl hsan hnames hmarks hmarkers
  rw [agrees_iff hcommitted, hdescribes]
  exact and_congr_right fun _ => and_iff_right hsubject

/-! ### Whole requests -/

theorem sign_agrees_iff (hlegible : Legible rt.crates) {req : SignRequest}
    (h : (service.sign rt req requestUrl requestId).run w = .ok response w')
    (hcert : X509.certificateFromPem rt.crates response.certificate = .ok cert) :
    w'.storage.Agrees rt.crates cert ↔
      SignMatches rt service req requestUrl w
        (serialToDecimal cert.tbsCertificate.serialNumber) := by
  obtain ⟨csr, validated, w₁, plan, w₂, w₃, w₄, event, w₅, hauth, hplan, hjti, hscopes, hissue, rfl⟩ :=
    Service.of_sign h
  have htemplate := Service.template_of_signPlan hplan
  obtain ⟨_, _, _, custom, ceiling, -, hvalidated, -, hctx, hhooks, -, hcustom, -⟩ :=
    Service.of_signPlan hplan
  have hsame : w.SameInventory w₄ := by
    have hplanned : w.SameInventory w₂ := sameInventory_of_waits (trans_of World.Waits
      ((service.waits_signAuthenticate rt req requestUrl).of_ok hauth)
      ((service.waits_signPlan rt req csr validated).of_ok hplan))
    have hcredential : w₂.SameInventory w₃ :=
      (Service.within_signClaimJti (sameInventory_claimOnce rt) validated).of_ok hjti
    have hclaimed : w₃.SameInventory w₄ :=
      (Service.within_claimOnceScopes (sameInventory_claimOnce rt) _ _).of_ok hscopes
    exact trans_of World.SameInventory hplanned (trans_of World.SameInventory hcredential hclaimed)
  have hcommonName : plan.commonName = custom.subjectCommonName.getD validated.claims.sub := by
    rw [Service.SignPlan.commonName, hcustom, Customization.clampTo_eq, hvalidated]
  rw [signMatches_iff hauth hctx htemplate, ← (Hook.contents_of_run hhooks).1, ← hcommonName,
    keepsNames_iff hhooks ceiling, ← hcustom, ← hsame]
  change w₅.storage.Agrees rt.crates cert ↔ _
  rw [signIssue_agrees_iff hlegible hissue hcert]
  exact and_comm.trans and_assoc

theorem reissue_agrees_iff (hlegible : Legible rt.crates) {request : ReissueRequest}
    {dpop : Option String}
    (h : (request.run rt service dpop requestUrl requestId).run w = .ok response w')
    (hcert : X509.certificateFromPem rt.crates response.certificate = .ok cert) :
    w'.storage.Agrees rt.crates cert ↔
      ReissueMatches rt service request dpop requestUrl w
        (serialToDecimal cert.tbsCertificate.serialNumber) := by
  obtain ⟨eventType, auth, w₁, plan, w₂, w₃, w₄, event, w₅, hauth, hplan, hjti, hscopes, hissue, rfl⟩ :=
    ReissueRequest.of_run h
  obtain ⟨_, _, ceiling, _, custom, -, -, -, hctx, hhooks, rfl, -, hbaseline, hcustom, -⟩ :=
    Service.of_reissuePlan hplan
  have hsame : w.SameInventory w₄ := by
    have hplanned : w.SameInventory w₂ := sameInventory_of_waits (trans_of World.Waits
      ((service.waits_reissueAuthenticate rt _ _ _).of_ok hauth)
      ((service.waits_reissuePlan rt _ _).of_ok hplan))
    have hcredential : w₂.SameInventory w₃ :=
      (Service.within_proofClaimJti (sameInventory_claimOnce rt) plan.auth.proof).of_ok hjti
    have hclaimed : w₃.SameInventory w₄ :=
      (Service.within_claimOnceScopes (sameInventory_claimOnce rt) _ _).of_ok hscopes
    exact trans_of World.SameInventory hplanned (trans_of World.SameInventory hcredential hclaimed)
  rw [reissueMatches_iff hauth hctx, keepsNames_iff hhooks (some ceiling), ← hcustom, ← hsame]
  change w₅.storage.Agrees rt.crates cert ↔ _
  rw [reissueIssue_agrees_iff hlegible hbaseline hissue hcert]
  exact and_comm

end

/-- The inventory agrees with the certificate of a response exactly when its names are kept, its
serial number is new and, on signing, its common name is not left out. -/
theorem inventory_agrees_iff (rt : Runtime) (service : Service) (hlegible : Legible rt.crates) :
    (∀ req requestUrl requestId response w w' cert,
      (service.sign rt req requestUrl requestId).run w = .ok response w' →
      X509.certificateFromPem rt.crates response.certificate = .ok cert →
      (w'.storage.Agrees rt.crates cert ↔ SignMatches rt service req requestUrl w
        (serialToDecimal cert.tbsCertificate.serialNumber))) ∧
    (∀ (request : ReissueRequest) dpop requestUrl requestId response w w' cert,
      (request.run rt service dpop requestUrl requestId).run w = .ok response w' →
      X509.certificateFromPem rt.crates response.certificate = .ok cert →
      (w'.storage.Agrees rt.crates cert ↔ ReissueMatches rt service request dpop requestUrl w
        (serialToDecimal cert.tbsCertificate.serialNumber))) :=
  ⟨fun _ _ _ _ _ _ _ h hcert => sign_agrees_iff hlegible h hcert,
    fun _ _ _ _ _ _ _ _ h hcert => reissue_agrees_iff hlegible h hcert⟩

/-! ## A template without a common name -/

/-- A run in which the certificates of the small service can be read. -/
def legibleRuntime : Runtime where
  crates := Testca.readableCrates [Testca.signedLeaf true, Testca.signedLeaf false, Testca.namedLeaf [],
      Testca.renewedLeaf Testca.otherEntropy]
    [("csr", Testca.csr)]
    [([1], Testca.ottClaims "web" "t-1" 1000 1300), ([2], .obj (Testca.proofFields "p-1" 1500))]
  elapse _ := 0
  -- a request to sign interacts eight times
  entropy n := if n < 8 then Testca.zeroEntropy else Testca.otherEntropy

/-- The small service, whose template sets the common name or leaves it out. -/
def templatedService (setCommonName : Bool) : Service :=
  { Testca.service true [] with
    templates := (∅ : Table String CertificateTemplate).insert "web" { setCommonName }
    defaultTemplateName := some "web" }

/-- What it returns. -/
def templatedResponse (setCommonName : Bool) : CertificateResponse where
  certificate := Testca.pem (Testca.certificateDer (Testca.signedLeaf setCommonName))
  chain := []
  serialNumber := serialToDecimal (X509.serialBytes Testca.zeroEntropy)
  notAfter := Nat.repr 87400

def templatedRun (setCommonName : Bool) : EStateM.Result Abort World CertificateResponse :=
  ((templatedService setCommonName).sign legibleRuntime (Testca.signRequest (Testca.token "o" 1 [9]))
    "ca" none).run (Testca.world Testca.sqlite (Testca.instant 1000))

set_option maxRecDepth 2000 in
/-- The record of a certificate without a common name has one. -/
theorem subjects_templated : ((final (templatedRun false)).storage.certificatesOf
    (serialToDecimal (Testca.signedLeaf false).tbsCertificate.serialNumber)).map
      CertificateRecord.subject = ["web"] := rfl

theorem inventory_disagrees :
    templatedRun false = .ok (templatedResponse false) (final (templatedRun false)) ∧
    X509.certificateFromPem legibleRuntime.crates (templatedResponse false).certificate =
      .ok (Testca.signedLeaf false) ∧
    ¬(final (templatedRun false)).storage.Agrees legibleRuntime.crates (Testca.signedLeaf false) := by
  refine ⟨rfl, rfl, ?_⟩
  rintro ⟨record, hone, hdescribes⟩
  have hnone : subjectCommonName legibleRuntime.crates [] = none := rfl
  have hempty : record.subject = "" := hdescribes.subject.trans (congrArg (Option.getD · "") hnone)
  have hrecord : ["web"] = [record.subject] := by
    rw [← subjects_templated, hone]
    rfl
  rw [hempty] at hrecord
  exact absurd hrecord (by decide)

theorem legible_runtime : Legible legibleRuntime.crates where
  toReadsBack := Testca.readsBack_readable _ _ _
  pem := by
    refine Testca.pemRoundTrip_readable ?_
    simp only [List.forall_mem_cons]
    exact ⟨rfl, rfl, rfl, rfl, List.forall_mem_nil _⟩
  bool b der value hder hvalue := by
    cases hder
    cases hvalue
    cases b <;> rfl
  seconds t d h := by
    change (if h : unixEpoch ≤ t ∧ unixSecs t ≤ 253402300799 then _ else _) = _ at h
    split_ifs at h
    cases h
    change Except.ok (Nat.repr _) = Except.ok (Nat.repr _)
    rw [DateTime.unixSecs_toSystemTime]

/-- A renewal of the leaf of the name `web`. -/
def legibleRenewal : ReissueRequest := .renew ⟨Testca.pem (Testca.certificateDer (Testca.namedLeaf []))⟩

/-- It is made when a certificate has been signed. -/
def legibleWorld : World := { final (templatedRun true) with clock := Testca.instant 1500 }

set_option maxRecDepth 2000 in
/-- One certificate is signed, and then another one renewed. -/
theorem inventory_agrees_iff_web :
    (∃ w', templatedRun true = .ok (templatedResponse true) w' ∧
      (w'.storage.Agrees legibleRuntime.crates (Testca.signedLeaf true) ↔
        SignMatches legibleRuntime (templatedService true)
          (Testca.signRequest (Testca.token "o" 1 [9])) "ca"
          (Testca.world Testca.sqlite (Testca.instant 1000))
          (serialToDecimal (Testca.signedLeaf true).tbsCertificate.serialNumber))) ∧
    ∃ w', (legibleRenewal.run legibleRuntime (templatedService true) (some (Testca.token "d" 2 [3])) "ca"
        none).run legibleWorld = .ok (Testca.renewedResponse Testca.otherEntropy) w' ∧
      (w'.storage.Agrees legibleRuntime.crates (Testca.renewedLeaf Testca.otherEntropy) ↔
        ReissueMatches legibleRuntime (templatedService true) legibleRenewal
          (some (Testca.token "d" 2 [3])) "ca" legibleWorld
          (serialToDecimal (Testca.renewedLeaf Testca.otherEntropy).tbsCertificate.serialNumber)) := by
  obtain ⟨hsign, hreissue⟩ := inventory_agrees_iff legibleRuntime (templatedService true) legible_runtime
  constructor
  · exact ⟨_, rfl, hsign (Testca.signRequest (Testca.token "o" 1 [9])) "ca" none (templatedResponse true)
      _ _ _ rfl rfl⟩
  · exact ⟨_, rfl, hreissue legibleRenewal (some (Testca.token "d" 2 [3])) "ca" none
      (Testca.renewedResponse Testca.otherEntropy) _ _ _ rfl rfl⟩

end Ayane
