import Ayane.Service.Preservation
import Ayane.Service.SignLifetime

/-!
# The names that a token permits

A token of an authorizing provisioner permits a set of names. A request for any other name is
forbidden, and changes nothing; a request for some of them gets just these, and one for none
gets all.
-/

namespace Ayane

open Ayane.Action Effect Keyed

/-! ## The names of a request -/

namespace ParsedCsr

/-- The values of the attributes that ask for extensions. -/
def extensionValues (csr : ParsedCsr) : List Any :=
  (csr.req.info.attributes.filter fun attr => attr.oid = Oid.extensionReq).flatMap (·.values)

def readExtensions (crates : ServerCrates) (value : Any) : Except String (List Extension) := do
  let der ← crates.serverDer.anyToDer value
  crates.serverDer.extensionReqFromDer der

def readNames (crates : ServerCrates) (ext : Extension) : Except String (List GeneralName) :=
  crates.serverDer.subjectAltNameFromDer ext.extnValue

/-- A request reads as one for `names`, of whatever kind, in this order. -/
def Requests (crates : ServerCrates) (csr : ParsedCsr) (names : List GeneralName) : Prop :=
  ∃ exts decoded, csr.extensionValues.mapM (readExtensions crates) = .ok exts ∧
    (extensionsUnder exts.flatten Oid.subjectAltName).mapM (readNames crates) = .ok decoded ∧
      names = decoded.flatten

variable {crates : ServerCrates}

theorem Requests.unique {csr : ParsedCsr} {names names' : List GeneralName}
    (h : csr.Requests crates names) (h' : csr.Requests crates names') : names = names' := by
  obtain ⟨exts, decoded, hexts, hdecoded, rfl⟩ := h
  obtain ⟨exts', decoded', hexts', hdecoded', rfl⟩ := h'
  cases hexts.symm.trans hexts'
  cases hdecoded.symm.trans hdecoded'
  rfl

theorem sansOfValue_eq_ok {value : Any} {sans : List San} :
    sansOfValue crates value = .ok sans ↔ ∃ exts perExtension,
      readExtensions crates value = .ok exts ∧
        exts.mapM (sansOfExtension crates) = .ok perExtension ∧ sans = perExtension.flatten := by
  simp only [sansOfValue, readExtensions, except_bind_eq_ok, mapErr_eq_ok, Except.ok.injEq]
  constructor
  · rintro ⟨der, hder, exts, hexts, perExtension, hsans, rfl⟩
    exact ⟨exts, perExtension, ⟨der, hder, hexts⟩, hsans, rfl⟩
  · rintro ⟨exts, perExtension, ⟨der, hder, hexts⟩, hsans, rfl⟩
    exact ⟨der, hder, exts, hexts, perExtension, hsans, rfl⟩

theorem sansOfExtension_eq_ok {ext : Extension} {sans : List San}
    (hoid : ext.extnId = Oid.subjectAltName) :
    sansOfExtension crates ext = .ok sans ↔
      ∃ names, readNames crates ext = .ok names ∧ names.filterMap San.ofGeneralName = sans := by
  simp [sansOfExtension, readNames, hoid, except_bind_eq_ok]

theorem sansOfExtensions_iff {exts : List Extension} {sans : List San} :
    (∃ perExtension, exts.mapM (sansOfExtension crates) = .ok perExtension ∧
        perExtension.flatten = sans) ↔
      ∃ decoded, (extensionsUnder exts Oid.subjectAltName).mapM (readNames crates) = .ok decoded ∧
        decoded.flatten.filterMap San.ofGeneralName = sans := by
  induction exts generalizing sans with
  | nil => simp [extensionsUnder, under, pure, Except.pure]
  | cons ext exts ih =>
    by_cases hoid : ext.extnId = Oid.subjectAltName
    · have hunder : extensionsUnder (ext :: exts) Oid.subjectAltName =
          ext :: extensionsUnder exts Oid.subjectAltName := by
        simp [extensionsUnder, under, hoid]
      simp only [hunder, mapM_cons_eq_ok]
      constructor
      · rintro ⟨_, ⟨first, rest, hfirst, hrest, rfl⟩, rfl⟩
        obtain ⟨names, hnames, rfl⟩ := (sansOfExtension_eq_ok hoid).mp hfirst
        obtain ⟨decoded, hdecoded, hsans⟩ := ih.mp ⟨rest, hrest, rfl⟩
        exact ⟨names :: decoded, ⟨names, decoded, hnames, hdecoded, rfl⟩, by simp [hsans]⟩
      · rintro ⟨_, ⟨names, decoded, hnames, hdecoded, rfl⟩, rfl⟩
        obtain ⟨rest, hrest, hsans⟩ := ih.mpr ⟨decoded, hdecoded, rfl⟩
        have hfirst := (sansOfExtension_eq_ok hoid).mpr ⟨names, hnames, rfl⟩
        exact ⟨_, ⟨_, rest, hfirst, hrest, rfl⟩, by simp [hsans]⟩
    · have hunder : extensionsUnder (ext :: exts) Oid.subjectAltName =
          extensionsUnder exts Oid.subjectAltName := by
        simp [extensionsUnder, under, hoid]
      have hskip : sansOfExtension crates ext = .ok [] := by simp [sansOfExtension, hoid]
      simp only [hunder, ← ih, mapM_cons_eq_ok]
      constructor
      · rintro ⟨_, ⟨first, rest, hfirst, hrest, rfl⟩, rfl⟩
        cases hskip.symm.trans hfirst
        exact ⟨rest, hrest, by simp⟩
      · rintro ⟨rest, hrest, rfl⟩
        exact ⟨_, ⟨[], rest, hskip, hrest, rfl⟩, by simp⟩

theorem sansOfValues_iff {values : List Any} {sans : List San} :
    (∃ perValue, values.mapM (sansOfValue crates) = .ok perValue ∧ perValue.flatten = sans) ↔
      ∃ exts perExtension, values.mapM (readExtensions crates) = .ok exts ∧
        exts.flatten.mapM (sansOfExtension crates) = .ok perExtension ∧
          perExtension.flatten = sans := by
  induction values generalizing sans with
  | nil => simp [pure, Except.pure]
  | cons value values ih =>
    simp only [mapM_cons_eq_ok]
    constructor
    · rintro ⟨_, ⟨first, rest, hfirst, hrest, rfl⟩, rfl⟩
      obtain ⟨exts, perExtension, hexts, hsans, rfl⟩ := sansOfValue_eq_ok.mp hfirst
      obtain ⟨exts', perExtension', hexts', hsans', hsame⟩ := ih.mp ⟨rest, hrest, rfl⟩
      refine ⟨_, perExtension ++ perExtension', ⟨exts, exts', hexts, hexts', rfl⟩, ?_, by simp [hsame]⟩
      exact mapM_append_eq_ok.mpr ⟨_, _, hsans, hsans', rfl⟩
    · rintro ⟨_, perExtension, ⟨exts, exts', hexts, hexts', rfl⟩, hsans, rfl⟩
      obtain ⟨first, rest, hfirst, hrest, rfl⟩ := mapM_append_eq_ok.mp hsans
      obtain ⟨perValue, hperValue, hsame⟩ := ih.mpr ⟨exts', rest, hexts', hrest, rfl⟩
      have hvalue := sansOfValue_eq_ok.mpr ⟨exts, first, hexts, hfirst, rfl⟩
      exact ⟨_, ⟨_, perValue, hvalue, hperValue, rfl⟩, by simp [hsame]⟩

/-- The names that are requested are those of a modelled kind among all that the request reads as. -/
theorem requestedSans_eq_ok {csr : ParsedCsr} {sans : List San} :
    csr.requestedSans crates = .ok sans ↔
      ∃ names, csr.Requests crates names ∧ names.filterMap San.ofGeneralName = sans := by
  have hvalues : csr.requestedSans crates = .ok sans ↔ ∃ perValue,
      csr.extensionValues.mapM (sansOfValue crates) = .ok perValue ∧ perValue.flatten = sans := by
    simp [requestedSans, extensionValues, except_bind_eq_ok]
  rw [hvalues, sansOfValues_iff]
  constructor
  · rintro ⟨exts, perExtension, hexts, hsans, rfl⟩
    obtain ⟨decoded, hdecoded, hsame⟩ := sansOfExtensions_iff.mp ⟨perExtension, hsans, rfl⟩
    exact ⟨_, ⟨exts, decoded, hexts, hdecoded, rfl⟩, hsame⟩
  · rintro ⟨_, ⟨exts, decoded, hexts, hdecoded, rfl⟩, rfl⟩
    obtain ⟨perExtension, hsans, hsame⟩ := sansOfExtensions_iff.mpr ⟨decoded, hdecoded, rfl⟩
    exact ⟨exts, perExtension, hexts, hsans, hsame⟩

end ParsedCsr

/-! ## The names of a certificate -/

/-- The names that a certificate for a request gets. -/
def grantedSans (claims : OttClaims) (requested : List San) : List San :=
  if requested.isEmpty then allowedSans claims else requested

theorem grantedSans_ne_nil (claims : OttClaims) (requested : List San) :
    grantedSans claims requested ≠ [] := by
  unfold grantedSans
  split_ifs with hempty
  · unfold allowedSans
    split_ifs with hsans
    · simp
    · simpa using hsans
  · simpa using hempty

/-- What the token and the request make of a certificate. -/
structure FollowsToken (crates : ServerCrates) (claims : OttClaims) (csr : ParsedCsr)
    (template : CertificateTemplate) (names : List GeneralName) (cert : Certificate) : Prop where
  sans : certSans crates cert = .ok (grantedSans claims (names.filterMap San.ofGeneralName))
  encoded : ∃ ext, extensionsUnder cert.extensions Oid.subjectAltName = [ext] ∧
    crates.serverDer.subjectAltNameFromDer ext.extnValue =
      .ok ((grantedSans claims (names.filterMap San.ofGeneralName)).map San.generalName)
  permitted : ∀ san ∈ grantedSans claims (names.filterMap San.ofGeneralName),
    san ∈ allowedSans claims
  subject : X509.nameWithCommonName crates (if template.setCommonName then claims.sub else "") =
    .ok cert.tbsCertificate.subject
  commonName : (subjectCommonName crates cert.tbsCertificate.subject).getD "" =
    if template.setCommonName then claims.sub else ""
  publicKey : cert.tbsCertificate.subjectPublicKeyInfo = csr.publicKey

theorem San.eq_map_of_mapM {crates : ServerCrates} (hread : ReadsBack crates) {sans : List San}
    {names : List GeneralName} (h : sans.mapM (San.toGeneralName crates) = .ok names) :
    names = sans.map San.generalName := by
  induction sans generalizing names with
  | nil =>
    cases h
    rfl
  | cons san sans ih =>
    obtain ⟨name, rest, hname, hrest, rfl⟩ := mapM_cons_eq_ok.mp h
    rw [(San.of_toGeneralName hread hname).1, ih hrest, List.map_cons]

namespace Service

theorem permittedSans_true (claims : OttClaims) (requested : List San) :
    permittedSans true claims requested =
      match (grantedSans claims requested).find? fun san => san ∉ allowedSans claims with
      | some san => .error (.forbidden ("SAN " ++ san.toString ++ " is not permitted by the token"))
      | none => .ok (grantedSans claims requested) := rfl

theorem permittedSans_eq_ok {claims : OttClaims} {requested sans : List San} :
    permittedSans true claims requested = .ok sans ↔
      sans = grantedSans claims requested ∧
        ∀ san ∈ grantedSans claims requested, san ∈ allowedSans claims := by
  rw [permittedSans_true]
  cases hfind : (grantedSans claims requested).find? fun san => san ∉ allowedSans claims with
  | none =>
    have hall := List.find?_eq_none.mp hfind
    simp only [decide_eq_true_eq, not_not] at hall
    simp only [Except.ok.injEq]
    exact ⟨fun h => ⟨h.symm, hall⟩, fun h => h.1.symm⟩
  | some san =>
    have hnot := List.find?_some hfind
    have hmem := List.mem_of_find?_eq_some hfind
    simp only [decide_eq_true_eq] at hnot
    simp only [reduceCtorEq, false_iff, not_and]
    exact fun _ hall => hnot (hall san hmem)

variable {rt : Runtime} {service : Service} {req : SignRequest} {requestUrl : String}
  {csr : ParsedCsr} {validated : ValidatedToken} {w w' : World}

/-- What the plan of a request without hooks is made of. -/
theorem of_signPlan_hookFree {plan : SignPlan}
    (h : (service.signPlan rt req csr validated).run w = .ok plan w')
    (hauthorized : validated.authorized = true)
    (hnone : ∀ hook ∈ service.hooks, hook.appliesTo (some validated.provisioner) = false) :
    ∃ names, csr.Requests rt.crates names ∧
      (∀ san ∈ grantedSans validated.claims (names.filterMap San.ofGeneralName),
        san ∈ allowedSans validated.claims) ∧
      plan.csr = csr ∧ plan.commonName = validated.claims.sub ∧
      plan.custom.sans = grantedSans validated.claims (names.filterMap San.ofGeneralName) ∧
      plan.custom.additionalExtensions = [] := by
  obtain ⟨sans, _, _, custom, ceiling, hcsr, hvalidated, -, hctx, hhooks, -, hcustom, -, -⟩ :=
    of_signPlan h
  obtain rfl := Hook.eq_baseline_of_run hhooks hnone
  simp only [signContextAt, except_bind_eq_ok, Result.orAbort_eq_ok, Except.ok.injEq] at hctx
  obtain ⟨_, -, requested, hrequested, sans', hsans, _, -, _, -, _, -, _, -, hsame⟩ := hctx
  obtain rfl : sans' = sans := congrArg Context.sans hsame
  rw [hauthorized] at hsans
  obtain ⟨rfl, hpermitted⟩ := permittedSans_eq_ok.mp hsans
  obtain ⟨names, hnames, rfl⟩ := ParsedCsr.requestedSans_eq_ok.mp hrequested
  refine ⟨names, hnames, hpermitted, hcsr, ?_, ?_, ?_⟩
  · rw [SignPlan.commonName, hcustom, hvalidated, Customization.clampTo_eq]
    rfl
  · rw [hcustom, Customization.clampTo_eq]
    rfl
  · rw [hcustom, Customization.clampTo_eq]
    rfl

/-- A certificate that is issued without hooks follows the token. -/
theorem followsToken_of_issues (hread : ReadsBack rt.crates)
    (hauth : (service.signAuthenticate rt req requestUrl).run w = .ok (csr, validated) w')
    (hauthorized : validated.authorized = true)
    (hnone : ∀ hook ∈ service.hooks, hook.appliesTo (some validated.provisioner) = false)
    {plan : SignPlan} {issued : IssuedCertificate}
    (h : IssuesOnSign rt service req requestUrl w plan issued) :
    ∃ names, csr.Requests rt.crates names ∧
      FollowsToken rt.crates validated.claims csr plan.template names issued.certificate := by
  obtain ⟨_, _, _, _, _, _, _, hauth', hplan, -, -, hkey⟩ := h
  cases hauth.symm.trans hauth'
  obtain ⟨names, hnames, hpermitted, hcsr, hcommonName, hsans, hadditional⟩ :=
    of_signPlan_hookFree hplan hauthorized hnone
  obtain ⟨hissue, -⟩ := of_withKey hkey
  obtain ⟨subject, exts, hcontents, hbuild⟩ := of_issue hissue
  obtain ⟨hexts, hpublicKey⟩ := extensions_of_build hbuild
  obtain ⟨_, _, -, -, htbs, -⟩ := of_build hbuild
  obtain ⟨hsubject, -⟩ := of_issueContents hcontents
  obtain ⟨san, critical, hsan, hunder⟩ := names_of_issueContents hcontents
  have hcert : issued.certificate.tbsCertificate.subject = subject := by
    rw [htbs]
    rfl
  change X509.nameWithCommonName rt.crates
    (if plan.template.setCommonName then plan.commonName else "") = .ok subject at hsubject
  change subjectAltNameExtension rt.crates plan.custom.sans critical = .ok san at hsan
  change _ = namesAfter plan.custom.additionalExtensions san at hunder
  rw [hcommonName] at hsubject
  rw [hsans] at hsan
  rw [hadditional] at hunder
  replace hunder : extensionsUnder issued.certificate.extensions Oid.subjectAltName = san.toList := by
    rw [hexts]
    exact hunder
  refine ⟨names, hnames, ?_, ?_, hpermitted, ?_, ?_, ?_⟩
  · rw [certSans_eq, hunder]
    exact sansOf_subjectAltName hread hsan
  · obtain ⟨hempty, -⟩ | ⟨-, encoded, der, value, hencoded, hder, hvalue, rfl⟩ :=
      subjectAltNameExtension_eq_ok.mp hsan
    · exact absurd hempty (grantedSans_ne_nil _ _)
    · refine ⟨_, hunder, ?_⟩
      obtain rfl := hread.octetString _ _ hvalue
      rw [← San.eq_map_of_mapM hread hencoded]
      exact hread.subjectAltName _ _ hder
  · rw [hcert]
    exact hsubject
  · rw [hcert]
    exact subjectCommonName_of_nameWithCommonName hread hsubject
  · rw [hpublicKey, ← hcsr]
    rfl

/-! ## Requests that are refused -/

/-- The request fails with an error of the kind `p`, whatever it is called in the log, and leaves the
storage as it was. -/
def FailsOnSign (rt : Runtime) (service : Service) (req : SignRequest) (requestUrl : String) (w : World)
    (p : Error → Prop) : Prop :=
  ∀ requestId, ∃ e w', p e ∧
    (service.trySign rt req requestUrl requestId).run w = .error (.error e) w' ∧
    w'.storage = w.storage ∧
    (final ((service.sign rt req requestUrl requestId).run w)).storage = w.storage

/-- A plan that fails at once leaves everything as it was. -/
theorem failsOnSign_of_plan {p : Error → Prop} {e : Error} {w₁ : World}
    (hauth : (service.signAuthenticate rt req requestUrl).run w = .ok (csr, validated) w₁)
    (hplan : (service.signPlan rt req csr validated).run w₁ = .error (.error e) w₁) (he : p e) :
    FailsOnSign rt service req requestUrl w p := by
  intro requestId
  have htry : (service.trySign rt req requestUrl requestId).run w = .error (.error e) w₁ := by
    unfold trySign
    rw [run_bind_of_ok hauth]
    exact run_bind_of_error hplan _
  have hauthenticated : w₁.storage = w.storage :=
    ((service.waits_signAuthenticate rt req requestUrl).of_ok hauth).storage
  refine ⟨e, w₁, he, htry, hauthenticated, ?_⟩
  have haudit := waits_of_audited rt "certificate.issued" requestId
    (service.trySign rt req requestUrl requestId) w
  rw [htry] at haudit
  exact haudit.storage.trans hauthenticated

theorem checkConfirmation_cases (crates : ServerCrates) (claims : OttClaims) (csr : ParsedCsr) :
    checkConfirmation crates claims csr = .ok () ∨
      checkConfirmation crates claims csr = .error (.forbidden "token is bound to a different CSR") := by
  unfold checkConfirmation
  split
  · split_ifs
    · exact .inr rfl
    · exact .inl rfl
  · exact .inl rfl

/-- A name that the token does not permit is forbidden. -/
theorem permittedSans_of_not_mem {claims : OttClaims} {requested : List San} {san : San}
    (hmem : san ∈ requested) (hnot : san ∉ allowedSans claims) :
    ∃ msg, permittedSans true claims requested = .error (.forbidden msg) := by
  have hgranted : grantedSans claims requested = requested :=
    if_neg (by simpa using List.ne_nil_of_mem hmem)
  have hsome : ((grantedSans claims requested).find? fun san => san ∉ allowedSans claims).isSome := by
    rw [hgranted, List.find?_isSome]
    exact ⟨san, hmem, by simpa using hnot⟩
  obtain ⟨first, hfirst⟩ := Option.isSome_iff_exists.mp hsome
  rw [permittedSans_true, hfirst]
  exact ⟨_, rfl⟩

theorem signPlan_of_checkConfirmation {e : Error}
    (h : checkConfirmation rt.crates validated.claims csr = .error e) :
    (service.signPlan rt req csr validated).run w = .error (.error e) w := by
  unfold signPlan
  rw [h]
  rfl

theorem signPlan_forbidden (hauthorized : validated.authorized = true) {requested : List San} {san : San}
    (hrequested : csr.requestedSans rt.crates = .ok requested) (hmem : san ∈ requested)
    (hnot : san ∉ allowedSans validated.claims) :
    ∃ msg, (service.signPlan rt req csr validated).run w = .error (.error (.forbidden msg)) w := by
  obtain hcnf | hcnf := checkConfirmation_cases rt.crates validated.claims csr
  · obtain ⟨msg, hmsg⟩ := permittedSans_of_not_mem hmem hnot
    refine ⟨msg, ?_⟩
    unfold signPlan
    rw [run_bind_of_ok (run_ofResult_of_ok hcnf w), run_bind_of_ok (run_ofResult_of_ok hrequested w),
      hauthorized, hmsg]
    rfl
  · exact ⟨_, signPlan_of_checkConfirmation hcnf⟩

theorem signPlan_unreadable {e : Error} (h : csr.requestedSans rt.crates = .error e) :
    ∃ e', (service.signPlan rt req csr validated).run w = .error (.error e') w := by
  obtain hcnf | hcnf := checkConfirmation_cases rt.crates validated.claims csr
  · refine ⟨e, ?_⟩
    unfold signPlan
    rw [run_bind_of_ok (run_ofResult_of_ok hcnf w), h]
    rfl
  · exact ⟨_, signPlan_of_checkConfirmation hcnf⟩

/-- A request that an authorizing provisioner vouches for, and that no hook applies to, is forbidden
when it is for a name that the token does not permit, and fails as well when its names cannot be
read; nothing is stored then. Otherwise what is issued follows the token. -/
theorem sign_sanPolicy (hread : ReadsBack rt.crates)
    (hauth : (service.signAuthenticate rt req requestUrl).run w = .ok (csr, validated) w')
    (hauthorized : validated.authorized = true)
    (hnone : ∀ hook ∈ service.hooks, hook.appliesTo (some validated.provisioner) = false) :
    (∀ names name san, csr.Requests rt.crates names → name ∈ names →
      San.ofGeneralName name = some san → san ∉ allowedSans validated.claims →
        FailsOnSign rt service req requestUrl w fun e => ∃ msg, e = .forbidden msg) ∧
    ((¬∃ names, csr.Requests rt.crates names) →
      FailsOnSign rt service req requestUrl w fun _ => True) ∧
    ∀ plan issued, IssuesOnSign rt service req requestUrl w plan issued →
      service.resolveTemplate validated.template = .ok plan.template ∧
      ∃ names, csr.Requests rt.crates names ∧
        FollowsToken rt.crates validated.claims csr plan.template names issued.certificate := by
  refine ⟨fun names name san hnames hname hsan hnot => ?_, fun hunreadable => ?_,
    fun plan issued h => ⟨?_, followsToken_of_issues hread hauth hauthorized hnone h⟩⟩
  · have hrequested := ParsedCsr.requestedSans_eq_ok.mpr ⟨names, hnames, rfl⟩
    have hmem : san ∈ names.filterMap San.ofGeneralName := List.mem_filterMap.mpr ⟨name, hname, hsan⟩
    obtain ⟨msg, hplan⟩ := signPlan_forbidden hauthorized hrequested hmem hnot
    exact failsOnSign_of_plan hauth hplan ⟨msg, rfl⟩
  · cases hrequested : csr.requestedSans rt.crates with
    | ok requested =>
      obtain ⟨names, hnames, -⟩ := ParsedCsr.requestedSans_eq_ok.mp hrequested
      exact absurd ⟨names, hnames⟩ hunreadable
    | error e =>
      obtain ⟨e', hplan⟩ := signPlan_unreadable hrequested
      exact failsOnSign_of_plan hauth hplan trivial
  · obtain ⟨_, _, _, _, _, _, _, hauth', hplan, -⟩ := h
    cases hauth.symm.trans hauth'
    exact template_of_signPlan hplan

/-! ## A request for the name of its token -/

/-- The encoding of the names that it asks for, one of them of a kind that is dropped. -/
def requestedDer : Bytes := Testca.sanDer Testca.directoryName

def requestedNames : List GeneralName := [.dnsName "web", .other Testca.directoryName]

def requestingCsr : CertReq :=
  { Testca.csr with info := { Testca.csr.info with
      attributes := [⟨Oid.extensionReq, [⟨0x30, requestedDer⟩]⟩] } }

/-- A run of the small service with this request, for a token of the name `web` and one of `db`. -/
def requestingRuntime : Runtime :=
  let crates := Testca.readableCrates [Testca.signedLeaf true] [("csr", requestingCsr)]
    [([1], Testca.ottClaims "web" "t-1" 1000 1300), ([2], Testca.ottClaims "db" "t-2" 1000 1300)]
  Testca.still { crates with serverDer := { crates.serverDer with
    extensionReqFromDer := fun der =>
      if der = requestedDer then .ok [⟨Oid.subjectAltName, false, der⟩] else .error "malformed" } }

theorem readsBack_requesting : ReadsBack requestingRuntime.crates where
  utf8String := (Testca.readsBack_readable [] [] []).utf8String
  octetString := (Testca.readsBack_readable [] [] []).octetString
  ia5String := (Testca.readsBack_readable [] [] []).ia5String
  subjectAltName := (Testca.readsBack_readable [] [] []).subjectAltName

/-- The token for `web` gets a certificate of that name; the token for `db` is refused. -/
theorem sign_sanPolicy_web :
    (∃ csr validated w₁,
      ((templatedService true).signAuthenticate requestingRuntime
        (Testca.signRequest (Testca.token "o" 1 [9])) "ca").run
          (Testca.world Testca.sqlite (Testca.instant 1000)) = .ok (csr, validated) w₁ ∧
      csr.Requests requestingRuntime.crates requestedNames ∧
      ∃ plan issued, IssuesOnSign requestingRuntime (templatedService true)
          (Testca.signRequest (Testca.token "o" 1 [9])) "ca"
          (Testca.world Testca.sqlite (Testca.instant 1000)) plan issued ∧
        FollowsToken requestingRuntime.crates validated.claims csr plan.template requestedNames
          issued.certificate) ∧
    FailsOnSign requestingRuntime (templatedService true) (Testca.signRequest (Testca.token "o" 2 [9]))
      "ca" (Testca.world Testca.sqlite (Testca.instant 1000)) fun e => ∃ msg, e = .forbidden msg := by
  have hrequests (der : Bytes) :
      ParsedCsr.Requests requestingRuntime.crates ⟨requestingCsr, der⟩ requestedNames :=
    ⟨_, _, rfl, rfl, rfl⟩
  constructor
  · have hissues : ∃ plan issued, IssuesOnSign requestingRuntime (templatedService true)
        (Testca.signRequest (Testca.token "o" 1 [9])) "ca"
        (Testca.world Testca.sqlite (Testca.instant 1000)) plan issued :=
      ⟨_, _, _, _, _, _, _, _, _, rfl, rfl, rfl, rfl, rfl⟩
    obtain ⟨plan, issued, hissues⟩ := hissues
    refine ⟨_, _, _, rfl, hrequests _, plan, issued, hissues, ?_⟩
    obtain ⟨-, names, hnames, hfollows⟩ :=
      (sign_sanPolicy readsBack_requesting rfl rfl (List.forall_mem_nil _)).2.2 plan issued hissues
    cases (hrequests _).unique hnames
    exact hfollows
  · have hother : ∃ csr validated w₁, ((templatedService true).signAuthenticate requestingRuntime
        (Testca.signRequest (Testca.token "o" 2 [9])) "ca").run
          (Testca.world Testca.sqlite (Testca.instant 1000)) = .ok (csr, validated) w₁ ∧
        validated.authorized = true ∧ csr.Requests requestingRuntime.crates requestedNames ∧
        San.dns "web" ∉ allowedSans validated.claims :=
      ⟨_, _, _, rfl, rfl, hrequests _, by decide⟩
    obtain ⟨_, _, _, hauth, hauthorized, hasked, hnot⟩ := hother
    exact (sign_sanPolicy readsBack_requesting hauth hauthorized (List.forall_mem_nil _)).1 requestedNames
      (.dnsName "web") (.dns "web") hasked (by decide) rfl hnot

end Service

end Ayane
