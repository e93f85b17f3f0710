import Ayane.Service.Lifetime

/-!
# Reissuing without hooks

A certificate that is renewed or rekeyed without a hook is said to keep its subject, its
lifetime and every extension but the key identifiers. The names go through the form they
have in requests on the way, and so does the marker of certificates that must not be
renewed: names of other kinds, a criticality that does not follow from the subject, and a
marker that says the certificate is renewable are lost.
-/

namespace Ayane

open Ayane.Action Effect Keyed

/-- Without a hook that applies the properties are the baseline. -/
theorem Hook.eq_baseline_of_run {rt : Runtime} {hooks : List HookProvider} {ctx : Context}
    {custom : Customization} {w w' : World} (h : (Hook.run rt hooks ctx).run w = .ok custom w')
    (hnone : ∀ hook ∈ hooks, hook.appliesTo ctx.provisioner = false) :
    custom = .baseline ctx := by
  obtain ⟨responses, hanswers, hlayers⟩ := Hook.of_run h
  rw [Hook.answersFrom_of_none hnone] at hanswers
  obtain rfl := List.map_eq_nil_iff.mp hanswers.symm
  cases hlayers
  rfl

namespace Reissue

variable {rt : Runtime}

/-- No hook applies to requests that come without a provisioner, as those to renew and rekey do. -/
def HookFree (r : Reissue rt) : Prop := ∀ hook ∈ r.service.hooks, hook.appliesTo none = false

/-- What the returned certificate has in common with the presented one. -/
structure Preserves (r : Reissue rt) (presented returned : Certificate) : Prop where
  subject : returned.tbsCertificate.subject = presented.tbsCertificate.subject
  extensions : ∀ oid, oid ≠ Oid.subjectKeyIdentifier → oid ≠ Oid.authorityKeyIdentifier →
    extensionsUnder returned.extensions oid = extensionsUnder presented.extensions oid
  lifetime : returned.lifetime = presented.lifetime
  publicKey : r.request.newCsr = none → returned.tbsCertificate.subjectPublicKeyInfo =
    presented.tbsCertificate.subjectPublicKeyInfo

/-- The certificate has no marker, and its names survive being read and written. -/
structure Preservable (crates : ServerCrates) (cert : Certificate) : Prop where
  unmarked : extensionsUnder cert.extensions X509.nonRenewableOid = []
  names : SurvivesReading crates (extensionsUnder cert.extensions Oid.subjectAltName)
    cert.tbsCertificate.subject.isEmpty

/-- The extensions of a certificate that is reissued with nothing changed. -/
theorem under_of_reissueContents {crates : ServerCrates} {ca : CertificateAuthority}
    {params : ReissueParams} {subject : Name} {exts : List Extension}
    (h : ca.reissueContents crates params = .ok (subject, exts))
    (hku : params.keyUsageOverride = none) (heku : params.extendedKeyUsageOverride = none)
    (hadditional : params.additionalExtensions = []) (hrenewable : params.renewable = true) :
    ∃ san, subjectAltNameExtension crates params.sans subject.isEmpty = .ok san ∧
      ∀ oid, oid ≠ Oid.subjectKeyIdentifier → oid ≠ Oid.authorityKeyIdentifier →
        extensionsUnder exts oid =
          if oid = X509.nonRenewableOid then []
          else if oid = Oid.subjectAltName then san.toList
          else extensionsUnder params.old.extensions oid := by
  obtain ⟨-, san, overridden, ski, aki, markers, hsan, -, -, hsame, hski, haki, hmarks, rfl⟩ :=
    of_reissueContents h
  obtain rfl : markers = [] := by rwa [Marks, if_pos hrenewable] at hmarks
  refine ⟨san, hsan, fun oid hski' haki' => ?_⟩
  have hids : ∀ e ∈ san, e.extnId = Oid.subjectAltName := extnId_of_subjectAltName hsan
  rw [hsame hku heku, hadditional, extensionsUnder, under_upsert, if_neg (haki.extnId ▸ haki'.symm),
    under_upsert, if_neg (hski.extnId ▸ hski'.symm), List.append_nil, under_remove]
  rcases eq_or_ne X509.nonRenewableOid oid with rfl | hmarker
  · rw [if_pos rfl, if_pos rfl]
  rw [if_neg hmarker, if_neg hmarker.symm]
  rcases eq_or_ne Oid.subjectAltName oid with rfl | hname
  · rw [if_pos rfl]
    exact under_upsertOptional_of_nil (under_keptExtensions_of_mem (by decide)) hids
  · rw [if_neg hname.symm]
    refine (under_upsertOptional hids).trans ?_
    rw [if_neg hname]
    exact under_keptExtensions_of_not_mem (by simp [hski', haki', hname.symm])

/-- The window of a certificate that is reissued without hooks is that of the previous one, slid. -/
theorem lifetime_of_slid {cert : Certificate} {c : Customization} {now ceiling : SystemTime}
    (hceiling : now.checkedAdd (Service.originalDuration cert) = some ceiling)
    (hnotBefore : c.notBefore = now) (hnotAfter : c.notAfter = ceiling)
    (hwindow : c.checkWindow = .ok ()) : c.notAfter.secs - c.notBefore.secs = cert.lifetime := by
  have hnanos := SystemTime.checkedAdd_eq_some.mp hceiling
  have hordered : now.nanos < ceiling.nanos := by
    unfold Customization.checkWindow at hwindow
    split_ifs at hwindow with hcollapsed
    rw [hnotBefore, hnotAfter, SystemTime.le_def] at hcollapsed
    omega
  rw [originalDuration_eq] at hnanos
  rw [hnotBefore, hnotAfter]
  unfold SystemTime.secs
  omega

/-- What a request without hooks makes of the presented certificate. -/
theorem of_hookFree (r : Reissue rt) (hpem : PemRoundTrip rt.crates)
    (hdate : DateTimeTruncates rt.crates) (hfree : r.HookFree) :
    ∃ presented returned sans san, r.Presents presented ∧ r.Returns returned ∧
      returned.tbsCertificate.subject = presented.tbsCertificate.subject ∧
      returned.lifetime = presented.lifetime ∧
      (r.request.newCsr = none → returned.tbsCertificate.subjectPublicKeyInfo =
        presented.tbsCertificate.subjectPublicKeyInfo) ∧
      certSans rt.crates presented = .ok sans ∧
      subjectAltNameExtension rt.crates sans presented.tbsCertificate.subject.isEmpty = .ok san ∧
      ∀ oid, oid ≠ Oid.subjectKeyIdentifier → oid ≠ Oid.authorityKeyIdentifier →
        extensionsUnder returned.extensions oid =
          if oid = X509.nonRenewableOid then []
          else if oid = Oid.subjectAltName then san.toList
          else extensionsUnder presented.extensions oid := by
  obtain ⟨_, auth, w, plan, _, _, _, _, _, hauth, hplan, -, -, hissue, -⟩ :=
    ReissueRequest.of_run r.succeeds
  obtain ⟨_, sans, ceiling, _, custom, hkey, hsans, hceiling, -, hhooks, rfl, -, -, hcustom, hwindow⟩ :=
    Service.of_reissuePlan hplan
  obtain ⟨issued, _, _, hissued, -, -, -, hresponse⟩ := Service.of_reissueIssue hissue
  obtain ⟨hpresented, -⟩ := Service.of_reissueAuthenticate hauth
  obtain ⟨subject, exts, hcontents, hbuild⟩ := of_reissue hissued
  obtain ⟨validity, _, hvalidity, -, htbs, hpemText, -⟩ := of_build hbuild
  obtain ⟨hstart, hend⟩ := of_validity hdate hvalidity
  obtain ⟨hexts, hpublicKey⟩ := extensions_of_build hbuild
  rw [Hook.eq_baseline_of_run hhooks hfree, Customization.clampTo_eq] at hcustom
  have hslid : plan.custom.notAfter = ceiling := by
    rw [hcustom]
    exact min_self ceiling
  have hlifetime := lifetime_of_slid hceiling (hcustom ▸ rfl) hslid hwindow
  have hparams : plan.reissueParams.subjectCommonNameOverride = none ∧
      plan.reissueParams.keyUsageOverride = none ∧
      plan.reissueParams.extendedKeyUsageOverride = none ∧
      plan.reissueParams.additionalExtensions = [] ∧ plan.reissueParams.renewable = true ∧
      plan.reissueParams.sans = sans := by
    unfold Service.ReissuePlan.reissueParams
    rw [hcustom]
    exact ⟨rfl, rfl, rfl, rfl, rfl, rfl⟩
  obtain ⟨hoverride, hku, heku, hadditional, hrenewable, hbaseline⟩ := hparams
  have hsubject := (of_reissueContents hcontents).1
  rw [reissueSubject, hoverride] at hsubject
  cases hsubject
  obtain ⟨san, hsan, hunder⟩ := under_of_reissueContents hcontents hku heku hadditional hrenewable
  rw [hbaseline] at hsan
  have hreturned : r.response.certificate = issued.pem :=
    congrArg CertificateResponse.certificate hresponse
  refine ⟨plan.auth.cert, issued.certificate, sans, san, hpresented, ?_, ?_, ?_, fun hrenew => ?_,
    hsans, hsan, ?_⟩
  · rw [Returns, hreturned]
    exact hpem _ _ hpemText
  · rw [htbs]
    rfl
  · rw [← hlifetime, Certificate.lifetime, htbs]
    exact congrArg₂ (· - ·) hend hstart
  · rw [hrenew] at hkey
    rw [hpublicKey]
    exact (congrArg Prod.fst (Except.ok.inj hkey)).symm
  · rw [hexts]
    exact hunder

/-- A certificate that is renewed or rekeyed without hooks is preserved exactly when it has no
marker and its names survive being read and written. -/
theorem hookFree_preserves_iff (rt : Runtime) (hpem : PemRoundTrip rt.crates)
    (hdate : DateTimeTruncates rt.crates) (hread : ReadsBack rt.crates)
    (hwrites : WritesAsRead rt.crates) (r : Reissue rt) (hfree : r.HookFree)
    (presented returned : Certificate) (hpresents : r.Presents presented)
    (hreturns : r.Returns returned) :
    r.Preserves presented returned ↔ Preservable rt.crates presented := by
  obtain ⟨presented', returned', sans, san, hpresents', hreturns', hsubject, hlifetime, hpublicKey, hsans,
    hsan, hunder⟩ := r.of_hookFree hpem hdate hfree
  cases hpresents.symm.trans hpresents'
  cases hreturns.symm.trans hreturns'
  have hids : ∀ ext ∈ extensionsUnder presented.extensions Oid.subjectAltName,
      ext.extnId = Oid.subjectAltName := fun ext hext => (mem_under.mp hext).2
  have hnames := subjectAltName_eq_iff hread hwrites hids hsans hsan
  constructor
  · intro h
    have hmarker := h.extensions X509.nonRenewableOid (by decide) (by decide)
    have hname := h.extensions Oid.subjectAltName (by decide) (by decide)
    rw [hunder _ (by decide) (by decide)] at hmarker hname
    exact ⟨hmarker.symm, hnames.mp hname⟩
  · rintro ⟨hunmarked, hsurvives⟩
    refine ⟨hsubject, fun oid hski haki => ?_, hlifetime, hpublicKey⟩
    rw [hunder oid hski haki]
    split_ifs with hmarker hname
    · rw [hmarker, hunmarked]
    · rw [hname]
      exact hnames.mpr hsurvives
    · rfl

end Reissue

/-! ## A directory name that is lost -/

/-- What the renewal of the leaf returns. -/
def renewedLeaf : Certificate := Testca.renewedLeaf Testca.zeroEntropy

def namedResponse : CertificateResponse := Testca.renewedResponse Testca.zeroEntropy

def namedRuntime (rest : Bytes) : Runtime :=
  Testca.still (Testca.readableCrates [Testca.namedLeaf rest, renewedLeaf] []
    [([1], .obj (Testca.proofFields "p-1" 1500))])

def namedRequest (rest : Bytes) : ReissueRequest :=
  .renew ⟨Testca.pem (Testca.certificateDer (Testca.namedLeaf rest))⟩

def namedRun (rest : Bytes) : EStateM.Result Abort World CertificateResponse :=
  ((namedRequest rest).run (namedRuntime rest) (Testca.service true [])
    (some (Testca.token "d" 1 [3])) "ca" none).run (Testca.world Testca.sqlite (Testca.instant 1500))

/-- The leaf is renewed without hooks. -/
def namedRenewal (rest : Bytes) (h : namedRun rest = .ok namedResponse (final (namedRun rest))) :
    Reissue (namedRuntime rest) where
  service := Testca.service true []
  request := namedRequest rest
  dpop := some (Testca.token "d" 1 [3])
  requestUrl := "ca"
  requestId := none
  before := Testca.world Testca.sqlite (Testca.instant 1500)
  response := namedResponse
  after := final (namedRun rest)
  succeeds := h

theorem names_lost : (namedRenewal Testca.directoryName rfl).HookFree ∧
    (namedRenewal Testca.directoryName rfl).Presents (Testca.namedLeaf Testca.directoryName) ∧
    (namedRenewal Testca.directoryName rfl).Returns renewedLeaf ∧
    ¬(namedRenewal Testca.directoryName rfl).Preserves (Testca.namedLeaf Testca.directoryName)
      renewedLeaf := by
  refine ⟨fun _ hhook => absurd hhook List.not_mem_nil, rfl, rfl, fun h => ?_⟩
  exact absurd (h.extensions Oid.subjectAltName (by decide) (by decide)) (by decide)

theorem hookFree_preserves_iff_web :
    (namedRenewal [] rfl).Preserves (Testca.namedLeaf []) renewedLeaf ↔
      Reissue.Preservable (namedRuntime []).crates (Testca.namedLeaf []) := by
  have hpem : PemRoundTrip (namedRuntime []).crates := by
    refine Testca.pemRoundTrip_readable ?_
    simp only [List.forall_mem_cons]
    exact ⟨rfl, rfl, List.forall_mem_nil _⟩
  exact Reissue.hookFree_preserves_iff (namedRuntime []) hpem (dateTimeTruncates_closed [] [] [])
    (Testca.readsBack_readable _ _ _) (Testca.writesAsRead_readable _ _ _) (namedRenewal [] rfl)
    (fun _ hhook => absurd hhook List.not_mem_nil) (Testca.namedLeaf []) renewedLeaf rfl rfl

end Ayane
