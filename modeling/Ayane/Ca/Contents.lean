import Ayane.Ca
import Ayane.Lib.Keyed

/-!
# The extensions of a certificate

The extensions that issuing and reissuing put into a certificate are a list keyed by
object identifier, edited in a fixed order: the template or the previous certificate, the
names, what hooks add, the marker and the key identifiers. What each edit leaves under an
identifier follows from the laws of keyed lists.
-/

namespace Ayane

open Effect Keyed

/-- The extensions of a list with the identifier `oid`. -/
abbrev extensionsUnder (exts : List Extension) (oid : Oid) : List Extension :=
  under Extension.extnId exts oid

/-- No two extensions have one identifier. -/
abbrev DistinctExtensions (exts : List Extension) : Prop := Distinct Extension.extnId exts

/-- The extensions of a certificate. -/
def Certificate.extensions (cert : Certificate) : List Extension :=
  cert.tbsCertificate.extensions.getD []

theorem upsertExtension_eq (exts : List Extension) (ext : Extension) :
    upsertExtension exts ext = upsert Extension.extnId exts ext := rfl

section

variable {exts : List Extension} {ext : Option Extension} {oid oid' : Oid}

theorem DistinctExtensions.upsertOptional (h : DistinctExtensions exts) :
    DistinctExtensions (upsertOptional exts ext) := by
  cases ext with
  | none => exact h
  | some ext => exact h.upsert

theorem under_upsertOptional (hoid : ∀ e ∈ ext, e.extnId = oid) :
    extensionsUnder (upsertOptional exts ext) oid' =
      if oid = oid' then ext.elim (extensionsUnder exts oid') ([·]) else extensionsUnder exts oid' := by
  cases ext with
  | none => simp [upsertOptional]
  | some ext => simp [upsertOptional, upsertExtension_eq, hoid ext rfl]

theorem under_upsertOptional_of_nil (hexts : extensionsUnder exts oid = [])
    (hoid : ∀ e ∈ ext, e.extnId = oid) :
    extensionsUnder (upsertOptional exts ext) oid = ext.toList := by
  rw [under_upsertOptional hoid, if_pos rfl]
  cases ext with
  | none => exact hexts
  | some ext => rfl

end

variable {crates : ServerCrates}

theorem X509.extension_eq_ok {extnId : Oid} {der : Except String Bytes} {critical : Bool}
    {ext : Extension} :
    X509.extension crates extnId der critical = .ok ext ↔ ∃ bytes value, der = .ok bytes ∧
      crates.serverDer.octetString bytes = .ok value ∧ ext = ⟨extnId, critical, value⟩ := by
  simp only [X509.extension, except_bind_eq_ok, mapErr_eq_ok, Except.ok.injEq]
  constructor
  · rintro ⟨bytes, hbytes, value, hvalue, rfl⟩
    exact ⟨bytes, value, hbytes, hvalue, rfl⟩
  · rintro ⟨bytes, value, hbytes, hvalue, rfl⟩
    exact ⟨bytes, hbytes, value, hvalue, rfl⟩

/-! ## Identifiers of what is built -/

/-- An optional extension has the identifier it is built for. -/
theorem extnId_of_optional {o : Option Extension} {oid : Oid} {critical : Bool} {c : Prop} [Decidable c]
    {der : Except String Bytes}
    (h : (if c then .ok none else do
      let ext ← X509.extension crates oid der critical
      .ok (some ext) : Result (Option Extension)) = .ok o) : ∀ e ∈ o, e.extnId = oid := by
  split at h
  · cases h
    simp
  · obtain ⟨ext, hext, h⟩ := except_bind_eq_ok.mp h
    cases h
    obtain ⟨_, _, -, -, rfl⟩ := X509.extension_eq_ok.mp hext
    simp

theorem extnId_of_keyUsage {names : List KeyUsageName} {o : Option Extension}
    (h : keyUsageExtension crates names = .ok o) : ∀ e ∈ o, e.extnId = Oid.keyUsage :=
  extnId_of_optional h

theorem extnId_of_extendedKeyUsage {names : List ExtKeyUsageName} {o : Option Extension}
    (h : extendedKeyUsageExtension crates names = .ok o) : ∀ e ∈ o, e.extnId = Oid.extendedKeyUsage :=
  extnId_of_optional h

theorem extnId_of_subjectAltName {sans : List San} {critical : Bool} {o : Option Extension}
    (h : subjectAltNameExtension crates sans critical = .ok o) :
    ∀ e ∈ o, e.extnId = Oid.subjectAltName := by
  unfold subjectAltNameExtension at h
  split at h
  · cases h
    simp
  · simp only [except_bind_eq_ok, Except.ok.injEq] at h
    obtain ⟨_, -, ext, hext, rfl⟩ := h
    obtain ⟨_, _, -, -, rfl⟩ := X509.extension_eq_ok.mp hext
    simp

/-! ## The key identifiers and the marker -/

/-- An extension whose value is the encoding of a key identifier. -/
def HoldsKeyId (crates : ServerCrates) (encode : Bytes → Except String Bytes) (keyId : Bytes)
    (ext : Extension) : Prop :=
  ∃ octets der, crates.serverDer.octetString keyId = .ok octets ∧ encode octets = .ok der ∧
    crates.serverDer.octetString der = .ok ext.extnValue

/-- The subject key identifier of a key. -/
structure IsSubjectKeyIdentifier (crates : ServerCrates) (spki : SubjectPublicKeyInfo)
    (ext : Extension) : Prop where
  extnId : ext.extnId = Oid.subjectKeyIdentifier
  keyId : HoldsKeyId crates crates.serverDer.subjectKeyIdentifierToDer
    (keyIdentifier crates.toCrates spki) ext

/-- The authority key identifier of a CA. -/
structure IsAuthorityKeyIdentifier (crates : ServerCrates) (caKeyId : Bytes) (ext : Extension) :
    Prop where
  extnId : ext.extnId = Oid.authorityKeyIdentifier
  keyId : HoldsKeyId crates crates.serverDer.authorityKeyIdentifierToDer caKeyId ext

theorem of_finalizeKeyIdentifiers {exts exts' : List Extension} {spki : SubjectPublicKeyInfo}
    {caKeyId : Bytes} (h : finalizeKeyIdentifiers crates exts spki caKeyId = .ok exts') :
    ∃ ski aki, IsSubjectKeyIdentifier crates spki ski ∧ IsAuthorityKeyIdentifier crates caKeyId aki ∧
      exts' = upsert Extension.extnId (upsert Extension.extnId exts ski) aki := by
  simp only [finalizeKeyIdentifiers, except_bind_eq_ok, mapErr_eq_ok, X509.extension_eq_ok,
    Except.ok.injEq] at h
  obtain ⟨ski, hski, _, ⟨_, _, hskiDer, hskiValue, rfl⟩, aki, haki, _, ⟨_, _, hakiDer, hakiValue, rfl⟩,
    rfl⟩ := h
  exact ⟨_, _, ⟨rfl, ski, _, hski, hskiDer, hskiValue⟩, ⟨rfl, aki, _, haki, hakiDer, hakiValue⟩, rfl⟩

/-- The markers of a certificate that is renewable or not. -/
def Marks (crates : ServerCrates) (renewable : Bool) (markers : List Extension) : Prop :=
  if renewable then markers = []
  else ∃ marker, X509.nonRenewableExtension crates = .ok marker ∧ markers = [marker]

theorem of_setNonRenewableMarker {exts exts' : List Extension} {renewable : Bool}
    (h : setNonRenewableMarker crates exts renewable = .ok exts') :
    ∃ markers, Marks crates renewable markers ∧
      exts' = remove Extension.extnId exts X509.nonRenewableOid ++ markers := by
  unfold setNonRenewableMarker at h
  cases renewable with
  | true =>
    cases h
    exact ⟨[], rfl, (List.append_nil _).symm⟩
  | false =>
    obtain ⟨marker, hmarker, h⟩ := except_bind_eq_ok.mp h
    cases h
    exact ⟨[marker], ⟨marker, hmarker, rfl⟩, rfl⟩

/-- A marker is the only extension with its identifier. -/
theorem Marks.extnId {renewable : Bool} {markers : List Extension} (h : Marks crates renewable markers) :
    markers.length ≤ 1 ∧ ∀ m ∈ markers, m.extnId = X509.nonRenewableOid := by
  unfold Marks at h
  split at h
  · subst h
    simp
  · obtain ⟨marker, hmarker, rfl⟩ := h
    obtain ⟨_, _, -, -, rfl⟩ := X509.extension_eq_ok.mp hmarker
    simp

theorem Marks.under {renewable : Bool} {markers : List Extension} (h : Marks crates renewable markers)
    (oid : Oid) :
    extensionsUnder markers oid = if oid = X509.nonRenewableOid then markers else [] := by
  unfold extensionsUnder Keyed.under
  split_ifs with hoid
  · exact List.filter_eq_self.mpr fun m hm => by simp [h.extnId.2 m hm, hoid]
  · exact List.filter_eq_nil_iff.mpr fun m hm => by simpa [h.extnId.2 m hm] using Ne.symm hoid

theorem DistinctExtensions.mark {exts markers : List Extension} {renewable : Bool}
    (hmarks : Marks crates renewable markers) (h : DistinctExtensions exts) :
    DistinctExtensions (remove Extension.extnId exts X509.nonRenewableOid ++ markers) := by
  obtain ⟨hlength, hids⟩ := hmarks.extnId
  match markers, hlength, hids with
  | [], _, _ =>
    rw [List.append_nil]
    exact h.remove
  | [marker], _, hids =>
    refine h.remove.append_singleton fun e he => ?_
    rw [hids marker (List.mem_singleton_self marker)]
    simpa using (List.mem_filter.mp he).2

/-! ## Issuing -/

variable {ca : CertificateAuthority}

/-- What goes into an issued certificate: a base of the template without names, the names, what
the hooks add, the key identifiers, and the marker last. -/
theorem of_issueContents {params : IssueParams} {subject : Name} {exts : List Extension}
    (h : ca.issueContents crates params = .ok (subject, exts)) :
    X509.nameWithCommonName crates
        (if params.template.setCommonName then params.commonName else "") = .ok subject ∧
      ∃ base san ski aki markers,
        DistinctExtensions base ∧ extensionsUnder base Oid.subjectAltName = [] ∧
        subjectAltNameExtension crates params.sans
          (!params.template.setCommonName || params.commonName = "") = .ok san ∧
        IsSubjectKeyIdentifier crates params.publicKey ski ∧
        IsAuthorityKeyIdentifier crates ca.caKeyId aki ∧ Marks crates params.renewable markers ∧
        exts = remove Extension.extnId
          (upsert Extension.extnId (upsert Extension.extnId
            (upsertAll Extension.extnId (upsertOptional base san) params.additionalExtensions) ski) aki)
          X509.nonRenewableOid ++ markers := by
  simp only [CertificateAuthority.issueContents, CertificateTemplate.buildExtensions,
    except_bind_eq_ok, Except.ok.injEq, Prod.mk.injEq] at h
  obtain ⟨_, hsubject, built, ⟨bc, hbc, ku, hku, eku, heku, san, hsan, hbuilt⟩, marked, hmarked, rfl, rfl⟩ := h
  obtain ⟨ski, aki, hski, haki, rfl⟩ := of_finalizeKeyIdentifiers hbuilt
  obtain ⟨markers, hmarkers, rfl⟩ := of_setNonRenewableMarker hmarked
  have hbase : DistinctExtensions (upsertExtension [] bc) := distinct_nil.upsert
  obtain ⟨_, _, -, -, rfl⟩ := X509.extension_eq_ok.mp hbc
  refine ⟨hsubject, _, san, ski, aki, markers, ?_, ?_, hsan, hski, haki, hmarkers, rfl⟩
  · exact DistinctExtensions.upsertOptional (DistinctExtensions.upsertOptional hbase)
  · rw [under_upsertOptional (extnId_of_extendedKeyUsage heku), if_neg (by decide),
      under_upsertOptional (extnId_of_keyUsage hku), if_neg (by decide), upsertExtension_eq,
      extensionsUnder, under_upsert]
    exact if_neg (show Oid.basicConstraints ≠ Oid.subjectAltName by decide)

/-! ## Reissuing -/

/-- The extensions of the previous certificate that are carried over as they are. -/
def keptExtensions (old : Certificate) : List Extension :=
  remove Extension.extnId (remove Extension.extnId (remove Extension.extnId old.extensions
    Oid.subjectKeyIdentifier) Oid.authorityKeyIdentifier) Oid.subjectAltName

theorem keptExtensions_eq (old : Certificate) :
    (old.tbsCertificate.extensions.getD []).filter (fun e =>
      e.extnId ∉ [Oid.subjectKeyIdentifier, Oid.authorityKeyIdentifier, Oid.subjectAltName]) =
    keptExtensions old := by
  unfold keptExtensions remove Certificate.extensions
  rw [List.filter_filter, List.filter_filter]
  refine List.filter_congr fun e _ => ?_
  simp only [List.mem_cons, List.not_mem_nil, or_false, not_or, ne_eq, Bool.decide_and]
  ac_rfl

theorem under_keptExtensions_of_mem {old : Certificate} {oid : Oid}
    (h : oid ∈ [Oid.subjectKeyIdentifier, Oid.authorityKeyIdentifier, Oid.subjectAltName]) :
    extensionsUnder (keptExtensions old) oid = [] := by
  unfold keptExtensions extensionsUnder
  rw [under_remove, under_remove, under_remove]
  grind

theorem under_keptExtensions_of_not_mem {old : Certificate} {oid : Oid}
    (h : oid ∉ [Oid.subjectKeyIdentifier, Oid.authorityKeyIdentifier, Oid.subjectAltName]) :
    extensionsUnder (keptExtensions old) oid = extensionsUnder old.extensions oid := by
  unfold keptExtensions extensionsUnder
  rw [under_remove, under_remove, under_remove]
  grind

/-- An override of the usages changes its own extension and keeps identifiers distinct. -/
theorem of_overrideExtension {α : Type} {build : List α → Result (Option Extension)} {oid : Oid}
    (hbuild : ∀ names o, build names = .ok o → ∀ e ∈ o, e.extnId = oid) {exts exts' : List Extension}
    {names : Option (List α)} (h : overrideExtension build oid exts names = .ok exts') :
    (DistinctExtensions exts → DistinctExtensions exts') ∧
      (∀ oid', oid' ≠ oid → extensionsUnder exts' oid' = extensionsUnder exts oid') ∧
      (names = none → exts' = exts) := by
  cases names with
  | none =>
    cases h
    exact ⟨id, fun _ _ => rfl, fun _ => rfl⟩
  | some names =>
    obtain ⟨o, ho, h⟩ := except_bind_eq_ok.mp h
    cases o with
    | some ext =>
      cases h
      refine ⟨Distinct.upsert, fun oid' hoid => ?_, fun hnone => by cases hnone⟩
      rw [upsertExtension_eq, extensionsUnder, under_upsert, hbuild names _ ho ext rfl,
        if_neg hoid.symm]
    | none =>
      cases h
      refine ⟨Distinct.remove, fun oid' hoid => ?_, fun hnone => by cases hnone⟩
      exact under_remove.trans (if_neg hoid.symm)

/-- The subject of a reissued certificate. -/
def reissueSubject (crates : ServerCrates) (params : ReissueParams) : Result Name :=
  match params.subjectCommonNameOverride with
  | some cn => X509.nameWithCommonName crates cn
  | none => .ok params.old.tbsCertificate.subject

theorem reissueContents_eq (params : ReissueParams) : ca.reissueContents crates params = (do
    let subject ← reissueSubject crates params
    let san ← subjectAltNameExtension crates params.sans subject.isEmpty
    let used ← overrideExtension (keyUsageExtension crates) Oid.keyUsage
      (upsertOptional (keptExtensions params.old) san) params.keyUsageOverride
    let overridden ← overrideExtension (extendedKeyUsageExtension crates) Oid.extendedKeyUsage used
      params.extendedKeyUsageOverride
    let marked ← setNonRenewableMarker crates
      (upsertAll Extension.extnId overridden params.additionalExtensions) params.renewable
    let exts ← finalizeKeyIdentifiers crates marked params.publicKey ca.caKeyId
    .ok (subject, exts)) := by
  rw [← keptExtensions_eq]
  unfold CertificateAuthority.reissueContents reissueSubject
  cases params.subjectCommonNameOverride <;> rfl

/-- What goes into a reissued certificate: what is kept of the previous one with the names, changed
under the usages that are overridden, then what the hooks add, the marker, and the key
identifiers last. -/
theorem of_reissueContents {params : ReissueParams} {subject : Name} {exts : List Extension}
    (h : ca.reissueContents crates params = .ok (subject, exts)) :
    reissueSubject crates params = .ok subject ∧
      ∃ san overridden ski aki markers,
        subjectAltNameExtension crates params.sans subject.isEmpty = .ok san ∧
        (DistinctExtensions params.old.extensions → DistinctExtensions overridden) ∧
        (∀ oid, oid ≠ Oid.keyUsage → oid ≠ Oid.extendedKeyUsage → extensionsUnder overridden oid =
          extensionsUnder (upsertOptional (keptExtensions params.old) san) oid) ∧
        (params.keyUsageOverride = none → params.extendedKeyUsageOverride = none →
          overridden = upsertOptional (keptExtensions params.old) san) ∧
        IsSubjectKeyIdentifier crates params.publicKey ski ∧
        IsAuthorityKeyIdentifier crates ca.caKeyId aki ∧ Marks crates params.renewable markers ∧
        exts = upsert Extension.extnId (upsert Extension.extnId
          (remove Extension.extnId
            (upsertAll Extension.extnId overridden params.additionalExtensions)
            X509.nonRenewableOid ++ markers) ski) aki := by
  simp only [reissueContents_eq, except_bind_eq_ok, Except.ok.injEq, Prod.mk.injEq] at h
  obtain ⟨_, hsubject, san, hsan, used, hused, overridden, hoverridden, marked, hmarked, built, hbuilt,
    rfl, rfl⟩ := h
  obtain ⟨markers, hmarkers, rfl⟩ := of_setNonRenewableMarker hmarked
  obtain ⟨ski, aki, hski, haki, rfl⟩ := of_finalizeKeyIdentifiers hbuilt
  obtain ⟨hdistinct₁, hunder₁, hnone₁⟩ :=
    of_overrideExtension (fun _ _ h => extnId_of_keyUsage h) hused
  obtain ⟨hdistinct₂, hunder₂, hnone₂⟩ :=
    of_overrideExtension (fun _ _ h => extnId_of_extendedKeyUsage h) hoverridden
  refine ⟨hsubject, san, overridden, ski, aki, markers, hsan, fun hold => ?_, fun oid hku heku => ?_,
    fun hku heku => ?_, hski, haki, hmarkers, rfl⟩
  · have hkept : DistinctExtensions (keptExtensions params.old) := hold.remove.remove.remove
    exact hdistinct₂ (hdistinct₁ hkept.upsertOptional)
  · rw [hunder₂ oid heku, hunder₁ oid hku]
  · rw [hnone₂ heku, hnone₁ hku]

/-- What the certificate is built from is in it. -/
theorem of_build {n : ℕ} {entropy : Digest 19} {notBefore notAfter : SystemTime} {subject : Name}
    {publicKey : SubjectPublicKeyInfo} {exts : List Extension} {issued : IssuedCertificate}
    (h : ca.build crates n entropy notBefore notAfter subject publicKey exts = .ok issued) :
    ∃ validity serialNumber,
      X509.validity crates notBefore notAfter = .ok validity ∧
      X509.randomSerialNumber crates entropy = .ok serialNumber ∧
      issued.certificate.tbsCertificate = X509.buildTbs {
        serialNumber
        signatureAlgorithm := ca.key.algorithm
        issuer := ca.issuerName
        validity
        subject
        subjectPublicKeyInfo := publicKey
        extensions := exts } ∧
      crates.serverDer.certificateToPem issued.certificate = .ok issued.pem ∧
      crates.times.formatRfc3339 notAfter = .ok issued.notAfterRfc3339 ∧
      issued.serialDecimal = serialToDecimal serialNumber := by
  simp only [CertificateAuthority.build, except_bind_eq_ok, Result.orAbort_eq_ok, Except.ok.injEq,
    X509.signTbs, X509.certificatePem, mapErr_eq_ok] at h
  obtain ⟨serialNumber, hserial, validity, hvalidity, _, ⟨_, -, _, -, _, -, rfl⟩, pem, hpem, text,
    htext, rfl⟩ := h
  exact ⟨validity, serialNumber, hvalidity, hserial, rfl, hpem, htext, rfl⟩

theorem of_issue {n : ℕ} {entropy : Digest 19} {params : IssueParams} {issued : IssuedCertificate}
    (h : ca.issue crates n entropy params = .ok issued) :
    ∃ subject exts, ca.issueContents crates params = .ok (subject, exts) ∧
      ca.build crates n entropy params.notBefore params.notAfter subject params.publicKey exts =
        .ok issued := by
  obtain ⟨⟨subject, exts⟩, hcontents, h⟩ := except_bind_eq_ok.mp h
  exact ⟨subject, exts, (Result.orAbort_eq_ok _ _).mp hcontents, h⟩

theorem of_reissue {n : ℕ} {entropy : Digest 19} {params : ReissueParams} {issued : IssuedCertificate}
    (h : ca.reissue crates n entropy params = .ok issued) :
    ∃ subject exts, ca.reissueContents crates params = .ok (subject, exts) ∧
      ca.build crates n entropy params.notBefore params.notAfter subject params.publicKey exts =
        .ok issued := by
  obtain ⟨⟨subject, exts⟩, hcontents, h⟩ := except_bind_eq_ok.mp h
  exact ⟨subject, exts, (Result.orAbort_eq_ok _ _).mp hcontents, h⟩

theorem extensions_of_build {n : ℕ} {entropy : Digest 19} {notBefore notAfter : SystemTime}
    {subject : Name} {publicKey : SubjectPublicKeyInfo} {exts : List Extension}
    {issued : IssuedCertificate}
    (h : ca.build crates n entropy notBefore notAfter subject publicKey exts = .ok issued) :
    issued.certificate.extensions = exts ∧
      issued.certificate.tbsCertificate.subjectPublicKeyInfo = publicKey := by
  obtain ⟨validity, serialNumber, -, -, htbs, -⟩ := of_build h
  rw [Certificate.extensions, htbs]
  exact ⟨rfl, rfl⟩

end Ayane
