import Ayane.Ca.Contents
import Ayane.Lib.Failure

/-!
# What the CA rejects

Building a certificate can fail in two ways. An encoding that fails is an error of the
server, but for a common name or an alternative name that cannot be encoded the request is
rejected.
-/

namespace Ayane

open Effect

/-- The request is at fault. -/
def Error.Rejects : Error → Prop
  | .badRequest _ | .unauthorized _ | .forbidden _ => True
  | .config _ | .notFound _ | .conflict _ | .internal _ => False

def Abort.Rejects : Abort → Prop
  | .error e => e.Rejects
  | .panic _ => False

@[simp] theorem Error.rejects_badRequest (m : String) : (Error.badRequest m).Rejects := trivial
@[simp] theorem Error.rejects_unauthorized (m : String) : (Error.unauthorized m).Rejects := trivial
@[simp] theorem Error.not_rejects_internal (m : String) : ¬(Error.internal m).Rejects := id
@[simp] theorem not_rejects_derError (e : String) : ¬(derError e).Rejects := id

/-- A result that rejects the request. -/
abbrev Rejected {α : Type} (x : Result α) : Prop := FailsWith Error.Rejects x

section

variable {α : Type}

@[simp] theorem rejected_mapErr {ε : Type} {f : ε → Error} {x : Except ε α} :
    Rejected (mapErr f x) ↔ ∃ e, x = .error e ∧ (f e).Rejects := by
  cases x <;> simp [mapErr]

@[simp] theorem rejects_orAbort {x : Result α} : FailsWith Abort.Rejects x.orAbort ↔ Rejected x := by
  cases x <;> simp [Result.orAbort, Abort.Rejects]

end

variable {crates : ServerCrates}

/-! ## Extensions -/

@[simp] theorem not_rejected_extension {extnId : Oid} {der : Except String Bytes} {critical : Bool} :
    ¬Rejected (X509.extension crates extnId der critical) := by
  simp [X509.extension, failsWith_bind]

theorem not_rejected_optional {oid : Oid} {critical : Bool} {c : Prop} [Decidable c]
    {der : Except String Bytes} :
    ¬Rejected (if c then .ok none else do
      let ext ← X509.extension crates oid der critical
      .ok (some ext) : Result (Option Extension)) := by
  split_ifs <;> simp [failsWith_bind]

@[simp] theorem not_rejected_keyUsage {names : List KeyUsageName} :
    ¬Rejected (keyUsageExtension crates names) := not_rejected_optional

@[simp] theorem not_rejected_extendedKeyUsage {names : List ExtKeyUsageName} :
    ¬Rejected (extendedKeyUsageExtension crates names) := not_rejected_optional

@[simp] theorem rejected_subjectAltName {sans : List San} {critical : Bool} :
    Rejected (subjectAltNameExtension crates sans critical) ↔
      Rejected (sans.mapM (San.toGeneralName crates)) := by
  unfold subjectAltNameExtension
  cases sans with
  | nil => simp [pure, Except.pure]
  | cons san sans =>
    rw [List.isEmpty_cons, if_neg Bool.false_ne_true]
    simp only [failsWith_bind, not_rejected_extension, failsWith_ok, and_false, exists_false, or_false]

@[simp] theorem not_rejected_finalizeKeyIdentifiers {exts : List Extension}
    {spki : SubjectPublicKeyInfo} {caKeyId : Bytes} :
    ¬Rejected (finalizeKeyIdentifiers crates exts spki caKeyId) := by
  simp [finalizeKeyIdentifiers, failsWith_bind]

@[simp] theorem not_rejected_setNonRenewableMarker {exts : List Extension} {renewable : Bool} :
    ¬Rejected (setNonRenewableMarker crates exts renewable) := by
  unfold setNonRenewableMarker X509.nonRenewableExtension
  cases renewable <;> simp [failsWith_bind]

theorem not_rejected_override {β : Type} {build : List β → Result (Option Extension)} {oid : Oid}
    (hbuild : ∀ names, ¬Rejected (build names)) {exts : List Extension} {names : Option (List β)} :
    ¬Rejected (overrideExtension build oid exts names) := by
  cases names with
  | none => simp [overrideExtension]
  | some names =>
    simp only [overrideExtension, failsWith_bind, hbuild, false_or, not_exists, not_and]
    intro o _
    cases o <;> simp

/-! ## Certificates -/

/-- A common name that cannot be encoded is rejected. -/
theorem rejected_nameWithCommonName {cn : String} :
    Rejected (X509.nameWithCommonName crates cn) ↔
      ¬∃ name, X509.nameWithCommonName crates cn = .ok name := by
  unfold X509.nameWithCommonName
  split_ifs
  · simp
  · cases crates.serverDer.utf8String cn <;> simp [mapErr, bind, Except.bind]

/-- The extensions that the template and its overrides ask for can be encoded. -/
structure IssueParams.PoliciesEncode (crates : ServerCrates) (params : IssueParams) : Prop where
  basicConstraints : ∃ ext, X509.extension crates Oid.basicConstraints
    (crates.serverDer.basicConstraintsToDer {
      ca := params.template.isCa
      pathLenConstraint := if params.template.isCa then params.template.pathLen else none }) true =
        .ok ext
  keyUsage : ∃ ext, keyUsageExtension crates
    (params.keyUsageOverride.getD params.template.keyUsage) = .ok ext
  extendedKeyUsage : ∃ ext, extendedKeyUsageExtension crates
    (params.extendedKeyUsageOverride.getD params.template.extendedKeyUsage) = .ok ext

/-- The common name can be encoded, and no alternative name is rejected when it comes to them. -/
structure IssueParams.NamesEncode (crates : ServerCrates) (params : IssueParams) : Prop where
  commonName : ∃ name, X509.nameWithCommonName crates
    (if params.template.setCommonName then params.commonName else "") = .ok name
  sans : params.PoliciesEncode crates → ¬Rejected (params.sans.mapM (San.toGeneralName crates))

structure ReissueParams.NamesEncode (crates : ServerCrates) (params : ReissueParams) : Prop where
  subject : ∃ subject, reissueSubject crates params = .ok subject
  sans : ¬Rejected (params.sans.mapM (San.toGeneralName crates))

section

variable {ca : CertificateAuthority}

theorem rejected_issueContents {params : IssueParams} :
    Rejected (ca.issueContents crates params) ↔ ¬params.NamesEncode crates := by
  unfold CertificateAuthority.issueContents CertificateTemplate.buildExtensions
  simp only [failsWith_bind, not_rejected_extension, not_rejected_keyUsage,
    not_rejected_extendedKeyUsage, rejected_subjectAltName, not_rejected_finalizeKeyIdentifiers,
    not_rejected_setNonRenewableMarker, rejected_nameWithCommonName, failsWith_ok, false_or, or_false,
    and_false, exists_false]
  constructor
  · rintro (hname | ⟨-, -, bc, hbc, ku, hku, eku, heku, hsans⟩) h
    · exact hname h.commonName
    · exact h.sans ⟨⟨bc, hbc⟩, ⟨ku, hku⟩, ⟨eku, heku⟩⟩ hsans
  · intro h
    by_cases hname : ∃ name, X509.nameWithCommonName crates
        (if params.template.setCommonName then params.commonName else "") = .ok name
    · right
      obtain ⟨name, hname⟩ := hname
      by_contra hnone
      refine h ⟨⟨name, hname⟩, ?_⟩
      rintro ⟨⟨bc, hbc⟩, ⟨ku, hku⟩, ⟨eku, heku⟩⟩ hsans
      exact hnone ⟨name, hname, bc, hbc, ku, hku, eku, heku, hsans⟩
    · exact .inl hname

theorem rejected_reissueSubject {params : ReissueParams} :
    Rejected (reissueSubject crates params) ↔
      ¬∃ subject, reissueSubject crates params = .ok subject := by
  unfold reissueSubject
  split
  · exact rejected_nameWithCommonName
  · simp

theorem rejected_reissueContents {params : ReissueParams} :
    Rejected (ca.reissueContents crates params) ↔ ¬params.NamesEncode crates := by
  have hku : ∀ exts names, ¬Rejected
      (overrideExtension (keyUsageExtension crates) Oid.keyUsage exts names) :=
    fun _ _ => not_rejected_override fun _ => not_rejected_keyUsage
  have heku : ∀ exts names, ¬Rejected
      (overrideExtension (extendedKeyUsageExtension crates) Oid.extendedKeyUsage exts names) :=
    fun _ _ => not_rejected_override fun _ => not_rejected_extendedKeyUsage
  simp only [reissueContents_eq, failsWith_bind, hku, heku, rejected_subjectAltName,
    not_rejected_finalizeKeyIdentifiers, not_rejected_setNonRenewableMarker, failsWith_ok, or_false,
    and_false, exists_false, rejected_reissueSubject]
  constructor
  · rintro (hsubject | ⟨-, -, hsans⟩) h
    · exact hsubject h.subject
    · exact h.sans hsans
  · intro h
    by_cases hsubject : ∃ subject, reissueSubject crates params = .ok subject
    · right
      obtain ⟨subject, hsubject⟩ := hsubject
      by_contra hnone
      exact h ⟨⟨subject, hsubject⟩, fun hsans => hnone ⟨subject, hsubject, hsans⟩⟩
    · exact .inl hsubject

/-- Times that cannot be formatted are no errors that are returned. -/
def PanicsOnly (crates : ServerCrates) : Prop :=
  ∀ t abort, crates.times.formatRfc3339 t = .error abort → ∃ message, abort = .panic message

theorem PanicsOnly.not_rejects (h : PanicsOnly crates) (t : SystemTime) :
    ¬FailsWith Abort.Rejects (crates.times.formatRfc3339 t) := by
  rintro ⟨abort, herror, hrejects⟩
  obtain ⟨message, rfl⟩ := h t abort herror
  exact hrejects

@[simp] theorem not_rejected_serialNumber {entropy : Digest 19} :
    ¬Rejected (X509.randomSerialNumber crates entropy) := by
  simp [X509.randomSerialNumber]

@[simp] theorem not_rejected_validity {notBefore notAfter : SystemTime} :
    ¬Rejected (X509.validity crates notBefore notAfter) := by
  have htime : ∀ t, ¬Rejected (X509.toX509Time crates t) := by
    intro t
    simp [X509.toX509Time, failsWith_bind]
  simp [X509.validity, failsWith_bind, htime]

@[simp] theorem not_rejected_certificatePem {cert : Certificate} :
    ¬Rejected (X509.certificatePem crates cert) := by
  simp [X509.certificatePem]

/-- Signing rejects nothing when the key does not fail. -/
theorem not_rejected_signTbs {key : KeyProvider} (hkey : ∀ n msg, ∃ sig, key.sign n msg = .ok sig)
    {tbs : TbsCertificate} {n : ℕ} : ¬Rejected (X509.signTbs crates tbs key n) := by
  have hsign : ∀ n msg, ¬Rejected (key.sign n msg) := by
    intro n msg
    obtain ⟨sig, hsig⟩ := hkey n msg
    exact not_failsWith_of_eq_ok hsig
  simp [X509.signTbs, failsWith_bind, hsign]

/-- Nothing is rejected once the contents are there, as long as the key signs. -/
theorem not_rejects_build (hkey : ∀ n msg, ∃ sig, ca.key.sign n msg = .ok sig)
    (htimes : PanicsOnly crates) {n : ℕ} {entropy : Digest 19} {notBefore notAfter : SystemTime}
    {subject : Name} {publicKey : SubjectPublicKeyInfo} {exts : List Extension} :
    ¬FailsWith Abort.Rejects
      (ca.build crates n entropy notBefore notAfter subject publicKey exts) := by
  simp only [CertificateAuthority.build, failsWith_bind, rejects_orAbort, not_rejected_serialNumber,
    not_rejected_validity, not_rejected_signTbs hkey, not_rejected_certificatePem,
    htimes.not_rejects, failsWith_ok, and_false, exists_false, or_false, not_false_eq_true]

theorem rejects_issue (hkey : ∀ n msg, ∃ sig, ca.key.sign n msg = .ok sig)
    (htimes : PanicsOnly crates) {n : ℕ} {entropy : Digest 19} {params : IssueParams} :
    FailsWith Abort.Rejects (ca.issue crates n entropy params) ↔ ¬params.NamesEncode crates := by
  unfold CertificateAuthority.issue
  simp only [failsWith_bind, rejects_orAbort, not_rejects_build hkey htimes, and_false, exists_false,
    or_false]
  exact rejected_issueContents

theorem rejects_reissue (hkey : ∀ n msg, ∃ sig, ca.key.sign n msg = .ok sig)
    (htimes : PanicsOnly crates) {n : ℕ} {entropy : Digest 19} {params : ReissueParams} :
    FailsWith Abort.Rejects (ca.reissue crates n entropy params) ↔ ¬params.NamesEncode crates := by
  unfold CertificateAuthority.reissue
  simp only [failsWith_bind, rejects_orAbort, not_rejects_build hkey htimes, and_false, exists_false,
    or_false]
  exact rejected_reissueContents

end

end Ayane
