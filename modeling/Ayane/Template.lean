import Ayane.San
import Ayane.X509

/-!
# Certificate templates

`ayane/src/template.rs`: the configured shape of an issued certificate, its extensions
and its validity policy.
-/

namespace Ayane

inductive KeyUsageName where
  | digitalSignature | contentCommitment | keyEncipherment | dataEncipherment | keyAgreement
  | keyCertSign | crlSign | encipherOnly | decipherOnly
  deriving DecidableEq

/-- The bit of a key usage. -/
def KeyUsageName.flag : KeyUsageName → ℕ
  | .digitalSignature => 0
  | .contentCommitment => 1
  | .keyEncipherment => 2
  | .dataEncipherment => 3
  | .keyAgreement => 4
  | .keyCertSign => 5
  | .crlSign => 6
  | .encipherOnly => 7
  | .decipherOnly => 8

inductive ExtKeyUsageName where
  | serverAuth | clientAuth | codeSigning | emailProtection | timeStamping | ocspSigning
  deriving DecidableEq

def ExtKeyUsageName.oid : ExtKeyUsageName → Oid
  | .serverAuth => Oid.idKpServerAuth
  | .clientAuth => Oid.idKpClientAuth
  | .codeSigning => Oid.idKpCodeSigning
  | .emailProtection => Oid.idKpEmailProtection
  | .timeStamping => Oid.idKpTimeStamping
  | .ocspSigning => Oid.idKpOcspSigning

structure CertificateTemplate where
  keyUsage : List KeyUsageName := [.digitalSignature]
  extendedKeyUsage : List ExtKeyUsageName := [.serverAuth]
  isCa : Bool := false
  pathLen : Option UInt8 := none
  /-- Set the subject common name from the token subject. -/
  setCommonName : Bool := true
  defaultValidity : Duration := fromSecs (24 * 3600)
  minValidity : Duration := fromSecs 60
  maxValidity : Duration := fromSecs (24 * 3600)
  /-- Taken off `notBefore` to tolerate clock skew. -/
  backdate : Duration := fromSecs 60

/-! ## Extensions -/

/-- Insert `ext` in place of any extension with the same identifier. -/
def upsertExtension (exts : List Extension) (ext : Extension) : List Extension :=
  (exts.filter fun e => e.extnId ≠ ext.extnId) ++ [ext]

def upsertOptional (exts : List Extension) : Option Extension → List Extension
  | some ext => upsertExtension exts ext
  | none => exts

def keyUsageExtension (crates : ServerCrates) (names : List KeyUsageName) :
    Result (Option Extension) :=
  if names.isEmpty then .ok none
  else do
    let ext ← X509.extension crates Oid.keyUsage
      (crates.serverDer.keyUsageToDer (names.map KeyUsageName.flag)) true
    .ok (some ext)

def extendedKeyUsageExtension (crates : ServerCrates) (names : List ExtKeyUsageName) :
    Result (Option Extension) :=
  if names.isEmpty then .ok none
  else do
    let ext ← X509.extension crates Oid.extendedKeyUsage
      (crates.serverDer.extendedKeyUsageToDer (names.map ExtKeyUsageName.oid)) false
    .ok (some ext)

/-- Critical when the subject is empty. -/
def subjectAltNameExtension (crates : ServerCrates) (sans : List San) (critical : Bool) :
    Result (Option Extension) :=
  if sans.isEmpty then .ok none
  else do
    let names ← sans.mapM (San.toGeneralName crates)
    let ext ← X509.extension crates Oid.subjectAltName (crates.serverDer.subjectAltNameToDer names)
      critical
    .ok (some ext)

/-- Compute the subject and authority key identifiers, in place of any that are there. -/
def finalizeKeyIdentifiers (crates : ServerCrates) (exts : List Extension)
    (subjectSpki : SubjectPublicKeyInfo) (caKeyId : Bytes) : Result (List Extension) := do
  let ski ← mapErr derError (crates.serverDer.octetString (keyIdentifier crates.toCrates subjectSpki))
  let ski ← X509.extension crates Oid.subjectKeyIdentifier
    (crates.serverDer.subjectKeyIdentifierToDer ski) false
  let exts := upsertExtension exts ski
  let aki ← mapErr derError (crates.serverDer.octetString caKeyId)
  let aki ← X509.extension crates Oid.authorityKeyIdentifier
    (crates.serverDer.authorityKeyIdentifierToDer aki) false
  .ok (upsertExtension exts aki)

/-- What hooks change of a template's extensions. -/
structure ExtensionOverrides where
  keyUsage : Option (List KeyUsageName) := none
  extendedKeyUsage : Option (List ExtKeyUsageName) := none
  additionalExtensions : List Extension := []

namespace CertificateTemplate

def buildExtensions (crates : ServerCrates) (template : CertificateTemplate)
    (subjectSpki : SubjectPublicKeyInfo) (sans : List San) (caKeyId : Bytes)
    (subjectIsEmpty : Bool) (overrides : ExtensionOverrides) : Result (List Extension) := do
  let bc : BasicConstraints := {
    ca := template.isCa
    pathLenConstraint := if template.isCa then template.pathLen else none }
  let bc ← X509.extension crates Oid.basicConstraints (crates.serverDer.basicConstraintsToDer bc) true
  let exts := upsertExtension [] bc
  let keyUsage ← keyUsageExtension crates (overrides.keyUsage.getD template.keyUsage)
  let exts := upsertOptional exts keyUsage
  let extendedKeyUsage ← extendedKeyUsageExtension crates
    (overrides.extendedKeyUsage.getD template.extendedKeyUsage)
  let exts := upsertOptional exts extendedKeyUsage
  let san ← subjectAltNameExtension crates sans subjectIsEmpty
  let exts := upsertOptional exts san
  let exts := overrides.additionalExtensions.foldl upsertExtension exts
  finalizeKeyIdentifiers crates exts subjectSpki caKeyId

/-! ## Validity -/

/-- The validity window, with the requested duration clamped to the template's range. -/
def computeValidity (template : CertificateTemplate) (now : SystemTime)
    (requestedNotBefore requestedNotAfter : Option SystemTime) :
    Outcome (SystemTime × SystemTime) := do
  let base := requestedNotBefore.getD now
  let notBefore := (base.checkedSub template.backdate).getD base
  let requested ← match requestedNotAfter with
    | some na =>
      match na.durationSince notBefore with
      | some d => .ok d
      | none => .error (.error (.badRequest "notAfter precedes notBefore"))
    | none => addDurations template.defaultValidity template.backdate
  let max ← addDurations template.maxValidity template.backdate
  if requested < template.minValidity then
    .error (.error (.badRequest ("requested validity " ++ (asSecs requested).repr ++
      "s is below the minimum " ++ (asSecs template.minValidity).repr ++ "s")))
  else
    match notBefore.checkedAdd (min requested max) with
    | some notAfter => .ok (notBefore, notAfter)
    | none => .error (.error (.internal "validity overflow"))

/-- The latest `notAfter` of a window that starts at `notBefore`, unless it overflows. -/
def maxNotAfter (template : CertificateTemplate) (notBefore : SystemTime) :
    Outcome (Option SystemTime) := do
  let span ← addDurations template.maxValidity template.backdate
  .ok (notBefore.checkedAdd span)

end CertificateTemplate

end Ayane
