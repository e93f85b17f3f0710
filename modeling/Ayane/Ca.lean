import Ayane.Template

/-!
# The certificate authority

`ayane/src/ca.rs`: the issuing certificate and its key, and how an authorized request
becomes a signed certificate. Issuing takes the random bytes of the serial number and
the number of the interaction with the key provider.
-/

namespace Ayane

/-- Decimal digits, the least significant first: multiply by 256 and add the carry. -/
def pushByteDigits : List UInt8 → UInt16 → List UInt8 × UInt16
  | [], carry => ([], carry)
  | d :: ds, carry =>
    let v := d.toUInt16 * 256 + carry
    let (rest, carry) := pushByteDigits ds (v / 10)
    ((v % 10).toUInt8 :: rest, carry)

/-- The digits of what is carried out; a carry of sixteen bits has at most five. -/
def carryDigits : ℕ → UInt16 → List UInt8
  | 0, _ => []
  | fuel + 1, carry =>
    if carry > 0 then (carry % 10).toUInt8 :: carryDigits fuel (carry / 10) else []

def pushByte (digits : List UInt8) (byte : UInt8) : List UInt8 :=
  let (digits, carry) := pushByteDigits digits byte.toUInt16
  digits ++ carryDigits 5 carry

/-- A big-endian unsigned serial number as a decimal text. -/
def serialToDecimal (bytes : Bytes) : String :=
  String.ofList ((bytes.foldl pushByte [0]).reverse.map fun d => Char.ofNat ('0'.toNat + d.toNat))

structure IssueParams where
  /-- Empty for a SAN-only certificate. -/
  commonName : String
  sans : List San
  publicKey : SubjectPublicKeyInfo
  notBefore : SystemTime
  notAfter : SystemTime
  template : CertificateTemplate
  keyUsageOverride : Option (List KeyUsageName)
  extendedKeyUsageOverride : Option (List ExtKeyUsageName)
  additionalExtensions : List Extension
  renewable : Bool

structure ReissueParams where
  old : Certificate
  publicKey : SubjectPublicKeyInfo
  /-- Preserves the previous subject when absent. -/
  subjectCommonNameOverride : Option String
  sans : List San
  notBefore : SystemTime
  notAfter : SystemTime
  keyUsageOverride : Option (List KeyUsageName)
  extendedKeyUsageOverride : Option (List ExtKeyUsageName)
  additionalExtensions : List Extension
  renewable : Bool

structure IssuedCertificate where
  certificate : Certificate
  pem : String
  serialDecimal : String
  notAfterRfc3339 : String

structure CertificateAuthority where
  key : KeyProvider
  issuerName : Name
  caKeyId : Bytes
  caSpkiDer : Bytes
  chainPem : List String
  rootsPem : List String
  /-- SHA-256 of the encoding of the issuing certificate. -/
  signerLeafSha256 : Digest 32

/-- Make the marker match `renewable`, whatever was there. -/
def setNonRenewableMarker (crates : ServerCrates) (extensions : List Extension)
    (renewable : Bool) : Result (List Extension) := do
  let extensions := extensions.filter fun e => e.extnId ≠ X509.nonRenewableOid
  if renewable then .ok extensions
  else do
    let marker ← X509.nonRenewableExtension crates
    .ok (extensions ++ [marker])

/-- An override of the key usages on reissue: replaced, or dropped when the override is empty. -/
def overrideExtension {α : Type} (build : List α → Result (Option Extension)) (oid : Oid)
    (exts : List Extension) : Option (List α) → Result (List Extension)
  | none => .ok exts
  | some names => do
    match ← build names with
    | some ext => .ok (upsertExtension exts ext)
    | none => .ok (exts.filter fun e => e.extnId ≠ oid)

namespace CertificateAuthority

/-- Fails when the key is not the key of the issuing certificate. -/
def new (crates : ServerCrates) (key : KeyProvider) (issuerCertPem : String)
    (chainPem rootsPem : List String) : Result CertificateAuthority := do
  let caCert ← X509.certificateFromPem crates issuerCertPem
  let caSpki := caCert.tbsCertificate.subjectPublicKeyInfo
  let caSpkiDer ← mapErr derError (crates.der.spkiToDer caSpki)
  if key.publicKeyDer ≠ caSpkiDer then
    .error (.config "signing key public key does not match the issuing certificate")
  else do
    let der ← mapErr derError (crates.der.certificateToDer caCert)
    .ok {
      key
      issuerName := caCert.tbsCertificate.subject
      caKeyId := keyIdentifier crates.toCrates caSpki
      caSpkiDer
      chainPem
      rootsPem
      signerLeafSha256 := crates.sha256 der }

/-- Sign a message of the HTTP layer, in the form of message signatures. -/
def signHttpMessage (crates : ServerCrates) (ca : CertificateAuthority) (n : ℕ) (base : Bytes) :
    Result Bytes := do
  let der ← ca.key.sign n base
  ca.key.algorithm.rfc9421SignatureFromDer crates.toCrates der

/-- The common end of issuing and reissuing. -/
def build (crates : ServerCrates) (ca : CertificateAuthority) (n : ℕ) (entropy : Digest 19)
    (notBefore notAfter : SystemTime) (subject : Name) (publicKey : SubjectPublicKeyInfo)
    (extensions : List Extension) : Outcome IssuedCertificate := do
  let serialNumber ← (X509.randomSerialNumber crates entropy).orAbort
  let validity ← (X509.validity crates notBefore notAfter).orAbort
  let tbs := X509.buildTbs {
    serialNumber
    signatureAlgorithm := ca.key.algorithm
    issuer := ca.issuerName
    validity
    subject
    subjectPublicKeyInfo := publicKey
    extensions }
  let certificate ← (X509.signTbs crates tbs ca.key n).orAbort
  let pem ← (X509.certificatePem crates certificate).orAbort
  let notAfterRfc3339 ← crates.times.formatRfc3339 notAfter
  .ok { certificate, pem, serialDecimal := serialToDecimal serialNumber, notAfterRfc3339 }

def issueContents (crates : ServerCrates) (ca : CertificateAuthority) (params : IssueParams) :
    Result (Name × List Extension) := do
  let subjectIsEmpty := !params.template.setCommonName || params.commonName = ""
  let commonName := if params.template.setCommonName then params.commonName else ""
  let subject ← X509.nameWithCommonName crates commonName
  let extensions ← params.template.buildExtensions crates params.publicKey params.sans ca.caKeyId
    subjectIsEmpty {
      keyUsage := params.keyUsageOverride
      extendedKeyUsage := params.extendedKeyUsageOverride
      additionalExtensions := params.additionalExtensions }
  let extensions ← setNonRenewableMarker crates extensions params.renewable
  .ok (subject, extensions)

def issue (crates : ServerCrates) (ca : CertificateAuthority) (n : ℕ) (entropy : Digest 19)
    (params : IssueParams) : Outcome IssuedCertificate := do
  let (subject, extensions) ← (ca.issueContents crates params).orAbort
  ca.build crates n entropy params.notBefore params.notAfter subject params.publicKey extensions

/-- The subject and the extensions of the previous certificate, with the overrides on top. -/
def reissueContents (crates : ServerCrates) (ca : CertificateAuthority) (params : ReissueParams) :
    Result (Name × List Extension) := do
  let subject ← match params.subjectCommonNameOverride with
    | some cn => X509.nameWithCommonName crates cn
    | none => .ok params.old.tbsCertificate.subject
  let kept := (params.old.tbsCertificate.extensions.getD []).filter fun e =>
    e.extnId ∉ [Oid.subjectKeyIdentifier, Oid.authorityKeyIdentifier, Oid.subjectAltName]
  let san ← subjectAltNameExtension crates params.sans subject.isEmpty
  let extensions := upsertOptional kept san
  let extensions ← overrideExtension (keyUsageExtension crates) Oid.keyUsage extensions
    params.keyUsageOverride
  let extensions ← overrideExtension (extendedKeyUsageExtension crates) Oid.extendedKeyUsage
    extensions params.extendedKeyUsageOverride
  let extensions := params.additionalExtensions.foldl upsertExtension extensions
  let extensions ← setNonRenewableMarker crates extensions params.renewable
  let extensions ← finalizeKeyIdentifiers crates extensions params.publicKey ca.caKeyId
  .ok (subject, extensions)

def reissue (crates : ServerCrates) (ca : CertificateAuthority) (n : ℕ) (entropy : Digest 19)
    (params : ReissueParams) : Outcome IssuedCertificate := do
  let (subject, extensions) ← (ca.reissueContents crates params).orAbort
  ca.build crates n entropy params.notBefore params.notAfter subject params.publicKey extensions

/-- Whether `cert` was issued by this CA. -/
def verifyIssued (crates : ServerCrates) (ca : CertificateAuthority) (cert : Certificate) :
    Result Unit := do
  let tbs ← mapErr derError (crates.der.tbsCertificateToDer cert.tbsCertificate)
  mapErr (fun _ => .forbidden "certificate was not issued by this CA")
    (verifySignature crates.toCrates ca.caSpkiDer tbs cert.signature.rawBytes
      cert.signatureAlgorithm.oid)

end CertificateAuthority

end Ayane
