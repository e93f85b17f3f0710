import Ayane.Crypto

/-!
# Building certificates

`ayane/src/x509.rs`: names, validity, serial numbers, the marker of certificates that
must not be renewed, and the PEM form.
-/

namespace Ayane.X509

/-- The non-renewable marker extension. -/
def nonRenewableOid : Oid := [1, 3, 6, 1, 4, 1, 47517, 9, 1, 509, 1]

/-- Wrap an encoded value into an extension. -/
def extension (crates : ServerCrates) (extnId : Oid) (der : Except String Bytes)
    (critical : Bool) : Result Extension := do
  let der ← mapErr derError der
  let extnValue ← mapErr derError (crates.serverDer.octetString der)
  .ok { extnId, critical, extnValue }

def nonRenewableExtension (crates : ServerCrates) : Result Extension :=
  extension crates nonRenewableOid (crates.serverDer.boolToDer false) false

/-- The marker is present and does not decode to `TRUE`. -/
def isMarkedNonRenewable (crates : ServerCrates) (cert : Certificate) : Bool :=
  match cert.tbsCertificate.extensions with
  | none => false
  | some extensions =>
    match extensions.find? fun e => e.extnId = nonRenewableOid with
    | none => false
    | some ext =>
      match crates.serverDer.boolFromDer ext.extnValue with
      | .ok renewable => !renewable
      | .error _ => true

/-- The top bit is cleared and the leading byte is not zero, so that the number is positive. -/
def serialBytes (entropy : Digest 19) : Bytes :=
  match entropy.val with
  | b :: bs => ((b &&& 0x7f) ||| 0x40) :: bs
  | [] => []

def randomSerialNumber (crates : ServerCrates) (entropy : Digest 19) : Result Bytes :=
  mapErr (fun e => .internal ("serial number: " ++ e))
    (crates.serverDer.serialNumber (serialBytes entropy))

/-- The first second of the year 2050. -/
def year2050 : ℕ := 2524608000

/-- `UTCTime` through 2049 and `GeneralizedTime` from 2050. -/
def toX509Time (crates : ServerCrates) (time : SystemTime) : Result Time := do
  let dt ← mapErr (fun e => .internal ("validity time: " ++ e))
    (crates.serverDer.dateTimeFromSystemTime time)
  .ok (if dt.unixSecs < year2050 then .utcTime dt else .generalTime dt)

def validity (crates : ServerCrates) (notBefore notAfter : SystemTime) : Result Validity := do
  let notBefore ← toX509Time crates notBefore
  let notAfter ← toX509Time crates notAfter
  .ok { notBefore, notAfter }

/-- A name with one common name, or the empty name. -/
def nameWithCommonName (crates : ServerCrates) (cn : String) : Result Name :=
  if cn = "" then .ok []
  else do
    let value ← mapErr (fun e => .badRequest ("invalid common name: " ++ e))
      (crates.serverDer.utf8String cn)
    .ok [[{ oid := Oid.commonName, value }]]

structure TbsParams where
  serialNumber : Bytes
  signatureAlgorithm : SignatureAlgorithm
  issuer : Name
  validity : Validity
  subject : Name
  subjectPublicKeyInfo : SubjectPublicKeyInfo
  extensions : List Extension

def buildTbs (params : TbsParams) : TbsCertificate where
  version := .v3
  serialNumber := params.serialNumber
  signature := params.signatureAlgorithm.algorithmIdentifier
  issuer := params.issuer
  validity := params.validity
  subject := params.subject
  subjectPublicKeyInfo := params.subjectPublicKeyInfo
  issuerUniqueId := none
  subjectUniqueId := none
  extensions := some params.extensions

/-- Encode, sign at the interaction `n`, and wrap. -/
def signTbs (crates : ServerCrates) (tbs : TbsCertificate) (key : KeyProvider) (n : ℕ) :
    Result Certificate := do
  let tbsDer ← mapErr derError (crates.der.tbsCertificateToDer tbs)
  let sig ← key.sign n tbsDer
  let signature ← mapErr (fun e => .internal ("signature bitstring: " ++ e))
    (crates.serverDer.bitString sig)
  .ok {
    tbsCertificate := tbs
    signatureAlgorithm := key.algorithm.algorithmIdentifier
    signature }

def certificatePem (crates : ServerCrates) (cert : Certificate) : Result String :=
  mapErr (fun e => .internal ("certificate PEM: " ++ e)) (crates.serverDer.certificateToPem cert)

/-- The first certificate of a PEM text. -/
def certificateFromPem (crates : ServerCrates) (pem : String) : Result Certificate := do
  let blocks ← mapErr (fun e => .badRequest ("invalid certificate PEM: " ++ e))
    (crates.pemParseMany (utf8 pem))
  let leaf ← okOr (.badRequest "no CERTIFICATE block in PEM")
    (blocks.find? fun b => b.tag = "CERTIFICATE")
  mapErr (fun e => .badRequest ("invalid certificate: " ++ e))
    (crates.der.certificateFromDer leaf.contents)

end Ayane.X509
