import Ayane.Time

/-!
# X.509 data

The structures of the `x509-cert`, `spki` and `der` crates that the program reads
and builds. A certificate is kept decoded; its encoding is an operation of the
`Crates` it is encoded with.
-/

namespace Ayane

abbrev Bytes := List UInt8

/-- A digest or another byte string of a fixed length, `[u8; n]`. -/
abbrev Digest (n : Nat) := { b : Bytes // b.length = n }

/-- The bytes of `str::as_bytes`. -/
def utf8 (s : String) : Bytes := s.toUTF8.data.toList

theorem utf8_append (s t : String) : utf8 (s ++ t) = utf8 s ++ utf8 t := by
  simp [utf8]

/-- An object identifier, by its arcs. -/
abbrev Oid := List Nat

namespace Oid

def commonName : Oid := [2, 5, 4, 3]
def subjectKeyIdentifier : Oid := [2, 5, 29, 14]
def keyUsage : Oid := [2, 5, 29, 15]
def subjectAltName : Oid := [2, 5, 29, 17]
def basicConstraints : Oid := [2, 5, 29, 19]
def authorityKeyIdentifier : Oid := [2, 5, 29, 35]
def extendedKeyUsage : Oid := [2, 5, 29, 37]
def extensionReq : Oid := [1, 2, 840, 113549, 1, 9, 14]

def ecdsaWithSha256 : Oid := [1, 2, 840, 10045, 4, 3, 2]
def ecdsaWithSha384 : Oid := [1, 2, 840, 10045, 4, 3, 3]
def sha256WithRsaEncryption : Oid := [1, 2, 840, 113549, 1, 1, 11]
def sha384WithRsaEncryption : Oid := [1, 2, 840, 113549, 1, 1, 12]
def sha512WithRsaEncryption : Oid := [1, 2, 840, 113549, 1, 1, 13]

def idEcPublicKey : Oid := [1, 2, 840, 10045, 2, 1]
def secp256r1 : Oid := [1, 2, 840, 10045, 3, 1, 7]
def secp384r1 : Oid := [1, 3, 132, 0, 34]
def rsaEncryption : Oid := [1, 2, 840, 113549, 1, 1, 1]

def idKpServerAuth : Oid := [1, 3, 6, 1, 5, 5, 7, 3, 1]
def idKpClientAuth : Oid := [1, 3, 6, 1, 5, 5, 7, 3, 2]
def idKpCodeSigning : Oid := [1, 3, 6, 1, 5, 5, 7, 3, 3]
def idKpEmailProtection : Oid := [1, 3, 6, 1, 5, 5, 7, 3, 4]
def idKpTimeStamping : Oid := [1, 3, 6, 1, 5, 5, 7, 3, 8]
def idKpOcspSigning : Oid := [1, 3, 6, 1, 5, 5, 7, 3, 9]

/-- The dotted-decimal form. -/
def toString (oid : Oid) : String := ".".intercalate (oid.map Nat.repr)

end Oid

/-- An ASN.1 value with its tag. -/
structure Any where
  tag : Nat
  value : Bytes
  deriving DecidableEq

structure BitString where
  unusedBits : Nat
  rawBytes : Bytes
  deriving DecidableEq

structure AlgorithmIdentifier where
  oid : Oid
  parameters : Option Any
  deriving DecidableEq

structure SubjectPublicKeyInfo where
  algorithm : AlgorithmIdentifier
  subjectPublicKey : BitString
  deriving DecidableEq

structure AttributeTypeAndValue where
  oid : Oid
  value : Any
  deriving DecidableEq

/-- A distinguished name: a sequence of sets of attributes. -/
abbrev Name := List (List AttributeTypeAndValue)

structure Extension where
  extnId : Oid
  critical : Bool
  extnValue : Bytes
  deriving DecidableEq

/-- A `der::DateTime`: a whole second from 1970 to the end of the year 9999. -/
structure DateTime where
  unixSecs : Nat
  inRange : unixSecs ≤ 253402300799
  deriving DecidableEq

def DateTime.toSystemTime (d : DateTime) : SystemTime :=
  ⟨fromSecs d.unixSecs, by
    have := d.inRange
    unfold fromSecs timeLimit
    omega⟩

theorem DateTime.unixSecs_toSystemTime (d : DateTime) : Ayane.unixSecs d.toSystemTime = d.unixSecs := by
  rw [unixSecs_eq]
  change (((fromSecs d.unixSecs : Nat) : Int) / 1000000000).toNat = _
  unfold fromSecs
  omega

/-- An X.509 `Time`. -/
inductive Time where
  | utcTime (t : DateTime)
  | generalTime (t : DateTime)
  deriving DecidableEq

def Time.dateTime : Time → DateTime
  | .utcTime t | .generalTime t => t

/-- Seconds of `to_unix_duration`, an unsigned 64-bit integer. -/
def Time.unixSecs (t : Time) : UInt64 := UInt64.ofNat t.dateTime.unixSecs

def Time.toSystemTime (t : Time) : SystemTime := t.dateTime.toSystemTime

structure Validity where
  notBefore : Time
  notAfter : Time
  deriving DecidableEq

inductive Version where
  | v1 | v2 | v3
  deriving DecidableEq

structure TbsCertificate where
  version : Version
  serialNumber : Bytes
  signature : AlgorithmIdentifier
  issuer : Name
  validity : Validity
  subject : Name
  subjectPublicKeyInfo : SubjectPublicKeyInfo
  issuerUniqueId : Option BitString
  subjectUniqueId : Option BitString
  extensions : Option (List Extension)
  deriving DecidableEq

structure Certificate where
  tbsCertificate : TbsCertificate
  signatureAlgorithm : AlgorithmIdentifier
  signature : BitString
  deriving DecidableEq

structure BasicConstraints where
  ca : Bool
  pathLenConstraint : Option UInt8
  deriving DecidableEq

/-- A name of a `SubjectAltName` extension. -/
inductive GeneralName where
  | dnsName (name : String)
  | rfc822Name (name : String)
  | uniformResourceIdentifier (uri : String)
  | ipAddress (octets : Bytes)
  /-- A kind the program does not model, by its encoding. -/
  | other (der : Bytes)
  deriving DecidableEq

/-! ## Certificate signing requests -/

structure Attribute where
  oid : Oid
  values : List Any
  deriving DecidableEq

structure CertReqInfo where
  subject : Name
  publicKey : SubjectPublicKeyInfo
  attributes : List Attribute
  deriving DecidableEq

structure CertReq where
  info : CertReqInfo
  algorithm : AlgorithmIdentifier
  signature : BitString
  deriving DecidableEq

end Ayane
