import Ayane.Service
import Ayane.Testca
import Ayane.Testca.Claims

/-!
# Stand-ins for the crates of the server

The crates of the client's stand-ins, with the encodings, the web tokens and the times
that the server needs besides. A token is a word for its header, the hexadecimal form of
its payload and that of the key that signed it; what a payload says is looked up.
-/

namespace Ayane.Testca

/-! ## Tokens -/

/-- The headers of tokens are told apart by one letter: `o` for an issuance token, `d` for a
DPoP proof. -/
def decodeHeader (token : String) : Except String JwtHeader :=
  match Text.split '.' token with
  | ["o", _, _] => .ok { alg := .ES256, typ := some "JWT", kid := none }
  | ["d", _, _] => .ok { alg := .ES256, typ := some "dpop+jwt", kid := none }
  | _ => .error "InvalidToken"

/-- What the payload `b` says. -/
def document (documents : List (Bytes × Json)) (b : Bytes) : Except String Json :=
  match documents.find? fun d => d.1 = b with
  | some d => .ok d.2
  | none => .error "EOF while parsing a value"

def jwt (documents : List (Bytes × Json)) : Jwt where
  decodeHeader := decodeHeader
  verifySignature alg key token :=
    match Text.split '.' token with
    | [_, _, sig] => if alg = .ES256 ∧ sig = hex.encode key then .ok () else .error "InvalidSignature"
    | _ => .error "InvalidToken"
  payload token :=
    match Text.split '.' token with
    | [_, payload, _] => (hex.decode payload).bind (document documents)
    | _ => .error "InvalidToken"
  claims := claimsValidator
  decodingKeyFromJwk jwk :=
    match jwk.algorithm with
    | .ellipticCurve _ key | .rsa key | .octetKeyPair _ key | .octetKey key => .ok key
  decodingKeyFromEcSpki := .ok
  decodingKeyFromRsaSpki := .ok

/-- A token whose payload is known by one byte. -/
def token (header : String) (payload : UInt8) (key : Bytes) : String :=
  header ++ "." ++ hex.encode [payload] ++ "." ++ hex.encode key

/-! ## Encodings and times -/

def generalNameDer : GeneralName → Bytes
  | .dnsName name => 0x82 :: utf8 name
  | .rfc822Name name => 0x81 :: utf8 name
  | .uniformResourceIdentifier uri => 0x86 :: utf8 uri
  | .ipAddress octets => 0x87 :: octets
  | .other der => der

/-- The encodings of the server, with a table of the requests it can read. -/
def serverDer (csrs : List (String × CertReq)) : ServerDer where
  certReqFromPem pem :=
    match csrs.find? fun c => c.1 = pem with
    | some c => .ok c.2
    | none => .error "PEM error"
  certReqToDer req := .ok (nameDer req.info.subject ++ spkiDer req.info.publicKey)
  certReqInfoToDer info := .ok (nameDer info.subject ++ spkiDer info.publicKey)
  anyToDer a := .ok a.value
  extensionReqFromDer _ := .error "malformed"
  subjectAltNameFromDer b := if b = [0x30, 0] then .ok [] else .error "malformed"
  subjectAltNameToDer names := .ok (names.flatMap generalNameDer)
  basicConstraintsToDer bc := .ok (if bc.ca then [0x30, 3, 1, 1, 0xff] else [0x30, 0])
  keyUsageToDer bits := .ok (3 :: bits.map UInt8.ofNat)
  extendedKeyUsageToDer oids := .ok (oids.map fun oid => UInt8.ofNat oid.length)
  subjectKeyIdentifierToDer b := .ok (4 :: b)
  authorityKeyIdentifierToDer b := .ok (0x30 :: b)
  boolToDer b := .ok [1, 1, if b then 0xff else 0]
  boolFromDer b :=
    if b = [1, 1, 0xff] then .ok true else if b = [1, 1, 0] then .ok false else .error "malformed"
  octetString := .ok
  bitString b := .ok ⟨0, b⟩
  ia5String := .ok
  utf8String s := .ok ⟨12, utf8 s⟩
  utf8StringFromAny _ := .error "unexpected tag"
  printableStringFromAny _ := .error "unexpected tag"
  oidFromAny _ := .ok Oid.secp256r1
  oidFromStr _ := .error "malformed"
  serialNumber := .ok
  dateTimeFromSystemTime t :=
    if h : unixEpoch ≤ t ∧ unixSecs t ≤ 253402300799 then .ok ⟨unixSecs t, h.2⟩
    else .error "date out of range"
  certificateToPem c := .ok (pem (certificateDer c))

/-- Instants by their seconds. -/
def times : Times where
  formatRfc3339 t := .ok (Nat.repr (unixSecs t))
  parseRfc3339 _ := .error "timestamp not in format"
  dateTimeUtc := .ok

/-- The server's crates, with tables of the certificates, requests and payloads it can read. -/
def serverCrates (certs : List Certificate) (csrs : List (String × CertReq))
    (documents : List (Bytes × Json)) : ServerCrates where
  toCrates := crates certs
  serverDer := serverDer csrs
  jwt := jwt documents
  times := times
  jsonText := {
    valueFromSlice := document documents
    rootsToVec := fun certificates => .ok (certificates.flatMap utf8)
    cachedRootsSigToVec := fun _ => .error "not cached"
    cachedRootsSigFromSlice := fun _ => .error "not cached" }

/-- Crates that write only the certificates they can read. -/
def closedCrates (certs : List Certificate) (csrs : List (String × CertReq))
    (documents : List (Bytes × Json)) : ServerCrates :=
  { serverCrates certs csrs documents with
    serverDer := { serverDer csrs with
      certificateToPem := fun c =>
        if c ∈ certs then .ok (pem (certificateDer c)) else .error "unknown certificate" } }

/-! ## A small service -/

/-- A request for a certificate of the key `3`. -/
def csr : CertReq :=
  let info : CertReqInfo := { subject := name "web", publicKey := spki 3, attributes := [] }
  { info
    algorithm := ⟨Oid.ecdsaWithSha256, none⟩
    signature := ⟨0, sign [3] (nameDer info.subject ++ spkiDer info.publicKey)⟩ }

/-- The body of a request to sign it. -/
def signRequest (token : String) : SignRequest where
  csr := "csr"
  token
  notBefore := none
  notAfter := none

/-- A certificate of the key `3`, from second 1000 to second 9000, that proofs can be checked with. -/
def leaf : Certificate :=
  let cert := certificate "web" "intermediate" 3 2 false
  { cert with tbsCertificate := { cert.tbsCertificate with
      subjectPublicKeyInfo := ⟨⟨Oid.idEcPublicKey, some ⟨6, []⟩⟩, ⟨0, [3]⟩⟩ } }

/-- The fields of a proof for requests to `ca`. -/
def proofFields (jti : String) (iat : Int) : List (String × Json) :=
  [("htm", .str "POST"), ("htu", .str "ca"), ("iat", .int iat), ("jti", .str jti)]

def zeroEntropy : Digest 19 := ⟨List.replicate 19 0, by decide⟩

def otherEntropy : Digest 19 := ⟨List.replicate 19 1, by decide⟩

/-- A run in which no time passes. -/
def still (crates : ServerCrates) : Runtime where
  crates
  elapse _ := 0
  entropy _ := zeroEntropy

def instant (secs : Int64) : SystemTime := systemTimeFromEpoch secs

def sqlite : Storage := .sqlite {}

def world (storage : Storage) (now : SystemTime) : World where
  storage := storage
  clock := now
  interactions := 0
  consultations := []
  audit := []

/-- The intermediate of the small PKI, with its key. -/
def authority : CertificateAuthority where
  key := {
    algorithm := .ecdsaSha256
    publicKeyDer := [2]
    sign := fun _ msg => .ok (sign [2] msg) }
  issuerName := name "intermediate"
  caKeyId := [2]
  caSpkiDer := [2]
  chainPem := []
  rootsPem := [pem (certificateDer root)]
  signerLeafSha256 := digest 32 (certificateDer intermediate)

/-- A provisioner whose tokens are signed by the key `9`. -/
def provisioner (authorized : Bool) : Provisioner where
  name := "ci"
  template := none
  authorized
  verifier := .jwk "ci" [] { decodingKey := [9], algorithm := .ES256 }

/-- The leaf as it is reissued, with the serial number that is drawn and for a window. -/
def reissuedWith (entropy : Digest 19) (notBefore notAfter : DateTime) : Certificate :=
  let tbs : TbsCertificate := X509.buildTbs {
    serialNumber := X509.serialBytes entropy
    signatureAlgorithm := .ecdsaSha256
    issuer := name "intermediate"
    validity := ⟨.utcTime notBefore, .utcTime notAfter⟩
    subject := name "web"
    subjectPublicKeyInfo := leaf.tbsCertificate.subjectPublicKeyInfo
    extensions := [⟨Oid.basicConstraints, true, [0x30, 0]⟩,
      ⟨Oid.subjectKeyIdentifier, false, 4 :: (digest 20 [3]).val⟩,
      ⟨Oid.authorityKeyIdentifier, false, [0x30, 2]⟩] }
  { tbsCertificate := tbs
    signatureAlgorithm := ⟨Oid.ecdsaWithSha256, none⟩
    signature := ⟨0, sign [2] (tbsDer tbs)⟩ }

def reissuedLeaf (notBefore notAfter : DateTime) : Certificate := reissuedWith zeroEntropy notBefore notAfter

/-- A service with one provisioner and the default template. -/
def service (authorized : Bool) (hooks : List HookProvider) : Service where
  authorizer := { provisioners := [provisioner authorized] }
  ca := authority
  hooks
  templates := ∅
  defaultTemplateName := none
  rootsSignatureTtl := fromSecs 3600
  externalUrl := none

/-- The claims of a token of the provisioner. -/
def ottFields (sub jti : String) (iat exp : Int) : List (String × Json) :=
  [("iss", .str "ci"), ("aud", .str "ca"), ("sub", .str sub), ("iat", .int iat),
    ("nbf", .int iat), ("exp", .int exp), ("jti", .str jti)]

def ottClaims (sub jti : String) (iat exp : Int) : Json := .obj (ottFields sub jti iat exp)

end Ayane.Testca
