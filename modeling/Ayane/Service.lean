import Ayane.Authorizer
import Ayane.Ca
import Ayane.Csr
import Ayane.Dpop
import Ayane.Hook.Run
import Ayane.Protocol.Httpsig

/-!
# The service

`ayane/src/service.rs`: how an authenticated request becomes a certificate or a
revocation. Each request is split where the source waits: authenticate the caller, plan
what to issue (which consults the hooks), claim the credential and the scopes, and
commit. The request itself is these parts in order.
-/

namespace Ayane

open Ayane.Action Effect

/-- Slack added to the lifetime of anti-replay records. -/
def replayLeeway : Duration := fromSecs 60

/-- How old a DPoP proof may be; `Service::new` fixes it. -/
def dpopMaxAge : Duration := fromSecs 300

structure Service where
  authorizer : ProvisionerAuthorizer
  ca : CertificateAuthority
  hooks : List HookProvider
  templates : Table String CertificateTemplate
  defaultTemplateName : Option String
  rootsSignatureTtl : Duration
  externalUrl : Option String

/-! ## Bodies -/

structure SignRequest where
  csr : String
  token : String
  notBefore : Option String
  notAfter : Option String

structure RenewRequest where
  certificate : String

structure RekeyRequest where
  certificate : String
  csr : String

structure RevokeRequest where
  serialNumber : String
  reason : Option String
  reasonCode : Option Int32
  token : Option String
  certificate : Option String

structure CertificateResponse where
  certificate : String
  chain : List String
  serialNumber : String
  notAfter : String

structure RevokeResponse where
  status : String

/-! ## Helpers -/

def allowedSans (claims : OttClaims) : List San :=
  if claims.sans.isEmpty then [San.parse claims.sub] else claims.sans.map San.parse

def parseRfc3339 (crates : ServerCrates) : Option String → Result (Option SystemTime)
  | some s => do
    let t ← mapErr (fun e => .badRequest ("invalid timestamp " ++ Text.debug s ++ ": " ++ e))
      (crates.times.parseRfc3339 s)
    .ok (some t)
  | none => .ok none

/-- A serial number in decimal or `0x`-hexadecimal form, as decimal. -/
def normalizeSerial (crates : ServerCrates) (input : String) : Result String :=
  let trimmed := Text.trim input
  match (Text.stripPrefix "0x" trimmed).or (Text.stripPrefix "0X" trimmed) with
  | some hex => do
    -- odd-length hexadecimal is padded with a nibble on the left
    let padded := if (utf8 hex).length % 2 = 1 then "0" ++ hex else hex
    let bytes ← mapErr (fun e => .badRequest ("invalid hex serial: " ++ e)) (crates.hex.decode padded)
    .ok (serialToDecimal bytes)
  | none =>
    if trimmed = "" ∨ ¬trimmed.toList.all Char.isDigit then
      .error (.badRequest ("invalid serial number " ++ Text.debug input))
    else
      let stripped := String.ofList (trimmed.toList.dropWhile (· == '0'))
      .ok (if stripped = "" then "0" else stripped)

/-- The text of an attribute value, as UTF-8 or printable string. -/
def attributeText (crates : ServerCrates) (value : Any) : Option String :=
  match crates.serverDer.utf8StringFromAny value with
  | .ok s => some s
  | .error _ =>
    match crates.serverDer.printableStringFromAny value with
    | .ok s => some s
    | .error _ => none

/-- The first common name that can be read. -/
def subjectCommonName (crates : ServerCrates) (name : Name) : Option String :=
  (name.flatten.filter fun atv => atv.oid = Oid.commonName).findSome? fun atv =>
    attributeText crates atv.value

/-- The names of a certificate that are of a modelled kind. -/
def certSans (crates : ServerCrates) (cert : Certificate) : Result (List San) := do
  let exts := (cert.tbsCertificate.extensions.getD []).filter fun e => e.extnId = Oid.subjectAltName
  let names ← exts.mapM fun ext =>
    mapErr (fun e => .internal ("decode SAN from certificate: " ++ e))
      (crates.serverDer.subjectAltNameFromDer ext.extnValue)
  .ok (names.flatten.filterMap San.ofGeneralName)

def certValidityWindow (cert : Certificate) : SystemTime × SystemTime :=
  (cert.tbsCertificate.validity.notBefore.toSystemTime,
    cert.tbsCertificate.validity.notAfter.toSystemTime)

/-- An event stamped with the current time. -/
def eventNow (rt : Runtime) (eventType outcome : String) : Action AuditEvent := do
  let now ← systemTimeNow rt
  let timestamp ← ofOutcome (rt.crates.times.formatRfc3339 now)
  return { eventType, timestamp, outcome }

def denial (rt : Runtime) (eventType : String) (requestId : Option String) (error : Error) :
    Action AuditEvent := do
  let outcome := match error with
    | .internal _ | .config _ => "error"
    | _ => "denied"
  let event ← eventNow rt eventType outcome
  return { event with detail := some error.toString, requestId }

/-- Emit the event of a request that succeeded, or its denial. -/
def audited {α : Type} (rt : Runtime) (eventType : String) (requestId : Option String)
    (request : Action (α × AuditEvent)) : Action α := do
  let outcome ← attempt request
  match outcome with
  | .ok (response, event) =>
    emit event
    return response
  | .error e =>
    let event ← denial rt eventType requestId e
    emit event
    throw (.error e)

/-! ## Claims -/

/-- A conflict is surfaced to the caller as an error of authentication. -/
def surfaceConflict (conflictMsg : String) : Error → Error
  | .conflict _ => .unauthorized conflictMsg
  | e => e

/-- Claim a one-time key, with an expiry that outlives the validator's acceptance window. -/
def claimOnce (rt : Runtime) (key : String) (expiresAt : SystemTime) (conflictMsg : String) :
    Action Unit := do
  let now ← systemTimeNow rt
  let floor ← ofOutcome (now.plus replayLeeway)
  let outcome ← attempt (claimToken rt key (max expiresAt floor))
  ofResult (mapErr (surfaceConflict conflictMsg) outcome)

/-- The key of a credential's one-time id, by the kind of the credential. -/
def jtiKey (kind jti : String) : String := kind ++ "#" ++ jti

def claimJti (rt : Runtime) (kind jti : String) (expiresAt : SystemTime) : Action Unit :=
  claimOnce rt (jtiKey kind jti) expiresAt "token or proof has already been used"

def OnceClaim.key (scope : OnceClaim) : String := "scope#" ++ scope.nspace ++ "#" ++ scope.value

/-- Claim every scope in order; one without its own expiry is held until `defaultExpiry`. -/
def claimOnceScopes (rt : Runtime) (scopes : List OnceClaim) (defaultExpiry : SystemTime) :
    Action Unit :=
  scopes.forM fun scope =>
    claimOnce rt scope.key (scope.expiresAt.getD defaultExpiry)
      "an issuance has already been performed for this scope"

/-! ## The validity window after the hooks -/

/-- No later than the ceiling, where there is one. -/
def Customization.clampTo (c : Customization) (ceiling : Option SystemTime) : Customization :=
  match ceiling with
  | some ceiling => if ceiling < c.notAfter then { c with notAfter := ceiling } else c
  | none => c

def Customization.checkWindow (c : Customization) : Result Unit :=
  if c.notAfter ≤ c.notBefore then .error (.forbidden "certificate validity window collapsed")
  else .ok ()

namespace Service

def certificateResponse (service : Service) (issued : IssuedCertificate) : CertificateResponse where
  certificate := issued.pem
  chain := service.ca.chainPem
  serialNumber := issued.serialDecimal
  notAfter := issued.notAfterRfc3339

/-- The template a service falls back to is the default one. -/
def resolveTemplate (service : Service) (name : Option String) : Result CertificateTemplate :=
  match name.or service.defaultTemplateName with
  | some n => okOr (.config ("unknown template " ++ Text.debug n)) (service.templates.lookup n)
  | none => .ok {}

/-! ## Sign -/

/-- The request and its token, once both have been verified. -/
def signAuthenticate (rt : Runtime) (service : Service) (req : SignRequest) (requestUrl : String) :
    Action (ParsedCsr × ValidatedToken) := do
  let csr ← ofResult (ParsedCsr.fromPem rt.crates req.csr)
  ofResult (csr.verifySignature rt.crates)
  let validated ← service.authorizer.validate rt req.token requestUrl
  return (csr, validated)

/-- The optional binding of a token to a CSR. -/
def checkConfirmation (crates : ServerCrates) (claims : OttClaims) (csr : ParsedCsr) :
    Result Unit :=
  match claims.cnf.bind Confirmation.x5tS256 with
  | some want =>
    if want ≠ csr.fingerprintB64url crates then
      .error (.forbidden "token is bound to a different CSR")
    else .ok ()
  | none => .ok ()

/-- The names a token permits of those requested; a token of an unauthorized provisioner does
not constrain them. -/
def permittedSans (authorized : Bool) (claims : OttClaims) (requested : List San) :
    Result (List San) :=
  if authorized then
    let allowed := allowedSans claims
    let requested := if requested.isEmpty then allowed else requested
    match requested.find? fun san => san ∉ allowed with
    | some san => .error (.forbidden ("SAN " ++ san.toString ++ " is not permitted by the token"))
    | none => .ok requested
  else .ok requested

/-- The scope carried by a token, namespaced to its provisioner. -/
def tokenScope (validated : ValidatedToken) : Option OnceClaim :=
  validated.claims.once.map fun once =>
    { nspace := "prov:" ++ validated.provisioner
      value := once.scope
      expiresAt := once.exp.map systemTimeFromEpoch }

/-- A sign that has passed every check and is about to claim and commit. -/
structure SignPlan where
  csr : ParsedCsr
  validated : ValidatedToken
  template : CertificateTemplate
  now : SystemTime
  custom : Customization
  onceScopes : List OnceClaim

def signContext (validated : ValidatedToken) (csr : ParsedCsr) (sans : List San)
    (notBefore notAfter : SystemTime) : Context where
  operation := .sign
  authorized := validated.authorized
  provisioner := some validated.provisioner
  subject := validated.claims.sub
  sans := sans
  notBefore := notBefore
  notAfter := notAfter
  csrDer := some csr.der
  previousCertificateDer := none
  renewable := validated.claims.renew

def signPlan (rt : Runtime) (service : Service) (req : SignRequest) (csr : ParsedCsr)
    (validated : ValidatedToken) : Action SignPlan := do
  ofResult (checkConfirmation rt.crates validated.claims csr)
  let requested ← ofResult (csr.requestedSans rt.crates)
  let sans ← ofResult (permittedSans validated.authorized validated.claims requested)
  let template ← ofResult (service.resolveTemplate validated.template)
  let now ← systemTimeNow rt
  let requestedNotBefore ← ofResult (parseRfc3339 rt.crates req.notBefore)
  let requestedNotAfter ← ofResult (parseRfc3339 rt.crates req.notAfter)
  let (notBefore, notAfter) ←
    ofOutcome (template.computeValidity now requestedNotBefore requestedNotAfter)
  let custom ← Hook.run rt service.hooks (signContext validated csr sans notBefore notAfter)
  let ceiling ← ofOutcome (template.maxNotAfter custom.notBefore)
  let custom := custom.clampTo ceiling
  ofResult custom.checkWindow
  return {
    csr, validated, template, now, custom
    onceScopes := custom.onceClaims ++ (tokenScope validated).toList }

def signClaimJti (rt : Runtime) (validated : ValidatedToken) : Action Unit := do
  let expiresAt ← ofOutcome ((systemTimeFromEpoch validated.claims.exp).plus replayLeeway)
  claimJti rt "ott" validated.replayId expiresAt

def SignPlan.commonName (plan : SignPlan) : String :=
  plan.custom.subjectCommonName.getD plan.validated.claims.sub

/-- Issue the certificate, commit it to the inventory, and only then return it. -/
def signIssue (rt : Runtime) (service : Service) (plan : SignPlan) (requestId : Option String) :
    Action (CertificateResponse × AuditEvent) := do
  let sans := plan.custom.sans.map San.toString
  let issued ← withKey rt fun n entropy => service.ca.issue rt.crates n entropy {
    commonName := plan.commonName
    sans := plan.custom.sans
    publicKey := plan.csr.publicKey
    notBefore := plan.custom.notBefore
    notAfter := plan.custom.notAfter
    template := plan.template
    keyUsageOverride := plan.custom.keyUsage
    extendedKeyUsageOverride := plan.custom.extendedKeyUsage
    additionalExtensions := plan.custom.additionalExtensions
    renewable := plan.custom.renewable }
  let notBefore ← ofOutcome (rt.crates.times.formatRfc3339 plan.custom.notBefore)
  let issuedAt ← ofOutcome (rt.crates.times.formatRfc3339 plan.now)
  recordCertificate rt {
    serialNumber := issued.serialDecimal
    subject := plan.commonName
    sans
    notBefore
    notAfter := issued.notAfterRfc3339
    issuedAt
    provisioner := some plan.validated.provisioner
    operation := "sign"
    renewable := plan.custom.renewable
    pem := issued.pem }
  let event ← eventNow rt "certificate.issued" "success"
  return (service.certificateResponse issued, { event with
    provisioner := some plan.validated.provisioner
    subject := some plan.commonName
    serialNumber := some issued.serialDecimal
    sans
    requestId })

def trySign (rt : Runtime) (service : Service) (req : SignRequest) (requestUrl : String)
    (requestId : Option String) : Action (CertificateResponse × AuditEvent) := do
  let (csr, validated) ← service.signAuthenticate rt req requestUrl
  let plan ← service.signPlan rt req csr validated
  signClaimJti rt validated
  claimOnceScopes rt plan.onceScopes plan.custom.notAfter
  service.signIssue rt plan requestId

def sign (rt : Runtime) (service : Service) (req : SignRequest) (requestUrl : String)
    (requestId : Option String) : Action CertificateResponse :=
  audited rt "certificate.issued" requestId (service.trySign rt req requestUrl requestId)

/-! ## Renew and rekey -/

/-- A certificate that may be reissued, and the proof that was presented with it. -/
structure ReissueAuth where
  cert : Certificate
  proof : Dpop.VerifiedProof
  now : SystemTime

def reissueAuthenticate (rt : Runtime) (service : Service) (certificatePem : String)
    (dpop : Option String) (requestUrl : String) : Action ReissueAuth := do
  let dpop ← ofResult (okOr (.unauthorized "missing DPoP proof") dpop)
  let cert ← ofResult (X509.certificateFromPem rt.crates certificatePem)
  ofResult (service.ca.verifyIssued rt.crates cert)
  let revocation ← getRevocation rt (serialToDecimal cert.tbsCertificate.serialNumber)
  ofResult (ensure revocation.isNone (.forbidden "certificate is revoked"))
  ofResult (ensure (X509.isMarkedNonRenewable rt.crates cert = false)
    (.forbidden "certificate is not renewable"))
  let now ← systemTimeNow rt
  ofResult (ensure (now < (certValidityWindow cert).2)
    (.forbidden "certificate has expired and cannot be renewed"))
  let proof ← ofOutcome (Dpop.verify rt.crates dpop cert "POST" requestUrl dpopMaxAge now)
  return { cert, proof, now }

/-- A reissue that has passed every check and is about to claim and commit. -/
structure ReissuePlan where
  auth : ReissueAuth
  publicKey : SubjectPublicKeyInfo
  isRekey : Bool
  baselineSubject : String
  custom : Customization

/-- The key of the new certificate: that of the CSR on rekey, with the encoding of the CSR. -/
def reissueKey (crates : ServerCrates) (cert : Certificate) :
    Option String → Result (SubjectPublicKeyInfo × Option Bytes)
  | some csrPem => do
    let csr ← ParsedCsr.fromPem crates csrPem
    csr.verifySignature crates
    .ok (csr.publicKey, some csr.der)
  | none => .ok (cert.tbsCertificate.subjectPublicKeyInfo, none)

/-- The effective lifetime of a certificate. -/
def originalDuration (cert : Certificate) : Duration :=
  ((certValidityWindow cert).2.durationSince (certValidityWindow cert).1).getD 0

def reissueContext (isRekey : Bool) (subject : String) (sans : List San)
    (notBefore notAfter : SystemTime) (csrDer : Option Bytes) (certDer : Bytes) : Context where
  operation := if isRekey then .rekey else .renew
  -- the proof shows possession of the key, so reissuance is authorized
  authorized := true
  provisioner := none
  subject := subject
  sans := sans
  notBefore := notBefore
  notAfter := notAfter
  csrDer := csrDer
  previousCertificateDer := some certDer
  renewable := true

def reissuePlan (rt : Runtime) (service : Service) (auth : ReissueAuth)
    (newCsrPem : Option String) : Action ReissuePlan := do
  let (publicKey, csrDer) ← ofResult (reissueKey rt.crates auth.cert newCsrPem)
  let baselineSubject := (subjectCommonName rt.crates auth.cert.tbsCertificate.subject).getD ""
  let baselineSans ← ofResult (certSans rt.crates auth.cert)
  let notAfter ← ofResult (okOr (.internal "renewal validity overflow")
    (auth.now.checkedAdd (originalDuration auth.cert)))
  let certDer ← ofResult (mapErr derError (rt.crates.der.certificateToDer auth.cert))
  let custom ← Hook.run rt service.hooks
    (reissueContext newCsrPem.isSome baselineSubject baselineSans auth.now notAfter csrDer certDer)
  let custom := custom.clampTo (some notAfter)
  ofResult custom.checkWindow
  return { auth, publicKey, isRekey := newCsrPem.isSome, baselineSubject, custom }

/-- Until when the id of a proof is claimed. -/
def proofExpiry (proof : Dpop.VerifiedProof) : Outcome SystemTime := do
  let aged ← proof.issuedAt.plus dpopMaxAge
  aged.plus replayLeeway

def proofClaimJti (rt : Runtime) (proof : Dpop.VerifiedProof) : Action Unit := do
  let expiresAt ← ofOutcome (proofExpiry proof)
  claimJti rt "dpop" proof.jti expiresAt

def ReissuePlan.subject (plan : ReissuePlan) : String :=
  plan.custom.subjectCommonName.getD plan.baselineSubject

def reissueIssue (rt : Runtime) (service : Service) (plan : ReissuePlan) (eventType : String)
    (requestId : Option String) : Action (CertificateResponse × AuditEvent) := do
  let sans := plan.custom.sans.map San.toString
  let issued ← withKey rt fun n entropy => service.ca.reissue rt.crates n entropy {
    old := plan.auth.cert
    publicKey := plan.publicKey
    subjectCommonNameOverride := plan.custom.subjectCommonName
    sans := plan.custom.sans
    notBefore := plan.custom.notBefore
    notAfter := plan.custom.notAfter
    keyUsageOverride := plan.custom.keyUsage
    extendedKeyUsageOverride := plan.custom.extendedKeyUsage
    additionalExtensions := plan.custom.additionalExtensions
    renewable := plan.custom.renewable }
  let notBefore ← ofOutcome (rt.crates.times.formatRfc3339 plan.custom.notBefore)
  let issuedAt ← ofOutcome (rt.crates.times.formatRfc3339 plan.auth.now)
  recordCertificate rt {
    serialNumber := issued.serialDecimal
    subject := plan.subject
    sans
    notBefore
    notAfter := issued.notAfterRfc3339
    issuedAt
    provisioner := none
    operation := if plan.isRekey then "rekey" else "renew"
    renewable := plan.custom.renewable
    pem := issued.pem }
  let event ← eventNow rt eventType "success"
  return (service.certificateResponse issued, { event with
    subject := if plan.subject = "" then none else some plan.subject
    serialNumber := some issued.serialDecimal
    sans
    requestId })

def tryRenewOrRekey (rt : Runtime) (service : Service) (certificatePem : String)
    (newCsrPem : Option String) (dpop : Option String) (requestUrl : String)
    (requestId : Option String) : Action (CertificateResponse × AuditEvent) := do
  let eventType := if newCsrPem.isSome then "certificate.rekeyed" else "certificate.renewed"
  let auth ← service.reissueAuthenticate rt certificatePem dpop requestUrl
  let plan ← service.reissuePlan rt auth newCsrPem
  proofClaimJti rt auth.proof
  claimOnceScopes rt plan.custom.onceClaims plan.custom.notAfter
  service.reissueIssue rt plan eventType requestId

def renew (rt : Runtime) (service : Service) (req : RenewRequest) (dpop : Option String)
    (requestUrl : String) (requestId : Option String) : Action CertificateResponse :=
  audited rt "certificate.renewed" requestId
    (service.tryRenewOrRekey rt req.certificate none dpop requestUrl requestId)

def rekey (rt : Runtime) (service : Service) (req : RekeyRequest) (dpop : Option String)
    (requestUrl : String) (requestId : Option String) : Action CertificateResponse :=
  audited rt "certificate.rekeyed" requestId
    (service.tryRenewOrRekey rt req.certificate (some req.csr) dpop requestUrl requestId)

/-! ## Revoke -/

/-- How a revocation is authorized: by a token, or by a proof for the certificate itself. -/
inductive RevokeAuth where
  | token (validated : ValidatedToken)
  | proof (verified : Dpop.VerifiedProof)

def RevokeAuth.provisioner : RevokeAuth → Option String
  | .token validated => some validated.provisioner
  | .proof _ => none

/-- Authorize the revocation of `serial`; `now` is the instant the request was read at. -/
def revokeAuthenticate (rt : Runtime) (service : Service) (req : RevokeRequest)
    (dpop : Option String) (requestUrl serial : String) (now : SystemTime) : Action RevokeAuth :=
  match req.token, dpop, req.certificate with
  | some token, _, _ => do
    let validated ← service.authorizer.validate rt token requestUrl
    let tokenSerial ← ofResult (normalizeSerial rt.crates validated.claims.sub)
    ofResult (ensure (tokenSerial = serial)
      (.forbidden "token does not authorize this serial number"))
    return .token validated
  | none, some proof, some certPem => do
    let cert ← ofResult (X509.certificateFromPem rt.crates certPem)
    ofResult (service.ca.verifyIssued rt.crates cert)
    ofResult (ensure (serialToDecimal cert.tbsCertificate.serialNumber = serial)
      (.forbidden "DPoP certificate serial does not match the requested serial"))
    let verified ← ofOutcome (Dpop.verify rt.crates proof cert "POST" requestUrl dpopMaxAge now)
    return .proof verified
  | none, _, _ =>
    throw (.error (.unauthorized
      "revocation requires a token, or a DPoP proof with the certificate"))

/-- Claim the credential of a revocation. -/
def revokeClaimJti (rt : Runtime) : RevokeAuth → Action Unit
  | .token validated => signClaimJti rt validated
  | .proof verified => proofClaimJti rt verified

def revokeCommit (rt : Runtime) (req : RevokeRequest) (auth : RevokeAuth) (serial : String)
    (now : SystemTime) (requestId : Option String) : Action (RevokeResponse × AuditEvent) := do
  let revokedAt ← ofOutcome (rt.crates.times.formatRfc3339 now)
  revokeSerial rt {
    serialNumber := serial
    reasonCode := req.reasonCode.getD 0
    reason := req.reason
    revokedAt
    provisioner := auth.provisioner }
  let event ← eventNow rt "certificate.revoked" "success"
  return ({ status := "revoked" }, { event with
    provisioner := auth.provisioner
    serialNumber := some serial
    detail := req.reason
    requestId })

def tryRevoke (rt : Runtime) (service : Service) (req : RevokeRequest) (dpop : Option String)
    (requestUrl : String) (requestId : Option String) : Action (RevokeResponse × AuditEvent) := do
  let serial ← ofResult (normalizeSerial rt.crates req.serialNumber)
  let now ← systemTimeNow rt
  let auth ← service.revokeAuthenticate rt req dpop requestUrl serial now
  revokeClaimJti rt auth
  revokeCommit rt req auth serial now requestId

def revoke (rt : Runtime) (service : Service) (req : RevokeRequest) (dpop : Option String)
    (requestUrl : String) (requestId : Option String) : Action RevokeResponse :=
  audited rt "certificate.revoked" requestId
    (service.tryRevoke rt req dpop requestUrl requestId)

/-! ## Signed roots -/

/-- The body of `GET /v1/roots` and its signature headers. -/
structure SignedRoots where
  body : Bytes
  contentType : String
  contentDigest : String
  signatureInput : String
  signature : String
  signatureKey : String

def rootsCacheKey (crates : ServerCrates) (digest : Digest 48) : String :=
  "roots-sig:v1:" ++ crates.hex.encode digest

/-- `cache_get` at the type of the cached signature. -/
def cacheGet (rt : Runtime) (key : String) : Action (Option CachedRootsSig) := do
  match ← getCache rt key with
  | none => return none
  | some bytes =>
    let cached ← ofResult (mapErr
      (fun e => .internal ("deserialize cache " ++ Text.debug key ++ ": " ++ e))
      (rt.crates.jsonText.cachedRootsSigFromSlice bytes))
    return some cached

def cacheSet (rt : Runtime) (key : String) (value : CachedRootsSig) (expiresAt : SystemTime) :
    Action Unit := do
  let bytes ← ofResult (mapErr
    (fun e => .internal ("serialize cache " ++ Text.debug key ++ ": " ++ e))
    (rt.crates.jsonText.cachedRootsSigToVec value))
  setCache rt key bytes expiresAt

/-- How long before its expiry a cached signature is made again. -/
def refreshMargin (ttl : Duration) : Duration := min (ttl / 4) (fromSecs 300)

def signerChainUrl (service : Service) : String :=
  service.externalUrl.getD "" ++ Protocol.signerChainPath

/-- The `Signature-Key` of this instance. -/
def signatureKey (crates : ServerCrates) (service : Service) : String :=
  Protocol.signatureKeyX509 service.signerChainUrl
    (Protocol.x5tFromDigest crates.toCrates service.ca.signerLeafSha256)

/-- Sign the roots anew, created at the second of `now`. -/
def signRoots (rt : Runtime) (service : Service) (contentDigest : String) (now : SystemTime) :
    Action CachedRootsSig := do
  let created := UInt64.ofNat (unixSecs now)
  let params : Protocol.RootsSigParams := {
    created
    expires := created + UInt64.ofNat (asSecs service.rootsSignatureTtl)
    alg := service.ca.key.algorithm.rfc9421Alg }
  let signatureKey := service.signatureKey rt.crates
  let base := Protocol.rootsSignatureBase 200 Protocol.rootsContentType contentDigest signatureKey
    params
  let raw ← withKey rt fun n _ => (service.ca.signHttpMessage rt.crates n (utf8 base)).orAbort
  return {
    created
    expires := params.expires
    signatureKey
    signature := Protocol.signatureHeaderValue rt.crates.toCrates raw
    signatureInput := Protocol.signatureInputValue params }

def signedRoots (rt : Runtime) (service : Service) : Action SignedRoots := do
  let body ← ofResult (mapErr (fun e => .internal ("serialize roots: " ++ e))
    (rt.crates.jsonText.rootsToVec service.ca.rootsPem))
  let digest := rt.crates.sha384 body
  let contentDigest := Protocol.contentDigestHeader rt.crates.toCrates digest
  let cacheKey := rootsCacheKey rt.crates digest
  let now ← systemTimeNow rt
  let respond (sig : CachedRootsSig) : SignedRoots := {
    body
    contentType := Protocol.rootsContentType
    contentDigest
    signatureInput := sig.signatureInput
    signature := sig.signature
    signatureKey := sig.signatureKey }
  match ← cacheGet rt cacheKey with
  | some cached =>
    if unixSecs now + asSecs (refreshMargin service.rootsSignatureTtl) < cached.expires.toNat then
      return respond cached
    else
      let fresh ← service.signRoots rt contentDigest now
      let expiresAt ← ofOutcome (now.plus service.rootsSignatureTtl)
      cacheSet rt cacheKey fresh expiresAt
      return respond fresh
  | none =>
    let fresh ← service.signRoots rt contentDigest now
    let expiresAt ← ofOutcome (now.plus service.rootsSignatureTtl)
    cacheSet rt cacheKey fresh expiresAt
    return respond fresh

end Service

end Ayane
