import Ayane.Service.Issuance
import Ayane.Service.ReissueRequest
import Ayane.Service.TokenRequest
import Ayane.World.Thread

/-!
# Requests in steps

The requests of the service as threads. A part of a request that uses the storage at most
once is one step, since everything else that it uses is the request's own; so the parts
are those of the service, except that every key is claimed in a step of its own, and that
the cached signature of the roots is read in one step and stored in another.
-/

namespace Ayane

open Ayane.Action Effect Interleave Thread

/-- `audited`, of a thread. -/
def auditedThread {α : Type} (rt : Runtime) (eventType : String) (requestId : Option String)
    (request : Thread (α × AuditEvent)) : Thread α := do
  let outcome ← Thread.attempt request
  match outcome with
  | .ok (response, event) =>
    atomic (emit event)
    return response
  | .error e =>
    let event ← atomic (denial rt eventType requestId e)
    atomic (emit event)
    atomic (throw (.error e))

theorem alone_auditedThread {α : Type} (rt : Runtime) (eventType : String)
    (requestId : Option String) (request : Thread (α × AuditEvent)) :
    alone (auditedThread rt eventType requestId request) =
      audited rt eventType requestId (alone request) := by
  simp only [auditedThread, audited, alone_bind, alone_attempt]
  congr 1
  funext outcome
  rcases outcome with e | ⟨response, event⟩
  · simp only [alone_bind, alone_atomic]
  · simp only [alone_bind, alone_atomic, alone_pure]

/-- `claim_once_scopes`, one scope in a step. -/
def claimOnceScopesThread (rt : Runtime) (scopes : List OnceClaim) (defaultExpiry : SystemTime) :
    Thread Unit :=
  scopes.forM fun scope => atomic
    (claimOnce rt scope.key (scope.expiresAt.getD defaultExpiry)
      "an issuance has already been performed for this scope")

theorem alone_claimOnceScopesThread (rt : Runtime) (scopes : List OnceClaim)
    (defaultExpiry : SystemTime) : alone (claimOnceScopesThread rt scopes defaultExpiry) =
      claimOnceScopes rt scopes defaultExpiry := by
  simp only [claimOnceScopesThread, claimOnceScopes, alone_forM, alone_atomic]

namespace Service

variable (rt : Runtime) (service : Service)

/-! ## Sign -/

/-- A request to sign, up to its claims. -/
def planSign (req : SignRequest) (requestUrl : String) : Thread (ValidatedToken × SignPlan) := do
  let (csr, validated) ← atomic (service.signAuthenticate rt req requestUrl)
  let plan ← atomic (service.signPlan rt req csr validated)
  return (validated, plan)

def claimSign (validated : ValidatedToken) (plan : SignPlan) : Thread Unit := do
  atomic (signClaimJti rt validated)
  claimOnceScopesThread rt plan.onceScopes plan.custom.notAfter

def signThread (req : SignRequest) (requestUrl : String) (requestId : Option String) :
    Thread CertificateResponse :=
  auditedThread rt "certificate.issued" requestId do
    let (validated, plan) ← service.planSign rt req requestUrl
    claimSign rt validated plan
    atomic (service.signIssue rt plan requestId)

theorem alone_signThread (req : SignRequest) (requestUrl : String) (requestId : Option String) :
    alone (service.signThread rt req requestUrl requestId) =
      service.sign rt req requestUrl requestId := by
  simp only [signThread, planSign, claimSign, alone_auditedThread, alone_bind, alone_atomic,
    alone_pure, alone_claimOnceScopesThread, bind_assoc, pure_bind, sign, trySign]

/-! ## Renew and rekey -/

/-- A request to renew or rekey, up to its claims. -/
def planReissue (certificatePem : String) (newCsrPem dpop : Option String) (requestUrl : String) :
    Thread (ReissueAuth × ReissuePlan) := do
  let auth ← atomic (service.reissueAuthenticate rt certificatePem dpop requestUrl)
  let plan ← atomic (service.reissuePlan rt auth newCsrPem)
  return (auth, plan)

def claimReissue (auth : ReissueAuth) (plan : ReissuePlan) : Thread Unit := do
  atomic (proofClaimJti rt auth.proof)
  claimOnceScopesThread rt plan.custom.onceClaims plan.custom.notAfter

/-- The type of the event that a request to renew or rekey is reported with. -/
def reissueEventType (newCsrPem : Option String) : String :=
  if newCsrPem.isSome then "certificate.rekeyed" else "certificate.renewed"

def reissueThread (certificatePem : String) (newCsrPem dpop : Option String) (requestUrl : String)
    (requestId : Option String) : Thread CertificateResponse :=
  auditedThread rt (reissueEventType newCsrPem) requestId do
    let (auth, plan) ← service.planReissue rt certificatePem newCsrPem dpop requestUrl
    claimReissue rt auth plan
    atomic (service.reissueIssue rt plan (reissueEventType newCsrPem) requestId)

theorem alone_reissueThread (request : ReissueRequest) (dpop : Option String) (requestUrl : String)
    (requestId : Option String) :
    alone (service.reissueThread rt request.certificate request.newCsr dpop requestUrl requestId) =
      request.run rt service dpop requestUrl requestId := by
  have hparts : ∀ newCsrPem, alone (service.reissueThread rt request.certificate newCsrPem dpop
      requestUrl requestId) = audited rt (reissueEventType newCsrPem) requestId
        (service.tryRenewOrRekey rt request.certificate newCsrPem dpop requestUrl requestId) := by
    intro newCsrPem
    simp only [reissueThread, planReissue, claimReissue, alone_auditedThread, alone_bind,
      alone_atomic, alone_pure, alone_claimOnceScopesThread, bind_assoc, pure_bind, tryRenewOrRekey]
    rfl
  rw [hparts]
  cases request <;> rfl

/-! ## Revoke -/

/-- A request to revoke, up to its claim: the serial number, when it was read, and how it is
authorized. -/
def planRevoke (req : RevokeRequest) (dpop : Option String) (requestUrl : String) :
    Thread (String × SystemTime × RevokeAuth) := do
  let serial ← atomic (ofResult (normalizeSerial rt.crates req.serialNumber))
  let now ← atomic (systemTimeNow rt)
  let auth ← atomic (service.revokeAuthenticate rt req dpop requestUrl serial now)
  return (serial, now, auth)

def revokeThread (req : RevokeRequest) (dpop : Option String) (requestUrl : String)
    (requestId : Option String) : Thread RevokeResponse :=
  auditedThread rt "certificate.revoked" requestId do
    let (serial, now, auth) ← service.planRevoke rt req dpop requestUrl
    atomic (revokeClaimJti rt auth)
    atomic (revokeCommit rt req auth serial now requestId)

theorem alone_revokeThread (req : RevokeRequest) (dpop : Option String) (requestUrl : String)
    (requestId : Option String) : alone (service.revokeThread rt req dpop requestUrl requestId) =
      service.revoke rt req dpop requestUrl requestId := by
  simp only [revokeThread, planRevoke, alone_auditedThread, alone_bind, alone_atomic, alone_pure,
    bind_assoc, pure_bind, revoke, tryRevoke]

/-! ## Signed roots -/

def signedRootsThread : Thread SignedRoots := do
  let body ← atomic (ofResult (mapErr (fun e => .internal ("serialize roots: " ++ e))
    (rt.crates.jsonText.rootsToVec service.ca.rootsPem)))
  let digest := rt.crates.sha384 body
  let contentDigest := Protocol.contentDigestHeader rt.crates.toCrates digest
  let cacheKey := rootsCacheKey rt.crates digest
  let now ← atomic (systemTimeNow rt)
  let respond (sig : CachedRootsSig) : SignedRoots := {
    body
    contentType := Protocol.rootsContentType
    contentDigest
    signatureInput := sig.signatureInput
    signature := sig.signature
    signatureKey := sig.signatureKey }
  match ← atomic (cacheGet rt cacheKey) with
  | some cached =>
    if unixSecs now + asSecs (refreshMargin service.rootsSignatureTtl) < cached.expires.toNat then
      return respond cached
    else
      let fresh ← atomic (service.signRoots rt contentDigest now)
      let expiresAt ← atomic (ofOutcome (now.plus service.rootsSignatureTtl))
      atomic (cacheSet rt cacheKey fresh expiresAt)
      return respond fresh
  | none =>
    let fresh ← atomic (service.signRoots rt contentDigest now)
    let expiresAt ← atomic (ofOutcome (now.plus service.rootsSignatureTtl))
    atomic (cacheSet rt cacheKey fresh expiresAt)
    return respond fresh

theorem alone_signedRootsThread :
    alone (service.signedRootsThread rt) = service.signedRoots rt := by
  simp only [signedRootsThread, signedRoots, alone_bind, alone_atomic]
  congr 1
  funext body
  congr 1
  funext now
  congr 1
  funext cached
  cases cached with
  | none => simp only [alone_bind, alone_atomic, alone_pure]
  | some cached =>
    dsimp only
    split
    · rfl
    · simp only [alone_bind, alone_atomic, alone_pure]

end Service

/-! ## Any request -/

inductive Request where
  | sign (req : SignRequest)
  | reissue (request : ReissueRequest) (dpop : Option String)
  | revoke (req : RevokeRequest) (dpop : Option String)
  | signedRoots

inductive Response where
  | certificate (response : CertificateResponse)
  | revoked (response : RevokeResponse)
  | signedRoots (roots : Service.SignedRoots)

namespace Request

variable (rt : Runtime) (service : Service) (requestUrl : String) (requestId : Option String)

def run : Request → Action Response
  | .sign req => do return .certificate (← service.sign rt req requestUrl requestId)
  | .reissue request dpop => do
    return .certificate (← request.run rt service dpop requestUrl requestId)
  | .revoke req dpop => do return .revoked (← service.revoke rt req dpop requestUrl requestId)
  | .signedRoots => do return .signedRoots (← service.signedRoots rt)

def thread : Request → Thread Response
  | .sign req => do return .certificate (← service.signThread rt req requestUrl requestId)
  | .reissue request dpop => do
    return .certificate (← service.reissueThread rt request.certificate request.newCsr dpop
      requestUrl requestId)
  | .revoke req dpop => do return .revoked (← service.revokeThread rt req dpop requestUrl requestId)
  | .signedRoots => do return .signedRoots (← service.signedRootsThread rt)

/-- A request whose steps are not interleaved with others is the request of the service. -/
theorem alone_thread (request : Request) :
    alone (request.thread rt service requestUrl requestId) =
      request.run rt service requestUrl requestId := by
  cases request <;> simp only [thread, run, alone_bind, alone_pure, Service.alone_signThread,
    Service.alone_reissueThread, Service.alone_revokeThread, Service.alone_signedRootsThread]

end Request

end Ayane
