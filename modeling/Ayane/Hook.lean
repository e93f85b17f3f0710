import Ayane.Template

/-!
# Hooks

`ayane/src/hook/mod.rs`: what a hook is asked, what it may answer, and how the answers
are layered onto the properties of the certificate. Times of a request or an answer are
kept as instants.
-/

namespace Ayane

inductive Operation where
  | sign | renew | rekey
  deriving DecidableEq

structure HookRequest where
  timestamp : SystemTime
  operation : Operation
  provisioner : Option String
  subject : String
  sans : List San
  csrDer : Option Bytes
  previousCertificateDer : Option Bytes
  notBefore : SystemTime
  notAfter : SystemTime
  renew : Bool

/-- An extension supplied by a hook. -/
structure RawExtension where
  /-- Dotted-decimal. -/
  oid : String
  value : Bytes
  critical : Bool
  deriving DecidableEq

/-- A once-per-scope constraint asserted by a hook. -/
structure HookOnceScope where
  scope : String
  /-- Absent for the `notAfter` of the issued certificate. -/
  expiresAt : Option SystemTime
  deriving DecidableEq

/-- A claim to make before issuance. -/
structure OnceClaim where
  nspace : String
  value : String
  expiresAt : Option SystemTime
  deriving DecidableEq

structure HookResponse where
  /-- `some false` denies the request. -/
  allow : Option Bool := none
  /-- `some false` makes the certificate non-renewable. -/
  renew : Option Bool := none
  denyReason : Option String := none
  subjectCommonName : Option String := none
  sans : Option (List San) := none
  additionalSans : List San := []
  notBefore : Option SystemTime := none
  notAfter : Option SystemTime := none
  keyUsage : Option (List KeyUsageName) := none
  extendedKeyUsage : Option (List ExtKeyUsageName) := none
  additionalExtensions : List RawExtension := []
  once : List HookOnceScope := []

structure HookProvider where
  name : String
  /-- The provisioners it applies to; empty means all. -/
  provisioners : List String
  /-- The answer to a request, at a numbered interaction. -/
  call : ℕ → HookRequest → Result HookResponse

def HookProvider.appliesTo (hook : HookProvider) (provisioner : Option String) : Bool :=
  hook.provisioners.isEmpty ||
    match provisioner with
    | some p => hook.provisioners.contains p
    | none => false

/-- The inputs hooks are consulted with. -/
structure Context where
  operation : Operation
  /-- Whether the credential authorizes issuance on its own. -/
  authorized : Bool
  provisioner : Option String
  subject : String
  sans : List San
  notBefore : SystemTime
  notAfter : SystemTime
  csrDer : Option Bytes
  previousCertificateDer : Option Bytes
  renewable : Bool

/-- The properties of the certificate after the answers. -/
structure Customization where
  subjectCommonName : Option String
  sans : List San
  notBefore : SystemTime
  notAfter : SystemTime
  keyUsage : Option (List KeyUsageName)
  extendedKeyUsage : Option (List ExtKeyUsageName)
  additionalExtensions : List Extension
  onceClaims : List OnceClaim
  renewable : Bool

def Customization.baseline (ctx : Context) : Customization where
  subjectCommonName := none
  sans := ctx.sans
  notBefore := ctx.notBefore
  notAfter := ctx.notAfter
  keyUsage := none
  extendedKeyUsage := none
  additionalExtensions := []
  onceClaims := []
  renewable := ctx.renewable

def RawExtension.toExtension (crates : ServerCrates) (raw : RawExtension) : Result Extension := do
  let extnId ← mapErr (fun e => .badRequest ("hook extension OID " ++ Text.debug raw.oid ++ ": " ++ e))
    (crates.serverDer.oidFromStr raw.oid)
  let extnValue ← mapErr (fun e => .internal ("hook extension value: " ++ e))
    (crates.serverDer.octetString raw.value)
  .ok { extnId, critical := raw.critical, extnValue }

def pushSan (sans : List San) (san : San) : List San :=
  if san ∈ sans then sans else sans ++ [san]

/-- Layer one answer onto the properties. -/
def applyResponse (crates : ServerCrates) (c : Customization) (response : HookResponse) :
    Result Customization := do
  let extensions ← response.additionalExtensions.mapM (RawExtension.toExtension crates)
  .ok { c with
    renewable := if response.renew = some false then false else c.renewable
    subjectCommonName := response.subjectCommonName.or c.subjectCommonName
    sans := response.additionalSans.foldl pushSan (response.sans.getD c.sans)
    notBefore := response.notBefore.getD c.notBefore
    notAfter := response.notAfter.getD c.notAfter
    keyUsage := response.keyUsage.or c.keyUsage
    extendedKeyUsage := response.extendedKeyUsage.or c.extendedKeyUsage
    additionalExtensions := c.additionalExtensions ++ extensions }

/-- The claims of one answer, namespaced to its hook. -/
def onceClaimsOf (hook : HookProvider) (response : HookResponse) : List OnceClaim :=
  response.once.map fun scope =>
    { nspace := "hook:" ++ hook.name, value := scope.scope, expiresAt := scope.expiresAt }

/-- Unless a hook explicitly allowed it, an unauthorized credential is forbidden. -/
def unauthorizedGuard (authorized explicitlyAllowed : Bool) : Result Unit :=
  if authorized || explicitlyAllowed then .ok ()
  else .error (.forbidden "issuance was not authorized by any hook")

end Ayane
