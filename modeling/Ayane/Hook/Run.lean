import Ayane.World

/-!
# Consulting the hooks

The function `run` of `ayane/src/hook/mod.rs`. Every applicable hook is called with the
original request; the answers are layered in order, a denial ends the request, and a
credential that is not authorized on its own needs an explicit grant.
-/

namespace Ayane.Hook

open Ayane.Action

/-- The effect of one hook on the properties so far and on whether the request has been
explicitly allowed. -/
def consult (rt : Runtime) (ctx : Context) (request : HookRequest) (acc : Customization × Bool)
    (hook : HookProvider) : Action (Customization × Bool) :=
  if !hook.appliesTo ctx.provisioner then pure acc
  else do
    let response ← callHook rt hook ctx.provisioner request
    if response.allow = some false then
      throw (.error (.forbidden
        (response.denyReason.getD ("issuance denied by hook " ++ Text.debug hook.name))))
    else
      let claimed := { acc.1 with onceClaims := acc.1.onceClaims ++ onceClaimsOf hook response }
      let customization ← ofResult (applyResponse rt.crates claimed response)
      return (customization, acc.2 || response.allow = some true)

def request (rt : Runtime) (ctx : Context) : Action HookRequest := do
  let now ← systemTimeNow rt
  let timestamp ← ofOutcome (rt.crates.times.dateTimeUtc now)
  let notBefore ← ofOutcome (rt.crates.times.dateTimeUtc ctx.notBefore)
  let notAfter ← ofOutcome (rt.crates.times.dateTimeUtc ctx.notAfter)
  return {
    timestamp
    operation := ctx.operation
    provisioner := ctx.provisioner
    subject := ctx.subject
    sans := ctx.sans
    csrDer := ctx.csrDer
    previousCertificateDer := ctx.previousCertificateDer
    notBefore
    notAfter
    renew := ctx.renewable }

def run (rt : Runtime) (hooks : List HookProvider) (ctx : Context) : Action Customization :=
  if hooks.isEmpty then do
    ofResult (unauthorizedGuard ctx.authorized false)
    return .baseline ctx
  else do
    let request ← request rt ctx
    let (customization, explicitlyAllowed) ←
      hooks.foldlM (consult rt ctx request) (.baseline ctx, false)
    ofResult (unauthorizedGuard ctx.authorized explicitlyAllowed)
    return customization

end Ayane.Hook
