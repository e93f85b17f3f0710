import Ayane.Hook
import Ayane.Lib.Effect
import Ayane.Storage

/-!
# The world of a request

What a request reads and changes: the shared storage, the clock, and the record of what
happened. Every time the process waits for something outside (the clock, a hook, the
signing key, the storage) counts as an interaction; time passes at each, as the
`Runtime` says, and the answer may depend on its number. A request is an `Action`: it
ends with a value, an error or a panic, and what it changed until then stays.
-/

namespace Ayane

/-- What a run gets from outside. -/
structure Runtime where
  crates : ServerCrates
  /-- The time that passes at each interaction. -/
  elapse : ℕ → Duration
  /-- The random bytes drawn at an interaction. -/
  entropy : ℕ → Digest 19

/-- A hook that was called for a request, and its answer on whether to allow it. -/
structure Consultation where
  hook : HookProvider
  provisioner : Option String
  allow : Option Bool

/-- A structured audit record. -/
structure AuditEvent where
  eventType : String
  timestamp : String
  outcome : String
  provisioner : Option String := none
  subject : Option String := none
  serialNumber : Option String := none
  sans : List String := []
  requestId : Option String := none
  detail : Option String := none

structure World where
  storage : Storage
  clock : SystemTime
  interactions : ℕ
  /-- The answers of hooks, the latest first. -/
  consultations : List Consultation
  /-- The events emitted, the latest first. -/
  audit : List AuditEvent

abbrev Action := EStateM Abort World

namespace Action

def ofOutcome {α : Type} : Outcome α → Action α
  | .ok a => pure a
  | .error e => throw e

def ofResult {α : Type} (x : Result α) : Action α := ofOutcome x.orAbort

/-- How a computation returns; a panic unwinds past this. -/
def attempt {α : Type} (x : Action α) : Action (Result α) := fun w =>
  match x.run w with
  | .ok a w' => .ok (.ok a) w'
  | .error (.error e) w' => .ok (.error e) w'
  | .error (.panic message) w' => .error (.panic message) w'

end Action

open Ayane.Action

/-- The world after one more interaction. -/
def World.tick (rt : Runtime) (w : World) : World :=
  { w with
    interactions := w.interactions + 1
    clock := w.clock.later (rt.elapse w.interactions) }

/-- Time passes, and the number of the interaction is returned. -/
def interact (rt : Runtime) : Action ℕ := fun w => .ok w.interactions (w.tick rt)

/-- `SystemTime::now`. -/
def systemTimeNow (rt : Runtime) : Action SystemTime := do
  let _ ← interact rt
  return (← get).clock

/-- An atomic step on the storage, after the time it takes to get there. -/
def onStorage {α : Type} (rt : Runtime) (f : Storage → Outcome α × Storage) : Action α := do
  let _ ← interact rt
  let w ← get
  set { w with storage := (f w.storage).2 }
  ofOutcome (f w.storage).1

/-- `Storage::claim_token`, which reads the clock before it claims. -/
def claimToken (rt : Runtime) (jti : String) (expiresAt : SystemTime) : Action Unit := do
  let now ← systemTimeNow rt
  onStorage rt fun s => s.claimToken jti expiresAt now

def recordCertificate (rt : Runtime) (record : CertificateRecord) : Action Unit :=
  onStorage rt fun s => (s.recordCertificate record).map Result.orAbort id

def revokeSerial (rt : Runtime) (record : RevocationRecord) : Action Unit :=
  onStorage rt fun s => (.ok (), s.revoke record)

def getRevocation (rt : Runtime) (serialNumber : String) : Action (Option RevocationRecord) :=
  onStorage rt fun s => ((s.getRevocation serialNumber).orAbort, s)

/-- `Storage::get_cache`, which reads the clock before it reads. -/
def getCache (rt : Runtime) (key : String) : Action (Option Bytes) := do
  let now ← systemTimeNow rt
  onStorage rt fun s => (s.getCache key now).map Result.orAbort id

def setCache (rt : Runtime) (key : String) (value : Bytes) (expiresAt : SystemTime) :
    Action Unit :=
  onStorage rt fun s => (s.setCache key value expiresAt).map Result.orAbort id

/-- Call a hook, and keep what it answered. -/
def callHook (rt : Runtime) (hook : HookProvider) (provisioner : Option String)
    (request : HookRequest) : Action HookResponse := do
  let n ← interact rt
  let response ← ofResult (hook.call n request)
  modify fun w => { w with
    consultations := ⟨hook, provisioner, response.allow⟩ :: w.consultations }
  return response

/-- Sign and draw random bytes at one interaction. -/
def withKey {α : Type} (rt : Runtime) (f : ℕ → Digest 19 → Outcome α) : Action α := do
  let n ← interact rt
  ofOutcome (f n (rt.entropy n))

def emit (event : AuditEvent) : Action Unit :=
  modify fun w => { w with audit := event :: w.audit }

end Ayane
