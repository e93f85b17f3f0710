import Ayane.Ca.Rejections
import Ayane.Service.Threads
import Ayane.Storage.Durable
import Ayane.World.Leaves

/-!
# What requests leave behind

A request to sign, renew, rekey or revoke that ends reports one event, which says how it ended; a
certificate it returns is recorded, and a revocation it acknowledges is stored, and both stay, whatever
others do to the storage. A request that panics is the only one that may end without an event.
-/

namespace Ayane

open Ayane.Action Effect Interleave Storage Thread

/-- Nothing is reported. -/
def SameAudit (o o' : Own) : Prop := o'.audit = o.audit

instance : Std.Refl SameAudit := ⟨fun _ => rfl⟩

instance : IsTrans Own SameAudit := ⟨fun _ _ _ h h' => h'.trans h⟩

section

variable {R : Storage → Storage → Prop} (rt : Runtime)

theorem idle_kept [Std.Refl R] : Idle (Kept R SameAudit) rt where
  tick w := ⟨Std.Refl.refl w.storage, rfl⟩
  consulted w _ := ⟨Std.Refl.refl w.storage, rfl⟩

theorem kept_onStorage {α : Type} {f : Storage → Outcome α × Storage}
    (h : ∀ s : Storage, R s (f s).2) : Within (Kept R SameAudit) (onStorage rt f) := by
  intro w
  rw [final_onStorage]
  exact ⟨h w.storage, rfl⟩

end

/-! ## The operations of requests -/

/-- The operations that requests perform on the storage. -/
inductive Storage.Operation.Requested : Operation → Prop where
  | recordCertificate (record : CertificateRecord) : Requested (.recordCertificate record)
  | revoke (record : RevocationRecord) : Requested (.revoke record)
  | claimToken (jti : String) (expiresAt now : SystemTime) : Requested (.claimToken jti expiresAt now)
  | getCache (crates : ServerCrates) (digest : Digest 48) (now : SystemTime) :
      Requested (.getCache (Service.rootsCacheKey crates digest) now)
  | setCache (crates : ServerCrates) (digest : Digest 48) (value : Bytes) (expiresAt : SystemTime) :
      Requested (.setCache (Service.rootsCacheKey crates digest) value expiresAt)

namespace Storage

/-- What a request does to the storage. -/
abbrev Served : Storage → Storage → Prop := Performs Operation.Requested

/-- What a request does to the storage before its commit. -/
abbrev Prepares : Storage → Storage → Prop := Performs fun op => op.entry? = none ∧ op.Requested

theorem served_apply (s : Storage) {op : Operation} (h : op.Requested) : s.Served (op.apply s) :=
  performs_apply h s

theorem prepares_apply (s : Storage) {op : Operation} (h : op.Requested) (hidle : op.entry? = none) :
    s.Prepares (op.apply s) :=
  performs_apply ⟨hidle, h⟩ s

theorem Prepares.served {s s' : Storage} (h : s.Prepares s') : s.Served s' := h.mono fun _ hop => hop.2

theorem Prepares.steady {s s' : Storage} (h : s.Prepares s') : s.Steady s' :=
  Performs.steady h fun _ hop => hop.1

end Storage

theorem kept_claimOnce (rt : Runtime) (key : String) (expiresAt : SystemTime) (msg : String) :
    Within (Kept Prepares SameAudit) (claimOnce rt key expiresAt msg) := by
  refine Within.bind (idle_kept rt).tick fun _ => (within_ofOutcome _).bind fun floor => ?_
  refine (within_attempt ?_).bind fun _ => within_ofResult _
  refine Within.bind (idle_kept rt).tick fun now => ?_
  exact kept_onStorage rt fun s => s.prepares_apply (.claimToken key (max expiresAt floor) now) rfl

/-! ## Up to the commit -/

theorem quiet_served {α : Type} {t : Thread α} (h : Quiet Prepares SameAudit t) :
    Quiet Served SameAudit t :=
  h.mono fun _ _ => Prepares.served

theorem quiet_persists {α : Type} {t : Thread α} (h : Quiet Prepares SameAudit t) :
    Quiet Persists SameAudit t :=
  h.mono fun _ _ => Performs.persists

namespace Service

variable (rt : Runtime) (service : Service)

theorem quiet_claimScopes (scopes : List OnceClaim) (defaultExpiry : SystemTime) :
    Quiet Prepares SameAudit (claimOnceScopesThread rt scopes defaultExpiry) :=
  quiet_forM fun _ _ => quiet_atomic (kept_claimOnce rt _ _ _)

theorem quiet_signClaimJti (validated : ValidatedToken) :
    Quiet Prepares SameAudit (atomic (signClaimJti rt validated)) :=
  quiet_atomic ((within_ofOutcome _).bind fun _ => kept_claimOnce rt _ _ _)

theorem quiet_proofClaimJti (proof : Dpop.VerifiedProof) :
    Quiet Prepares SameAudit (atomic (proofClaimJti rt proof)) :=
  quiet_atomic ((within_ofOutcome _).bind fun _ => kept_claimOnce rt _ _ _)

theorem quiet_planSign (req : SignRequest) (requestUrl : String) :
    Quiet Prepares SameAudit (service.planSign rt req requestUrl) := by
  refine quiet_bind (quiet_atomic (service.within_signAuthenticate (idle_kept rt) _ _)) ?_
  rintro ⟨csr, validated⟩
  exact quiet_bind (quiet_atomic (service.within_signPlan (idle_kept rt) _ _ _)) fun _ => quiet_pure _

theorem quiet_claimSign (validated : ValidatedToken) (plan : SignPlan) :
    Quiet Prepares SameAudit (claimSign rt validated plan) :=
  quiet_bind (quiet_signClaimJti rt validated) fun _ => quiet_claimScopes rt _ _

theorem quiet_planReissue (certificatePem : String) (newCsrPem dpop : Option String)
    (requestUrl : String) :
    Quiet Prepares SameAudit (service.planReissue rt certificatePem newCsrPem dpop requestUrl) := by
  refine quiet_bind (quiet_atomic (service.within_reissueAuthenticate (idle_kept rt) _ _ _)) fun auth => ?_
  exact quiet_bind (quiet_atomic (service.within_reissuePlan (idle_kept rt) _ _)) fun _ => quiet_pure _

theorem quiet_claimReissue (auth : ReissueAuth) (plan : ReissuePlan) :
    Quiet Prepares SameAudit (claimReissue rt auth plan) :=
  quiet_bind (quiet_proofClaimJti rt auth.proof) fun _ => quiet_claimScopes rt _ _

theorem quiet_planRevoke (req : RevokeRequest) (dpop : Option String) (requestUrl : String) :
    Quiet Prepares SameAudit (service.planRevoke rt req dpop requestUrl) := by
  refine quiet_bind (quiet_atomic (within_ofResult _)) fun serial => ?_
  refine quiet_bind (quiet_atomic (idle_kept rt).tick) fun now => ?_
  refine quiet_bind (quiet_atomic ?_) fun _ => quiet_pure _
  exact service.within_revokeAuthenticate (idle_kept rt) _ _ _ _ _

theorem quiet_revokeClaimJti (auth : RevokeAuth) :
    Quiet Prepares SameAudit (atomic (revokeClaimJti rt auth)) := by
  cases auth with
  | token validated => exact quiet_signClaimJti rt validated
  | proof verified => exact quiet_proofClaimJti rt verified

end Service

/-! ## Commits -/

/-- The event of a request that succeeded. -/
structure AuditEvent.Succeeds (event : AuditEvent) (eventType : String) (requestId : Option String) :
    Prop where
  eventType : event.eventType = eventType
  requestId : event.requestId = requestId
  outcome : event.outcome = "success"

theorem of_eventNow {rt : Runtime} {eventType outcome : String} {event : AuditEvent} {w w' : World}
    (h : (eventNow rt eventType outcome).run w = .ok event w') :
    w' = w.tick rt ∧ ∃ timestamp, event = { eventType, timestamp, outcome } := by
  obtain ⟨now, w₁, hnow, h⟩ := run_bind_eq_ok.mp h
  cases hnow
  obtain ⟨timestamp, w₂, htimestamp, h⟩ := run_bind_eq_ok.mp h
  obtain ⟨-, rfl⟩ := run_ofOutcome_eq_ok.mp htimestamp
  cases h
  exact ⟨rfl, timestamp, rfl⟩

/-- A response and an event are of the certificate that was recorded. -/
structure CertificateRecord.Told (record : CertificateRecord) (response : CertificateResponse)
    (event : AuditEvent) : Prop where
  serialNumber : record.serialNumber = response.serialNumber
  pem : record.pem = response.certificate
  notAfter : record.notAfter = response.notAfter
  eventSerial : event.serialNumber = some record.serialNumber
  eventSans : event.sans = record.sans

/-- A certificate that is returned is the one of a record that the storage holds, and that the event
tells of. -/
def Recorded (response : CertificateResponse) (event : AuditEvent) (s : Storage) : Prop :=
  ∃ record, Records record s ∧ record.Told response event

theorem Recorded.persists {response : CertificateResponse} {event : AuditEvent} {s s' : Storage}
    (h : Recorded response event s) (hs : s.Persists s') : Recorded response event s' := by
  obtain ⟨record, hrecord, htold⟩ := h
  exact ⟨record, hs.records record hrecord, htold⟩

/-- What a request has left behind before it is reported. -/
def Committed {α : Type} (eventType : String) (requestId : Option String)
    (P : α → AuditEvent → Storage → Prop) (o : Own)
    (r : EStateM.Result Abort Own (α × AuditEvent)) (s : Storage) : Prop :=
  SameAudit o (final r) ∧ ∀ response event o', r = .ok (response, event) o' →
    event.Succeeds eventType requestId ∧ P response event s

theorem Committed.after {α : Type} {eventType : String} {requestId : Option String}
    {P : α → AuditEvent → Storage → Prop} {o o' : Own} {r : EStateM.Result Abort Own (α × AuditEvent)}
    {s : Storage} (h : Committed eventType requestId P o' r s) (ho : SameAudit o o') :
    Committed eventType requestId P o r s :=
  ⟨trans_of SameAudit ho h.1, h.2⟩

theorem committed_error {α : Type} {eventType : String} {requestId : Option String}
    {P : α → AuditEvent → Storage → Prop} {o o' : Own} {abort : Abort} {s : Storage}
    (h : SameAudit o o') : Committed eventType requestId P o (.error abort o') s :=
  ⟨h, fun _ _ _ hr => by cases hr⟩

namespace Service

variable (rt : Runtime) (service : Service)

theorem kept_eventNow {R : Storage → Storage → Prop} [Std.Refl R] [IsTrans Storage R]
    (eventType outcome : String) : Within (Kept R SameAudit) (eventNow rt eventType outcome) :=
  Within.bind (idle_kept rt).tick fun _ => (within_ofOutcome _).bind fun _ => within_pure _

theorem kept_issueRecorded (issue : ℕ → Digest 19 → Outcome IssuedCertificate)
    (notBefore now : SystemTime) (record : IssuedCertificate → String → String → CertificateRecord)
    (eventType : String) (describe : IssuedCertificate → AuditEvent → AuditEvent) :
    Within (Kept Served SameAudit)
      (service.issueRecorded rt issue notBefore now record eventType describe) := by
  refine Within.bind (Within.bind (idle_kept rt).tick fun _ => within_ofOutcome _) fun issued => ?_
  refine (within_ofOutcome _).bind fun starts => (within_ofOutcome _).bind fun issuedAt => ?_
  refine (kept_onStorage rt fun s => s.served_apply (.recordCertificate _)).bind fun _ => ?_
  exact (kept_eventNow rt _ _).bind fun _ => within_pure _

/-- Once a certificate is recorded it is returned with its event. -/
theorem leaves_issueRecorded (issue : ℕ → Digest 19 → Outcome IssuedCertificate)
    (notBefore now : SystemTime) (record : IssuedCertificate → String → String → CertificateRecord)
    (eventType : String) (describe : IssuedCertificate → AuditEvent → AuditEvent)
    {requestId : Option String}
    (hevent : ∀ issued starts issuedAt timestamp s,
      let event := describe issued { eventType, timestamp, outcome := "success" }
      event.Succeeds eventType requestId ∧ (Records (record issued starts issuedAt) s →
        Recorded (service.certificateResponse issued) event s)) (o : Own) (s : Storage) :
    (atomic (service.issueRecorded rt issue notBefore now record eventType describe)).Leaves Persists
      (Committed eventType requestId Recorded o) o s := by
  refine leaves_atomic fun s' _ => ?_
  have hkept := kept_issueRecorded rt service issue notBefore now record eventType describe (o.over s')
  cases hrun : (service.issueRecorded rt issue notBefore now record eventType describe).run
      (o.over s') with
  | error abort w =>
    rw [hrun] at hkept
    exact committed_error hkept.own
  | ok served w =>
    rw [hrun] at hkept
    refine ⟨hkept.own, ?_⟩
    rintro response event o' ⟨⟩
    unfold issueRecorded at hrun
    simp only [run_bind_eq_ok, run_ofOutcome_eq_ok] at hrun
    obtain ⟨issued, w₁, hissue, starts, _, ⟨-, rfl⟩, issuedAt, _, ⟨-, rfl⟩, _, w₂, hrecord, event', w₃,
      hnow, hpure⟩ := hrun
    obtain ⟨-, rfl⟩ := of_withKey hissue
    obtain ⟨hstored, rfl⟩ := of_recordCertificate hrecord
    obtain ⟨rfl, timestamp, rfl⟩ := of_eventNow hnow
    cases hpure
    obtain ⟨hsucceeds, hrecorded⟩ := hevent issued starts issuedAt timestamp
      (s'.recordCertificate (record issued starts issuedAt)).2
    exact ⟨hsucceeds, hrecorded (records_recordCertificate hstored)⟩

theorem leaves_signIssue (plan : SignPlan) (requestId : Option String) (o : Own) (s : Storage) :
    (atomic (service.signIssue rt plan requestId)).Leaves Persists
      (Committed "certificate.issued" requestId Recorded o) o s :=
  leaves_issueRecorded rt service _ _ _ plan.record _ _ (fun _ _ _ _ _ =>
    ⟨⟨rfl, rfl, rfl⟩, fun h => ⟨_, h, rfl, rfl, rfl, rfl, rfl⟩⟩) o s

theorem leaves_reissueIssue (plan : ReissuePlan) (eventType : String) (requestId : Option String)
    (o : Own) (s : Storage) :
    (atomic (service.reissueIssue rt plan eventType requestId)).Leaves Persists
      (Committed eventType requestId Recorded o) o s :=
  leaves_issueRecorded rt service _ _ _ plan.record _ _ (fun _ _ _ _ _ =>
    ⟨⟨rfl, rfl, rfl⟩, fun h => ⟨_, h, rfl, rfl, rfl, rfl, rfl⟩⟩) o s

/-- The revocation of the serial number that was asked for is stored, and the event tells of it. -/
def Acknowledged (crates : ServerCrates) (req : RevokeRequest) (response : RevokeResponse)
    (event : AuditEvent) (s : Storage) : Prop :=
  response = ⟨"revoked"⟩ ∧ s.Readable ∧ ∃ serial,
    normalizeSerial crates req.serialNumber = .ok serial ∧ event.serialNumber = some serial ∧
    s.Revoked serial

theorem Acknowledged.persists {crates : ServerCrates} {req : RevokeRequest} {response : RevokeResponse}
    {event : AuditEvent} {s s' : Storage} (h : Acknowledged crates req response event s)
    (hs : s.Persists s') : Acknowledged crates req response event s' := by
  obtain ⟨hresponse, hread, serial, hserial, hevent, hrevoked⟩ := h
  exact ⟨hresponse, hs.readable hread, serial, hserial, hevent, hs.revoked hread serial hrevoked⟩

theorem kept_revokeCommit (req : RevokeRequest) (auth : RevokeAuth) (serial : String) (now : SystemTime)
    (requestId : Option String) :
    Within (Kept Served SameAudit) (revokeCommit rt req auth serial now requestId) := by
  refine (within_ofOutcome _).bind fun revokedAt => ?_
  refine (kept_onStorage rt fun s => s.served_apply (.revoke _)).bind fun _ => ?_
  exact (kept_eventNow rt _ _).bind fun _ => within_pure _

theorem leaves_revokeCommit {req : RevokeRequest} (auth : RevokeAuth) {serial : String}
    (hserial : normalizeSerial rt.crates req.serialNumber = .ok serial) (now : SystemTime)
    (requestId : Option String) (o : Own) {s : Storage} (hread : s.Readable) :
    (atomic (revokeCommit rt req auth serial now requestId)).Leaves Persists
      (Committed "certificate.revoked" requestId (Acknowledged rt.crates req) o) o s := by
  refine leaves_atomic fun s' hs => ?_
  have hkept := kept_revokeCommit rt req auth serial now requestId
  cases hrun : (revokeCommit rt req auth serial now requestId).run (o.over s') with
  | error abort w => exact committed_error (hkept.of_error hrun).own
  | ok served w =>
    refine ⟨(hkept.of_ok hrun).own, ?_⟩
    rintro response event o' ⟨⟩
    unfold revokeCommit at hrun
    simp only [run_bind_eq_ok, run_ofOutcome_eq_ok] at hrun
    obtain ⟨revokedAt, _, ⟨-, rfl⟩, _, w₁, hrevoke, event', w₂, hnow, hpure⟩ := hrun
    obtain ⟨-, rfl⟩ := run_onStorage_eq_ok.mp hrevoke
    obtain ⟨rfl, timestamp, rfl⟩ := of_eventNow hnow
    cases hpure
    have hread' := hs.readable hread
    have hrevoked := (revoked_revoke ⟨serial, req.reasonCode.getD 0, req.reason, revokedAt,
      auth.provisioner⟩ hread').2
    exact ⟨⟨rfl, rfl, rfl⟩, rfl, (s'.persists_apply (.revoke _)).readable hread', serial, hserial, rfl,
      hrevoked⟩

end Service

/-! ## Requests -/

/-- Whose fault an error is, as events tell it. -/
def Error.outcome : Error → String
  | .internal _ | .config _ => "error"
  | _ => "denied"

/-- The event of a request that failed. -/
structure AuditEvent.Denies (event : AuditEvent) (eventType : String) (requestId : Option String)
    (e : Error) : Prop where
  eventType : event.eventType = eventType
  requestId : event.requestId = requestId
  outcome : event.outcome = e.outcome
  detail : event.detail = some e.toString
  serialNumber : event.serialNumber = none

/-- How a request that is reported has ended. -/
def Reported {α : Type} (eventType : String) (requestId : Option String)
    (P : α → AuditEvent → Storage → Prop) (o : Own) (r : EStateM.Result Abort Own α) (s : Storage) :
    Prop :=
  match r with
  | .ok response o' => ∃ event, o'.audit = event :: o.audit ∧ event.Succeeds eventType requestId ∧
      P response event s
  | .error (.error e) o' => ∃ event, o'.audit = event :: o.audit ∧ event.Denies eventType requestId e
  | .error (.panic _) _ => True

theorem of_denial {rt : Runtime} {eventType : String} {requestId : Option String} {e : Error}
    {event : AuditEvent} {w w' : World} (h : (denial rt eventType requestId e).run w = .ok event w') :
    event.Denies eventType requestId e ∧ w' = w.tick rt := by
  obtain ⟨event₁, w₁, hnow, h⟩ := run_bind_eq_ok.mp h
  obtain ⟨rfl, timestamp, rfl⟩ := of_eventNow hnow
  cases h
  exact ⟨⟨rfl, rfl, by cases e <;> rfl, rfl, rfl⟩, rfl⟩

theorem panics_of_eventNow {rt : Runtime} (htimes : PanicsOnly rt.crates) {eventType outcome : String}
    {abort : Abort} {w w' : World} (h : (eventNow rt eventType outcome).run w = .error abort w') :
    ∃ message, abort = .panic message := by
  obtain hclock | ⟨now, w₁, -, hstamp⟩ := run_bind_eq_error.mp h
  · cases hclock
  · obtain hformat | ⟨_, _, -, hpure⟩ := run_bind_eq_error.mp hstamp
    · cases htime : rt.crates.times.formatRfc3339 now with
      | ok timestamp =>
        rw [htime] at hformat
        cases hformat
      | error abort' =>
        rw [htime] at hformat
        cases hformat
        exact htimes now abort htime
    · cases hpure

theorem panics_of_denial {rt : Runtime} (htimes : PanicsOnly rt.crates) {eventType : String}
    {requestId : Option String} {e : Error} {abort : Abort} {w w' : World}
    (h : (denial rt eventType requestId e).run w = .error abort w') :
    ∃ message, abort = .panic message := by
  obtain hnow | ⟨_, _, -, hpure⟩ := run_bind_eq_error.mp h
  · exact panics_of_eventNow htimes hnow
  · cases hpure

section

variable {α : Type} {rt : Runtime} {eventType : String} {requestId : Option String}
  {P : α → AuditEvent → Storage → Prop} {o o' : Own} {s : Storage}

/-- A denial is reported with the error. -/
theorem leaves_denied (htimes : PanicsOnly rt.crates) (e : Error) (hsame : SameAudit o o') :
    ((do
      let event ← atomic (denial rt eventType requestId e)
      atomic (emit event)
      atomic (throw (.error e)) : Thread α)).Leaves Persists (Reported eventType requestId P o) o' s := by
  have hdenial : (atomic (denial rt eventType requestId e)).Leaves Persists (fun r _ =>
      (∀ event o₁, r = .ok event o₁ → event.Denies eventType requestId e ∧ SameAudit o o₁) ∧
      ∀ abort o₁, r = .error abort o₁ → ∃ message, abort = .panic message) o' s := by
    refine leaves_atomic fun s' _ => ⟨fun event o₁ hr => ?_, fun abort o₁ hr => ?_⟩
    · obtain ⟨w, hrun, rfl⟩ := ownResult_eq_ok.mp hr
      obtain ⟨hdenies, rfl⟩ := of_denial hrun
      exact ⟨hdenies, hsame⟩
    · obtain ⟨w, hrun, rfl⟩ := ownResult_eq_error.mp hr
      exact panics_of_denial htimes hrun
  refine leaves_bind hdenial (fun event o₁ s hevent => ?_) fun abort o₁ s habort => ?_
  · obtain ⟨hdenies, haudit⟩ := hevent.1 event o₁ rfl
    have hemit : (atomic (emit event)).Leaves Persists (fun r _ =>
        r = .ok () { o₁ with audit := event :: o₁.audit }) o₁ s := leaves_atomic fun _ _ => rfl
    refine leaves_bind hemit (fun _ o₂ s hemitted => ?_) fun _ _ _ hemitted => by cases hemitted
    cases hemitted
    exact leaves_atomic fun _ _ => ⟨event, congrArg (event :: ·) haudit, hdenies⟩
  · obtain ⟨message, rfl⟩ := habort.2 abort o₁ rfl
    trivial

/-- A request is reported once, when it is known how it ends. -/
theorem leaves_audited (htimes : PanicsOnly rt.crates) {request : Thread (α × AuditEvent)}
    (h : request.Leaves Persists (Committed eventType requestId P o) o s)
    (hP : ∀ response event s s', s.Persists s' → P response event s → P response event s') :
    (auditedThread rt eventType requestId request).Leaves Persists
      (Reported eventType requestId P o) o s := by
  refine leaves_bind (leaves_attempt h) (fun outcome o₁ s hended => ?_) fun abort o₁ s hended => ?_
  · cases outcome with
    | error e => exact leaves_denied htimes e hended.1
    | ok served =>
      obtain ⟨hsame, hserved⟩ := hended
      obtain ⟨hsucceeds, hserved⟩ := hserved _ _ _ rfl
      have hemit : (atomic (emit served.2)).Leaves Persists (fun r s =>
          r = .ok () { o₁ with audit := served.2 :: o₁.audit } ∧ P served.1 served.2 s) o₁ s :=
        leaves_atomic fun s' hs => ⟨rfl, hP _ _ _ _ hs hserved⟩
      refine leaves_bind hemit (fun _ o₂ s hemitted => ?_) fun _ _ _ hemitted => by cases hemitted.1
      obtain ⟨hown, hserved⟩ := hemitted
      cases hown
      exact leaves_pure ⟨served.2, congrArg (served.2 :: ·) hsame, hsucceeds, hserved⟩
  · cases abort with
    | error e => exact hended.elim
    | panic message => trivial

end

/-! ### Others that are served at the same time -/

theorem silent_reported {α : Type} {rt : Runtime} {eventType : String} {requestId : Option String}
    {request : Thread (α × AuditEvent)} (h : Quiet Served SameAudit request) (o : Own) :
    (auditedThread rt eventType requestId request o).Silent Served := by
  have hemit : ∀ (event : AuditEvent) (o : Own), (atomic (emit event) o).Silent Served :=
    fun _ _ => silent_atomic fun s => Std.Refl.refl s
  refine silent_bind (silent_attempt (h.silent o)) fun outcome o₁ _ => ?_
  cases outcome with
  | ok served => exact silent_bind (hemit _ _) fun _ _ _ => trivial
  | error e =>
    have hdenial : Within (Kept Served SameAudit) (denial rt eventType requestId e) :=
      (Service.kept_eventNow rt _ _).bind fun _ => within_pure _
    refine silent_bind ((quiet_atomic hdenial).silent o₁) fun _ _ _ => ?_
    refine silent_bind (hemit _ _) fun _ _ _ => ?_
    exact silent_atomic fun s => Std.Refl.refl s

namespace Service

variable (rt : Runtime) (service : Service)

theorem silent_signThread (req : SignRequest) (requestUrl : String) (requestId : Option String)
    (o : Own) : (service.signThread rt req requestUrl requestId o).Silent Served := by
  refine silent_reported (quiet_bind (quiet_served (service.quiet_planSign rt req requestUrl)) ?_) o
  rintro ⟨validated, plan⟩
  refine quiet_bind (quiet_served (quiet_claimSign rt validated plan)) fun _ => quiet_atomic ?_
  exact service.kept_issueRecorded rt _ _ _ _ _ _

theorem silent_reissueThread (certificatePem : String) (newCsrPem dpop : Option String)
    (requestUrl : String) (requestId : Option String) (o : Own) :
    (service.reissueThread rt certificatePem newCsrPem dpop requestUrl requestId o).Silent Served := by
  have hplan := service.quiet_planReissue rt certificatePem newCsrPem dpop requestUrl
  refine silent_reported (quiet_bind (quiet_served hplan) ?_) o
  rintro ⟨auth, plan⟩
  refine quiet_bind (quiet_served (quiet_claimReissue rt auth plan)) fun _ => quiet_atomic ?_
  exact service.kept_issueRecorded rt _ _ _ _ _ _

theorem silent_revokeThread (req : RevokeRequest) (dpop : Option String) (requestUrl : String)
    (requestId : Option String) (o : Own) :
    (service.revokeThread rt req dpop requestUrl requestId o).Silent Served := by
  have hplan := service.quiet_planRevoke rt req dpop requestUrl
  refine silent_reported (quiet_bind (quiet_served hplan) ?_) o
  rintro ⟨serial, now, auth⟩
  refine quiet_bind (quiet_served (quiet_revokeClaimJti rt auth)) fun _ => quiet_atomic ?_
  exact kept_revokeCommit rt req auth serial now requestId

theorem quiet_signedRoots : Quiet Prepares SameAudit (service.signedRootsThread rt) := by
  have hfresh : ∀ contentDigest now crates digest (respond : CachedRootsSig → SignedRoots),
      Quiet Prepares SameAudit (do
        let fresh ← atomic (service.signRoots rt contentDigest now)
        let expiresAt ← atomic (ofOutcome (now.plus service.rootsSignatureTtl))
        atomic (cacheSet rt (rootsCacheKey crates digest) fresh expiresAt)
        return respond fresh) := by
    intro contentDigest now crates digest respond
    refine quiet_bind (quiet_atomic ?_) fun fresh => ?_
    · exact Within.bind (Within.bind (idle_kept rt).tick fun _ => within_ofOutcome _) fun _ =>
        within_pure _
    refine quiet_bind (quiet_atomic (within_ofOutcome _)) fun expiresAt => ?_
    refine quiet_bind (quiet_atomic ?_) fun _ => quiet_pure _
    exact (within_ofResult _).bind fun value =>
      kept_onStorage rt fun s => s.prepares_apply (.setCache crates digest value expiresAt) rfl
  refine quiet_bind (quiet_atomic (within_ofResult _)) fun body => ?_
  refine quiet_bind (quiet_atomic (idle_kept rt).tick) fun now => ?_
  refine quiet_bind (quiet_atomic ?_) fun cached => ?_
  · refine Within.bind (Within.bind (idle_kept rt).tick fun now => ?_) fun cached => ?_
    · exact kept_onStorage rt fun s => s.prepares_apply (.getCache _ _ now) rfl
    · cases cached with
      | none => exact within_pure _
      | some bytes => exact (within_ofResult _).bind fun _ => within_pure _
  · cases cached with
    | none => exact hfresh _ _ _ _ _
    | some cached =>
      dsimp only
      split
      · exact quiet_pure _
      · exact hfresh _ _ _ _ _

end Service

/-! ### The requests themselves -/

namespace Service

variable {rt : Runtime} (htimes : PanicsOnly rt.crates) (service : Service)

/-- A request that is quiet up to its commit. -/
theorem leaves_commit {α β : Type} {eventType : String} {requestId : Option String}
    {P : α → AuditEvent → Storage → Prop} {t : Thread β} {f : β → Thread (α × AuditEvent)} {o : Own}
    {s : Storage} (ht : Quiet Prepares SameAudit t) (hread : s.Readable)
    (hf : ∀ b o' s, (t o).Ends (.ok b o') → s.Readable →
      (f b).Leaves Persists (Committed eventType requestId P o') o' s) :
    (t >>= f).Leaves Persists (Committed eventType requestId P o) o s := by
  refine leaves_bind ((quiet_persists ht).leaves (fun _ _ => Persists.readable) hread) (fun b o' s hb => ?_) ?_
  · obtain ⟨⟨hends, hsame⟩, hread⟩ := hb
    exact (hf b o' s hends hread).mono fun r s h => h.after hsame
  · intro abort o' s hfailed
    exact committed_error hfailed.1.2

theorem serial_of_planRevoke {req : RevokeRequest} {dpop : Option String} {requestUrl serial : String}
    {now : SystemTime} {auth : RevokeAuth} {o o' : Own}
    (h : (service.planRevoke rt req dpop requestUrl o).Ends (.ok (serial, now, auth) o')) :
    normalizeSerial rt.crates req.serialNumber = .ok serial := by
  unfold planRevoke at h
  obtain ⟨_, _, hserial, h⟩ := ends_bind.mp h
  obtain ⟨_, _, -, h⟩ := ends_bind.mp h
  obtain ⟨_, _, -, hpure⟩ := ends_bind.mp h
  cases hpure
  obtain ⟨s, hrun⟩ := hserial
  obtain ⟨w, hrun, -⟩ := ownResult_eq_ok.mp hrun
  exact (run_ofResult_eq_ok.mp hrun).1

include htimes

theorem leaves_signThread (req : SignRequest) (requestUrl : String) (requestId : Option String)
    (o : Own) {s : Storage} (hread : s.Readable) :
    (service.signThread rt req requestUrl requestId).Leaves Persists
      (Reported "certificate.issued" requestId Recorded o) o s := by
  refine leaves_audited htimes ?_ fun _ _ _ _ hs h => h.persists hs
  refine leaves_commit (service.quiet_planSign rt req requestUrl) hread ?_
  rintro ⟨validated, plan⟩ o₁ s₁ - hread
  refine leaves_commit (quiet_claimSign rt validated plan) hread fun _ o₂ s₂ _ _ => ?_
  exact service.leaves_signIssue rt plan requestId o₂ s₂

theorem leaves_reissueThread (certificatePem : String) (newCsrPem dpop : Option String)
    (requestUrl : String) (requestId : Option String) (o : Own) {s : Storage} (hread : s.Readable) :
    (service.reissueThread rt certificatePem newCsrPem dpop requestUrl requestId).Leaves Persists
      (Reported (reissueEventType newCsrPem) requestId Recorded o) o s := by
  refine leaves_audited htimes ?_ fun _ _ _ _ hs h => h.persists hs
  refine leaves_commit (service.quiet_planReissue rt certificatePem newCsrPem dpop requestUrl) hread ?_
  rintro ⟨auth, plan⟩ o₁ s₁ - hread
  refine leaves_commit (quiet_claimReissue rt auth plan) hread fun _ o₂ s₂ _ _ => ?_
  exact service.leaves_reissueIssue rt plan _ requestId o₂ s₂

theorem leaves_revokeThread (req : RevokeRequest) (dpop : Option String) (requestUrl : String)
    (requestId : Option String) (o : Own) {s : Storage} (hread : s.Readable) :
    (service.revokeThread rt req dpop requestUrl requestId).Leaves Persists
      (Reported "certificate.revoked" requestId (Acknowledged rt.crates req) o) o s := by
  refine leaves_audited htimes ?_ fun _ _ _ _ hs h => h.persists hs
  refine leaves_commit (service.quiet_planRevoke rt req dpop requestUrl) hread ?_
  rintro ⟨serial, now, auth⟩ o₁ s₁ hends hread
  refine leaves_commit (quiet_revokeClaimJti rt auth) hread fun _ o₂ s₂ _ hread => ?_
  exact leaves_revokeCommit rt auth (service.serial_of_planRevoke hends) now requestId o₂ hread

end Service

end Ayane
