import Ayane.Service.Acknowledged

/-!
# What requests put into the storage

A request puts a certificate or a revocation into the storage only with its last use of it. From then on
it cannot fail: it reports an event that tells of what it stored, and returns it, unless the arithmetic on
instants panics.
-/

namespace Ayane

open Ayane.Action Effect Interleave Storage Thread

/-- A response and an event are of the revocation that was stored for a request. -/
structure RevocationRecord.Told (record : RevocationRecord) (crates : ServerCrates) (req : RevokeRequest)
    (response : RevokeResponse) (event : AuditEvent) : Prop where
  response : response = ⟨"revoked"⟩
  serialNumber : normalizeSerial crates req.serialNumber = .ok record.serialNumber
  reasonCode : record.reasonCode = req.reasonCode.getD 0
  reason : record.reason = req.reason
  eventSerial : event.serialNumber = some record.serialNumber

/-- How a request ends that has stored something: it tells of it, or it panics. -/
def Told {α : Type} (eventType : String) (requestId : Option String) (D : α → AuditEvent → Prop)
    (o : Own) : EStateM.Result Abort Own α → Prop
  | .ok response o' => ∃ event, o'.audit = event :: o.audit ∧ event.Succeeds eventType requestId ∧
      D response event
  | .error (.error _) _ => False
  | .error (.panic _) _ => True

/-- The same of a request that is about to be reported. -/
def Telling {α : Type} (eventType : String) (requestId : Option String) (D : α → AuditEvent → Prop)
    (o : Own) : EStateM.Result Abort Own (α × AuditEvent) → Prop
  | .ok (response, event) o' => SameAudit o o' ∧ event.Succeeds eventType requestId ∧ D response event
  | .error (.error _) _ => False
  | .error (.panic _) _ => True

/-- The entries of one kind that fulfil `P`, and how a request ends that has stored one of them. -/
def Stores {α γ : Type} (kind : γ → Entry) (P : γ → Prop) (ends : γ → EStateM.Result Abort Own α → Prop)
    (entry : Entry) (r : EStateM.Result Abort Own α) : Prop :=
  ∃ record, entry = kind record ∧ P record ∧ ends record r

section

variable {α γ : Type} {rt : Runtime} {eventType : String} {requestId : Option String}
  {kind : γ → Entry} {P : γ → Prop} {D : γ → α → AuditEvent → Prop} {o : Own}

/-- Reporting adds nothing to the storage. -/
theorem answersFor_audited {request : Thread (α × AuditEvent)}
    (h : (request o).AnswersFor Holds
      (Stores kind P fun record => Telling eventType requestId (D record) o)) :
    (auditedThread rt eventType requestId request o).AnswersFor Holds
      (Stores kind P fun record => Told eventType requestId (D record) o) := by
  have hemit : ∀ (event : AuditEvent) (o : Own), (atomic (emit event) o).Silent Steady :=
    fun _ _ => silent_atomic fun s => Std.Refl.refl s
  refine answersFor_bind (answersFor_attempt h) (fun outcome o₁ _ => ?_)
    (fun entry outcome o₁ htelling r hends => ?_) fun entry abort o₁ htelling => ?_
  · refine Prog.Silent.answersFor ?_ fun _ _ hs => Steady.holds hs
    cases outcome with
    | ok served => exact silent_bind (hemit _ _) fun _ _ _ => trivial
    | error e =>
      have hdenial : Within (Kept Steady SameAudit) (denial rt eventType requestId e) :=
        (Service.kept_eventNow rt _ _).bind fun _ => within_pure _
      refine silent_bind ((quiet_atomic hdenial).silent o₁) fun _ _ _ => ?_
      refine silent_bind (hemit _ _) fun _ _ _ => ?_
      exact silent_atomic fun s => Std.Refl.refl s
  · cases outcome with
    | error e =>
      obtain ⟨_, -, -, hfalse⟩ := htelling
      exact hfalse.elim
    | ok served =>
      obtain ⟨record, hentry, hP, hsame, hsucceeds, htold⟩ := htelling
      obtain ⟨r', ⟨s, rfl⟩, rfl⟩ := Prog.ends_bind.mp hends
      exact ⟨record, hentry, hP, served.2, congrArg (served.2 :: ·) hsame, hsucceeds, htold⟩
  · cases abort with
    | error e => exact htelling.elim
    | panic message =>
      obtain ⟨record, hentry, hP, -⟩ := htelling
      exact ⟨record, hentry, hP, trivial⟩

end

namespace Service

variable {rt : Runtime}

/-- A request that is quiet up to its commit. -/
theorem answersFor_commit {α β : Type} {A : Entry → EStateM.Result Abort Own (α × AuditEvent) → Prop}
    {t : Thread β} {f : β → Thread (α × AuditEvent)} {o : Own} (ht : Quiet Prepares SameAudit t)
    (hf : ∀ b o', (t o).Ends (.ok b o') → SameAudit o o' → (f b o').AnswersFor Holds A) :
    ((t >>= f) o).AnswersFor Holds A :=
  answersFor_after (ht.silent o) (fun _ _ hs => (Prepares.steady hs).holds) fun b o' hends =>
    hf b o' hends (ht.own o _ hends)

/-- The last steps of a request that has stored something: its event is made, or that panics. -/
theorem telling_eventNow (htimes : PanicsOnly rt.crates) {α : Type} {eventType : String}
    {requestId : Option String} {D : α → AuditEvent → Prop} {o : Own} {w : World}
    (hsame : SameAudit o w.own) {response : α} {describe : AuditEvent → AuditEvent}
    (hevent : ∀ timestamp, let event := describe { eventType, timestamp, outcome := "success" }
      event.Succeeds eventType requestId ∧ D response event) :
    Telling eventType requestId D o (ownResult ((do
      let event ← eventNow rt eventType "success"
      return (response, describe event)).run w)) := by
  cases hnow : (eventNow rt eventType "success").run w with
  | ok event w' =>
    rw [run_bind_of_ok hnow]
    obtain ⟨rfl, timestamp, rfl⟩ := of_eventNow hnow
    exact ⟨hsame, hevent timestamp⟩
  | error abort w' =>
    rw [run_bind_of_error hnow]
    obtain ⟨message, rfl⟩ := panics_of_eventNow htimes hnow
    trivial

/-- A record is new in the storage only when its operation returned. -/
theorem holds_final_recordCertificate {record : CertificateRecord} {entry : Entry} {w : World}
    (h : (final ((recordCertificate rt record).run w)).storage.Holds entry) :
    w.storage.Holds entry ∨ entry = .certificate record ∧
      ∃ w', (recordCertificate rt record).run w = .ok () w' := by
  rw [recordCertificate, final_onStorage] at h
  refine (holds_recordCertificate h).imp_right ?_
  rintro ⟨rfl, hstored⟩
  exact ⟨rfl, _, run_onStorage_eq_ok.mpr ⟨(Result.orAbort_eq_ok _ _).mpr hstored, rfl⟩⟩

variable (htimes : PanicsOnly rt.crates) (service : Service)

include htimes

theorem answersFor_issueRecorded (issue : ℕ → Digest 19 → Outcome IssuedCertificate)
    (notBefore now : SystemTime) (record : IssuedCertificate → String → String → CertificateRecord)
    (eventType : String) (describe : IssuedCertificate → AuditEvent → AuditEvent)
    {requestId : Option String} (hevent : ∀ issued starts issuedAt timestamp,
      let event := describe issued { eventType, timestamp, outcome := "success" }
      event.Succeeds eventType requestId ∧
        (record issued starts issuedAt).Told (service.certificateResponse issued) event)
    {P : CertificateRecord → Prop} (hP : ∀ issued starts issuedAt, P (record issued starts issuedAt))
    {o o' : Own} (hsame : SameAudit o o') :
    (atomic (service.issueRecorded rt issue notBefore now record eventType describe) o').AnswersFor
      Holds (Stores .certificate P fun record => Telling eventType requestId record.Told o) := by
  have hold : ∀ w w' : World, Kept Steady SameAudit w w' →
      ∀ entry, w'.storage.Holds entry → w.storage.Holds entry := fun _ _ hkept => hkept.storage.holds
  refine answersFor_atomic fun s => ?_
  have hkey : Within (Kept Steady SameAudit) (withKey rt issue) :=
    Within.bind (idle_kept rt).tick fun _ => within_ofOutcome _
  refine answers_bind hkey hold fun issued w₁ hissued => ?_
  refine answers_bind (within_ofOutcome _) hold fun starts w₂ hstarts => ?_
  refine answers_bind (within_ofOutcome _) hold fun issuedAt w₃ hissuedAt => ?_
  obtain ⟨-, rfl⟩ := of_withKey hissued
  obtain ⟨-, rfl⟩ := run_ofOutcome_eq_ok.mp hstarts
  obtain ⟨-, rfl⟩ := run_ofOutcome_eq_ok.mp hissuedAt
  intro entry hentry
  cases hrecord : (recordCertificate rt (record issued starts issuedAt)).run ((o'.over s).tick rt) with
  | error abort w =>
    rw [run_bind_of_error hrecord] at hentry
    have hfinal : (final ((recordCertificate rt (record issued starts issuedAt)).run
        ((o'.over s).tick rt))).storage.Holds entry := by
      rw [hrecord]
      exact hentry
    obtain hentry | ⟨-, w', hstored⟩ := holds_final_recordCertificate hfinal
    · exact .inl hentry
    · cases hrecord.symm.trans hstored
  | ok u w =>
    rw [run_bind_of_ok hrecord] at hentry ⊢
    have hkept : Within (Kept Steady SameAudit) (do
        let event ← eventNow rt eventType "success"
        return (service.certificateResponse issued, describe issued event)) :=
      (kept_eventNow rt _ _).bind fun _ => within_pure _
    obtain ⟨hstored, rfl⟩ := of_recordCertificate hrecord
    obtain hentry | ⟨rfl, -⟩ := holds_recordCertificate ((hkept _).storage.holds _ hentry)
    · exact .inl hentry
    · refine .inr ⟨_, rfl, hP issued starts issuedAt, telling_eventNow htimes hsame fun timestamp => ?_⟩
      exact hevent issued starts issuedAt timestamp

/-- Whatever is recorded by a plan fulfils `P`. -/
structure Plans (rt : Runtime) (service : Service) (P : CertificateRecord → Prop) : Prop where
  sign : ∀ req requestUrl o validated plan o',
    (service.planSign rt req requestUrl o).Ends (.ok (validated, plan) o') →
      ∀ issued starts issuedAt, P (plan.record issued starts issuedAt)
  reissue : ∀ certificatePem newCsrPem dpop requestUrl o auth plan o',
    (service.planReissue rt certificatePem newCsrPem dpop requestUrl o).Ends (.ok (auth, plan) o') →
      ∀ issued starts issuedAt, P (plan.record issued starts issuedAt)

omit htimes in
theorem plans_any : service.Plans rt fun _ => True where
  sign := fun _ _ _ _ _ _ _ _ _ _ => trivial
  reissue := fun _ _ _ _ _ _ _ _ _ _ _ _ => trivial

variable {P : CertificateRecord → Prop} (hplans : service.Plans rt P)

include hplans

theorem answersFor_signThread (req : SignRequest) (requestUrl : String) (requestId : Option String)
    (o : Own) : (service.signThread rt req requestUrl requestId o).AnswersFor Holds
      (Stores .certificate P fun record => Told "certificate.issued" requestId record.Told o) := by
  refine answersFor_audited (answersFor_commit (service.quiet_planSign rt req requestUrl) ?_)
  rintro ⟨validated, plan⟩ o₁ hends hsame
  refine answersFor_commit (quiet_claimSign rt validated plan) fun _ o₂ _ hsame' => ?_
  exact answersFor_issueRecorded htimes service _ _ _ plan.record _ _
    (fun _ _ _ _ => ⟨⟨rfl, rfl, rfl⟩, rfl, rfl, rfl, rfl, rfl⟩)
    (hplans.sign req requestUrl o validated plan o₁ hends) (trans_of SameAudit hsame hsame')

theorem answersFor_reissueThread (certificatePem : String) (newCsrPem dpop : Option String)
    (requestUrl : String) (requestId : Option String) (o : Own) :
    (service.reissueThread rt certificatePem newCsrPem dpop requestUrl requestId o).AnswersFor Holds
      (Stores .certificate P fun record =>
        Told (reissueEventType newCsrPem) requestId record.Told o) := by
  have hquiet := service.quiet_planReissue rt certificatePem newCsrPem dpop requestUrl
  refine answersFor_audited (answersFor_commit hquiet ?_)
  rintro ⟨auth, plan⟩ o₁ hends hsame
  refine answersFor_commit (quiet_claimReissue rt auth plan) fun _ o₂ _ hsame' => ?_
  exact answersFor_issueRecorded htimes service _ _ _ plan.record _ _
    (fun _ _ _ _ => ⟨⟨rfl, rfl, rfl⟩, rfl, rfl, rfl, rfl, rfl⟩)
    (hplans.reissue certificatePem newCsrPem dpop requestUrl o auth plan o₁ hends)
    (trans_of SameAudit hsame hsame')

omit hplans

theorem answersFor_revokeCommit {req : RevokeRequest} (auth : RevokeAuth) {serial : String}
    (hserial : normalizeSerial rt.crates req.serialNumber = .ok serial) (now : SystemTime)
    (requestId : Option String) {o o' : Own} (hsame : SameAudit o o') :
    (atomic (revokeCommit rt req auth serial now requestId) o').AnswersFor Holds
      (Stores .revocation (fun _ => True) fun record =>
        Telling "certificate.revoked" requestId (record.Told rt.crates req) o) := by
  refine answersFor_atomic fun s => ?_
  refine answers_bind (R := Kept Steady SameAudit) (within_ofOutcome _)
    (fun _ _ hkept => hkept.storage.holds) fun revokedAt w hformat => ?_
  obtain ⟨-, rfl⟩ := run_ofOutcome_eq_ok.mp hformat
  intro entry hentry
  have hkept : Within (Kept Steady SameAudit) (do
      let event ← eventNow rt "certificate.revoked" "success"
      return (({ status := "revoked" } : RevokeResponse), ({ event with
        provisioner := auth.provisioner
        serialNumber := some serial
        detail := req.reason
        requestId } : AuditEvent))) :=
    (kept_eventNow rt _ _).bind fun _ => within_pure _
  obtain hentry | rfl := holds_revoke ((hkept _).storage.holds _ hentry)
  · exact .inl hentry
  · refine .inr ⟨_, rfl, trivial, telling_eventNow htimes hsame fun timestamp => ?_⟩
    exact ⟨⟨rfl, rfl, rfl⟩, rfl, hserial, rfl, rfl, rfl⟩

theorem answersFor_revokeThread (req : RevokeRequest) (dpop : Option String) (requestUrl : String)
    (requestId : Option String) (o : Own) :
    (service.revokeThread rt req dpop requestUrl requestId o).AnswersFor Holds
      (Stores .revocation (fun _ => True) fun record =>
        Told "certificate.revoked" requestId (record.Told rt.crates req) o) := by
  have hplan := service.quiet_planRevoke rt req dpop requestUrl
  refine answersFor_audited (answersFor_commit hplan ?_)
  rintro ⟨serial, now, auth⟩ o₁ hends hsame
  refine answersFor_commit (quiet_revokeClaimJti rt auth) fun _ o₂ _ hsame' => ?_
  exact answersFor_revokeCommit htimes auth (service.serial_of_planRevoke hends) now requestId
    (trans_of SameAudit hsame hsame')

end Service

end Ayane
