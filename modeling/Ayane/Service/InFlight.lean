import Ayane.Lib.Run
import Ayane.Service.ReissueRequest
import Ayane.Testca.Server

/-!
# Requests in flight

Instances that share one storage serve requests to renew, rekey and revoke at the same
time. Each request advances on its own: it is authenticated, planned (which consults the
hooks), makes its claims and commits. A claim reads the clock in one step and is
committed in a later one. Between any two steps time passes and the storage is used by
others.
-/

namespace Ayane.InFlight

open Ayane.Action Effect

/-! ## The requests -/

/-- A request to renew or rekey, at the instance that serves it. -/
structure ReissueCall where
  service : Service
  request : ReissueRequest
  dpop : Option String
  requestUrl : String

/-- A request to revoke, at the instance that serves it. -/
structure RevokeCall where
  service : Service
  req : RevokeRequest
  dpop : Option String
  requestUrl : String

/-- A revocation that has been authorized. -/
structure Revocation where
  call : RevokeCall
  auth : Service.RevokeAuth
  serial : String
  /-- When the request was read. -/
  now : SystemTime

/-- The key and the expiry of the claim of the credential. -/
def Revocation.claim (rev : Revocation) : String × Outcome SystemTime :=
  match rev.auth with
  | .token validated => (jtiKey "ott" validated.replayId,
      (systemTimeFromEpoch validated.claims.exp).plus replayLeeway)
  | .proof proof => (jtiKey "dpop" proof.jti, Service.proofExpiry proof)

/-- How far a request has come. -/
inductive Stage where
  | idle
  | authenticated (call : ReissueCall) (auth : Service.ReissueAuth)
  | planned (call : ReissueCall) (plan : Service.ReissuePlan)
  | authorized (rev : Revocation)
  /-- The clock has been read for the claim that a request at `held` makes. -/
  | claiming (held : Stage) (claim : PendingClaim)
  /-- The proof has been claimed, and these scopes have not. -/
  | claimed (call : ReissueCall) (plan : Service.ReissuePlan) (scopes : List OnceClaim)
  | signed (call : ReissueCall) (plan : Service.ReissuePlan) (issued : IssuedCertificate)
  /-- The credential of the revocation has been claimed. -/
  | consumed (rev : Revocation)
  | ended

/-- The claim that a request makes next, and the stage it reaches by it. -/
structure NextClaim where
  key : String
  expiresAt : Outcome SystemTime
  after : Stage

def Stage.nextClaim : Stage → Option NextClaim
  | .planned call plan => some {
      key := jtiKey "dpop" plan.auth.proof.jti
      expiresAt := Service.proofExpiry plan.auth.proof
      after := .claimed call plan plan.custom.onceClaims }
  | .claimed call plan (scope :: scopes) => some {
      key := scope.key
      expiresAt := .ok (scope.expiresAt.getD plan.custom.notAfter)
      after := .claimed call plan scopes }
  | .authorized rev => some {
      key := rev.claim.1
      expiresAt := rev.claim.2
      after := .consumed rev }
  | _ => none

/-- The serial number of the certificate that is presented. -/
def presentedSerial (auth : Service.ReissueAuth) : String :=
  serialToDecimal auth.cert.tbsCertificate.serialNumber

/-! ## Steps -/

/-- A claim that was committed at `instant`, for a request at `held`. -/
structure Commit where
  id : ℕ
  held : Stage
  claim : PendingClaim
  instant : SystemTime

/-- What has happened to a request. -/
inductive Event where
  /-- The presented certificate was looked up and was not revoked. -/
  | checked (id : ℕ) (serial : String)
  | claimed (commit : Commit)
  /-- The reissue of the certificate was recorded and returned. -/
  | returned (id : ℕ) (serial : String)
  /-- A revocation was stored and reported as a success. -/
  | revoked (id : ℕ) (serial : String)

structure Config where
  world : World
  stages : ℕ → Stage
  /-- The events, the latest first. -/
  log : List Event

def Config.start (w : World) : Config := ⟨w, fun _ => .idle, []⟩

/-- The request `id` reaches `stage`, and leaves the world as `w`. -/
def Config.advance (c : Config) (id : ℕ) (stage : Stage) (w : World) : Config :=
  { c with world := w, stages := Function.update c.stages id stage }

def Config.note (c : Config) (event : Event) : Config := { c with log := event :: c.log }

@[simp] theorem Config.world_advance (c : Config) (id : ℕ) (stage : Stage) (w : World) :
    (c.advance id stage w).world = w := rfl

@[simp] theorem Config.stages_advance (c : Config) (id : ℕ) (stage : Stage) (w : World) :
    (c.advance id stage w).stages = Function.update c.stages id stage := rfl

@[simp] theorem Config.world_note (c : Config) (event : Event) : (c.note event).world = c.world := rfl

@[simp] theorem Config.stages_note (c : Config) (event : Event) :
    (c.note event).stages = c.stages := rfl

/-- The steps of a run in which claims are committed when they are `Admitted`. -/
inductive Step (crates : ServerCrates) (Admitted : Config → Commit → Prop) (c : Config) :
    Config → Prop where
  | wait {w : World} (h : c.world.Waits w) : Step crates Admitted c { c with world := w }
  | upkeep {s : Storage} (h : c.world.storage.Upkeep c.world.clock s) :
      Step crates Admitted c { c with world := { c.world with storage := s } }
  /-- Any other request commits a claim of any key. -/
  | claim (claim : PendingClaim) (hnow : claim.now ≤ unixSecs c.world.clock) :
      Step crates Admitted c {
        c with world := { c.world with storage := (c.world.storage.commitClaim claim).2 } }
  /-- A request ends without success. -/
  | abandon (id : ℕ) : Step crates Admitted c (c.advance id .ended c.world)
  | authenticate (rt : Runtime) (hrt : rt.crates = crates) {id : ℕ} {call : ReissueCall}
      {auth : Service.ReissueAuth} {w : World} (hstage : c.stages id = .idle)
      (h : (call.service.reissueAuthenticate rt call.request.certificate call.dpop
        call.requestUrl).run c.world = .ok auth w) :
      Step crates Admitted c
        ((c.advance id (.authenticated call auth) w).note (.checked id (presentedSerial auth)))
  | plan (rt : Runtime) (hrt : rt.crates = crates) {id : ℕ} {call : ReissueCall}
      {auth : Service.ReissueAuth} {plan : Service.ReissuePlan} {w : World}
      (hstage : c.stages id = .authenticated call auth)
      (h : (call.service.reissuePlan rt auth call.request.newCsr).run c.world = .ok plan w) :
      Step crates Admitted c (c.advance id (.planned call plan) w)
  | authorize (rt : Runtime) (hrt : rt.crates = crates) {id : ℕ} {rev : Revocation} {w : World}
      (hstage : c.stages id = .idle)
      (hserial : normalizeSerial rt.crates rev.call.req.serialNumber = .ok rev.serial)
      (hnow : rev.now = (c.world.tick rt).clock)
      (h : (rev.call.service.revokeAuthenticate rt rev.call.req rev.call.dpop rev.call.requestUrl
        rev.serial rev.now).run (c.world.tick rt) = .ok rev.auth w) :
      Step crates Admitted c (c.advance id (.authorized rev) w)
  /-- Read the clock for the next claim. -/
  | prepare (rt : Runtime) (hrt : rt.crates = crates) {id : ℕ} {held : Stage} {next : NextClaim}
      {expiresAt : SystemTime} {claim : PendingClaim} (hstage : c.stages id = held)
      (hnext : held.nextClaim = some next) (hexpires : next.expiresAt = .ok expiresAt)
      (h : c.world.prepareOnce rt next.key expiresAt = .ok claim) :
      Step crates Admitted c (c.advance id (.claiming held claim) ((c.world.tick rt).tick rt))
  | commit {id : ℕ} {held : Stage} {next : NextClaim} {claim : PendingClaim}
      (hstage : c.stages id = .claiming held claim) (hnext : held.nextClaim = some next)
      (hfree : c.world.storage.Claimable claim.now claim.jti)
      (hadmitted : Admitted c ⟨id, held, claim, c.world.clock⟩) :
      Step crates Admitted c
        ((c.advance id next.after
          { c.world with storage := (c.world.storage.commitClaim claim).2 }).note
            (.claimed ⟨id, held, claim, c.world.clock⟩))
  | sign (rt : Runtime) (hrt : rt.crates = crates) {id : ℕ} {call : ReissueCall}
      {plan : Service.ReissuePlan} {issued : IssuedCertificate} {w : World}
      (hstage : c.stages id = .claimed call plan [])
      (h : (withKey rt fun n entropy =>
        call.service.ca.reissue rt.crates n entropy plan.reissueParams).run c.world = .ok issued w) :
      Step crates Admitted c (c.advance id (.signed call plan issued) w)
  | record (rt : Runtime) (hrt : rt.crates = crates) {id : ℕ} {call : ReissueCall}
      {plan : Service.ReissuePlan} {issued : IssuedCertificate} {notBefore issuedAt : String}
      {w : World} (hstage : c.stages id = .signed call plan issued)
      (hnotBefore : rt.crates.times.formatRfc3339 plan.custom.notBefore = .ok notBefore)
      (hissuedAt : rt.crates.times.formatRfc3339 plan.auth.now = .ok issuedAt)
      (h : (recordCertificate rt (plan.record issued notBefore issuedAt)).run c.world = .ok () w) :
      Step crates Admitted c
        ((c.advance id .ended w).note (.returned id (presentedSerial plan.auth)))
  | revoke (rt : Runtime) (hrt : rt.crates = crates) {id : ℕ} {rev : Revocation}
      {requestId : Option String} {served : RevokeResponse × AuditEvent} {w : World}
      (hstage : c.stages id = .consumed rev)
      (h : (Service.revokeCommit rt rev.call.req rev.auth rev.serial rev.now requestId).run
        c.world = .ok served w) :
      Step crates Admitted c ((c.advance id .ended w).note (.revoked id rev.serial))

abbrev Run (crates : ServerCrates) (Admitted : Config → Commit → Prop) : Config → Config → Prop :=
  Runs.Run (Step crates Admitted)

/-! ## What steps keep -/

section

variable {crates : ServerCrates} {Admitted : Config → Commit → Prop} {c c' : Config}

/-- A claim that was prepared, no later than `t`, for what a request at `held` claims next. -/
structure Prepared (held : Stage) (claim : PendingClaim) (t : SystemTime) : Prop where
  now : claim.now ≤ unixSecs t
  next : ∃ next expiresAt, held.nextClaim = some next ∧ next.expiresAt = .ok expiresAt ∧
    claim.jti = next.key ∧ unixSecs expiresAt ≤ claim.expiresAt

theorem Prepared.mono {held : Stage} {claim : PendingClaim} {t t' : SystemTime}
    (h : Prepared held claim t) (ht : t ≤ t') : Prepared held claim t' :=
  ⟨h.now.trans (unixSecs_mono ht), h.next⟩

/-- The claims that are about to be committed were prepared. -/
def Ready (c : Config) : Prop :=
  ∀ id held claim, c.stages id = .claiming held claim → Prepared held claim c.world.clock

theorem Ready.later (h : Ready c) {w : World} (hclock : c.world.clock ≤ w.clock) :
    Ready { c with world := w } :=
  fun id held claim hstage => (h id held claim hstage).mono hclock

theorem Ready.advance (h : Ready c) {id : ℕ} {stage : Stage} {w : World}
    (hclock : c.world.clock ≤ w.clock)
    (hnew : ∀ held claim, stage = .claiming held claim → Prepared held claim w.clock) :
    Ready (c.advance id stage w) := by
  intro id' held claim hstage
  by_cases hid : id' = id
  · subst hid
    exact hnew held claim ((Function.update_self ..).symm.trans hstage)
  · exact (h id' held claim ((Function.update_of_ne hid ..).symm.trans hstage)).mono hclock

/-- What holds of every stage holds of every stage after one of them has changed. -/
theorem forall_update {P : Stage → Prop} {stages : ℕ → Stage} (h : ∀ id, P (stages id)) {id : ℕ}
    {stage : Stage} (hstage : P stage) : ∀ id', P (Function.update stages id stage id') :=
  (Function.forall_update_iff stages fun _ => P).mpr ⟨hstage, fun id' _ => h id'⟩

theorem after_ne_claiming {held held' : Stage} {next : NextClaim} {claim : PendingClaim}
    (h : held.nextClaim = some next) : next.after ≠ .claiming held' claim := by
  unfold Stage.nextClaim at h
  split at h <;> cases h <;> exact Stage.noConfusion

/-- Steps turn no clock back and end no claim early. -/
theorem Step.evolves (h : Step crates Admitted c c') (hready : Ready c) :
    c.world.Evolves c'.world := by
  cases h with
  | wait h => exact h.evolves
  | upkeep h => exact evolves_upkeep h
  | claim claim hnow => exact ⟨Storage.evolves_commitClaim _ le_rfl hnow, le_rfl, List.suffix_rfl⟩
  | abandon id => exact Std.Refl.refl c.world
  | authenticate rt hrt hstage h =>
    exact ((Service.waits_reissueAuthenticate rt _ _ _ _).of_ok h).evolves
  | plan rt hrt hstage h => exact ((Service.waits_reissuePlan rt _ _ _).of_ok h).evolves
  | authorize rt hrt hstage hserial hnow h =>
    have hauth := (Service.waits_revokeAuthenticate rt _ _ _ _ _ _).of_ok h
    exact (trans_of World.Waits (waits_tick rt _) hauth).evolves
  | prepare rt hrt hstage hnext hexpires h =>
    exact (trans_of World.Waits (waits_tick rt _) (waits_tick rt _)).evolves
  | commit hstage hnext hfree hadmitted =>
    have hnow := (hready _ _ _ hstage).now
    exact ⟨Storage.evolves_commitClaim _ le_rfl hnow, le_rfl, List.suffix_rfl⟩
  | sign rt hrt hstage h => exact ((waits_withKey rt _).of_ok h).evolves
  | record rt hrt hstage hnotBefore hissuedAt h => exact (evolves_recordCertificate rt _).of_ok h
  | revoke rt hrt hstage h => exact (Service.evolves_revokeCommit rt _ _ _ _ _).of_ok h

theorem Step.ready (h : Step crates Admitted c c') (hready : Ready c) : Ready c' := by
  have hclock := (h.evolves hready).clock
  cases h with
  | wait h => exact hready.later hclock
  | upkeep h => exact hready.later hclock
  | claim claim hnow => exact hready.later hclock
  | abandon id => exact hready.advance hclock nofun
  | authenticate rt hrt hstage h => exact Ready.advance (c := c) hready hclock nofun
  | plan rt hrt hstage h => exact hready.advance hclock nofun
  | authorize rt hrt hstage hserial hnow h => exact hready.advance hclock nofun
  | prepare rt hrt hstage hnext hexpires h =>
    refine hready.advance hclock ?_
    rintro _ _ ⟨⟩
    obtain ⟨hjti, hnow, hends, -⟩ := of_prepareOnce h
    exact ⟨hnow.le, _, _, hnext, hexpires, hjti, hends⟩
  | commit hstage hnext hfree hadmitted =>
    exact Ready.advance (c := c) hready hclock fun _ _ h => absurd h (after_ne_claiming hnext)
  | sign rt hrt hstage h => exact hready.advance hclock nofun
  | record rt hrt hstage hnotBefore hissuedAt h => exact Ready.advance (c := c) hready hclock nofun
  | revoke rt hrt hstage h => exact Ready.advance (c := c) hready hclock nofun

/-- What a step adds to the log: a claim that was free and admitted, or something else. -/
theorem Step.log (h : Step crates Admitted c c') :
    (∃ commit, c.stages commit.id = .claiming commit.held commit.claim ∧
      commit.instant = c.world.clock ∧
      c.world.storage.Claimable commit.claim.now commit.claim.jti ∧ Admitted c commit ∧
      c'.world = { c.world with storage := (c.world.storage.commitClaim commit.claim).2 } ∧
      c'.log = .claimed commit :: c.log) ∨
    c'.log = c.log ∨ ∃ event, (∀ commit, event ≠ .claimed commit) ∧ c'.log = event :: c.log := by
  cases h with
  | commit hstage hnext hfree hadmitted =>
    exact .inl ⟨⟨_, _, _, _⟩, hstage, rfl, hfree, hadmitted, rfl, rfl⟩
  | authenticate rt hrt hstage h => exact .inr (.inr ⟨_, fun _ => Event.noConfusion, rfl⟩)
  | record rt hrt hstage hnotBefore hissuedAt h =>
    exact .inr (.inr ⟨_, fun _ => Event.noConfusion, rfl⟩)
  | revoke rt hrt hstage h => exact .inr (.inr ⟨_, fun _ => Event.noConfusion, rfl⟩)
  | _ => exact .inr (.inl rfl)

end

/-! ## Requests that are not interrupted -/

section

variable {rt : Runtime} {c : Config} {id : ℕ} {w : World}

/-- A claim that succeeds is prepared and committed, with a moment in between. -/
theorem run_claim {held : Stage} {next : NextClaim} {expiresAt : SystemTime} {msg : String} {u : Unit}
    (hstage : c.stages id = held) (hnext : held.nextClaim = some next)
    (hexpires : next.expiresAt = .ok expiresAt)
    (h : (claimOnce rt next.key expiresAt msg).run c.world = .ok u w) :
    ∃ c', Run rt.crates (fun _ _ => True) c c' ∧ c'.stages id = next.after ∧ c'.world = w := by
  obtain ⟨claim, hclaim, hfree, rfl⟩ := run_claimOnce_eq_ok.mp h
  obtain ⟨hjti, -⟩ := of_prepareOnce hclaim
  have hprepare : Step rt.crates (fun _ _ => True) c
      (c.advance id (.claiming held claim) ((c.world.tick rt).tick rt)) :=
    .prepare rt rfl hstage hnext hexpires hclaim
  have hwait : Step rt.crates (fun _ _ => True)
      (c.advance id (.claiming held claim) ((c.world.tick rt).tick rt))
      (c.advance id (.claiming held claim) (((c.world.tick rt).tick rt).tick rt)) :=
    .wait (waits_tick rt _)
  have hcommit := @Step.commit rt.crates (fun _ _ => True)
    (c.advance id (.claiming held claim) (((c.world.tick rt).tick rt).tick rt)) id held next claim
    (Function.update_self ..) hnext (hjti.symm ▸ hfree) trivial
  exact ⟨_, ((Relation.ReflTransGen.single hprepare).tail hwait).tail hcommit,
    Function.update_self .., rfl⟩

theorem run_scopes {call : ReissueCall} {plan : Service.ReissuePlan} {scopes : List OnceClaim} {u : Unit}
    (hstage : c.stages id = .claimed call plan scopes)
    (h : (claimOnceScopes rt scopes plan.custom.notAfter).run c.world = .ok u w) :
    ∃ c', Run rt.crates (fun _ _ => True) c c' ∧ c'.stages id = .claimed call plan [] ∧
      c'.world = w := by
  induction scopes generalizing c with
  | nil =>
    cases h
    exact ⟨c, .refl, hstage, rfl⟩
  | cons scope scopes ih =>
    obtain ⟨_, w₁, hfirst, hrest⟩ := run_bind_eq_ok.mp h
    obtain ⟨c₁, hrun, hstage₁, rfl⟩ := run_claim hstage rfl rfl hfirst
    obtain ⟨c', hrun', hstage', hworld⟩ := ih hstage₁ hrest
    exact ⟨c', hrun.trans hrun', hstage', hworld⟩

theorem run_reissueIssue {call : ReissueCall} {plan : Service.ReissuePlan} {eventType : String}
    {requestId : Option String} {served : CertificateResponse × AuditEvent}
    (hstage : c.stages id = .claimed call plan [])
    (h : (call.service.reissueIssue rt plan eventType requestId).run c.world = .ok served w) :
    ∃ c' log, Run rt.crates (fun _ _ => True) c c' ∧ c'.world = w ∧
      c'.log = .returned id (presentedSerial plan.auth) :: log := by
  unfold Service.reissueIssue at h
  simp only [run_bind_eq_ok, run_ofOutcome_eq_ok] at h
  obtain ⟨issued, _, hissue, notBefore, _, ⟨hnb, rfl⟩, issuedAt, w₁, ⟨hat, rfl⟩, _, w₂, hrecord,
    event, w₃, hevent, hpure⟩ := h
  cases hpure
  have hsign : Step rt.crates (fun _ _ => True) c (c.advance id (.signed call plan issued) w₁) :=
    .sign rt rfl hstage hissue
  have hrecorded := @Step.record rt.crates (fun _ _ => True)
    (c.advance id (.signed call plan issued) w₁) rt rfl id call plan issued notBefore issuedAt w₂
    (Function.update_self ..) hnb hat hrecord
  have hreported := @Step.wait rt.crates (fun _ _ => True) (((c.advance id (.signed call plan issued)
    w₁).advance id .ended w₂).note (.returned id (presentedSerial plan.auth))) w
    ((waits_eventNow rt _ _).of_ok hevent)
  exact ⟨_, c.log, ((Relation.ReflTransGen.single hsign).tail hrecorded).tail hreported, rfl, rfl⟩

/-- A request to renew or rekey that succeeds without interruption is a run. -/
theorem run_of_request {call : ReissueCall} {requestId : Option String} {response : CertificateResponse}
    (hstage : c.stages id = .idle)
    (h : (call.request.run rt call.service call.dpop call.requestUrl requestId).run c.world =
      .ok response w) :
    ∃ c' cert log, Run rt.crates (fun _ _ => True) c c' ∧ c'.world = w ∧
      X509.certificateFromPem rt.crates call.request.certificate = .ok cert ∧
      c'.log = .returned id (serialToDecimal cert.tbsCertificate.serialNumber) :: log := by
  obtain ⟨eventType, auth, w₁, plan, w₂, w₃, w₄, event, w₅, hauth, hplan, hjti, hscopes, hissue, rfl⟩ :=
    ReissueRequest.of_run h
  obtain ⟨_, _, _, _, _, -, -, -, -, -, rfl, -⟩ := Service.of_reissuePlan hplan
  have hverified := @Step.authenticate rt.crates (fun _ _ => True) c rt rfl id call plan.auth w₁ hstage
    hauth
  have hplanned := @Step.plan rt.crates (fun _ _ => True)
    ((c.advance id (.authenticated call plan.auth) w₁).note (.checked id (presentedSerial plan.auth)))
    rt rfl id call plan.auth plan w₂ (Function.update_self ..) hplan
  have hstage₀ : (((c.advance id (.authenticated call plan.auth) w₁).note
      (.checked id (presentedSerial plan.auth))).advance id (.planned call plan) w₂).stages id =
        .planned call plan := Function.update_self ..
  obtain ⟨expiresAt, _, hoff, hclaim⟩ := run_bind_eq_ok.mp hjti
  obtain ⟨hexpires, rfl⟩ := run_ofOutcome_eq_ok.mp hoff
  unfold claimJti at hclaim
  obtain ⟨c₁, hclaimed, hstage₁, rfl⟩ := run_claim hstage₀ rfl hexpires hclaim
  obtain ⟨c₂, hscoped, hstage₂, rfl⟩ := run_scopes hstage₁ hscopes
  obtain ⟨c₃, log, hissued, rfl, hlog⟩ := run_reissueIssue hstage₂ hissue
  have hreported : Step rt.crates (fun _ _ => True) c₃
      { c₃ with world := { c₃.world with audit := event :: c₃.world.audit } } :=
    .wait ⟨rfl, le_rfl, List.suffix_rfl⟩
  have hcert := (Service.of_reissueAuthenticate hauth).1
  refine ⟨{ c₃ with world := { c₃.world with audit := event :: c₃.world.audit } }, plan.auth.cert, log,
    ?_, rfl, hcert, hlog⟩
  exact ((((Relation.ReflTransGen.single hverified).tail hplanned).trans hclaimed).trans
    (hscoped.trans hissued)).tail hreported

end

/-! ## A renewal -/

/-- The leaf is to be renewed, with a proof that was issued at second 1500. -/
def renewal : ReissueCall where
  service := Testca.service true []
  request := .renew ⟨Testca.pem (Testca.certificateDer Testca.leaf)⟩
  dpop := some (Testca.token "d" 1 [3])
  requestUrl := "ca"

def renewalAuth : Service.ReissueAuth where
  cert := Testca.leaf
  proof := { jti := "p-1", issuedAt := Testca.instant 1500 }
  now := Testca.instant 1500

def renewalPlan : Service.ReissuePlan where
  auth := renewalAuth
  publicKey := Testca.leaf.tbsCertificate.subjectPublicKeyInfo
  isRekey := false
  baselineSubject := ""
  custom := {
    subjectCommonName := none
    sans := []
    notBefore := Testca.instant 1500
    notAfter := Testca.instant 9500
    keyUsage := none
    extendedKeyUsage := none
    additionalExtensions := []
    onceClaims := []
    renewable := true }

end Ayane.InFlight
