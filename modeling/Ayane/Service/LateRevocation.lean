import Ayane.Service.InFlight
import Ayane.Storage.Revocations

/-!
# Revocations of certificates that are being reissued

A request to renew or rekey looks the presented certificate up once, before the hooks are
asked. A revocation that is stored after that goes unnoticed, however long the request
still takes; one that is stored before is always found.
-/

namespace Ayane.InFlight

open Ayane.Action Effect

/-- The serial number of the certificate that a request is reissuing. -/
def Stage.reissues : Stage → Option String
  | .authenticated _ auth => some (presentedSerial auth)
  | .planned _ plan | .claimed _ plan _ | .signed _ plan _ => some (presentedSerial plan.auth)
  | .claiming held _ => held.reissues
  | .idle | .authorized _ | .consumed _ | .ended => none

/-- The request `id` looked the certificate up, and no revocation had been returned by then. -/
def CheckedIn (id : ℕ) (serial : String) (log : List Event) : Prop :=
  ∃ old, (.checked id serial :: old) <:+ log ∧ ∀ id', .revoked id' serial ∉ old

theorem CheckedIn.mono {id : ℕ} {serial : String} {log log' : List Event} (h : CheckedIn id serial log)
    (hlog : log <:+ log') : CheckedIn id serial log' := by
  obtain ⟨old, hold, hnone⟩ := h
  exact ⟨old, hold.trans hlog, hnone⟩

/-- A revocation that is committed is in the storage. -/
theorem of_revokeCommit {rt : Runtime} {req : RevokeRequest} {auth : Service.RevokeAuth}
    {serial : String} {now : SystemTime} {requestId : Option String} {w w' : World}
    {served : RevokeResponse × AuditEvent}
    (h : (Service.revokeCommit rt req auth serial now requestId).run w = .ok served w') :
    ∃ record : RevocationRecord, record.serialNumber = serial ∧ w'.storage = w.storage.revoke record := by
  unfold Service.revokeCommit at h
  simp only [run_bind_eq_ok, run_ofOutcome_eq_ok] at h
  obtain ⟨revokedAt, _, ⟨-, rfl⟩, _, w₁, hrevoke, event, w₂, hevent, hpure⟩ := h
  obtain ⟨-, rfl⟩ := run_onStorage_eq_ok.mp hrevoke
  have hstorage := storage_of_eventNow hevent
  cases hpure
  exact ⟨_, rfl, hstorage⟩

theorem retains_of_waits {w w' : World} (h : w.Waits w') : w.storage.Retains w'.storage := by
  rw [h.storage]
  exact .refl _

section

variable {crates : ServerCrates} {Admitted : Config → Commit → Prop} {c c' : Config}

/-- No step loses a revocation. -/
theorem Step.retains (h : Step crates Admitted c c') (hread : c.world.storage.Readable) :
    c.world.storage.Retains c'.world.storage := by
  cases h with
  | wait h => exact retains_of_waits h
  | upkeep h => exact h.retains hread
  | claim claim hnow => exact Storage.retains_commitClaim claim _
  | abandon id => exact .refl _
  | authenticate rt hrt hstage h =>
    exact retains_of_waits ((Service.waits_reissueAuthenticate rt _ _ _ _).of_ok h)
  | plan rt hrt hstage h => exact retains_of_waits ((Service.waits_reissuePlan rt _ _ _).of_ok h)
  | authorize rt hrt hstage hserial hnow h =>
    have hauth := (Service.waits_revokeAuthenticate rt _ _ _ _ _ _).of_ok h
    exact retains_of_waits (trans_of World.Waits (waits_tick rt _) hauth)
  | prepare rt hrt hstage hnext hexpires h => exact .refl _
  | commit hstage hnext hfree hadmitted => exact Storage.retains_commitClaim _ _
  | sign rt hrt hstage h => exact retains_of_waits ((waits_withKey rt _).of_ok h)
  | record rt hrt hstage hnotBefore hissuedAt h =>
    obtain ⟨-, rfl⟩ := of_recordCertificate h
    exact Storage.retains_recordCertificate _ _
  | revoke rt hrt hstage h =>
    obtain ⟨record, -, hstorage⟩ := of_revokeCommit h
    rw [Config.world_note, Config.world_advance, hstorage]
    exact (Storage.revoked_revoke record hread).1

/-- What is known of a request in flight and of the log. -/
structure Noted (c : Config) : Prop where
  readable : c.world.storage.Readable
  stored : ∀ id serial, .revoked id serial ∈ c.log → c.world.storage.Revoked serial
  pending : ∀ id serial, (c.stages id).reissues = some serial → CheckedIn id serial c.log
  returned : ∀ id serial log, (.returned id serial :: log) <:+ c.log → CheckedIn id serial log

/-- A request that looks its certificate up in `c` finds no revocation that has been returned. -/
theorem Noted.checkedIn (h : Noted c) (id : ℕ) {serial : String}
    (hnone : c.world.storage.getRevocation serial = .ok none) :
    CheckedIn id serial (.checked id serial :: c.log) := by
  refine ⟨c.log, List.suffix_rfl, fun id' hrevoked => ?_⟩
  obtain ⟨record, hrecord⟩ := h.stored id' serial hrevoked
  cases hnone.symm.trans hrecord

/-- How a step moves a request on: it looks its certificate up, or goes on with the same one, or is
done with it. -/
theorem Step.reissues (h : Step crates Admitted c c') {id : ℕ} {serial : String}
    (hserial : (c'.stages id).reissues = some serial) :
    (c.stages id).reissues = some serial ∨
      c'.log = .checked id serial :: c.log ∧ c.world.storage.getRevocation serial = .ok none := by
  have hmoved : ∀ {id' : ℕ} {stage : Stage},
      (Function.update c.stages id' stage id).reissues = some serial →
      (∀ s, stage.reissues = some s → (c.stages id').reissues = some s) →
      (c.stages id).reissues = some serial := by
    intro id' stage hserial hsame
    by_cases hid : id = id'
    · subst hid
      rw [Function.update_self] at hserial
      exact hsame serial hserial
    · rw [Function.update_of_ne hid] at hserial
      exact hserial
  cases h with
  | wait h => exact .inl hserial
  | upkeep h => exact .inl hserial
  | claim claim hnow => exact .inl hserial
  | abandon id' => exact .inl (hmoved hserial nofun)
  | @authenticate rt hrt id' call auth w hstage h =>
    rw [Config.stages_note, Config.stages_advance] at hserial
    by_cases hid : id = id'
    · subst hid
      rw [Function.update_self] at hserial
      cases hserial
      exact .inr ⟨rfl, (Service.of_reissueAuthenticate h).2.2.1⟩
    · rw [Function.update_of_ne hid] at hserial
      exact .inl hserial
  | plan rt hrt hstage h =>
    obtain ⟨_, _, _, _, _, -, -, -, -, -, hauth, -⟩ := Service.of_reissuePlan h
    refine .inl (hmoved hserial fun s hs => ?_)
    rw [hstage]
    rw [Stage.reissues, hauth] at hs
    exact hs
  | authorize rt hrt hstage hrev hnow h => exact .inl (hmoved hserial nofun)
  | prepare rt hrt hstage hnext hexpires h =>
    refine .inl (hmoved hserial fun s hs => ?_)
    rw [hstage]
    exact hs
  | commit hstage hnext hfree hadmitted =>
    refine .inl (hmoved hserial fun s hs => ?_)
    rw [hstage, Stage.reissues]
    unfold Stage.nextClaim at hnext
    split at hnext <;> cases hnext <;> exact hs
  | sign rt hrt hstage h =>
    refine .inl (hmoved hserial fun s hs => ?_)
    rw [hstage]
    exact hs
  | record rt hrt hstage hnotBefore hissuedAt h => exact .inl (hmoved hserial nofun)
  | revoke rt hrt hstage h => exact .inl (hmoved hserial nofun)

/-- What a step notes: the return of a reissue in flight, a revocation that is stored, or something
else. -/
theorem Step.notes (h : Step crates Admitted c c') :
    c'.log = c.log ∨ ∃ event, c'.log = event :: c.log ∧
      (∀ id serial, event = .returned id serial → (c.stages id).reissues = some serial) ∧
      ∀ id serial, event = .revoked id serial →
        ∃ record : RevocationRecord, record.serialNumber = serial ∧
          c'.world.storage = c.world.storage.revoke record := by
  cases h with
  | authenticate rt hrt hstage h => exact .inr ⟨_, rfl, nofun, nofun⟩
  | commit hstage hnext hfree hadmitted => exact .inr ⟨_, rfl, nofun, nofun⟩
  | record rt hrt hstage hnotBefore hissuedAt h =>
    refine .inr ⟨_, rfl, ?_, nofun⟩
    rintro _ _ ⟨⟩
    rw [hstage]
    rfl
  | revoke rt hrt hstage h =>
    refine .inr ⟨_, rfl, nofun, ?_⟩
    rintro _ _ ⟨⟩
    exact of_revokeCommit h
  | _ => exact .inl rfl

theorem Step.noted (hstep : Step crates Admitted c c') (h : Noted c) : Noted c' := by
  have hretains := hstep.retains h.readable
  have hsuffix : c.log <:+ c'.log := by
    obtain hlog | ⟨event, hlog, -⟩ := hstep.notes
    · rw [hlog]
    · rw [hlog]
      exact List.suffix_cons _ _
  refine ⟨hretains.readable h.readable, fun id serial hrevoked => ?_, fun id serial hserial => ?_,
    fun id serial log hlog => ?_⟩
  · obtain hlog | ⟨event, hlog, -, hstored⟩ := hstep.notes
    · exact hretains.revoked (h.stored id serial (hlog ▸ hrevoked))
    · rw [hlog] at hrevoked
      obtain heq | hmem := List.mem_cons.mp hrevoked
      · obtain ⟨record, rfl, hstorage⟩ := hstored id serial heq.symm
        rw [hstorage]
        exact (Storage.revoked_revoke record h.readable).2
      · exact hretains.revoked (h.stored id serial hmem)
  · obtain hsame | ⟨hlog, hnone⟩ := hstep.reissues hserial
    · exact (h.pending id serial hsame).mono hsuffix
    · rw [hlog]
      exact h.checkedIn id hnone
  · obtain hsame | ⟨event, hcons, hreturned, -⟩ := hstep.notes
    · exact h.returned id serial log (hsame ▸ hlog)
    · rw [hcons] at hlog
      obtain heq | hold := List.suffix_cons_iff.mp hlog
      · cases heq
        exact h.pending id serial (hreturned id serial rfl)
      · exact h.returned id serial log hold

end

/-- A renew or rekey is recorded and returned only if it looked its certificate up before any
revocation of the certificate was returned. -/
theorem returned_checkedIn (crates : ServerCrates) (w : World) (hread : w.storage.Readable)
    {c : Config} (hrun : Run crates (fun _ _ => True) (.start w) c) {id : ℕ} {serial : String}
    {log : List Event} (hreturned : (.returned id serial :: log) <:+ c.log) :
    CheckedIn id serial log := by
  have hstart : Noted (.start w) := by
    refine ⟨hread, fun _ _ h => absurd h List.not_mem_nil, nofun, fun _ _ log h => ?_⟩
    cases List.suffix_nil.mp h
  have hnoted : Noted c := Runs.invariant hrun hstart fun _ _ => Step.noted
  exact hnoted.returned id serial log hreturned

/-! ## A revocation that goes unnoticed -/

def raceRuntime : Runtime :=
  Testca.still (Testca.serverCrates [Testca.leaf] [] [([1], .obj (Testca.proofFields "p-1" 1500)),
    ([2], Testca.ottClaims "7" "t-1" 1500 1800)])

def raceIssued : IssuedCertificate where
  certificate := Testca.reissuedLeaf (Testca.date 1500) (Testca.date 9500)
  pem := Testca.pem (Testca.certificateDer (Testca.reissuedLeaf (Testca.date 1500) (Testca.date 9500)))
  serialDecimal := serialToDecimal (X509.serialBytes Testca.zeroEntropy)
  notAfterRfc3339 := Nat.repr 9500

/-- The leaf is to be revoked, with a token. -/
def raceRevocation : Revocation where
  call := {
    service := Testca.service true []
    req := { serialNumber := "7", reason := none, reasonCode := none
             token := some (Testca.token "o" 2 [9]), certificate := none }
    dpop := none
    requestUrl := "ca" }
  auth := .token {
    provisioner := "ci"
    claims := {
      iss := "ci", aud := "ca", sub := "7", sans := [], iat := 1500, nbf := 1500, exp := 1800
      jti := some "t-1", renew := true, cnf := none, once := none }
    template := none
    authorized := true
    replayId := "t-1" }
  serial := "7"
  now := Testca.instant 1500

def tokenClaim : PendingClaim := ⟨"ott#t-1", 1860, 1500⟩
def proofClaim : PendingClaim := ⟨"dpop#p-1", 1860, 1500⟩

/-- The world at second 1500 and an interaction. -/
def raceWorld (n : ℕ) (db : SqliteStorage) : World :=
  { Testca.world (.sqlite db) (Testca.instant 1500) with interactions := n }

def tokenClaimed : SqliteStorage := { tokens := (∅ : Table String ℕ).insert "ott#t-1" 1860 }

def leafRevoked : SqliteStorage :=
  { tokenClaimed with revocations := (∅ : Table String RevocationRecord).insert "7" {
      serialNumber := "7", reasonCode := 0, reason := none, revokedAt := Nat.repr 1500
      provisioner := some "ci" } }

def proofClaimed : SqliteStorage :=
  { leafRevoked with tokens := leafRevoked.tokens.insert "dpop#p-1" 1860 }

/-- The renewal has been planned when the revocation starts. -/
def raceStarted : Config :=
  ((((Config.start (raceWorld 0 {})).advance 0 (.authenticated renewal renewalAuth)
    (raceWorld 2 {})).note (.checked 0 "7")).advance 0 (.planned renewal renewalPlan) (raceWorld 2 {}))

def raceAuthorized : Config := raceStarted.advance 1 (.authorized raceRevocation) (raceWorld 4 {})

def raceConsuming : Config :=
  raceAuthorized.advance 1 (.claiming (.authorized raceRevocation) tokenClaim) (raceWorld 6 {})

def raceConsumed : Config :=
  (raceConsuming.advance 1 (.consumed raceRevocation) (raceWorld 6 tokenClaimed)).note
    (.claimed ⟨1, .authorized raceRevocation, tokenClaim, Testca.instant 1500⟩)

def raceRevoked : Config :=
  (raceConsumed.advance 1 .ended (raceWorld 8 leafRevoked)).note (.revoked 1 "7")

def raceClaiming : Config :=
  raceRevoked.advance 0 (.claiming (.planned renewal renewalPlan) proofClaim)
    (raceWorld 10 leafRevoked)

def raceClaimed : Config :=
  (raceClaiming.advance 0 (.claimed renewal renewalPlan []) (raceWorld 10 proofClaimed)).note
    (.claimed ⟨0, .planned renewal renewalPlan, proofClaim, Testca.instant 1500⟩)

def raceSigned : Config :=
  raceClaimed.advance 0 (.signed renewal renewalPlan raceIssued) (raceWorld 11 proofClaimed)

def leafRecorded : SqliteStorage :=
  { proofClaimed with
    certificates := (∅ : Table String CertificateRecord).insert raceIssued.serialDecimal
      (renewalPlan.record raceIssued (Nat.repr 1500) (Nat.repr 1500)) }

def raceReturned : Config :=
  (raceSigned.advance 0 .ended (raceWorld 12 leafRecorded)).note (.returned 0 "7")

theorem run_raceRevoked {Admitted : Config → Commit → Prop}
    (h : Admitted raceConsuming ⟨1, .authorized raceRevocation, tokenClaim, Testca.instant 1500⟩) :
    Run raceRuntime.crates Admitted (.start (raceWorld 0 {})) raceRevoked := by
  have hlookup : Step raceRuntime.crates Admitted (.start (raceWorld 0 {})) _ :=
    @Step.authenticate _ _ _ raceRuntime rfl 0 renewal renewalAuth (raceWorld 2 {}) rfl rfl
  have hplan : Step raceRuntime.crates Admitted _ raceStarted :=
    @Step.plan _ _ _ raceRuntime rfl 0 renewal renewalAuth renewalPlan (raceWorld 2 {}) rfl rfl
  have hauthorize : Step raceRuntime.crates Admitted raceStarted raceAuthorized :=
    @Step.authorize _ _ _ raceRuntime rfl 1 raceRevocation (raceWorld 4 {}) rfl rfl rfl rfl
  have hprepare : Step raceRuntime.crates Admitted raceAuthorized raceConsuming :=
    @Step.prepare _ _ _ raceRuntime rfl 1 (.authorized raceRevocation) _ (Testca.instant 1860)
      tokenClaim rfl rfl rfl rfl
  have hcommit : Step raceRuntime.crates Admitted raceConsuming raceConsumed :=
    @Step.commit _ _ _ 1 (.authorized raceRevocation) _ tokenClaim rfl rfl (Lease.free_of_none rfl) h
  have hrevoke : Step raceRuntime.crates Admitted raceConsumed raceRevoked :=
    @Step.revoke _ _ _ raceRuntime rfl 1 raceRevocation none _ (raceWorld 8 leafRevoked) rfl rfl
  exact (((((Relation.ReflTransGen.single hlookup).tail hplan).tail hauthorize).tail hprepare).tail
    hcommit).tail hrevoke

theorem run_raceReturned :
    Run raceRuntime.crates (fun _ _ => True) (.start (raceWorld 0 {})) raceReturned := by
  have hprepare : Step raceRuntime.crates (fun _ _ => True) raceRevoked raceClaiming :=
    @Step.prepare _ _ _ raceRuntime rfl 0 (.planned renewal renewalPlan) _ (Testca.instant 1860)
      proofClaim rfl rfl rfl rfl
  have hcommit : Step raceRuntime.crates (fun _ _ => True) raceClaiming raceClaimed :=
    @Step.commit _ _ _ 0 (.planned renewal renewalPlan) _ proofClaim rfl rfl (Lease.free_of_none rfl)
      trivial
  have hsign : Step raceRuntime.crates (fun _ _ => True) raceClaimed raceSigned :=
    @Step.sign _ _ _ raceRuntime rfl 0 renewal renewalPlan raceIssued (raceWorld 11 proofClaimed) rfl rfl
  have hrecord : Step raceRuntime.crates (fun _ _ => True) raceSigned raceReturned :=
    @Step.record _ _ _ raceRuntime rfl 0 renewal renewalPlan raceIssued (Nat.repr 1500) (Nat.repr 1500)
      (raceWorld 12 leafRecorded) rfl rfl rfl rfl
  exact ((((run_raceRevoked trivial).tail hprepare).tail hcommit).tail hsign).tail hrecord

/-- The renewal goes on after the revocation has been returned, and is recorded and returned. -/
theorem returned_after_revoked :
    Run raceRuntime.crates (fun _ _ => True) (.start (raceWorld 0 {})) raceReturned ∧
      (.returned 0 "7" :: raceSigned.log) <:+ raceReturned.log ∧ .revoked 1 "7" ∈ raceSigned.log :=
  ⟨run_raceReturned, List.suffix_rfl, List.mem_cons_of_mem _ List.mem_cons_self⟩

theorem returned_checkedIn_race : CheckedIn 0 "7" raceSigned.log :=
  returned_checkedIn raceRuntime.crates (raceWorld 0 {}) (fun _ => ⟨_, rfl⟩) run_raceReturned
    List.suffix_rfl

end Ayane.InFlight
