import Ayane.Service.LateRevocation
import Ayane.Service.SerialNumber

/-!
# Revocations by any text of a serial number

A revocation names a serial number by a text, and a request to renew or rekey presents its
bytes. Whatever the text, both look up the decimal text of the number, and what is stored for
it first is never replaced.
-/

namespace Ayane

/-- A text and the bytes of one number are looked up alike. -/
theorem normalizeSerial_of_denotes {crates : ServerCrates} (hhex : DecodesHex crates.hex)
    {input : String} {bytes : Bytes} (h : Denotes input (serialValue bytes)) :
    normalizeSerial crates input = .ok (serialToDecimal bytes) :=
  (normalizeSerial_eq_ok hhex).mpr (.inl ⟨_, h, serialToDecimal_eq bytes⟩)

theorem Storage.Retains.getRevocation {s s' : Storage} (h : s.Retains s') {serial : String}
    {record : RevocationRecord} (hrecord : s.getRevocation serial = .ok (some record)) :
    s'.getRevocation serial = .ok (some record) := by
  obtain hsame | ⟨hnone, -⟩ := h serial
  · exact hsame.trans hrecord
  · cases hnone.symm.trans hrecord

namespace InFlight

open Ayane.Action Effect

/-- The revocation that a request is making. -/
def Stage.revokes : Stage → Option Revocation
  | .authorized rev | .consumed rev => some rev
  | .claiming held _ => held.revokes
  | .idle | .authenticated .. | .planned .. | .claimed .. | .signed .. | .ended => none

/-- The serial number of a revocation that is being made is the one its request names. -/
def Names (crates : ServerCrates) (stage : Stage) : Prop :=
  ∀ rev, stage.revokes = some rev →
    normalizeSerial crates rev.call.req.serialNumber = .ok rev.serial

/-- The revocation of the serial number is stored as `record`. -/
structure Finds (serial : String) (record : RevocationRecord) (c : Config) : Prop where
  readable : c.world.storage.Readable
  found : c.world.storage.getRevocation serial = .ok (some record)

/-- The request `id` commits its revocation. -/
structure Revokes (crates : ServerCrates) (id : ℕ) (rev : Revocation) (c c' : Config) : Prop where
  stage : c.stages id = .consumed rev
  committed : ∃ (rt : Runtime) (requestId : Option String) (served : RevokeResponse × AuditEvent)
    (w : World), rt.crates = crates ∧
    (Service.revokeCommit rt rev.call.req rev.auth rev.serial rev.now requestId).run c.world =
      .ok served w ∧
    c' = (c.advance id .ended w).note (.revoked id rev.serial)

section

variable {crates : ServerCrates} {Admitted : Config → Commit → Prop} {c c' : Config}

theorem names_of_none {stage : Stage} (h : stage.revokes = none) : Names crates stage := by
  intro rev hrev
  cases h.symm.trans hrev

theorem Step.names (h : Step crates Admitted c c') (hnames : ∀ id, Names crates (c.stages id)) :
    ∀ id, Names crates (c'.stages id) := by
  cases h with
  | wait h => exact hnames
  | upkeep h => exact hnames
  | claim claim hnow => exact hnames
  | authorize rt hrt hstage hserial hnow h =>
    refine forall_update hnames ?_
    rintro rev ⟨⟩
    rw [← hrt]
    exact hserial
  | @prepare rt hrt id held next expiresAt claim hstage hnext hexpires h =>
    exact forall_update hnames (hstage ▸ hnames id)
  | @commit id held next claim hstage hnext hfree hadmitted =>
    refine forall_update hnames ?_
    have hheld : Names crates held := by
      have hclaiming := hnames id
      rw [hstage] at hclaiming
      exact hclaiming
    unfold Stage.nextClaim at hnext
    split at hnext <;> cases hnext
    · exact names_of_none rfl
    · exact names_of_none rfl
    · exact hheld
  | _ => exact forall_update hnames (names_of_none rfl)

theorem readable_of_run (hrun : Run crates Admitted c c') (h : c.world.storage.Readable) :
    c'.world.storage.Readable :=
  @Runs.invariant _ _ (fun c => c.world.storage.Readable) _ _ hrun h fun _ _ hstep hread =>
    (hstep.retains hread).readable hread

theorem Step.finds {serial : String} {record : RevocationRecord} (h : Step crates Admitted c c')
    (hfinds : Finds serial record c) : Finds serial record c' := by
  have hretains := h.retains hfinds.readable
  exact ⟨hretains.readable hfinds.readable, hretains.getRevocation hfinds.found⟩

theorem Revokes.step {id : ℕ} {rev : Revocation} (h : Revokes crates id rev c c') :
    Step crates (fun _ _ => True) c c' := by
  obtain ⟨rt, requestId, served, w, hrt, hcommit, rfl⟩ := h.committed
  exact .revoke rt hrt h.stage hcommit

end

/-- A revocation is found by the bytes of its serial number, whatever the text it was requested by, in
every later state and with one record; no certificate of that number is renewed or rekeyed. -/
theorem revocation_found (crates : ServerCrates) (hhex : DecodesHex crates.hex) (w : World)
    (hread : w.storage.Readable) {c c' : Config} (hrun : Run crates (fun _ _ => True) (.start w) c)
    {id : ℕ} {rev : Revocation} (hrevokes : Revokes crates id rev c c') {bytes : Bytes}
    (hbytes : Denotes rev.call.req.serialNumber (serialValue bytes)) :
    ∃ record : RevocationRecord, ∀ c'', Run crates (fun _ _ => True) c' c'' →
      c''.world.storage.getRevocation (serialToDecimal bytes) = .ok (some record) ∧
      ∀ rt (service : Service) certificatePem dpop requestUrl auth w',
        (service.reissueAuthenticate rt certificatePem dpop requestUrl).run c''.world = .ok auth w' →
          auth.cert.tbsCertificate.serialNumber ≠ bytes := by
  have hstart : ∀ id, Names crates ((Config.start w).stages id) := fun _ => names_of_none rfl
  have hnames : ∀ id, Names crates (c.stages id) :=
    Runs.invariant hrun hstart fun _ _ hstep => hstep.names
  have hserial : rev.serial = serialToDecimal bytes := by
    have hnamed := hnames id rev (by rw [hrevokes.stage]; rfl)
    exact Except.ok.inj (hnamed.symm.trans (normalizeSerial_of_denotes hhex hbytes))
  have hreadc := readable_of_run hrun hread
  have hstored : c'.world.storage.Revoked (serialToDecimal bytes) := by
    obtain ⟨rt, requestId, served, w', -, hcommit, rfl⟩ := hrevokes.committed
    obtain ⟨record, hrecord, hstorage⟩ := of_revokeCommit hcommit
    rw [Config.world_note, Config.world_advance, hstorage, ← hserial, ← hrecord]
    exact (Storage.revoked_revoke record hreadc).2
  obtain ⟨record, hrecord⟩ := hstored
  have hfinds : Finds (serialToDecimal bytes) record c' :=
    ⟨(hrevokes.step.retains hreadc).readable hreadc, hrecord⟩
  refine ⟨record, fun c'' hlater => ?_⟩
  have hfound := (Runs.invariant hlater hfinds fun _ _ hstep => hstep.finds).found
  refine ⟨hfound, fun rt service certificatePem dpop requestUrl auth w' hauth hsame => ?_⟩
  have hnone := (Service.of_reissueAuthenticate hauth).2.2.1
  rw [hsame, hfound] at hnone
  cases hnone

/-! ## A revocation that is not interrupted -/

/-- Either credential is claimed in the same way. -/
theorem Revocation.of_claim (rev : Revocation) {rt : Runtime} {w w' : World}
    (h : (Service.revokeClaimJti rt rev.auth).run w = .ok () w') :
    ∃ expiresAt, rev.claim.2 = .ok expiresAt ∧
      (claimOnce rt rev.claim.1 expiresAt "token or proof has already been used").run w = .ok () w' := by
  unfold Revocation.claim
  cases hauth : rev.auth with
  | token validated =>
    rw [hauth] at h
    dsimp only
    have h : (Service.signClaimJti rt validated).run w = .ok () w' := h
    obtain ⟨expiresAt, _, hoff, hclaim⟩ := run_bind_eq_ok.mp h
    obtain ⟨hexpires, rfl⟩ := run_ofOutcome_eq_ok.mp hoff
    exact ⟨expiresAt, hexpires, hclaim⟩
  | proof proof =>
    rw [hauth] at h
    have h : (Service.proofClaimJti rt proof).run w = .ok () w' := h
    obtain ⟨expiresAt, _, hoff, hclaim⟩ := run_bind_eq_ok.mp h
    obtain ⟨hexpires, rfl⟩ := run_ofOutcome_eq_ok.mp hoff
    exact ⟨expiresAt, hexpires, hclaim⟩

/-- A request to revoke that succeeds without interruption is a run that commits. -/
theorem run_of_revoke {rt : Runtime} {c : Config} {id : ℕ} {call : RevokeCall}
    {requestId : Option String} {response : RevokeResponse} {w : World}
    (hstage : c.stages id = .idle)
    (h : (call.service.revoke rt call.req call.dpop call.requestUrl requestId).run c.world =
      .ok response w) :
    ∃ rev c₁ c₂, rev.call = call ∧ Run rt.crates (fun _ _ => True) c c₁ ∧
      Revokes rt.crates id rev c₁ c₂ ∧ c₂.world.storage = w.storage := by
  obtain ⟨event, w₅, htry, rfl⟩ := of_audited h
  unfold Service.tryRevoke at htry
  obtain ⟨serial, _, hnormal, htry⟩ := run_bind_eq_ok.mp htry
  obtain ⟨hserial, rfl⟩ := run_ofResult_eq_ok.mp hnormal
  obtain ⟨now, _, hnow, htry⟩ := run_bind_eq_ok.mp htry
  rw [run_systemTimeNow] at hnow
  obtain ⟨rfl, rfl⟩ := EStateM.Result.ok.inj hnow
  obtain ⟨auth, w₁, hauth, htry⟩ := run_bind_eq_ok.mp htry
  obtain ⟨_, w₂, hclaim, hcommit⟩ := run_bind_eq_ok.mp htry
  let rev : Revocation := ⟨call, auth, serial, (c.world.tick rt).clock⟩
  have hauthorize : Step rt.crates (fun _ _ => True) c (c.advance id (.authorized rev) w₁) :=
    .authorize rt rfl hstage hserial rfl hauth
  have hstage₁ : (c.advance id (.authorized rev) w₁).stages id = .authorized rev :=
    Function.update_self ..
  obtain ⟨expiresAt, hexpires, hclaimed⟩ := rev.of_claim hclaim
  obtain ⟨c₁, hrun, hstage₂, rfl⟩ := run_claim hstage₁ rfl hexpires hclaimed
  refine ⟨rev, c₁, _, rfl, hrun.head hauthorize, ⟨hstage₂, rt, requestId, _, _, rfl, hcommit, rfl⟩, rfl⟩

/-! ## A revocation in hexadecimal -/

/-- A run in which a token for the serial number 7 is known. -/
def sevenRuntime : Runtime :=
  Testca.still (Testca.serverCrates [] [] [([1], Testca.ottClaims "7" "t-1" 1000 1300)])

def revokeSeven : RevokeCall where
  service := Testca.service true []
  req := { serialNumber := " 0X07", reason := none, reasonCode := none
           token := some (Testca.token "o" 1 [9]), certificate := none }
  dpop := none
  requestUrl := "ca"

theorem revocation_found_seven :
    ∃ rev c c', rev.call = revokeSeven ∧ Revokes sevenRuntime.crates 0 rev c c' ∧
      ∃ record, c'.world.storage.getRevocation (serialToDecimal [0, 7]) = .ok (some record) := by
  have hrevoke : ∃ response w, (revokeSeven.service.revoke sevenRuntime revokeSeven.req revokeSeven.dpop
      revokeSeven.requestUrl none).run (Testca.world Testca.sqlite (Testca.instant 1000)) =
        .ok response w := ⟨_, _, rfl⟩
  obtain ⟨response, w, hrevoke⟩ := hrevoke
  obtain ⟨rev, c, c', hcall, hrun, hrevokes, -⟩ := @run_of_revoke _ (.start _) 0 _ _ _ _ rfl hrevoke
  have hdenotes : Denotes rev.call.req.serialNumber (serialValue [0, 7]) := by
    rw [hcall]
    have htrim : (Text.trim revokeSeven.req.serialNumber).toList = ['0', 'X', '0', '7'] := by decide
    exact .hex htrim (.inr rfl) (List.cons_ne_nil _ _) rfl
  obtain ⟨record, hfound⟩ := revocation_found sevenRuntime.crates decodesHex_hex
    (Testca.world Testca.sqlite (Testca.instant 1000)) (fun _ => ⟨_, rfl⟩) hrun hrevokes hdenotes
  exact ⟨rev, c, c', hcall, hrevokes, record, (hfound c' .refl).1⟩

end InFlight

end Ayane
