import Ayane.Ca.Rejections
import Ayane.Service.Claims
import Ayane.Service.ReissueRequest

/-!
# Rejected requests and their credentials

A request claims its credential after its checks, so that one that is rejected may be made
again. Two checks come later: whether the names can be encoded, which is found out while the
certificate is built, and whether a scope is asserted twice, which is found out while the
scopes are claimed.
-/

namespace Ayane

open Ayane.Action Effect

/-! ## Claims that are rejected -/

/-- A claim that cannot be stored is no fault of the request. -/
theorem Storage.internal_of_prepareClaim {s : Storage} {jti : String} {expiresAt now : SystemTime}
    {e : Error} (h : s.prepareClaim jti expiresAt now = .error (.error e)) :
    ∃ message, e = .internal message := by
  cases s with
  | sqlite db =>
    obtain hexp | ⟨_, -, h⟩ := except_bind_eq_error.mp (Result.eq_error_of_orAbort h)
    · exact SqliteStorage.internal_of_unixSecs hexp
    · obtain hnow | ⟨_, -, ⟨⟩⟩ := except_bind_eq_error.mp h
      exact SqliteStorage.internal_of_unixSecs hnow
  | dynamodb db =>
    obtain hpadded | ⟨padded, -, h⟩ := except_bind_eq_error.mp h
    · obtain ⟨_, ⟨⟩⟩ := SystemTime.panic_of_plus hpadded
    · split at h
      · cases h
        exact ⟨_, rfl⟩
      · cases h

theorem Abort.not_rejects_of_prepareOnce {rt : Runtime} {w : World} {key msg : String}
    {expiresAt : SystemTime} {abort abort' : Abort} (h : w.prepareOnce rt key expiresAt = .error abort)
    (hsurfaced : abort' = abort ∨ ∃ e, abort = .error e ∧ abort' = .error (surfaceConflict msg e)) :
    ¬abort'.Rejects := by
  have hfault : (∃ message, abort = .panic message) ∨ ∃ message, abort = .error (.internal message) := by
    obtain hfloor | ⟨floor, -, hclaim⟩ := except_bind_eq_error.mp h
    · exact .inl (SystemTime.panic_of_plus hfloor)
    · cases abort with
      | panic message => exact .inl ⟨message, rfl⟩
      | error e =>
        obtain ⟨message, rfl⟩ := Storage.internal_of_prepareClaim hclaim
        exact .inr ⟨message, rfl⟩
  obtain ⟨message, rfl⟩ | ⟨message, rfl⟩ := hfault
  · obtain rfl | ⟨e, ⟨⟩, -⟩ := hsurfaced
    exact id
  · obtain rfl | ⟨e, ⟨⟩, rfl⟩ := hsurfaced
    · exact id
    · exact id

/-- A claim is rejected exactly when it could be stored and its key is held. -/
theorem claimOnce_rejects_iff {rt : Runtime} {w : World} {key msg : String} {expiresAt : SystemTime} :
    FailsFrom Abort.Rejects (claimOnce rt key expiresAt msg) w ↔
      ∃ claim, w.prepareOnce rt key expiresAt = .ok claim ∧ ¬w.storage.Claimable claim.now key := by
  obtain ⟨claim, hclaim, hfree, hrun⟩ | ⟨claim, w', hclaim, hheld, hrun, -⟩ |
    ⟨abort, abort', w', hfails, hsurfaced, hrun, -⟩ := claimOnce_ends rt key msg expiresAt w
  · refine iff_of_false (not_failsFrom_of_ok hrun) ?_
    rintro ⟨claim', hclaim', hheld⟩
    cases hclaim.symm.trans hclaim'
    exact hheld hfree
  · rw [failsFrom_of_error hrun]
    exact iff_of_true trivial ⟨claim, hclaim, hheld⟩
  · rw [failsFrom_of_error hrun]
    refine iff_of_false (Abort.not_rejects_of_prepareOnce hfails hsurfaced) ?_
    rintro ⟨claim, hclaim, -⟩
    cases hfails.symm.trans hclaim

/-- A row of claims is rejected exactly when a part of it that could be stored cannot be granted. -/
theorem claimAll_rejects_iff {rt : Runtime} {keys : List OnceKey} {w : World} :
    FailsFrom Abort.Rejects (claimAll rt keys) w ↔ ∃ n claims,
      prepareAll rt w (keys.take n) = .ok claims ∧
        ¬Lease.Grantable w.storage.heldUntil (claims.map PendingClaim.grant) := by
  induction keys generalizing w with
  | nil =>
    constructor
    · rintro ⟨_, _, ⟨⟩, -⟩
    · rintro ⟨n, claims, hclaims, hheld⟩
      rw [List.take_nil] at hclaims
      cases hclaims
      exact absurd trivial hheld
  | cons k keys ih =>
    have hcons : claimAll rt (k :: keys) =
        (claimOnce rt k.key k.expiresAt k.conflictMsg >>= fun _ => claimAll rt keys) := rfl
    rw [hcons, failsFrom_bind, claimOnce_rejects_iff]
    constructor
    · rintro (⟨claim, hclaim, hheld⟩ | ⟨_, w', hfirst, hrest⟩)
      · refine ⟨1, [claim], ?_, fun hgrant => ?_⟩
        · rw [List.take_succ_cons]
          exact prepareAll_cons.mpr ⟨claim, [], hclaim, by rw [List.take_zero]; rfl, rfl⟩
        · rw [← (of_prepareOnce hclaim).1] at hheld
          exact hheld hgrant.1
      · obtain ⟨claim, hclaim, hfree, rfl⟩ := run_claimOnce_eq_ok.mp hfirst
        obtain ⟨n, claims, hclaims, hheld⟩ := ih.mp hrest
        rw [(alike_storing rt w claim).prepareAll] at hclaims
        refine ⟨n + 1, claim :: claims, ?_, fun hgrant => hheld ?_⟩
        · rw [List.take_succ_cons]
          exact prepareAll_cons.mpr ⟨claim, claims, hclaim, hclaims, rfl⟩
        · have hafter := hgrant.2
          rwa [grant_apply_eq hclaim hfree] at hafter
    · rintro ⟨n, claims, hclaims, hheld⟩
      cases n with
      | zero =>
        cases hclaims
        exact absurd trivial hheld
      | succ n =>
        rw [List.take_succ_cons] at hclaims
        obtain ⟨claim, rest, hclaim, hrest, rfl⟩ := prepareAll_cons.mp hclaims
        by_cases hfree : w.storage.Claimable claim.now k.key
        · refine .inr ⟨(), _, run_claimOnce_eq_ok.mpr ⟨claim, hclaim, hfree, rfl⟩, ih.mpr ?_⟩
          refine ⟨n, rest, ?_, fun hgrant => hheld ⟨?_, ?_⟩⟩
          · rw [(alike_storing rt w claim).prepareAll]
            exact hrest
          · rwa [PendingClaim.grant, (of_prepareOnce hclaim).1]
          · rwa [grant_apply_eq hclaim hfree]
        · exact .inl ⟨claim, hclaim, hfree⟩

/-! ## Claims that stay -/

/-- The same keys are claimed, until the same seconds. -/
def World.SameClaims (w w' : World) : Prop := w'.storage.heldUntil = w.storage.heldUntil

instance : Std.Refl World.SameClaims := ⟨fun _ => rfl⟩

instance : IsTrans World World.SameClaims := ⟨fun _ _ _ h h' => h'.trans h⟩

theorem World.Waits.sameClaims {w w' : World} (h : w.Waits w') : w.SameClaims w' :=
  congrArg Storage.heldUntil h.storage

theorem sameClaims_recordCertificate (rt : Runtime) (record : CertificateRecord) :
    Within World.SameClaims (recordCertificate rt record) := by
  intro w
  unfold recordCertificate
  rw [final_onStorage]
  exact Storage.heldUntil_recordCertificate record w.storage

/-- A request that is rejected from `w` leaves the claims as they were. -/
def Unburned {α : Type} (x : Action α) (w : World) : Prop :=
  ∀ e w', x.run w = .error (.error e) w' → e.Rejects → w.SameClaims w'

/-- No key of a row is claimed again while an earlier claim of the row holds it. -/
def Unrepeated (rt : Runtime) (w : World) (keys : List OnceKey) : Prop :=
  ∀ n claims, prepareAll rt w (keys.take n) = .ok claims →
    claims.Pairwise fun c c' => c.jti = c'.jti → c.expiresAt ≤ c'.now

/-- The keys of a row are free. -/
def KeysFree (w : World) (keys : List OnceKey) : Prop :=
  ∀ k ∈ keys, w.storage.Claimable (unixSecs w.clock) k.key

theorem key_of_prepareAll {rt : Runtime} {w : World} {keys : List OnceKey}
    {claims : List PendingClaim} (h : prepareAll rt w keys = .ok claims) :
    ∀ claim ∈ claims, ∃ k ∈ keys, claim.jti = k.key := by
  induction keys generalizing w claims with
  | nil =>
    cases h
    exact fun _ hclaim => absurd hclaim List.not_mem_nil
  | cons k keys ih =>
    obtain ⟨claim, rest, hclaim, hrest, rfl⟩ := prepareAll_cons.mp h
    refine List.forall_mem_cons.mpr ⟨⟨k, List.mem_cons_self, (of_prepareOnce hclaim).1⟩, ?_⟩
    intro c hc
    obtain ⟨k', hk', hkey⟩ := ih hrest c hc
    exact ⟨k', List.mem_cons_of_mem _ hk', hkey⟩

/-- A part of a row whose keys are free can be granted when it repeats none that is held. -/
theorem grantable_iff_of_keysFree {rt : Runtime} {w : World} {keys : List OnceKey}
    (hfree : KeysFree w keys) {n : ℕ} {claims : List PendingClaim}
    (h : prepareAll rt w (keys.take n) = .ok claims) :
    Lease.Grantable w.storage.heldUntil (claims.map PendingClaim.grant) ↔
      claims.Pairwise fun c c' => c.jti = c'.jti → c.expiresAt ≤ c'.now := by
  rw [grantable_iff_allFree h]
  constructor
  · exact AllFree.apart
  · intro hapart
    refine ⟨fun claim hclaim => ?_, hapart⟩
    obtain ⟨k, hk, hkey⟩ := key_of_prepareAll h claim hclaim
    rw [hkey]
    exact (hfree k (List.mem_of_mem_take hk)).mono
      (WithTop.coe_le_coe.mpr (le_now_of_prepareAll h claim hclaim))

theorem unrepeated_iff {rt : Runtime} {w : World} {keys : List OnceKey} (hfree : KeysFree w keys) :
    Unrepeated rt w keys ↔ ¬FailsFrom Abort.Rejects (claimAll rt keys) w := by
  rw [claimAll_rejects_iff]
  constructor
  · rintro h ⟨n, claims, hclaims, hheld⟩
    exact hheld ((grantable_iff_of_keysFree hfree hclaims).mpr (h n claims hclaims))
  · intro h n claims hclaims
    by_contra hrepeated
    exact h ⟨n, claims, hclaims, fun hgrant =>
      hrepeated ((grantable_iff_of_keysFree hfree hclaims).mp hgrant)⟩

/-- The first key of a row stays claimed, whatever becomes of the others. -/
theorem held_of_claimAll {rt : Runtime} {w : World} {k : OnceKey} {keys : List OnceKey}
    (hother : ∀ k' ∈ keys, k'.key ≠ k.key) {claim : PendingClaim}
    (hclaim : w.prepareOnce rt k.key k.expiresAt = .ok claim)
    (hfree : w.storage.Claimable claim.now k.key) :
    (final ((claimAll rt (k :: keys)).run w)).storage.heldUntil k.key = some ↑claim.expiresAt := by
  have hfirst := @run_claimOnce_eq_ok rt k.key k.conflictMsg k.expiresAt w _ () |>.mpr
    ⟨claim, hclaim, hfree, rfl⟩
  have hrun : (claimAll rt (k :: keys)).run w =
      (claimAll rt keys).run (((w.tick rt).tick rt).storing rt (w.storage.commitClaim claim).2) :=
    run_bind_of_ok hfirst _
  obtain ⟨claims, -, hprepared, -, hfinal, -⟩ :=
    claimAll_run rt keys (((w.tick rt).tick rt).storing rt (w.storage.commitClaim claim).2)
  have hkeys : ∀ g ∈ claims.map PendingClaim.grant, g.key ≠ k.key := by
    refine List.forall_mem_map.mpr fun c hc => ?_
    obtain ⟨k', hk', hkey⟩ := key_of_prepareAll hprepared c hc
    change c.jti ≠ k.key
    rw [hkey]
    exact hother k' (List.mem_of_mem_take hk')
  rw [hrun, hfinal, heldAfter, Lease.applyAll_of_notMem hkeys]
  change (w.storage.commitClaim claim).2.heldUntil k.key = _
  rw [heldUntil_of_claimOnce hclaim hfree, Function.update_self]

/-- A claim lasts beyond the moment it is made at. -/
theorem lt_of_prepareOnce {rt : Runtime} {w : World} {key : String} {expiresAt : SystemTime}
    {claim : PendingClaim} (h : w.prepareOnce rt key expiresAt = .ok claim)
    (hlate : 0 < unixSecs expiresAt) : unixSecs w.clock < claim.expiresAt := by
  obtain ⟨-, -, hexpires, hfloor⟩ := of_prepareOnce h
  have hticks := unixSecs_mono (le_clock_tick rt w)
  by_cases hepoch : unixEpoch ≤ (w.tick rt).clock
  · have := hfloor hepoch
    omega
  · rw [unixSecs_of_not_le hepoch] at hticks
    omega

/-- What is claimed first is still claimed in the end. -/
theorem heldUntil_ne_of_claimAll {rt : Runtime} {w : World} {k : OnceKey} {keys : List OnceKey}
    (hother : ∀ k' ∈ keys, k'.key ≠ k.key) (hlate : 0 < unixSecs k.expiresAt)
    (hfree : w.storage.Claimable (unixSecs w.clock) k.key) {claim : PendingClaim}
    (hclaim : w.prepareOnce rt k.key k.expiresAt = .ok claim) :
    (final ((claimAll rt (k :: keys)).run w)).storage.heldUntil ≠ w.storage.heldUntil := by
  intro hsame
  have hmono := unixSecs_mono ((le_clock_tick rt w).trans (le_clock_tick rt (w.tick rt)))
  have hnow := (of_prepareOnce hclaim).2.1
  have hheld := held_of_claimAll hother hclaim
    (hfree.mono (WithTop.coe_le_coe.mpr (hnow ▸ hmono)))
  rw [hsame] at hheld
  have hle : claim.expiresAt ≤ unixSecs w.clock := WithTop.coe_le_coe.mp (hfree _ hheld)
  have hlt := lt_of_prepareOnce hclaim hlate
  omega

/-- A row that is rejected has its first key claimed by then. -/
theorem heldUntil_ne_of_rejects {rt : Runtime} {w w' : World} {k : OnceKey} {keys : List OnceKey}
    (hother : ∀ k' ∈ keys, k'.key ≠ k.key) (hlate : 0 < unixSecs k.expiresAt)
    (hfree : w.storage.Claimable (unixSecs w.clock) k.key) {abort : Abort}
    (hrun : (claimAll rt (k :: keys)).run w = .error abort w') (hrejects : abort.Rejects) :
    w'.storage.heldUntil ≠ w.storage.heldUntil := by
  obtain ⟨n, claims, hclaims, hheld⟩ :=
    claimAll_rejects_iff.mp ((failsFrom_of_error hrun).mpr hrejects)
  cases n with
  | zero =>
    cases hclaims
    exact absurd trivial hheld
  | succ n =>
    obtain ⟨claim, _, hclaim, -, -⟩ := prepareAll_cons.mp hclaims
    have hchanged := heldUntil_ne_of_claimAll hother hlate hfree hclaim
    rwa [hrun] at hchanged

/-- A row that can be stored and is not granted is rejected. -/
theorem rejects_of_prepareAll {rt : Runtime} {w w' : World} {keys : List OnceKey}
    {claims : List PendingClaim} {abort : Abort} (hrun : (claimAll rt keys).run w = .error abort w')
    (hclaims : prepareAll rt w keys = .ok claims) : abort.Rejects := by
  refine (failsFrom_of_error hrun).mp
    (claimAll_rejects_iff.mpr ⟨keys.length, claims, ?_, fun hgrant => ?_⟩)
  · rw [List.take_length]
    exact hclaims
  · obtain ⟨w₂, hok⟩ := claimAll_eq_ok.mpr ⟨claims, hclaims, hgrant⟩
    cases hrun.symm.trans hok

/-- A request whose keys are free burns none of them exactly when it repeats no key and, once they
are claimed, its certificate is not rejected. -/
theorem unburned_iff {α : Type} {rt : Runtime} {w : World} {k : OnceKey} {keys : List OnceKey}
    {issue : Action α} {Rejects : Prop} (hother : ∀ k' ∈ keys, k'.key ≠ k.key)
    (hlate : 0 < unixSecs k.expiresAt) (hfree : KeysFree w (k :: keys))
    (hissue : ∀ w', FailsFrom Abort.Rejects issue w' ↔ Rejects)
    (hkeeps : Within World.SameClaims issue) :
    Unburned (claimAll rt (k :: keys) >>= fun _ => issue) w ↔
      Unrepeated rt w (k :: keys) ∧
        ((∃ claims, prepareAll rt w (k :: keys) = .ok claims) → ¬Rejects) := by
  rw [unrepeated_iff hfree]
  have hkey := hfree k List.mem_cons_self
  cases hrun : (claimAll rt (k :: keys)).run w with
  | ok u w₁ =>
    obtain ⟨claims, hclaims, -⟩ := claimAll_eq_ok.mp ⟨w₁, hrun⟩
    obtain ⟨claim, _, hclaim, -, -⟩ := prepareAll_cons.mp hclaims
    have hchanged := heldUntil_ne_of_claimAll hother hlate hkey hclaim
    rw [hrun] at hchanged
    constructor
    · intro h
      refine ⟨not_failsFrom_of_ok hrun, fun _ hrejects => ?_⟩
      obtain ⟨abort, w₂, herror, habort⟩ := (hissue w₁).mpr hrejects
      cases abort with
      | panic message => exact habort
      | error e =>
        have hsame := h e w₂ ((run_bind_of_ok hrun _).trans herror) habort
        exact hchanged ((hkeeps.of_error herror).symm.trans hsame)
    · rintro ⟨-, h⟩ e w₂ herror hrejects
      rw [run_bind_of_ok hrun] at herror
      exact absurd ((hissue w₁).mp ⟨_, w₂, herror, hrejects⟩) (h ⟨claims, hclaims⟩)
  | error abort w₁ =>
    rw [failsFrom_of_error hrun]
    constructor
    · intro h
      have hnot : ¬abort.Rejects := by
        intro hrejects
        cases abort with
        | panic message => exact hrejects
        | error e =>
          exact heldUntil_ne_of_rejects hother hlate hkey hrun hrejects
            (h e w₁ (run_bind_of_error hrun _) hrejects)
      exact ⟨hnot, fun ⟨claims, hclaims⟩ _ => hnot (rejects_of_prepareAll hrun hclaims)⟩
    · rintro ⟨hnot, -⟩ e w₂ herror hrejects
      rw [run_bind_of_error hrun] at herror
      cases herror
      exact absurd hrejects hnot

/-! ## Issuing -/

/-- A record that cannot be committed is no fault of the request. -/
theorem not_rejects_recordCertificate {rt : Runtime} {record : CertificateRecord} {w : World} :
    ¬FailsFrom Abort.Rejects (recordCertificate rt record) w := by
  have hinternal : ¬Rejected (w.storage.recordCertificate record).1 := by
    unfold Storage.recordCertificate SqliteStorage.recordCertificate DynamoDbStorage.recordCertificate
    cases w.storage with
    | sqlite db => dsimp only; split <;> simp
    | dynamodb db => dsimp only; split <;> simp
  have hrun := run_onStorage rt (fun s => (s.recordCertificate record).map Result.orAbort id) w
  intro h
  unfold FailsFrom recordCertificate at h
  rw [hrun] at h
  exact hinternal (rejects_orAbort.mp (failsFrom_ofOutcome.mp h))

theorem not_rejects_eventNow {rt : Runtime} (htimes : PanicsOnly rt.crates)
    {eventType outcome : String} {w : World} :
    ¬FailsFrom Abort.Rejects (eventNow rt eventType outcome) w := by
  unfold eventNow
  simp only [failsFrom_bind, not_failsFrom_of_ok (run_systemTimeNow rt _), failsFrom_ofOutcome,
    htimes.not_rejects, failsFrom_pure, and_false, exists_false, or_false, not_false_eq_true]

section

variable {rt : Runtime} {service : Service} {requestId : Option String} {w : World}

theorem issueRecorded_rejects_iff (htimes : PanicsOnly rt.crates)
    {issue : ℕ → Digest 19 → Outcome IssuedCertificate} {notBefore now : SystemTime}
    {record : IssuedCertificate → String → String → CertificateRecord} {eventType : String}
    {describe : IssuedCertificate → AuditEvent → AuditEvent} :
    FailsFrom Abort.Rejects
        (service.issueRecorded rt issue notBefore now record eventType describe) w ↔
      FailsWith Abort.Rejects (issue w.interactions (rt.entropy w.interactions)) := by
  unfold Service.issueRecorded
  rw [failsFrom_bind, failsFrom_withKey]
  simp only [failsFrom_bind, failsFrom_ofOutcome, htimes.not_rejects, not_rejects_recordCertificate,
    not_rejects_eventNow htimes, failsFrom_pure, and_false, exists_false, or_false]

theorem signIssue_rejects_iff (hkey : ∀ n msg, ∃ sig, service.ca.key.sign n msg = .ok sig)
    (htimes : PanicsOnly rt.crates) {plan : Service.SignPlan} :
    FailsFrom Abort.Rejects (service.signIssue rt plan requestId) w ↔
      ¬plan.issueParams.NamesEncode rt.crates :=
  (issueRecorded_rejects_iff htimes).trans (rejects_issue hkey htimes)

theorem reissueIssue_rejects_iff (hkey : ∀ n msg, ∃ sig, service.ca.key.sign n msg = .ok sig)
    (htimes : PanicsOnly rt.crates) {plan : Service.ReissuePlan} {eventType : String} :
    FailsFrom Abort.Rejects (service.reissueIssue rt plan eventType requestId) w ↔
      ¬plan.reissueParams.NamesEncode rt.crates :=
  (issueRecorded_rejects_iff htimes).trans (rejects_reissue hkey htimes)

end

/-! ## Whole requests -/

namespace Service

/-- The keys that a request to sign claims, and until when. -/
def SignPlan.keys (plan : SignPlan) : Outcome (List OnceKey) := do
  let expiresAt ← (systemTimeFromEpoch plan.validated.claims.exp).plus replayLeeway
  .ok (requestKeys "ott" plan.validated.replayId expiresAt plan.onceScopes plan.custom.notAfter)

/-- The keys that a request to renew or rekey claims. -/
def ReissuePlan.keys (plan : ReissuePlan) : Outcome (List OnceKey) := do
  let expiresAt ← proofExpiry plan.auth.proof
  .ok (requestKeys "dpop" plan.auth.proof.jti expiresAt plan.custom.onceClaims plan.custom.notAfter)

end Service

/-- The keys that are claimed from `w` are not repeated, and if all of them can be stored, the
certificate is not rejected after that. -/
def NothingLeft (rt : Runtime) (w : World) (keys : Outcome (List OnceKey)) (NamesEncode : Prop) :
    Prop :=
  ∀ ks, keys = .ok ks →
    Unrepeated rt w ks ∧ ((∃ claims, prepareAll rt w ks = .ok claims) → NamesEncode)

section

variable {rt : Runtime} {service : Service} {requestUrl : String} {requestId : Option String}
  {w : World}

/-- The keys of a request to sign are free when it is made. -/
def SignKeysFree (rt : Runtime) (service : Service) (req : SignRequest) (requestUrl : String)
    (w : World) : Prop :=
  ∀ csr validated w₁ plan w₂ ks,
    (service.signAuthenticate rt req requestUrl).run w = .ok (csr, validated) w₁ →
    (service.signPlan rt req csr validated).run w₁ = .ok plan w₂ → plan.keys = .ok ks → KeysFree w ks

/-- Nothing is left to reject when a request to sign starts to claim. -/
def SignChecked (rt : Runtime) (service : Service) (req : SignRequest) (requestUrl : String)
    (w : World) : Prop :=
  ∀ csr validated w₁ plan w₂,
    (service.signAuthenticate rt req requestUrl).run w = .ok (csr, validated) w₁ →
    (service.signPlan rt req csr validated).run w₁ = .ok plan w₂ →
    NothingLeft rt w₂ plan.keys (plan.issueParams.NamesEncode rt.crates)

def ReissueKeysFree (rt : Runtime) (service : Service) (certificatePem : String)
    (newCsrPem dpop : Option String) (requestUrl : String) (w : World) : Prop :=
  ∀ auth w₁ plan w₂ ks,
    (service.reissueAuthenticate rt certificatePem dpop requestUrl).run w = .ok auth w₁ →
    (service.reissuePlan rt auth newCsrPem).run w₁ = .ok plan w₂ → plan.keys = .ok ks → KeysFree w ks

def ReissueChecked (rt : Runtime) (service : Service) (certificatePem : String)
    (newCsrPem dpop : Option String) (requestUrl : String) (w : World) : Prop :=
  ∀ auth w₁ plan w₂,
    (service.reissueAuthenticate rt certificatePem dpop requestUrl).run w = .ok auth w₁ →
    (service.reissuePlan rt auth newCsrPem).run w₁ = .ok plan w₂ →
    NothingLeft rt w₂ plan.keys (plan.reissueParams.NamesEncode rt.crates)

theorem KeysFree.of_waits {w w' : World} {keys : List OnceKey} (h : KeysFree w keys)
    (hwaits : w.Waits w') : KeysFree w' keys := by
  intro k hk
  rw [hwaits.storage]
  exact (h k hk).mono (WithTop.coe_le_coe.mpr (unixSecs_mono hwaits.clock))

/-- A request burns nothing exactly when what follows its checks burns nothing. -/
theorem unburned_of_waits {α : Type} {x y : Action α} {w w' : World} (h : x.run w = y.run w')
    (hwaits : w.Waits w') : Unburned x w ↔ Unburned y w' := by
  unfold Unburned World.SameClaims
  rw [h, hwaits.storage]

theorem unburned_of_error {α : Type} {x : Action α} {w w' : World} {abort : Abort}
    (h : x.run w = .error abort w') (hwaits : w.Waits w') : Unburned x w := by
  rintro e w₁ herror -
  cases h.symm.trans herror
  exact congrArg Storage.heldUntil hwaits.storage

theorem scopeKey_ne_jtiKey {kind : String} (h : kind = "ott" ∨ kind = "dpop") (scope : OnceClaim)
    (jti : String) : scope.key ≠ jtiKey kind jti := by
  intro heq
  have hfirst := congrArg (fun s => s.toList.head?) heq
  rcases h with rfl | rfl
  · simp [OnceClaim.key, jtiKey] at hfirst
  · simp [OnceClaim.key, jtiKey] at hfirst

/-- The claims of a request and what it does after them. -/
theorem unburned_claims_iff {α : Type} {kind jti : String} (hkind : kind = "ott" ∨ kind = "dpop")
    {expiresAt defaultExpiry : SystemTime} {scopes : List OnceClaim} {issue : Action α}
    {NamesEncode : Prop} (hlate : 0 < unixSecs expiresAt)
    (hfree : KeysFree w (requestKeys kind jti expiresAt scopes defaultExpiry))
    (hissue : ∀ w', FailsFrom Abort.Rejects issue w' ↔ ¬NamesEncode)
    (hkeeps : Within World.SameClaims issue) :
    Unburned (claimCredential rt kind jti expiresAt scopes defaultExpiry >>= fun _ => issue) w ↔
      Unrepeated rt w (requestKeys kind jti expiresAt scopes defaultExpiry) ∧
        ((∃ claims, prepareAll rt w (requestKeys kind jti expiresAt scopes defaultExpiry) =
          .ok claims) → NamesEncode) := by
  rw [claimCredential_eq]
  have hother : ∀ k' ∈ (requestKeys kind jti expiresAt scopes defaultExpiry).tail,
      k'.key ≠ jtiKey kind jti := by
    refine List.forall_mem_map.mpr fun scope _ => scopeKey_ne_jtiKey hkind scope jti
  refine (unburned_iff hother hlate hfree hissue hkeeps).trans (and_congr_right fun _ => ?_)
  exact forall_congr' fun _ => not_not

theorem nothingLeft_of_ok {keys : Outcome (List OnceKey)} {ks : List OnceKey} {NamesEncode : Prop}
    (h : keys = .ok ks) : NothingLeft rt w keys NamesEncode ↔ Unrepeated rt w ks ∧
      ((∃ claims, prepareAll rt w ks = .ok claims) → NamesEncode) := by
  constructor
  · intro hleft
    exact hleft ks h
  · rintro hleft _ h'
    cases h.symm.trans h'
    exact hleft

theorem nothingLeft_of_error {keys : Outcome (List OnceKey)} {abort : Abort} {NamesEncode : Prop}
    (h : keys = .error abort) : NothingLeft rt w keys NamesEncode := by
  intro _ h'
  cases h.symm.trans h'

namespace Service

theorem sameClaims_signIssue (plan : SignPlan) :
    Within World.SameClaims (service.signIssue rt plan requestId) :=
  service.within_signIssue (fun _ _ => World.Waits.sameClaims) (sameClaims_recordCertificate rt) plan
    requestId

theorem sameClaims_reissueIssue (plan : ReissuePlan) (eventType : String) :
    Within World.SameClaims (service.reissueIssue rt plan eventType requestId) :=
  service.within_reissueIssue (fun _ _ => World.Waits.sameClaims) (sameClaims_recordCertificate rt) plan
    eventType requestId

end Service

/-- The expiry of a credential is computed, then it is claimed with its scopes, and used. -/
theorem claims_unburned_iff {α : Type} {kind jti : String} (hkind : kind = "ott" ∨ kind = "dpop")
    {expiry : Outcome SystemTime} {scopes : List OnceClaim} {defaultExpiry : SystemTime}
    {issue : Action α} {NamesEncode : Prop}
    (hlate : ∀ expiresAt, expiry = .ok expiresAt → 0 < unixSecs expiresAt)
    (hfree : ∀ expiresAt, expiry = .ok expiresAt →
      KeysFree w (requestKeys kind jti expiresAt scopes defaultExpiry))
    (hissue : ∀ w', FailsFrom Abort.Rejects issue w' ↔ ¬NamesEncode)
    (hkeeps : Within World.SameClaims issue) :
    Unburned (do
      ofOutcome expiry >>= claimJti rt kind jti
      claimOnceScopes rt scopes defaultExpiry
      issue) w ↔
        NothingLeft rt w
          (expiry >>= fun expiresAt => .ok (requestKeys kind jti expiresAt scopes defaultExpiry))
          NamesEncode := by
  cases expiry with
  | error abort =>
    have hrun := run_bind_of_error (run_ofOutcome_error abort w) (claimJti rt kind jti)
    exact iff_of_true (unburned_of_error (run_bind_of_error hrun _) (Std.Refl.refl w))
      (nothingLeft_of_error rfl)
  | ok expiresAt =>
    have hrun := run_bind_of_ok (run_ofOutcome_ok expiresAt w) (claimJti rt kind jti)
    refine Iff.trans ?_ ((unburned_claims_iff hkind (hlate _ rfl) (hfree _ rfl) hissue hkeeps).trans
      (nothingLeft_of_ok rfl).symm)
    refine unburned_of_waits ?_ (Std.Refl.refl w)
    exact (run_bind_assoc _ _ _ _).trans (run_bind_congr (run_bind_congr hrun _) _)

/-- What follows the checks of a request to sign. -/
theorem signClaims_unburned_iff (hkey : ∀ n msg, ∃ sig, service.ca.key.sign n msg = .ok sig)
    (htimes : PanicsOnly rt.crates) {plan : Service.SignPlan}
    (hfree : ∀ ks, plan.keys = .ok ks → KeysFree w ks) :
    Unburned (do
      Service.signClaimJti rt plan.validated
      claimOnceScopes rt plan.onceScopes plan.custom.notAfter
      service.signIssue rt plan requestId) w ↔
        NothingLeft rt w plan.keys (plan.issueParams.NamesEncode rt.crates) := by
  refine claims_unburned_iff (.inl rfl) (fun expiresAt hexp => ?_) (fun expiresAt hexp => ?_)
    (fun _ => signIssue_rejects_iff hkey htimes) (service.sameClaims_signIssue plan)
  · have hexpiry := unixSecs_of_plus (unixEpoch_le_systemTimeFromEpoch _)
      (SystemTime.plus_eq_ok.mp hexp : expiresAt.nanos = _ + fromSecs 60)
    omega
  · exact hfree _ (except_bind_eq_ok.mpr ⟨expiresAt, hexp, rfl⟩)

/-- What follows the checks of a request to renew or rekey. -/
theorem reissueClaims_unburned_iff (hkey : ∀ n msg, ∃ sig, service.ca.key.sign n msg = .ok sig)
    (htimes : PanicsOnly rt.crates) {plan : Service.ReissuePlan} {eventType : String}
    (hepoch : unixEpoch ≤ plan.auth.proof.issuedAt)
    (hfree : ∀ ks, plan.keys = .ok ks → KeysFree w ks) :
    Unburned (do
      Service.proofClaimJti rt plan.auth.proof
      claimOnceScopes rt plan.custom.onceClaims plan.custom.notAfter
      service.reissueIssue rt plan eventType requestId) w ↔
        NothingLeft rt w plan.keys (plan.reissueParams.NamesEncode rt.crates) := by
  refine claims_unburned_iff (.inr rfl) (fun expiresAt hexp => ?_) (fun expiresAt hexp => ?_)
    (fun _ => reissueIssue_rejects_iff hkey htimes) (service.sameClaims_reissueIssue plan eventType)
  · obtain ⟨aged, haged, hplus⟩ := except_bind_eq_ok.mp hexp
    have haged := SystemTime.plus_eq_ok.mp haged
    have hlater : unixEpoch ≤ aged := by
      rw [SystemTime.le_def] at hepoch ⊢
      omega
    have hexpiry := unixSecs_of_plus hlater
      (SystemTime.plus_eq_ok.mp hplus : expiresAt.nanos = _ + fromSecs 60)
    omega
  · exact hfree _ (except_bind_eq_ok.mpr ⟨expiresAt, hexp, rfl⟩)

/-- A request burns nothing when a check fails, as checks only wait. -/
theorem unburned_of_checks {α β γ : Type} {auth : Action β} {plan : β → Action γ}
    {rest : β → γ → Action α} {P : β → γ → World → Prop} (hauth : Within World.Waits auth)
    (hplan : ∀ a, Within World.Waits (plan a))
    (hrest : ∀ a w₁ p w₂, auth.run w = .ok a w₁ → (plan a).run w₁ = .ok p w₂ → w.Waits w₂ →
      (Unburned (rest a p) w₂ ↔ P a p w₂)) :
    Unburned (auth >>= fun a => plan a >>= rest a) w ↔
      ∀ a w₁ p w₂, auth.run w = .ok a w₁ → (plan a).run w₁ = .ok p w₂ → P a p w₂ := by
  cases hauthRun : auth.run w with
  | error abort w₁ =>
    refine iff_of_true
      (unburned_of_error (run_bind_of_error hauthRun _) (hauth.of_error hauthRun)) ?_
    rintro _ _ _ _ ⟨⟩
  | ok a w₁ =>
    cases hplanRun : (plan a).run w₁ with
    | error abort w₂ =>
      have hrun : (auth >>= fun a => plan a >>= rest a).run w = .error abort w₂ :=
        (run_bind_of_ok hauthRun _).trans (run_bind_of_error hplanRun _)
      refine iff_of_true (unburned_of_error hrun
        (trans_of World.Waits (hauth.of_ok hauthRun) ((hplan a).of_error hplanRun))) ?_
      rintro _ _ _ _ ⟨⟩ hplan'
      cases hplanRun.symm.trans hplan'
    | ok p w₂ =>
      have hwaits := trans_of World.Waits (hauth.of_ok hauthRun) ((hplan a).of_ok hplanRun)
      have hrun : (auth >>= fun a => plan a >>= rest a).run w = (rest a p).run w₂ :=
        (run_bind_of_ok hauthRun _).trans (run_bind_of_ok hplanRun _)
      rw [unburned_of_waits hrun hwaits, hrest a w₁ p w₂ hauthRun hplanRun hwaits]
      constructor
      · rintro hleft _ _ _ _ ⟨⟩ hplan'
        cases hplanRun.symm.trans hplan'
        exact hleft
      · intro hchecked
        exact hchecked a w₁ p w₂ rfl hplanRun

theorem trySign_unburned_iff (hkey : ∀ n msg, ∃ sig, service.ca.key.sign n msg = .ok sig)
    (htimes : PanicsOnly rt.crates) {req : SignRequest}
    (hfree : SignKeysFree rt service req requestUrl w) :
    Unburned (service.trySign rt req requestUrl requestId) w ↔
      SignChecked rt service req requestUrl w := by
  refine (unburned_of_checks
    (P := fun _ plan w₂ => NothingLeft rt w₂ plan.keys (plan.issueParams.NamesEncode rt.crates))
    (service.waits_signAuthenticate rt req requestUrl)
    (fun authenticated => service.waits_signPlan rt req authenticated.1 authenticated.2)
    fun authenticated w₁ plan w₂ hauth hplan hwaits => ?_).trans Prod.forall
  obtain ⟨_, _, _, _, _, -, hvalidated, -⟩ := Service.of_signPlan hplan
  rw [← hvalidated]
  exact signClaims_unburned_iff hkey htimes fun ks hks =>
    (hfree authenticated.1 authenticated.2 w₁ plan w₂ ks hauth hplan hks).of_waits hwaits

theorem tryRenewOrRekey_unburned_iff (hkey : ∀ n msg, ∃ sig, service.ca.key.sign n msg = .ok sig)
    (htimes : PanicsOnly rt.crates) {certificatePem : String} {newCsrPem dpop : Option String}
    (hfree : ReissueKeysFree rt service certificatePem newCsrPem dpop requestUrl w) :
    Unburned (service.tryRenewOrRekey rt certificatePem newCsrPem dpop requestUrl requestId) w ↔
      ReissueChecked rt service certificatePem newCsrPem dpop requestUrl w := by
  refine unburned_of_checks (service.waits_reissueAuthenticate rt certificatePem dpop requestUrl)
    (fun auth => service.waits_reissuePlan rt auth newCsrPem)
    fun auth w₁ plan w₂ hauth hplan hwaits => ?_
  obtain ⟨_, _, _, _, _, -, -, -, -, -, hsame, -⟩ := Service.of_reissuePlan hplan
  obtain ⟨-, -, -, -, -, _, -, hverify⟩ := Service.of_reissueAuthenticate hauth
  obtain ⟨_, claims, -, -, hproof⟩ := Dpop.says_of_verify hverify
  rw [← hsame] at hproof ⊢
  have hepoch : unixEpoch ≤ plan.auth.proof.issuedAt := by
    rw [hproof]
    exact unixEpoch_le_systemTimeFromEpoch claims.iat
  exact reissueClaims_unburned_iff hkey htimes hepoch fun ks hks =>
    (hfree auth w₁ plan w₂ ks hauth hplan hks).of_waits hwaits

/-- The outcome that is returned is that of the request, which is reported after it. -/
theorem unburned_audited {α : Type} {request : Action (α × AuditEvent)} {eventType : String}
    (htimes : PanicsOnly rt.crates) (h : Unburned request w) :
    Unburned (audited rt eventType requestId request) w := by
  intro e w' herror hrejects
  unfold audited at herror
  cases hrun : request.run w with
  | ok served w₁ =>
    rw [run_bind_of_ok (run_attempt_of_ok hrun)] at herror
    cases herror
  | error abort w₁ =>
    cases abort with
    | panic message =>
      rw [run_bind_of_error (run_attempt_of_panic hrun)] at herror
      cases herror
    | error e' =>
      rw [run_bind_of_ok (run_attempt_of_error hrun)] at herror
      have hdenial : Within World.Waits (denial rt eventType requestId e') :=
        waits_denial rt eventType requestId e'
      cases hevent : (denial rt eventType requestId e').run w₁ with
      | ok event w₂ =>
        have hend := (run_bind_of_ok hevent _).symm.trans herror
        cases hend
        exact (trans_of World.SameClaims (h e w₁ hrun hrejects)
          (congrArg Storage.heldUntil (hdenial.of_ok hevent).storage))
      | error abort w₂ =>
        have hend := (run_bind_of_error hevent _).symm.trans herror
        cases hend
        refine absurd ⟨_, _, hevent, hrejects⟩ (?_ : ¬FailsFrom Abort.Rejects _ w₁)
        unfold denial
        simp only [failsFrom_bind, not_rejects_eventNow htimes, failsFrom_pure, and_false,
          exists_false, or_false, not_false_eq_true]

end

/-- A request that is rejected has claimed nothing, exactly when its names can be encoded and it
asserts no scope twice; and then no outcome that is returned burns a credential. -/
theorem rejected_unburned_iff (rt : Runtime) (service : Service)
    (hkey : ∀ n msg, ∃ sig, service.ca.key.sign n msg = .ok sig) (htimes : PanicsOnly rt.crates) :
    (∀ req requestUrl requestId w, SignKeysFree rt service req requestUrl w →
      (Unburned (service.trySign rt req requestUrl requestId) w ↔
        SignChecked rt service req requestUrl w) ∧
      (SignChecked rt service req requestUrl w →
        Unburned (service.sign rt req requestUrl requestId) w)) ∧
    (∀ certificatePem newCsrPem dpop requestUrl requestId w,
      ReissueKeysFree rt service certificatePem newCsrPem dpop requestUrl w →
      (Unburned (service.tryRenewOrRekey rt certificatePem newCsrPem dpop requestUrl requestId) w ↔
        ReissueChecked rt service certificatePem newCsrPem dpop requestUrl w)) ∧
    (∀ (request : ReissueRequest) dpop requestUrl requestId w,
      ReissueKeysFree rt service request.certificate request.newCsr dpop requestUrl w →
      ReissueChecked rt service request.certificate request.newCsr dpop requestUrl w →
        Unburned (request.run rt service dpop requestUrl requestId) w) := by
  refine ⟨fun req requestUrl requestId w hfree => ?_, fun _ _ _ _ _ _ hfree => ?_,
    fun request dpop requestUrl requestId w hfree hchecked => ?_⟩
  · have hiff := @trySign_unburned_iff rt service requestUrl requestId w hkey htimes req hfree
    exact ⟨hiff, fun hchecked => unburned_audited htimes (hiff.mpr hchecked)⟩
  · exact tryRenewOrRekey_unburned_iff hkey htimes hfree
  · have hrequest := (@tryRenewOrRekey_unburned_iff rt service requestUrl requestId w hkey htimes
      request.certificate request.newCsr dpop hfree).mpr hchecked
    cases request with
    | renew req => exact unburned_audited htimes hrequest
    | rekey req => exact unburned_audited htimes hrequest

/-! ## A name that cannot be encoded -/

/-- A run with a token for `sub`, in which names of the DNS are ASCII. -/
def asciiRuntime (sub : String) : Runtime :=
  let crates := Testca.serverCrates [] [("csr", Testca.csr)]
    [([1], Testca.ottClaims sub "t-1" 1000 1300)]
  Testca.still { crates with
    serverDer := { crates.serverDer with
      ia5String := fun s =>
        if s.toList.all fun c => c.toNat < 128 then .ok s else .error "invalid character" } }

def asciiWorld : World := Testca.world Testca.sqlite (Testca.instant 1000)

theorem signKeysFree_ascii (sub : String) : SignKeysFree (asciiRuntime sub) (Testca.service true [])
    (Testca.signRequest (Testca.token "o" 1 [9])) "ca" asciiWorld :=
  fun _ _ _ _ _ _ _ _ _ _ _ => Lease.free_of_none rfl

/-- A request for a name that is not ASCII is rejected, and its token cannot be used again. -/
theorem rejected_burns : SignKeysFree (asciiRuntime "bücher") (Testca.service true [])
      (Testca.signRequest (Testca.token "o" 1 [9])) "ca" asciiWorld ∧
    ¬Unburned ((Testca.service true []).sign (asciiRuntime "bücher")
      (Testca.signRequest (Testca.token "o" 1 [9])) "ca" none) asciiWorld := by
  refine ⟨signKeysFree_ascii _, fun h => ?_⟩
  have hsame := congrFun (h _ _ rfl trivial) "ott#t-1"
  cases hsame

theorem panicsOnly_ascii (sub : String) : PanicsOnly (asciiRuntime sub).crates := by
  rintro _ _ ⟨⟩

theorem rejected_unburned_iff_web :
    (Unburned ((Testca.service true []).trySign (asciiRuntime "web")
        (Testca.signRequest (Testca.token "o" 1 [9])) "ca" none) asciiWorld ↔
      SignChecked (asciiRuntime "web") (Testca.service true [])
        (Testca.signRequest (Testca.token "o" 1 [9])) "ca" asciiWorld) ∧
    (SignChecked (asciiRuntime "web") (Testca.service true [])
        (Testca.signRequest (Testca.token "o" 1 [9])) "ca" asciiWorld →
      Unburned ((Testca.service true []).sign (asciiRuntime "web")
        (Testca.signRequest (Testca.token "o" 1 [9])) "ca" none) asciiWorld) :=
  (rejected_unburned_iff (asciiRuntime "web") (Testca.service true []) (fun _ _ => ⟨_, rfl⟩)
    (panicsOnly_ascii "web")).1
    (Testca.signRequest (Testca.token "o" 1 [9])) "ca" none asciiWorld (signKeysFree_ascii "web")

end Ayane
