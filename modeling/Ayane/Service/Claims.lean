import Ayane.Service.Phases
import Ayane.Testca.Server

/-!
# Claiming a credential and its scopes

A request claims the id of its credential and then each of its scopes, one after the
other. The claims succeed together exactly when every key is free beforehand and no key
is repeated while it is held. When one of them fails, those before it stand.
-/

namespace Ayane

open Ayane.Action Effect

/-- A key that a request is about to claim, until when, and how a conflict is reported. -/
structure OnceKey where
  key : String
  expiresAt : SystemTime
  conflictMsg : String

def claimAll (rt : Runtime) (keys : List OnceKey) : Action Unit :=
  keys.forM fun k => claimOnce rt k.key k.expiresAt k.conflictMsg

/-- The keys of a request, in the order it claims them. -/
def requestKeys (kind jti : String) (expiresAt : SystemTime) (scopes : List OnceClaim)
    (defaultExpiry : SystemTime) : List OnceKey :=
  ⟨jtiKey kind jti, expiresAt, "token or proof has already been used"⟩ ::
    scopes.map fun scope => ⟨scope.key, scope.expiresAt.getD defaultExpiry,
      "an issuance has already been performed for this scope"⟩

/-- `claim_jti` followed by `claim_once_scopes`. -/
def claimCredential (rt : Runtime) (kind jti : String) (expiresAt : SystemTime)
    (scopes : List OnceClaim) (defaultExpiry : SystemTime) : Action Unit := do
  claimJti rt kind jti expiresAt
  claimOnceScopes rt scopes defaultExpiry

theorem claimCredential_eq (rt : Runtime) (kind jti : String) (expiresAt : SystemTime)
    (scopes : List OnceClaim) (defaultExpiry : SystemTime) :
    claimCredential rt kind jti expiresAt scopes defaultExpiry =
      claimAll rt (requestKeys kind jti expiresAt scopes defaultExpiry) := by
  have hscopes : claimOnceScopes rt scopes defaultExpiry =
      claimAll rt (scopes.map fun scope => ⟨scope.key, scope.expiresAt.getD defaultExpiry,
        "an issuance has already been performed for this scope"⟩) := by
    induction scopes with
    | nil => rfl
    | cons scope scopes ih => exact congrArg (claimOnce rt _ _ _ >>= ·) (funext fun _ => ih)
  rw [claimCredential, hscopes]
  rfl

/-- What `try_sign` claims. -/
theorem signClaims_run {rt : Runtime} {w : World} {validated : ValidatedToken}
    {expiresAt : SystemTime}
    (h : (systemTimeFromEpoch validated.claims.exp).plus replayLeeway = .ok expiresAt)
    (scopes : List OnceClaim) (defaultExpiry : SystemTime) :
    (do Service.signClaimJti rt validated; claimOnceScopes rt scopes defaultExpiry : Action Unit).run w =
      (claimCredential rt "ott" validated.replayId expiresAt scopes defaultExpiry).run w := by
  simp only [Service.signClaimJti, h]
  rfl

/-- What `try_renew_or_rekey` claims. -/
theorem reissueClaims_run {rt : Runtime} {w : World} {proof : Dpop.VerifiedProof}
    {expiresAt : SystemTime} (h : Service.proofExpiry proof = .ok expiresAt)
    (scopes : List OnceClaim) (defaultExpiry : SystemTime) :
    (do Service.proofClaimJti rt proof; claimOnceScopes rt scopes defaultExpiry : Action Unit).run w =
      (claimCredential rt "dpop" proof.jti expiresAt scopes defaultExpiry).run w := by
  simp only [Service.proofClaimJti, h]
  rfl

/-! ## The claims as a row of leases -/

/-- The world when the next key is claimed, but for the storage. -/
def World.afterOnce (rt : Runtime) (w : World) : World := ((w.tick rt).tick rt).tick rt

/-- The claims that a list of keys amounts to, when each is committed in its turn. -/
def prepareAll (rt : Runtime) : World → List OnceKey → Outcome (List PendingClaim)
  | _, [] => .ok []
  | w, k :: ks => do
    let claim ← w.prepareOnce rt k.key k.expiresAt
    let claims ← prepareAll rt (w.afterOnce rt) ks
    .ok (claim :: claims)

def PendingClaim.grant (claim : PendingClaim) : Lease.Grant String (WithTop ℕ) :=
  ⟨claim.jti, claim.now, claim.expiresAt⟩

/-- Two worlds in which the same claims are prepared: the clocks agree, and so do the kinds of
the storages. -/
structure World.Alike (w w' : World) : Prop where
  clock : w.clock = w'.clock
  interactions : w.interactions = w'.interactions
  prepare : ∀ jti expiresAt now,
    w.storage.prepareClaim jti expiresAt now = w'.storage.prepareClaim jti expiresAt now

theorem World.Alike.tick (rt : Runtime) {w w' : World} (h : w.Alike w') :
    (w.tick rt).Alike (w'.tick rt) where
  clock := by simp only [World.tick, h.clock, h.interactions]
  interactions := by simp only [World.tick, h.interactions]
  prepare := h.prepare

theorem World.Alike.prepareOnce (rt : Runtime) {w w' : World} (h : w.Alike w') (key : String)
    (expiresAt : SystemTime) : w.prepareOnce rt key expiresAt = w'.prepareOnce rt key expiresAt := by
  simp only [World.prepareOnce, (h.tick rt).clock, ((h.tick rt).tick rt).clock, h.prepare]

theorem World.Alike.prepareAll (rt : Runtime) {w w' : World} (h : w.Alike w')
    (ks : List OnceKey) : prepareAll rt w ks = prepareAll rt w' ks := by
  induction ks generalizing w w' with
  | nil => rfl
  | cons k ks ih =>
    simp only [Ayane.prepareAll, h.prepareOnce rt, ih (((h.tick rt).tick rt).tick rt),
      World.afterOnce]

/-- A commit does not change what is prepared after it. -/
theorem alike_storing (rt : Runtime) (w : World) (claim : PendingClaim) :
    (((w.tick rt).tick rt).storing rt (w.storage.commitClaim claim).2).Alike (w.afterOnce rt) where
  clock := rfl
  interactions := rfl
  prepare jti expiresAt now := by
    change (w.storage.commitClaim claim).2.prepareClaim jti expiresAt now =
      w.storage.prepareClaim jti expiresAt now
    cases w.storage <;> rfl

theorem prepareAll_cons {rt : Runtime} {w : World} {k : OnceKey} {ks : List OnceKey}
    {claims : List PendingClaim} :
    prepareAll rt w (k :: ks) = .ok claims ↔ ∃ claim rest,
      w.prepareOnce rt k.key k.expiresAt = .ok claim ∧ prepareAll rt (w.afterOnce rt) ks = .ok rest ∧
      claims = claim :: rest := by
  simp only [prepareAll, except_bind_eq_ok, Except.ok.injEq]
  constructor
  · rintro ⟨claim, hclaim, rest, hrest, rfl⟩
    exact ⟨claim, rest, hclaim, hrest, rfl⟩
  · rintro ⟨claim, rest, hclaim, hrest, rfl⟩
    exact ⟨claim, hclaim, rest, hrest, rfl⟩

/-- Prepared claims are made at or after the moment the request starts claiming. -/
theorem le_now_of_prepareAll {rt : Runtime} {w : World} {ks : List OnceKey}
    {claims : List PendingClaim} (h : prepareAll rt w ks = .ok claims) :
    ∀ claim ∈ claims, unixSecs w.clock ≤ claim.now := by
  induction ks generalizing w claims with
  | nil =>
    cases h
    simp
  | cons k ks ih =>
    obtain ⟨claim, rest, hclaim, hrest, rfl⟩ := prepareAll_cons.mp h
    have hfirst : w.clock ≤ ((w.tick rt).tick rt).clock :=
      (le_clock_tick rt w).trans (le_clock_tick rt _)
    intro c hc
    rcases List.mem_cons.mp hc with rfl | hc
    · rw [(of_prepareOnce hclaim).2.1]
      exact unixSecs_mono hfirst
    · exact (unixSecs_mono (hfirst.trans (le_clock_tick rt _))).trans (ih hrest c hc)

theorem sorted_of_prepareAll {rt : Runtime} {w : World} {ks : List OnceKey}
    {claims : List PendingClaim} (h : prepareAll rt w ks = .ok claims) :
    claims.Pairwise fun c c' => c.now ≤ c'.now := by
  induction ks generalizing w claims with
  | nil =>
    cases h
    exact List.Pairwise.nil
  | cons k ks ih =>
    obtain ⟨claim, rest, hclaim, hrest, rfl⟩ := prepareAll_cons.mp h
    refine List.pairwise_cons.mpr ⟨fun c hc => ?_, ih hrest⟩
    have hle := le_now_of_prepareAll hrest c hc
    rw [(of_prepareOnce hclaim).2.1]
    exact (unixSecs_mono (le_clock_tick rt _)).trans hle

/-- The leases that committed claims leave. -/
def heldAfter (held : Lease.Held String (WithTop ℕ)) (claims : List PendingClaim) :
    Lease.Held String (WithTop ℕ) :=
  Lease.applyAll held (claims.map PendingClaim.grant)

/-- Every claim finds its key free beforehand, and no key is repeated while an earlier claim of
the row holds it. -/
structure AllFree (s : Storage) (claims : List PendingClaim) : Prop where
  free : ∀ claim ∈ claims, s.Claimable claim.now claim.jti
  apart : claims.Pairwise fun c c' => c.jti = c'.jti → c.expiresAt ≤ c'.now

theorem grantable_iff_allFree {rt : Runtime} {w : World} {ks : List OnceKey}
    {claims : List PendingClaim} (h : prepareAll rt w ks = .ok claims) (s : Storage) :
    Lease.Grantable s.heldUntil (claims.map PendingClaim.grant) ↔ AllFree s claims := by
  have hsorted : (claims.map PendingClaim.grant).Pairwise fun g g' => g.now ≤ g'.now :=
    List.pairwise_map.mpr ((sorted_of_prepareAll h).imp WithTop.coe_le_coe.mpr)
  rw [Lease.grantable_iff hsorted, List.forall_mem_map, List.pairwise_map]
  constructor
  · rintro ⟨hfree, hapart⟩
    exact ⟨hfree, hapart.imp fun hc heq => WithTop.coe_le_coe.mp (hc heq)⟩
  · rintro ⟨hfree, hapart⟩
    exact ⟨hfree, hapart.imp fun hc heq => WithTop.coe_le_coe.mpr (hc heq)⟩

/-- A commit grants the lease of its claim. -/
theorem grant_apply_eq {rt : Runtime} {w : World} {key : String} {expiresAt : SystemTime}
    {claim : PendingClaim} (h : w.prepareOnce rt key expiresAt = .ok claim)
    (hfree : w.storage.Claimable claim.now key) :
    claim.grant.apply w.storage.heldUntil = (w.storage.commitClaim claim).2.heldUntil := by
  rw [heldUntil_of_claimOnce h hfree, ← (of_prepareOnce h).1]
  rfl

/-! ## The run of a row of claims -/

/-- How a row of claims ends: some prefix of it is committed, and it is the whole row exactly
when the run succeeds. -/
theorem claimAll_run (rt : Runtime) (ks : List OnceKey) (w : World) :
    ∃ claims, claims.length ≤ ks.length ∧
      prepareAll rt w (ks.take claims.length) = .ok claims ∧
      Lease.Grantable w.storage.heldUntil (claims.map PendingClaim.grant) ∧
      (final ((claimAll rt ks).run w)).storage.heldUntil = heldAfter w.storage.heldUntil claims ∧
      ((∃ w', (claimAll rt ks).run w = .ok () w') ↔ claims.length = ks.length) := by
  induction ks generalizing w with
  | nil => exact ⟨[], le_rfl, rfl, trivial, rfl, fun _ => rfl, fun _ => ⟨w, rfl⟩⟩
  | cons k ks ih =>
    have hcons : claimAll rt (k :: ks) =
        (claimOnce rt k.key k.expiresAt k.conflictMsg >>= fun _ => claimAll rt ks) := rfl
    rw [hcons]
    obtain ⟨claim, hclaim, hfree, hrun⟩ | ⟨-, abort, w', hrun, hwaits⟩ :=
      claimOnce_cases rt k.key k.conflictMsg k.expiresAt w
    · -- the first key is claimed, and the rest goes on from there
      rw [run_bind_of_ok hrun]
      have halike := alike_storing rt w claim
      have happly := grant_apply_eq hclaim hfree
      obtain ⟨claims, hlen, hprep, hgrant, hfinal, hiff⟩ :=
        ih (((w.tick rt).tick rt).storing rt (w.storage.commitClaim claim).2)
      obtain ⟨hkey, -⟩ := of_prepareOnce hclaim
      refine ⟨claim :: claims, Nat.succ_le_succ hlen, ?_, ?_, ?_, ?_⟩
      · exact prepareAll_cons.mpr ⟨claim, claims, hclaim, (halike.prepareAll rt _).symm.trans hprep, rfl⟩
      · refine ⟨by rwa [PendingClaim.grant, hkey], ?_⟩
        rwa [happly]
      · rw [hfinal]
        exact congrArg (fun held => heldAfter held claims) happly.symm
      · rw [hiff, List.length_cons, List.length_cons]
        omega
    · -- the first key fails, and nothing has been claimed
      rw [run_bind_of_error hrun]
      refine ⟨[], Nat.zero_le _, rfl, trivial, ?_, ?_⟩
      · exact congrArg Storage.heldUntil hwaits.storage
      · simp

theorem claimAll_eq_ok {rt : Runtime} {ks : List OnceKey} {w : World} :
    (∃ w', (claimAll rt ks).run w = .ok () w') ↔ ∃ claims, prepareAll rt w ks = .ok claims ∧
      Lease.Grantable w.storage.heldUntil (claims.map PendingClaim.grant) := by
  induction ks generalizing w with
  | nil => exact ⟨fun _ => ⟨[], rfl, trivial⟩, fun _ => ⟨w, rfl⟩⟩
  | cons k ks ih =>
    have hcons : claimAll rt (k :: ks) =
        (claimOnce rt k.key k.expiresAt k.conflictMsg >>= fun _ => claimAll rt ks) := rfl
    simp only [hcons, run_bind_eq_ok, run_claimOnce_eq_ok]
    constructor
    · rintro ⟨w', -, w₁, ⟨claim, hclaim, hfree, rfl⟩, hrun⟩
      obtain ⟨claims, hprep, hgrant⟩ := ih.mp ⟨w', hrun⟩
      rw [(alike_storing rt w claim).prepareAll] at hprep
      refine ⟨claim :: claims, prepareAll_cons.mpr ⟨claim, claims, hclaim, hprep, rfl⟩, ?_, ?_⟩
      · rwa [PendingClaim.grant, (of_prepareOnce hclaim).1]
      · rw [grant_apply_eq hclaim hfree]
        exact hgrant
    · rintro ⟨_, hprep, hgrant⟩
      obtain ⟨claim, claims, hclaim, hrest, rfl⟩ := prepareAll_cons.mp hprep
      obtain ⟨hfree, hgrant⟩ := hgrant
      rw [PendingClaim.grant, (of_prepareOnce hclaim).1] at hfree
      rw [grant_apply_eq hclaim hfree] at hgrant
      rw [← (alike_storing rt w claim).prepareAll] at hrest
      obtain ⟨w', hrun⟩ := ih.mpr ⟨claims, hrest, hgrant⟩
      exact ⟨w', (), _, ⟨claim, hclaim, hfree, rfl⟩, hrun⟩

/-- The credential and the scopes of a request are claimed together exactly when every key can be
stored, is free beforehand and is not repeated while held. Whether or not they are, the
storage ends with the claims of the keys before the first that failed, and no others. -/
theorem claimCredential_granted_iff (rt : Runtime) (w : World) (kind jti : String)
    (expiresAt : SystemTime) (scopes : List OnceClaim) (defaultExpiry : SystemTime) :
    let keys := requestKeys kind jti expiresAt scopes defaultExpiry
    let run := (claimCredential rt kind jti expiresAt scopes defaultExpiry).run w
    ((∃ w', run = .ok () w') ↔
      ∃ claims, prepareAll rt w keys = .ok claims ∧ AllFree w.storage claims) ∧
    ∃ claims, claims.length ≤ keys.length ∧
      prepareAll rt w (keys.take claims.length) = .ok claims ∧
      (final run).storage.heldUntil = heldAfter w.storage.heldUntil claims ∧
      ((∃ w', run = .ok () w') ↔ claims.length = keys.length) := by
  intro keys run
  have hrun : run = (claimAll rt keys).run w := by rw [← claimCredential_eq]
  rw [hrun]
  constructor
  · rw [claimAll_eq_ok]
    constructor
    · rintro ⟨claims, hprep, hgrant⟩
      exact ⟨claims, hprep, (grantable_iff_allFree hprep _).mp hgrant⟩
    · rintro ⟨claims, hprep, hfree⟩
      exact ⟨claims, hprep, (grantable_iff_allFree hprep _).mpr hfree⟩
  · obtain ⟨claims, hlen, hprep, -, hfinal, hiff⟩ := claimAll_run rt keys w
    exact ⟨claims, hlen, hprep, hfinal, hiff⟩

/-! ## A scope asserted twice -/

def instanceScope : OnceClaim where
  nspace := "prov:ci"
  value := "i-1"
  expiresAt := none

/-- The keys of a request whose token and hook assert the same scope. -/
def repeatedKeys : List OnceKey :=
  requestKeys "ott" "t-1" (Testca.instant 1300) [instanceScope, instanceScope] (Testca.instant 5000)

def claimRepeated : EStateM.Result Abort World Unit :=
  (claimCredential (Testca.still (Testca.serverCrates [] [] [])) "ott" "t-1" (Testca.instant 1300)
    [instanceScope, instanceScope] (Testca.instant 5000)).run
    (Testca.world Testca.sqlite (Testca.instant 1000))

/-- Every key is free, but the second scope conflicts with the first. The claim fails and leaves
the id and the scope claimed. -/
theorem claimRepeated_fails :
    (∀ k ∈ repeatedKeys, Testca.sqlite.Claimable 1000 k.key) ∧
      ∃ e w', claimRepeated = .error e w' ∧ ¬w'.storage.Claimable 1000 "ott#t-1" ∧
        ¬w'.storage.Claimable 1000 "scope#prov:ci#i-1" := by
  refine ⟨fun k _ => Lease.free_of_none rfl, _, _, rfl, ?_, ?_⟩
  · intro h
    exact absurd (WithTop.coe_le_coe.mp (h (1300 : ℕ) rfl)) (by decide)
  · intro h
    exact absurd (WithTop.coe_le_coe.mp (h (5000 : ℕ) rfl)) (by decide)

end Ayane
