import Ayane.Service.InFlight

/-!
# One-time proofs

A DPoP proof is fresh when it is verified and is claimed some time later, when the hooks
have answered. Its claim is recorded until six minutes after it was issued (or a minute
after it was claimed). A request that is still waiting for its hooks then can claim the
proof once more; as long as none does, every proof is claimed at most once.
-/

namespace Ayane.InFlight

open Ayane.Action Effect

/-- The proof that was presented with a request and that it has not claimed yet. -/
def Stage.unclaimed : Stage → Option (String × Dpop.VerifiedProof)
  | .authenticated call auth => call.dpop.map (·, auth.proof)
  | .planned call plan => call.dpop.map (·, plan.auth.proof)
  | .authorized rev =>
    match rev.auth with
    | .proof proof => rev.call.dpop.map (·, proof)
    | .token _ => none
  | .claiming held _ => held.unclaimed
  | _ => none

/-- The proof that is claimed. -/
def Commit.proof (commit : Commit) : Option String := commit.held.unclaimed.map Prod.fst

/-- A request that presents `proof` gets past the claim of it. -/
def Event.claims (proof : String) : Event → Bool
  | .claimed commit => commit.proof = some proof
  | _ => false

/-- A proof that has been claimed before is claimed no later than in the last second for which the
earlier claim is recorded. -/
def Prompt (c : Config) (commit : Commit) : Prop :=
  ∀ proof, commit.proof = some proof → ∀ earlier, .claimed earlier ∈ c.log →
    earlier.proof = some proof → unixSecs commit.instant < earlier.claim.expiresAt

section

variable {crates : ServerCrates} {Admitted : Config → Commit → Prop} {c c' : Config}

/-- The proof that is carried to the claim is what was verified. -/
def Faithful (crates : ServerCrates) (stage : Stage) : Prop :=
  ∀ proof verified, stage.unclaimed = some (proof, verified) → Dpop.Says crates proof verified

theorem faithful_of_none {stage : Stage} (h : stage.unclaimed = none) : Faithful crates stage := by
  intro proof verified hproof
  cases h.symm.trans hproof

theorem unclaimed_authorized {rev : Revocation} {proof : String} {verified : Dpop.VerifiedProof} :
    (Stage.authorized rev).unclaimed = some (proof, verified) ↔
      rev.auth = .proof verified ∧ rev.call.dpop = some proof := by
  rw [Stage.unclaimed]
  cases rev.auth with
  | token validated => simp
  | proof verified' => simp [and_comm]

/-- The claim of a proof is for its id, and is recorded for the six minutes in which it may be
presented. -/
theorem Prepared.of_unclaimed {held : Stage} {claim : PendingClaim} {t : SystemTime} {proof : String}
    {verified : Dpop.VerifiedProof} (h : Prepared held claim t)
    (hproof : held.unclaimed = some (proof, verified)) :
    claim.jti = jtiKey "dpop" verified.jti ∧
      ∃ expiresAt, Service.proofExpiry verified = .ok expiresAt ∧ unixSecs expiresAt ≤ claim.expiresAt := by
  obtain ⟨next, expiresAt, hnext, hexpires, hjti, hends⟩ := h.next
  cases held with
  | planned call plan =>
    obtain ⟨_, -, heq⟩ := Option.map_eq_some_iff.mp hproof
    cases heq
    cases hnext
    exact ⟨hjti, expiresAt, hexpires, hends⟩
  | authorized rev =>
    obtain ⟨hauth, -⟩ := unclaimed_authorized.mp hproof
    cases hnext
    dsimp only [Revocation.claim] at hjti hexpires
    rw [hauth] at hjti hexpires
    exact ⟨hjti, expiresAt, hexpires, hends⟩
  | authenticated call auth => cases hnext
  | claiming held claim => cases hnext
  | claimed call plan scopes => cases hproof
  | idle => cases hproof
  | signed call plan issued => cases hproof
  | consumed rev => cases hproof
  | ended => cases hproof

/-- A proof that authorizes a revocation was verified. -/
theorem says_of_revokeAuthenticate {rt : Runtime} {service : Service} {req : RevokeRequest}
    {dpop : Option String} {requestUrl serial : String} {now : SystemTime} {w w' : World}
    {verified : Dpop.VerifiedProof}
    (h : (service.revokeAuthenticate rt req dpop requestUrl serial now).run w =
      .ok (.proof verified) w') :
    ∀ proof, dpop = some proof → Dpop.Says rt.crates proof verified := by
  unfold Service.revokeAuthenticate at h
  split at h
  · obtain ⟨_, _, -, h⟩ := run_bind_eq_ok.mp h
    simp only [run_bind_eq_ok, run_ofResult_eq_ok] at h
    obtain ⟨_, _, ⟨-, rfl⟩, _, _, ⟨-, rfl⟩, hpure⟩ := h
    cases hpure
  · simp only [run_bind_eq_ok, run_ofResult_eq_ok, run_ofOutcome_eq_ok] at h
    obtain ⟨_, _, ⟨-, rfl⟩, _, _, ⟨-, rfl⟩, _, _, ⟨-, rfl⟩, verified', _, ⟨hverify, rfl⟩, hpure⟩ := h
    cases hpure
    rintro proof ⟨⟩
    exact Dpop.says_of_verify hverify
  · cases h

structure Inv (crates : ServerCrates) (c : Config) : Prop where
  ready : Ready c
  faithful : ∀ id, Faithful crates (c.stages id)
  /-- What was claimed was prepared, and is kept to its end. -/
  kept : ∀ commit, .claimed commit ∈ c.log → Faithful crates commit.held ∧
    Prepared commit.held commit.claim commit.instant ∧
    Lease.Lasts c.world.storage.heldUntil (unixSecs c.world.clock : WithTop ℕ) commit.claim.jti
      commit.claim.expiresAt
  once : ∀ proof, c.log.Pairwise fun e e' => ¬(e.claims proof ∧ e'.claims proof)

theorem Step.faithful (hstep : Step crates Admitted c c')
    (h : ∀ id, Faithful crates (c.stages id)) : ∀ id, Faithful crates (c'.stages id) := by
  cases hstep with
  | wait _ => exact h
  | upkeep _ => exact h
  | claim claim _ => exact h
  | abandon id => exact forall_update h (faithful_of_none rfl)
  | authenticate rt hrt hstage hauth =>
    refine forall_update h ?_
    obtain ⟨-, -, -, -, -, proof, hdpop, hverify⟩ := Service.of_reissueAuthenticate hauth
    intro proof' verified hproof
    rw [Stage.unclaimed, hdpop] at hproof
    cases hproof
    exact hrt ▸ Dpop.says_of_verify hverify
  | plan rt hrt hstage hplan =>
    refine forall_update h ?_
    obtain ⟨_, _, _, _, _, -, -, -, -, -, hauth, -⟩ := Service.of_reissuePlan hplan
    intro proof verified hproof
    rw [Stage.unclaimed, hauth] at hproof
    exact h _ proof verified ((congrArg Stage.unclaimed hstage).trans hproof)
  | @authorize rt hrt id rev w hstage hserial hnow hauth =>
    refine forall_update h ?_
    intro proof verified hproof
    obtain ⟨hkind, hdpop⟩ := unclaimed_authorized.mp hproof
    rw [hkind] at hauth
    exact hrt ▸ says_of_revokeAuthenticate hauth proof hdpop
  | prepare rt hrt hstage hnext hexpires hclaim =>
    refine forall_update h ?_
    subst hstage
    exact h _
  | commit hstage hnext hfree hadmitted =>
    refine forall_update h (faithful_of_none ?_)
    unfold Stage.nextClaim at hnext
    split at hnext <;> cases hnext <;> rfl
  | sign rt hrt hstage hsign => exact forall_update h (faithful_of_none rfl)
  | record rt hrt hstage hnotBefore hissuedAt hrecord =>
    exact forall_update h (faithful_of_none rfl)
  | revoke rt hrt hstage hrevoke => exact forall_update h (faithful_of_none rfl)

/-- What was claimed stays claimed to its end. -/
theorem Inv.kept_of_step (hstep : Step crates Admitted c c') (h : Inv crates c) {commit : Commit}
    (hcommit : .claimed commit ∈ c.log) : Faithful crates commit.held ∧
      Prepared commit.held commit.claim commit.instant ∧
      Lease.Lasts c'.world.storage.heldUntil (unixSecs c'.world.clock : WithTop ℕ) commit.claim.jti
        commit.claim.expiresAt := by
  obtain ⟨hfaithful, hprepared, hlasts⟩ := h.kept commit hcommit
  exact ⟨hfaithful, hprepared, (hstep.evolves h.ready).claims.lasts hlasts⟩

theorem claims_iff {commit : Commit} {proof : String} :
    Event.claims proof (.claimed commit) ↔
      ∃ verified, commit.held.unclaimed = some (proof, verified) := by
  rw [Event.claims, decide_eq_true_iff, Commit.proof, Option.map_eq_some_iff]
  constructor
  · rintro ⟨⟨_, verified⟩, hproof, rfl⟩
    exact ⟨verified, hproof⟩
  · rintro ⟨verified, hproof⟩
    exact ⟨_, hproof, rfl⟩

/-- Two requests with one proof claim one key. -/
theorem jti_eq_of_claims {commit earlier : Commit} {proof : String} {t t' : SystemTime}
    (hfaithful : Faithful crates commit.held) (hprepared : Prepared commit.held commit.claim t)
    (hfaithful' : Faithful crates earlier.held) (hprepared' : Prepared earlier.held earlier.claim t')
    (h : Event.claims proof (.claimed commit)) (h' : Event.claims proof (.claimed earlier)) :
    commit.claim.jti = earlier.claim.jti := by
  obtain ⟨verified, hproof⟩ := claims_iff.mp h
  obtain ⟨verified', hproof'⟩ := claims_iff.mp h'
  have hsame : verified = verified' :=
    (hfaithful proof verified hproof).unique (hfaithful' proof verified' hproof')
  rw [(hprepared.of_unclaimed hproof).1, (hprepared'.of_unclaimed hproof').1, hsame]

theorem Step.inv (hstep : Step crates Prompt c c') (h : Inv crates c) : Inv crates c' := by
  have hready := hstep.ready h.ready
  have hfaithful := hstep.faithful h.faithful
  obtain ⟨commit, hstage, hinstant, hfree, hprompt, hworld, hlog⟩ | hlog | ⟨event, hevent, hlog⟩ :=
    hstep.log
  · have hprepared : Prepared commit.held commit.claim commit.instant := by
      rw [hinstant]
      exact h.ready _ _ _ hstage
    have hheld : Faithful crates commit.held := by
      have := h.faithful commit.id
      rw [hstage] at this
      exact this
    refine ⟨hready, hfaithful, fun commit' hcommit' => ?_, fun proof => ?_⟩
    · rw [hlog] at hcommit'
      obtain heq | hmem := List.mem_cons.mp hcommit'
      · cases heq
        refine ⟨hheld, hprepared, ?_⟩
        rw [hworld, Storage.heldUntil_commitClaim hfree]
        exact Lease.lasts_update _ _ _ le_rfl
      · exact h.kept_of_step hstep hmem
    · rw [hlog]
      refine List.pairwise_cons.mpr ⟨?_, h.once proof⟩
      rintro e he ⟨hclaims, hclaims'⟩
      cases e with
      | claimed earlier =>
        obtain ⟨hheld', hprepared', hlasts⟩ := h.kept earlier he
        have hjti := jti_eq_of_claims hheld hprepared hheld' hprepared' hclaims hclaims'
        -- the key is free at the commit, so the earlier claim has ended by then
        have hnow : (commit.claim.now : WithTop ℕ) ≤ (unixSecs c.world.clock : WithTop ℕ) :=
          WithTop.coe_le_coe.mpr (hinstant ▸ hprepared.now)
        have hended := hlasts.le_of_free (hjti ▸ hfree.mono hnow)
        have hbefore := hprompt proof (of_decide_eq_true hclaims) earlier he
          (of_decide_eq_true hclaims')
        rw [hinstant] at hbefore
        exact absurd (WithTop.coe_le_coe.mp hended) (not_le.mpr hbefore)
      | checked id serial => cases hclaims'
      | returned id serial => cases hclaims'
      | revoked id serial => cases hclaims'
  · refine ⟨hready, hfaithful, fun commit' hcommit' => ?_, fun proof => ?_⟩
    · exact h.kept_of_step hstep (hlog ▸ hcommit')
    · rw [hlog]
      exact h.once proof
  · refine ⟨hready, hfaithful, fun commit' hcommit' => ?_, fun proof => ?_⟩
    · rw [hlog] at hcommit'
      exact h.kept_of_step hstep ((List.mem_cons.mp hcommit').resolve_left (hevent commit' ·.symm))
    · rw [hlog]
      refine List.pairwise_cons.mpr ⟨fun e _ hclaims => ?_, h.once proof⟩
      cases event with
      | claimed commit => exact hevent commit rfl
      | checked id serial => cases hclaims.1
      | returned id serial => cases hclaims.1
      | revoked id serial => cases hclaims.1

/-- The claim of a proof is recorded for six minutes after it was issued. -/
theorem expiry_of_said {proof : String} {verified : Dpop.VerifiedProof} {expiresAt : SystemTime}
    (hsaid : Dpop.Says crates proof verified) (h : Service.proofExpiry verified = .ok expiresAt) :
    unixSecs expiresAt = unixSecs verified.issuedAt + 360 := by
  obtain ⟨aged, haged, h⟩ := except_bind_eq_ok.mp h
  have haged := SystemTime.plus_eq_ok.mp haged
  have hepoch : unixEpoch ≤ verified.issuedAt := by
    obtain ⟨_, claims, -, -, rfl⟩ := hsaid
    exact unixEpoch_le_systemTimeFromEpoch claims.iat
  have hlater : unixEpoch ≤ aged := by
    rw [SystemTime.le_def] at hepoch ⊢
    omega
  rw [unixSecs_of_plus hlater (SystemTime.plus_eq_ok.mp h), unixSecs_of_plus hepoch haged]

/-- A request that claims its proof within six minutes after it was issued is prompt. -/
theorem prompt_of_fresh (h : Inv crates c) {commit : Commit} (hfaithful : Faithful crates commit.held)
    (hfresh : ∀ proof verified, commit.held.unclaimed = some (proof, verified) →
      unixSecs commit.instant < unixSecs verified.issuedAt + 360) : Prompt c commit := by
  intro proof hproof earlier hearlier hproof'
  obtain ⟨verified, hheld⟩ := claims_iff.mp (decide_eq_true hproof)
  obtain ⟨verified', hheld'⟩ := claims_iff.mp (decide_eq_true hproof')
  obtain ⟨hfaithful', hprepared', -⟩ := h.kept earlier hearlier
  obtain ⟨-, expiresAt, hexpires, hends⟩ := hprepared'.of_unclaimed hheld'
  have hsaid := hfaithful' proof verified' hheld'
  have hsame : verified = verified' := (hfaithful proof verified hheld).unique hsaid
  have := hfresh proof verified hheld
  rw [expiry_of_said hsaid hexpires] at hends
  rw [hsame] at this
  omega

end

/-- As long as no request claims a proof after the record of an earlier claim of it has ended, at
most one request gets past the claim of each proof. -/
theorem proof_claimed_once (crates : ServerCrates) (w : World) {c : Config}
    (hrun : Run crates Prompt (.start w) c) (proof : String) :
    c.log.countP (Event.claims proof) ≤ 1 := by
  have hstart : Inv crates (.start w) :=
    ⟨nofun, fun _ => faithful_of_none rfl, fun _ h => absurd h List.not_mem_nil, fun _ => .nil⟩
  have hinv : Inv crates c := Runs.invariant hrun hstart fun _ _ => Step.inv
  exact Runs.countP_le_one (hinv.once proof) fun _ _ h h' => ⟨h, h'⟩

/-! ## A proof that is claimed twice -/

def replayRuntime : Runtime :=
  Testca.still (Testca.serverCrates [Testca.leaf] [] [([1], .obj (Testca.proofFields "p-1" 1500))])

/-- The world at a second and an interaction, with the claims that are stored. -/
def worldAt (secs : Int64) (n : ℕ) (tokens : Table String ℕ) : World :=
  { Testca.world (.sqlite { tokens }) (Testca.instant secs) with interactions := n }

/-- The request `id` is verified in `c`, then planned. -/
def verified (c : Config) (id : ℕ) (w : World) : Config :=
  (c.advance id (.authenticated renewal renewalAuth) w).note (.checked id "7")

def planned (c : Config) (id : ℕ) (w : World) : Config :=
  (verified c id w).advance id (.planned renewal renewalPlan) w

/-- The request `id` prepares `claim` in `c`, then commits it. -/
def prepared (c : Config) (id : ℕ) (claim : PendingClaim) (w : World) : Config :=
  c.advance id (.claiming (.planned renewal renewalPlan) claim) w

def passed (c : Config) (id : ℕ) (claim : PendingClaim) (w w' : World) : Config :=
  ((prepared c id claim w).advance id (.claimed renewal renewalPlan []) w').note
    (.claimed ⟨id, .planned renewal renewalPlan, claim, w.clock⟩)

def start : Config := .start (worldAt 1500 0 ∅)

/-- Two renewals have been verified with one proof. -/
def bothPlanned : Config := planned (planned start 0 (worldAt 1500 2 ∅)) 1 (worldAt 1500 4 ∅)

def firstClaim : PendingClaim := ⟨"dpop#p-1", 1860, 1500⟩

def firstTokens : Table String ℕ := (∅ : Table String ℕ).insert "dpop#p-1" 1860

def firstPassed : Config :=
  passed bothPlanned 0 firstClaim (worldAt 1500 6 ∅) (worldAt 1500 6 firstTokens)

/-- The second renewal still waits for its hooks when the record of the first has ended. -/
def hooksAnswered : Config := { firstPassed with world := worldAt 1900 6 firstTokens }

def secondClaim : PendingClaim := ⟨"dpop#p-1", 1960, 1900⟩

def bothPassed : Config :=
  passed hooksAnswered 1 secondClaim (worldAt 1900 8 firstTokens)
    (worldAt 1900 8 ((∅ : Table String ℕ).insert "dpop#p-1" 1960))

section

variable {Admitted : Config → Commit → Prop}

theorem run_firstPassed (h : Admitted (prepared bothPlanned 0 firstClaim (worldAt 1500 6 ∅))
      ⟨0, .planned renewal renewalPlan, firstClaim, Testca.instant 1500⟩) :
    Run replayRuntime.crates Admitted start firstPassed := by
  have hverify : Step replayRuntime.crates Admitted start (verified start 0 (worldAt 1500 2 ∅)) :=
    @Step.authenticate _ _ start replayRuntime rfl 0 renewal renewalAuth (worldAt 1500 2 ∅) rfl rfl
  have hplan : Step replayRuntime.crates Admitted (verified start 0 (worldAt 1500 2 ∅))
      (planned start 0 (worldAt 1500 2 ∅)) :=
    @Step.plan _ _ _ replayRuntime rfl 0 renewal renewalAuth renewalPlan (worldAt 1500 2 ∅) rfl rfl
  have hverify' : Step replayRuntime.crates Admitted (planned start 0 (worldAt 1500 2 ∅))
      (verified (planned start 0 (worldAt 1500 2 ∅)) 1 (worldAt 1500 4 ∅)) :=
    @Step.authenticate _ _ _ replayRuntime rfl 1 renewal renewalAuth (worldAt 1500 4 ∅) rfl rfl
  have hplan' : Step replayRuntime.crates Admitted
      (verified (planned start 0 (worldAt 1500 2 ∅)) 1 (worldAt 1500 4 ∅)) bothPlanned :=
    @Step.plan _ _ _ replayRuntime rfl 1 renewal renewalAuth renewalPlan (worldAt 1500 4 ∅) rfl rfl
  have hprepare : Step replayRuntime.crates Admitted bothPlanned
      (prepared bothPlanned 0 firstClaim (worldAt 1500 6 ∅)) :=
    @Step.prepare _ _ bothPlanned replayRuntime rfl 0 (.planned renewal renewalPlan) _
      (Testca.instant 1860) firstClaim rfl rfl rfl rfl
  have hcommit : Step replayRuntime.crates Admitted
      (prepared bothPlanned 0 firstClaim (worldAt 1500 6 ∅)) firstPassed :=
    @Step.commit _ _ _ 0 (.planned renewal renewalPlan) _ firstClaim rfl rfl
      (Lease.free_of_none rfl) h
  exact (((((Relation.ReflTransGen.single hverify).tail hplan).tail hverify').tail hplan').tail
    hprepare).tail hcommit

theorem run_bothPassed (h : Run replayRuntime.crates Admitted start firstPassed)
    (hadmitted : Admitted (prepared hooksAnswered 1 secondClaim (worldAt 1900 8 firstTokens))
      ⟨1, .planned renewal renewalPlan, secondClaim, Testca.instant 1900⟩) :
    Run replayRuntime.crates Admitted start bothPassed := by
  have hwait : Step replayRuntime.crates Admitted firstPassed hooksAnswered :=
    .wait ⟨rfl, by decide, List.suffix_rfl⟩
  have hprepare : Step replayRuntime.crates Admitted hooksAnswered
      (prepared hooksAnswered 1 secondClaim (worldAt 1900 8 firstTokens)) :=
    @Step.prepare _ _ hooksAnswered replayRuntime rfl 1 (.planned renewal renewalPlan) _
      (Testca.instant 1860) secondClaim rfl rfl rfl rfl
  have hfree : (Storage.sqlite { tokens := firstTokens }).Claimable 1900 "dpop#p-1" :=
    (Lease.free_iff_of_some rfl).mpr (WithTop.coe_le_coe.mpr (by decide : 1860 ≤ 1900))
  have hcommit : Step replayRuntime.crates Admitted
      (prepared hooksAnswered 1 secondClaim (worldAt 1900 8 firstTokens)) bothPassed :=
    @Step.commit _ _ _ 1 (.planned renewal renewalPlan) _ secondClaim rfl rfl hfree hadmitted
  exact ((h.tail hwait).tail hprepare).tail hcommit

end

/-- Two renewals with one proof both get past the claim of it. -/
theorem proof_claimed_twice : Run replayRuntime.crates (fun _ _ => True) start bothPassed ∧
    bothPassed.log.countP (Event.claims (Testca.token "d" 1 [3])) = 2 :=
  ⟨run_bothPassed (run_firstPassed trivial) trivial, rfl⟩

theorem proof_claimed_once_first :
    firstPassed.log.countP (Event.claims (Testca.token "d" 1 [3])) ≤ 1 := by
  refine proof_claimed_once replayRuntime.crates (worldAt 1500 0 ∅) (run_firstPassed ?_)
    (Testca.token "d" 1 [3])
  -- nothing has been claimed before
  intro proof _ earlier hearlier
  rcases List.mem_pair.mp hearlier with h | h <;> cases h

end Ayane.InFlight
