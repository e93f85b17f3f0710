import Ayane.Lib.Run
import Ayane.Service.TokenRequest
import Ayane.Testca.Server

/-!
# One-time tokens

Requests that carry tokens run one after another on the SQLite backend, each validating
and claiming its token at one instant, with claims of other keys, the reaper and waiting
between them. The record of a claimed token ends at the last second at which the token is
still accepted, and a record may be reclaimed at the second it ends. So a token that is
presented at that very second is accepted once more; at any other time it is not.
-/

namespace Ayane.OneTime

open Ayane.Action Effect

/-- A request that got past the claim of its token. -/
structure Pass where
  replayId : String
  /-- The second the token expires. -/
  exp : ℕ
  instant : SystemTime
  deriving DecidableEq

/-- Both presented a token with one replay id and one expiry. -/
def Pass.SameToken (p q : Pass) : Prop := p.replayId = q.replayId ∧ p.exp = q.exp

structure Config where
  world : World
  /-- The requests that got past the claim of their token, the latest first. -/
  passed : List Pass

def Config.start (db : SqliteStorage) (w : World) : Config :=
  ⟨{ w with storage := .sqlite db }, []⟩

/-- The steps of a run in which a token may pass when it is `Admitted`. -/
inductive Step (Admitted : Config → Pass → Prop) (c : Config) : Config → Prop where
  | wait (d : Duration) :
      Step Admitted c { c with world := { c.world with clock := c.world.clock.later d } }
  /-- A request validates and claims its token at one instant, and goes on to its end. -/
  | pass (rt : Runtime) (service : Service) (requestUrl : String) (request : TokenRequest)
      (requestId : Option String) {validated : ValidatedToken} {w₁ w₂ : World}
      (hvalid : (request.authenticate rt service requestUrl).run c.world = .ok validated w₁)
      (hclaim : (request.claim rt service requestUrl).run c.world = .ok () w₂)
      (hinstant : w₂.clock = c.world.clock)
      (hadmitted : Admitted c
        ⟨validated.replayId, validated.claims.exp.toInt.toNat, c.world.clock⟩) :
      Step Admitted c {
        world := request.after rt service requestUrl requestId c.world
        passed := ⟨validated.replayId, validated.claims.exp.toInt.toNat, c.world.clock⟩ :: c.passed }
  /-- A request ends before its token is claimed. -/
  | refuse (rt : Runtime) (service : Service) (requestUrl : String) (request : TokenRequest)
      (requestId : Option String)
      (h : ¬∃ w₂, (request.claim rt service requestUrl).run c.world = .ok () w₂) :
      Step Admitted c { c with world := request.after rt service requestUrl requestId c.world }
  /-- A revocation without a token. -/
  | selfRevoke (rt : Runtime) (service : Service) (req : RevokeRequest) (dpop : Option String)
      (requestUrl : String) (requestId : Option String) (h : req.token = none) :
      Step Admitted c {
        c with world := final ((service.revoke rt req dpop requestUrl requestId).run c.world) }
  /-- A claim of any key. -/
  | claim (rt : Runtime) (key : String) (expiresAt : SystemTime) :
      Step Admitted c { c with world := final ((claimToken rt key expiresAt).run c.world) }
  | upkeep {s' : Storage} (h : c.world.storage.Upkeep c.world.clock s') :
      Step Admitted c { c with world := { c.world with storage := s' } }

/-- A token does not pass at the last second it is accepted, when it has already passed before it
expired. -/
def Timely (c : Config) (p : Pass) : Prop :=
  unixSecs p.instant = p.exp + 60 → ∀ q ∈ c.passed, q.SameToken p → q.exp < unixSecs q.instant

abbrev Run (Admitted : Config → Pass → Prop) : Config → Config → Prop := Runs.Run (Step Admitted)

section

variable {Admitted : Config → Pass → Prop} {c c' : Config}

theorem evolves_wait (w : World) (d : Duration) : w.Evolves { w with clock := w.clock.later d } :=
  World.Waits.evolves ⟨rfl, w.clock.le_later d, List.suffix_rfl⟩

theorem evolves_after (request : TokenRequest) (rt : Runtime) (service : Service)
    (requestUrl : String) (requestId : Option String) (w : World) :
    w.Evolves (request.after rt service requestUrl requestId w) := by
  cases request with
  | sign req => exact service.evolves_sign rt req requestUrl requestId w
  | revoke req token dpop =>
    exact service.evolves_revoke rt { req with token := some token } dpop requestUrl requestId w

theorem Step.evolves (h : Step Admitted c c') : c.world.Evolves c'.world := by
  cases h with
  | wait d => exact evolves_wait _ d
  | pass rt service requestUrl request requestId _ _ _ _ =>
    exact evolves_after request rt service requestUrl requestId c.world
  | refuse rt service requestUrl request requestId _ =>
    exact evolves_after request rt service requestUrl requestId c.world
  | selfRevoke rt service req dpop requestUrl requestId _ =>
    dsimp only
    exact service.evolves_revoke rt req dpop requestUrl requestId c.world
  | claim rt key expiresAt =>
    dsimp only
    exact evolves_claimToken rt key expiresAt c.world
  | upkeep hup => exact evolves_upkeep hup

/-- The id of a token that has passed is held as long as the token is accepted, or the leeway
after it passed if that is longer. -/
def Kept (c : Config) (p : Pass) : Prop :=
  Lease.Lasts c.world.storage.heldUntil (unixSecs c.world.clock : WithTop ℕ)
    (jtiKey "ott" p.replayId) (max (p.exp + 60) (unixSecs p.instant + 60) : ℕ)

structure Inv (c : Config) : Prop where
  kept : ∀ p ∈ c.passed, Kept c p
  once : c.passed.Pairwise fun p q => ¬p.SameToken q

theorem Kept.step {p : Pass} (h : Kept c p) (hstep : Step Admitted c c') : Kept c' p :=
  hstep.evolves.claims.lasts h

/-- What passing at one instant says: the id was free, the token was still accepted, and the id
is kept from then on. -/
theorem of_pass {rt : Runtime} {service : Service} {requestUrl : String} {request : TokenRequest}
    {validated : ValidatedToken} {w w₁ w₂ : World} (requestId : Option String)
    (hvalid : (request.authenticate rt service requestUrl).run w = .ok validated w₁)
    (hclaim : (request.claim rt service requestUrl).run w = .ok () w₂)
    (hinstant : w₂.clock = w.clock) :
    w.storage.Claimable (unixSecs w.clock) (jtiKey "ott" validated.replayId) ∧
      unixSecs w.clock ≤ validated.claims.exp.toInt.toNat + 60 ∧
      Lease.Lasts (request.after rt service requestUrl requestId w).storage.heldUntil
        (unixSecs (request.after rt service requestUrl requestId w).clock : WithTop ℕ)
        (jtiKey "ott" validated.replayId)
        (max (validated.claims.exp.toInt.toNat + 60) (unixSecs w.clock + 60) : ℕ) := by
  obtain ⟨_, _, v, hvalid', hplan, hjti, hafter⟩ := TokenRequest.of_claim hclaim requestId
  rw [hvalid] at hvalid'
  cases hvalid'
  obtain ⟨expiresAt, hexp, hclaimed⟩ := claimed_of_signClaimJti hjti
  have hauthenticate := (TokenRequest.waits_authenticate rt service requestUrl request).of_ok hvalid
  -- the clock stands still from the start of the request to the commit of its claim
  have hfirst := hauthenticate.clock.trans (hplan.clock.trans (le_clock_tick rt v))
  have hsecond := hfirst.trans (le_clock_tick rt _)
  have hlast : ((v.tick rt).tick rt).clock ≤ w.clock := by
    rw [← hinstant, hclaimed.clock]
    exact le_clock_tick rt _
  have hfloor : (v.tick rt).clock = w.clock := le_antisymm ((le_clock_tick rt _).trans hlast) hfirst
  have hnow : ((v.tick rt).tick rt).clock = w.clock := le_antisymm hlast hsecond
  obtain ⟨now, hbefore, hafter', hepoch, exp, hread, haccepted⟩ :=
    TokenRequest.inWindow_of_authenticate hvalid
  have hread' : validated.claims.exp.toInt.toNat = exp := by omega
  have hsame : now = w.clock := by
    refine le_antisymm (hafter'.trans ?_) hbefore
    exact hplan.clock.trans ((le_clock_tick rt v).trans hfloor.le)
  rw [hsame] at hepoch haccepted
  have hstorage : v.storage = w.storage := hplan.storage.trans hauthenticate.storage
  refine ⟨?_, by omega, hafter.claims.lasts ?_⟩
  · rw [← hstorage, ← hnow]
    exact hclaimed.free
  · have hends : unixSecs expiresAt = exp + 60 := by
      rw [unixSecs_of_plus (unixEpoch_le_systemTimeFromEpoch _) (SystemTime.plus_eq_ok.mp hexp),
        unixSecs_systemTimeFromEpoch, hread']
    have hleeway := hclaimed.floor (hepoch.trans (hauthenticate.clock.trans hplan.clock))
    have hexpiry := hclaimed.lasts
    rw [hends] at hexpiry
    rw [hfloor] at hleeway
    rw [hread']
    rcases le_total (exp + 60) (unixSecs w.clock + 60) with hle | hle
    · rw [max_eq_right hle]
      exact hleeway
    · rw [max_eq_left hle]
      exact hexpiry

theorem step_inv (hstep : Step Timely c c') (h : Inv c) : Inv c' := by
  have hkept : ∀ p ∈ c.passed, Kept c' p := fun p hp => (h.kept p hp).step hstep
  cases hstep with
  | wait d => exact ⟨hkept, h.once⟩
  | refuse _ _ _ _ _ _ => exact ⟨hkept, h.once⟩
  | selfRevoke _ _ _ _ _ _ _ => exact ⟨hkept, h.once⟩
  | claim rt key expiresAt => exact ⟨hkept, h.once⟩
  | upkeep hup => exact ⟨hkept, h.once⟩
  | pass rt service requestUrl request requestId hvalid hclaim hinstant htimely =>
    obtain ⟨hfree, haccepted, hlasts⟩ := of_pass requestId hvalid hclaim hinstant
    refine ⟨List.forall_mem_cons.mpr ⟨hlasts, hkept⟩, List.pairwise_cons.mpr ⟨?_, h.once⟩⟩
    rintro q hq ⟨hid, hexp⟩
    have hended := (h.kept q hq).le_of_free (hid ▸ hfree)
    have hended : max (q.exp + 60) (unixSecs q.instant + 60) ≤ unixSecs c.world.clock :=
      WithTop.coe_le_coe.mp hended
    dsimp only at hexp
    have hlast : unixSecs c.world.clock = q.exp + 60 := by omega
    have hearly := htimely (hlast.trans (by rw [← hexp])) q hq ⟨hid.symm, hexp.symm⟩
    omega

end

/-- As long as no token passes at the last second it is accepted after it passed before it
expired, every token passes at most once. -/
theorem pass_once (db : SqliteStorage) (w : World) {c : Config}
    (hrun : Run Timely (.start db w) c) (replayId : String) (exp : ℕ) :
    c.passed.countP (fun p => p.replayId = replayId ∧ p.exp = exp) ≤ 1 := by
  have hstart : Inv (.start db w) := ⟨by simp [Config.start], List.Pairwise.nil⟩
  have hinv : Inv c := Runs.invariant hrun hstart fun _ _ => step_inv
  refine Runs.countP_le_one hinv.once fun p q hp hq => ?_
  obtain ⟨hpid, hpexp⟩ := of_decide_eq_true hp
  obtain ⟨hqid, hqexp⟩ := of_decide_eq_true hq
  exact ⟨hpid.trans hqid.symm, hpexp.trans hqexp.symm⟩

/-! ## A token that is presented twice -/

def tokenRuntime : Runtime :=
  Testca.still (Testca.serverCrates [] [] [([1], Testca.ottClaims "7" "t-1" 1000 1300)])

/-- Revoke the serial number 7, with a token that expires at the second 1300. -/
def revocation : TokenRequest :=
  .revoke { serialNumber := "7", reason := none, reasonCode := none, token := none,
            certificate := none }
    (Testca.token "o" 1 [9]) none

def revocationToken : ValidatedToken where
  provisioner := "ci"
  claims := {
    iss := "ci", aud := "ca", sub := "7", sans := [], iat := 1000, nbf := 1000, exp := 1300
    jti := some "t-1", renew := true, cnf := none, once := none }
  template := none
  authorized := true
  replayId := "t-1"

def revoked (c : Config) : Config where
  world := revocation.after tokenRuntime (Testca.service true []) "ca" none c.world
  passed := ⟨"t-1", 1300, c.world.clock⟩ :: c.passed

def issued : Config := .start {} (Testca.world Testca.sqlite (Testca.instant 1000))

theorem step_issued {Admitted : Config → Pass → Prop}
    (h : Admitted issued ⟨"t-1", 1300, issued.world.clock⟩) :
    Step Admitted issued (revoked issued) :=
  @Step.pass _ _ tokenRuntime (Testca.service true []) "ca" revocation none revocationToken _ _
    rfl rfl rfl h

/-- The database after the first revocation. -/
def revokedDb : SqliteStorage where
  revocations := (∅ : Table String RevocationRecord).insert "7" {
    serialNumber := "7"
    reasonCode := 0
    reason := none
    revokedAt := "1000"
    provisioner := some "ci" }
  tokens := (∅ : Table String ℕ).insert "ott#t-1" 1360

/-- Time has passed until `second`, with the token claimed. -/
def claimedAt (second : Int64) : Config where
  world := { (revoked issued).world with
    storage := .sqlite revokedDb
    clock := Testca.instant second }
  passed := (revoked issued).passed

def refused (c : Config) : Config :=
  { c with world := revocation.after tokenRuntime (Testca.service true []) "ca" none c.world }

/-- The token that is presented again a hundred seconds later is refused. -/
theorem pass_once_revocation :
    (∃ e w, (revocation.claim tokenRuntime (Testca.service true []) "ca").run (claimedAt 1100).world =
      .error e w) ∧
      (refused (claimedAt 1100)).passed.countP (fun p => p.replayId = "t-1" ∧ p.exp = 1300) ≤ 1 := by
  have hrefused : ∃ e w, (revocation.claim tokenRuntime (Testca.service true []) "ca").run
      (claimedAt 1100).world = .error e w := ⟨_, _, rfl⟩
  have hfirst : Step Timely issued (revoked issued) := step_issued fun _ q hq => by cases hq
  have hwait : Step Timely (revoked issued) (claimedAt 1100) := .wait (fromSecs 100)
  have hagain : Step Timely (claimedAt 1100) (refused (claimedAt 1100)) := by
    refine .refuse tokenRuntime (Testca.service true []) "ca" revocation none ?_
    rintro ⟨w₂, hclaimed⟩
    obtain ⟨e, w, herror⟩ := hrefused
    cases hclaimed.symm.trans herror
  exact ⟨hrefused, pass_once {} (Testca.world Testca.sqlite (Testca.instant 1000))
    (((Relation.ReflTransGen.single hfirst).tail hwait).tail hagain) "t-1" 1300⟩

/-- Presented when it is issued, and again at the last second of the leeway, the token passes
both times. -/
theorem token_passes_twice :
    Run (fun _ _ => True) issued (revoked (claimedAt 1360)) ∧
      (revoked (claimedAt 1360)).passed.countP (fun p => p.replayId = "t-1" ∧ p.exp = 1300) = 2 := by
  have hfirst : Step (fun _ _ => True) issued (revoked issued) := step_issued trivial
  have hwait : Step (fun _ _ => True) (revoked issued) (claimedAt 1360) := .wait (fromSecs 360)
  have hsecond : Step (fun _ _ => True) (claimedAt 1360) (revoked (claimedAt 1360)) :=
    @Step.pass _ _ tokenRuntime (Testca.service true []) "ca" revocation none revocationToken _ _
      rfl rfl rfl trivial
  exact ⟨((Relation.ReflTransGen.single hfirst).tail hwait).tail hsecond, rfl⟩

end Ayane.OneTime
