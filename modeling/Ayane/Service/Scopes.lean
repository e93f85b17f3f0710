import Ayane.Lib.Run
import Ayane.Service.Lifetime

/-!
# One certificate for a scope

A scope that is asserted without an expiry of its own is claimed until the certificate that is
issued ends. The certificate can be renewed and rekeyed meanwhile, and that claims nothing for
the scope unless a hook asserts it again. So what descends from the certificate may be valid
still when the scope is free again.
-/

namespace Ayane.Scopes

open Ayane.Action Effect

/-- The certificate has ended. -/
def Past (cert : Certificate) (t : SystemTime) : Prop := (certValidityWindow cert).2 < t

/-- A request to sign that succeeded. -/
structure Signing where
  /-- The keys of the scopes it asserted. -/
  scopes : List String
  /-- When it ended. -/
  instant : SystemTime
  /-- What had descended from earlier ones by then. -/
  earlier : List (String × Certificate)

/-- Every certificate that had descended from an earlier request for one of its scopes has ended. -/
def Signing.Alone (s : Signing) : Prop := ∀ p ∈ s.earlier, p.1 ∈ s.scopes → Past p.2 s.instant

structure Config where
  world : World
  /-- The certificates that descend from requests to sign, each with the key of a scope that the
  request asserted without an expiry. -/
  descended : List (String × Certificate)
  /-- The requests to sign that succeeded, the latest first. -/
  signed : List Signing

def Config.start (w : World) : Config := ⟨w, [], []⟩

/-- The keys of the scopes that are asserted without an expiry. -/
def unbounded (scopes : List OnceClaim) : List String :=
  (scopes.filter fun scope => scope.expiresAt = none).map OnceClaim.key

/-- The steps of a run in which requests succeed when they are admitted. -/
inductive Step (crates : ServerCrates) (AtSign : Config → Signing → Prop)
    (AtReissue : Config → (rt : Runtime) → Reissue rt → Prop) (c : Config) : Config → Prop where
  /-- Time passes, and anything else happens that ends no claim early. -/
  | other {w : World} (h : c.world.Evolves w) : Step crates AtSign AtReissue c { c with world := w }
  | refuseSign (rt : Runtime) (service : Service) (req : SignRequest) (requestUrl : String)
      (requestId : Option String) {abort : Abort} {w : World}
      (h : (service.sign rt req requestUrl requestId).run c.world = .error abort w) :
      Step crates AtSign AtReissue c { c with world := w }
  | refuseReissue (rt : Runtime) (service : Service) (request : ReissueRequest)
      (dpop : Option String) (requestUrl : String) (requestId : Option String) {abort : Abort}
      {w : World}
      (h : (request.run rt service dpop requestUrl requestId).run c.world = .error abort w) :
      Step crates AtSign AtReissue c { c with world := w }
  | sign (rt : Runtime) (hrt : rt.crates = crates) (service : Service) (req : SignRequest)
      (requestUrl : String) (requestId : Option String) {response : CertificateResponse}
      {csr : ParsedCsr} {validated : ValidatedToken} {plan : Service.SignPlan} {cert : Certificate}
      {w₁ w₂ w : World}
      (h : (service.sign rt req requestUrl requestId).run c.world = .ok response w)
      (hauth : (service.signAuthenticate rt req requestUrl).run c.world = .ok (csr, validated) w₁)
      (hplan : (service.signPlan rt req csr validated).run w₁ = .ok plan w₂)
      (hcert : X509.certificateFromPem rt.crates response.certificate = .ok cert)
      (hadmitted : AtSign c ⟨plan.onceScopes.map OnceClaim.key, w.clock, c.descended⟩) :
      Step crates AtSign AtReissue c {
        world := w
        descended := (unbounded plan.onceScopes).map (·, cert) ++ c.descended
        signed := ⟨plan.onceScopes.map OnceClaim.key, w.clock, c.descended⟩ :: c.signed }
  | reissue (rt : Runtime) (hrt : rt.crates = crates) (r : Reissue rt) (hbefore : r.before = c.world)
      {presented returned : Certificate} (hpresented : r.Presents presented)
      (hreturned : r.Returns returned) (hadmitted : AtReissue c rt r) :
      Step crates AtSign AtReissue c {
        c with
        world := r.after
        descended := (c.descended.filter fun p => p.2 = presented).map (fun p => (p.1, returned)) ++
          c.descended }

abbrev Run (crates : ServerCrates) (AtSign : Config → Signing → Prop)
    (AtReissue : Config → (rt : Runtime) → Reissue rt → Prop) : Config → Config → Prop :=
  Runs.Run (Step crates AtSign AtReissue)

/-! ## When the claims cover what descends -/

/-- Until the end of the window that is asked for the scope is claimed already, or the hooks assert
it again. -/
def Covered {rt : Runtime} (r : Reissue rt) (scope : String) : Prop :=
  ∃ auth w ctx,
    (r.service.reissueAuthenticate rt r.request.certificate r.dpop r.requestUrl).run r.before =
      .ok auth w ∧
    Service.reissueContextFor rt.crates auth r.request.newCsr = .ok ctx ∧
    (Lease.Lasts r.before.storage.heldUntil (unixSecs r.before.clock : WithTop ℕ) scope
        (r.requestedEnd auth ctx w).toNat ∨
      ∃ claim ∈ Hook.onceClaimsFrom rt r.service.hooks ctx w, claim.key = scope ∧
        ∀ expiresAt, claim.expiresAt = some expiresAt →
          r.requestedEnd auth ctx w ≤ expiresAt.secs)

/-- The scopes of the presented certificate are covered. -/
def Covers (c : Config) (rt : Runtime) (r : Reissue rt) : Prop :=
  ∀ presented, r.Presents presented → ∀ p ∈ c.descended, p.2 = presented → Covered r p.1

/-- A request does not end at the very instant at which a certificate for one of its scopes does. -/
def Apart (_ : Config) (s : Signing) : Prop :=
  ∀ p ∈ s.earlier, p.1 ∈ s.scopes → (certValidityWindow p.2).2 ≠ s.instant

/-- The scope is claimed until the certificate ends. -/
def Holds (w : World) (p : String × Certificate) : Prop :=
  Lease.Lasts w.storage.heldUntil (unixSecs w.clock : WithTop ℕ) p.1
    (p.2.tbsCertificate.validity.notAfter.dateTime.unixSecs : ℕ)

theorem Holds.evolves {w w' : World} {p : String × Certificate} (h : Holds w p)
    (hevolves : w.Evolves w') : Holds w' p :=
  hevolves.claims.lasts h

section

variable {rt : Runtime} {w w' : World}

theorem evolves_reported (w : World) (event : AuditEvent) :
    w.Evolves { w with audit := event :: w.audit } :=
  World.Waits.evolves ⟨rfl, le_rfl, List.suffix_rfl⟩

theorem epoch_of_signAuthenticate {service : Service} {req : SignRequest} {requestUrl : String}
    {authenticated : ParsedCsr × ValidatedToken}
    (h : (service.signAuthenticate rt req requestUrl).run w = .ok authenticated w') :
    unixEpoch ≤ w'.clock := by
  simp only [Service.signAuthenticate, run_bind_eq_ok, run_ofResult_eq_ok] at h
  obtain ⟨_, _, ⟨-, rfl⟩, _, _, ⟨-, rfl⟩, validated, w₁, hvalid, hpure⟩ := h
  cases hpure
  obtain ⟨now, -, hnow, hepoch, -⟩ := ProvisionerAuthorizer.inWindow_of_validate hvalid
  exact hepoch.trans hnow

/-- What a request to sign did: each of its scopes was claimed at some point of the run, and the
certificate ends when the plan says. -/
theorem of_sign (hpem : PemRoundTrip rt.crates) (hdate : DateTimeTruncates rt.crates)
    {service : Service} {req : SignRequest} {requestUrl : String} {requestId : Option String}
    {response : CertificateResponse} {csr : ParsedCsr} {validated : ValidatedToken}
    {plan : Service.SignPlan} {cert : Certificate} {w₁ w₂ : World}
    (h : (service.sign rt req requestUrl requestId).run w = .ok response w')
    (hauth : (service.signAuthenticate rt req requestUrl).run w = .ok (csr, validated) w₁)
    (hplan : (service.signPlan rt req csr validated).run w₁ = .ok plan w₂)
    (hcert : X509.certificateFromPem rt.crates response.certificate = .ok cert) :
    unixEpoch ≤ w'.clock ∧
      (cert.tbsCertificate.validity.notAfter.dateTime.unixSecs : ℤ) = plan.custom.notAfter.secs ∧
      ∀ scope ∈ plan.onceScopes, ∃ v v', w.Evolves v ∧
        Claimed rt v v' scope.key (scope.expiresAt.getD plan.custom.notAfter) ∧ v'.Evolves w' := by
  obtain ⟨_, _, _, _, _, w₃, w₄, event, w₅, hauth', hplan', hjti, hscopes, hissue, rfl⟩ :=
    Service.of_sign h
  cases hauth.symm.trans hauth'
  cases hplan.symm.trans hplan'
  obtain ⟨issued, _, _, hissued, -, -, -, hresponse⟩ := Service.of_signIssue hissue
  obtain ⟨_, _, -, hbuild⟩ := of_issue hissued
  obtain ⟨validity, _, hvalidity, -, htbs, hpemText, -⟩ := of_build hbuild
  obtain ⟨-, hend⟩ := of_validity hdate hvalidity
  have hsame : response.certificate = issued.pem := congrArg CertificateResponse.certificate hresponse
  rw [hsame, hpem _ _ hpemText] at hcert
  cases hcert
  have hchecked : w.Evolves w₂ := World.Waits.evolves (trans_of World.Waits
    ((service.waits_signAuthenticate rt req requestUrl).of_ok hauth)
    ((service.waits_signPlan rt req csr validated).of_ok hplan))
  have hclaimed : w.Evolves w₃ := trans_of World.Evolves hchecked
    ((Service.evolves_signClaimJti rt validated).of_ok hjti)
  have hissued : w₄.Evolves { w₅ with audit := event :: w₅.audit } := trans_of World.Evolves
    ((service.evolves_signIssue rt plan requestId).of_ok hissue) (evolves_reported w₅ event)
  have hended : w₁.Evolves { w₅ with audit := event :: w₅.audit } := by
    refine trans_of World.Evolves (World.Waits.evolves
      ((service.waits_signPlan rt req csr validated).of_ok hplan)) ?_
    exact trans_of World.Evolves ((Service.evolves_signClaimJti rt validated).of_ok hjti)
      (trans_of World.Evolves ((evolves_claimOnceScopes rt _ _).of_ok hscopes) hissued)
  refine ⟨(epoch_of_signAuthenticate hauth).trans hended.clock, ?_, fun scope hscope => ?_⟩
  · rw [htbs]
    exact hend
  · obtain ⟨v, v', hbefore, hclaim, hafter⟩ := claimed_of_claimOnceScopes hscopes hscope
    exact ⟨v, v', trans_of World.Evolves hclaimed hbefore, hclaim,
      trans_of World.Evolves hafter hissued⟩

/-- A certificate for a scope that is claimed has ended, but for the very last instant. -/
theorem past_of_claimed {p : String × Certificate} {v v' : World} {scope : OnceClaim}
    {expiresAt : SystemTime} (h : Holds w p) (hepoch : unixEpoch ≤ w'.clock) (hbefore : w.Evolves v)
    (hclaimed : Claimed rt v v' scope.key expiresAt) (hafter : v'.Evolves w')
    (hscope : p.1 = scope.key) (hapart : (certValidityWindow p.2).2 ≠ w'.clock) : Past p.2 w'.clock := by
  have hticks : v.Evolves ((v.tick rt).tick rt) := World.Waits.evolves
    (trans_of World.Waits (waits_tick rt v) (waits_tick rt _))
  have hholds : Holds ((v.tick rt).tick rt) p := (h.evolves hbefore).evolves hticks
  have hended := hholds.le_of_free (hscope ▸ hclaimed.free)
  have hclock : ((v.tick rt).tick rt).clock ≤ w'.clock := by
    refine (le_clock_tick rt _).trans ?_
    rw [← hclaimed.clock]
    exact hafter.clock
  have hsecs : p.2.tbsCertificate.validity.notAfter.dateTime.unixSecs ≤ unixSecs w'.clock :=
    (WithTop.coe_le_coe.mp hended).trans (unixSecs_mono hclock)
  refine lt_of_le_of_ne ?_ hapart
  rw [unixSecs_eq] at hsecs
  have h0 : 0 ≤ w'.clock.nanos := hepoch
  rw [SystemTime.le_def, certValidityWindow, nanos_toSystemTime]
  omega

/-- What is issued for a scope without an expiry holds it to the end. -/
theorem holds_of_claimed {cert : Certificate} {v v' : World} {scope : OnceClaim} {ends : SystemTime}
    (hend : (cert.tbsCertificate.validity.notAfter.dateTime.unixSecs : ℤ) ≤ ends.secs)
    (hclaimed : Claimed rt v v' scope.key ends) (hafter : v'.Evolves w') :
    Holds w' (scope.key, cert) := by
  refine hafter.claims.lasts (hclaimed.lasts.earlier (WithTop.coe_le_coe.mpr ?_))
  change cert.tbsCertificate.validity.notAfter.dateTime.unixSecs ≤ unixSecs ends
  rw [unixSecs_eq]
  unfold SystemTime.secs at hend
  omega

end

/-- A certificate that is reissued while its scope is covered holds it to the end. -/
theorem holds_of_covered {rt : Runtime} (hpem : PemRoundTrip rt.crates)
    (hdate : DateTimeTruncates rt.crates) (r : Reissue rt) {returned : Certificate} {scope : String}
    (hreturned : r.Returns returned) (hcovered : Covered r scope) : Holds r.after (scope, returned) := by
  obtain ⟨auth, w, ctx, hauth, hctx, hlasts⟩ := hcovered
  obtain ⟨_, _, _, returned', hauth', hctx', -, hreturned', -, hend, -⟩ := r.window hpem hdate
  cases hauth.symm.trans hauth'
  cases hctx.symm.trans hctx'
  cases hreturned.symm.trans hreturned'
  obtain ⟨_, _, _, _, plan, w₂, w₃, w₄, event, w₅, hauth', hctx', -, hnotAfter, -, honce, -, hscopes,
    hissue, hafter⟩ := r.exists_plan
  cases hauth.symm.trans hauth'
  cases hctx.symm.trans hctx'
  obtain hlasts | ⟨claim, hclaim, rfl, hexpiry⟩ := hlasts
  · rw [← hend, Int.toNat_natCast] at hlasts
    have hevolves : r.before.Evolves r.after :=
      (ReissueRequest.evolves_run rt _ _ _ _ _).of_ok r.succeeds
    exact hevolves.claims.lasts hlasts
  · rw [← honce] at hclaim
    obtain ⟨v, v', -, hclaimed, hclaims⟩ := claimed_of_claimOnceScopes hscopes hclaim
    have hissued : w₄.Evolves r.after := by
      rw [hafter]
      exact trans_of World.Evolves ((r.service.evolves_reissueIssue rt _ _ _).of_ok hissue)
        (evolves_reported w₅ event)
    refine holds_of_claimed ?_ hclaimed (trans_of World.Evolves hclaims hissued)
    rw [hend]
    cases hexpires : claim.expiresAt with
    | none => exact hnotAfter.ge
    | some expiresAt => exact hexpiry expiresAt hexpires

structure Inv (c : Config) : Prop where
  holds : ∀ p ∈ c.descended, Holds c.world p
  alone : ∀ s ∈ c.signed, s.Alone

variable {crates : ServerCrates} {c c' : Config}

theorem Inv.evolves (h : Inv c) {w : World} (hevolves : c.world.Evolves w) :
    Inv { c with world := w } :=
  ⟨fun p hp => (h.holds p hp).evolves hevolves, h.alone⟩

theorem step_inv (hpem : PemRoundTrip crates) (hdate : DateTimeTruncates crates)
    (hstep : Step crates Apart Covers c c') (h : Inv c) : Inv c' := by
  cases hstep with
  | other hevolves => exact h.evolves hevolves
  | refuseSign rt service req requestUrl requestId hrun =>
    exact h.evolves ((service.evolves_sign rt req requestUrl requestId).of_error hrun)
  | refuseReissue rt service request dpop requestUrl requestId hrun =>
    exact h.evolves ((ReissueRequest.evolves_run rt _ _ _ _ _).of_error hrun)
  | @sign rt hrt service req requestUrl requestId _ _ _ plan cert _ _ w hrun hauth hplan hcert hapart =>
    subst hrt
    obtain ⟨hepoch, hend, hclaims⟩ := of_sign hpem hdate hrun hauth hplan hcert
    have hevolves : c.world.Evolves w := (service.evolves_sign rt _ _ _).of_ok hrun
    have hissued : ∀ p ∈ (unbounded plan.onceScopes).map (·, cert), Holds w p := by
      intro p hp
      obtain ⟨_, hkey, rfl⟩ := List.mem_map.mp hp
      obtain ⟨scope, hscope, rfl⟩ := List.mem_map.mp hkey
      obtain ⟨hmem, hnone⟩ := List.mem_filter.mp hscope
      obtain ⟨v, v', -, hclaimed, hafter⟩ := hclaims scope hmem
      rw [of_decide_eq_true hnone] at hclaimed
      exact holds_of_claimed hend.le hclaimed hafter
    have halone : Signing.Alone ⟨plan.onceScopes.map OnceClaim.key, w.clock, c.descended⟩ := by
      intro p hp hscopes
      obtain ⟨scope, hmem, hkey⟩ := List.mem_map.mp hscopes
      obtain ⟨v, v', hbefore, hclaimed, hafter⟩ := hclaims scope hmem
      exact past_of_claimed (h.holds p hp) hepoch hbefore hclaimed hafter hkey.symm
        (hapart p hp hscopes)
    refine ⟨List.forall_mem_append.mpr ⟨hissued, fun p hp => (h.holds p hp).evolves hevolves⟩,
      List.forall_mem_cons.mpr ⟨halone, h.alone⟩⟩
  | @reissue rt hrt r hbefore presented returned hpresented hreturned hcovers =>
    subst hrt
    have hevolves : c.world.Evolves r.after :=
      hbefore ▸ (ReissueRequest.evolves_run rt _ _ _ _ _).of_ok r.succeeds
    refine ⟨List.forall_mem_append.mpr ⟨fun p hp => ?_, fun p hp => (h.holds p hp).evolves hevolves⟩,
      h.alone⟩
    obtain ⟨q, hq, rfl⟩ := List.mem_map.mp hp
    obtain ⟨hmem, hsame⟩ := List.mem_filter.mp hq
    exact holds_of_covered hpem hdate r hreturned
      (hcovers presented hpresented q hmem (of_decide_eq_true hsame))

end Ayane.Scopes

namespace Ayane

open Scopes in
/-- As long as every certificate is renewed and rekeyed while its scopes are claimed to its end, and
no request ends at the very instant at which a certificate does, a request to sign succeeds only
when whatever descends from an earlier one for its scopes has ended. -/
theorem once_per_scope_of_covered {crates : ServerCrates} (hpem : PemRoundTrip crates)
    (hdate : DateTimeTruncates crates) (w : World) {c : Config}
    (hrun : Run crates Apart Covers (.start w) c) : ∀ s ∈ c.signed, s.Alone := by
  have hstart : Inv (.start w) :=
    ⟨fun p hp => absurd hp List.not_mem_nil, fun s hs => absurd hs List.not_mem_nil⟩
  have hinv : Inv c := Runs.invariant hrun hstart fun _ _ => step_inv hpem hdate
  exact hinv.alone

/-! ## A certificate that is renewed beyond its claim -/

namespace Scopes

open Effect Testca

/-- A request for a certificate of the key that proofs are made with. -/
def scopedCsr : CertReq :=
  let info : CertReqInfo :=
    { subject := name "web", publicKey := leaf.tbsCertificate.subjectPublicKeyInfo, attributes := [] }
  { info
    algorithm := ⟨Oid.ecdsaWithSha256, none⟩
    signature := ⟨0, Testca.sign [3] (nameDer info.subject ++ spkiDer info.publicKey)⟩ }

def entropyOf (serial : UInt8) : Digest 19 := ⟨List.replicate 19 serial, List.length_replicate⟩

/-- A certificate of that key, for a window. -/
def scopedLeaf (serial : UInt8) (notBefore notAfter : DateTime) : Certificate :=
  let tbs : TbsCertificate := X509.buildTbs {
    serialNumber := X509.serialBytes (entropyOf serial)
    signatureAlgorithm := .ecdsaSha256
    issuer := name "intermediate"
    validity := ⟨.utcTime notBefore, .utcTime notAfter⟩
    subject := name "web"
    subjectPublicKeyInfo := leaf.tbsCertificate.subjectPublicKeyInfo
    extensions := [⟨Oid.basicConstraints, true, [0x30, 0]⟩,
      ⟨Oid.keyUsage, true, [3, 0]⟩,
      ⟨Oid.extendedKeyUsage, false, [9]⟩,
      ⟨Oid.subjectAltName, false, sanDer []⟩,
      ⟨Oid.subjectKeyIdentifier, false, 4 :: (digest 20 [3]).val⟩,
      ⟨Oid.authorityKeyIdentifier, false, [0x30, 2]⟩] }
  { tbsCertificate := tbs
    signatureAlgorithm := ⟨Oid.ecdsaWithSha256, none⟩
    signature := ⟨0, Testca.sign [2] (tbsDer tbs)⟩ }

def first : Certificate := scopedLeaf 1 (date 940) (date 87400)
def second : Certificate := scopedLeaf 4 (date 87440) (date 173900)

/-- The renewal of the first, for the lifetime of the first from second 1500. -/
def slid : Certificate := scopedLeaf 2 (date 1500) (date 87960)

/-- The renewal of the first when a hook keeps its end. -/
def capped : Certificate := scopedLeaf 3 (date 1500) (date 87400)

def scopedFields (jti : String) (iat exp : Int) : List (String × Json) :=
  ottFields "web" jti iat exp ++ [("once", .obj [("scope", .str "i-1")])]

def scopedCrates : ServerCrates :=
  readableCrates [first, slid, capped, second] [("csr", scopedCsr)]
    [([1], .obj (scopedFields "t-1" 1000 1300)), ([2], .obj (proofFields "p-1" 1500)),
      ([3], .obj (scopedFields "t-2" 87450 87750))]

theorem pemRoundTrip_scoped : PemRoundTrip scopedCrates := by
  refine pemRoundTrip_readable ?_
  simp only [List.forall_mem_cons]
  exact ⟨rfl, rfl, rfl, rfl, List.forall_mem_nil _⟩

theorem dateTimeTruncates_scoped : DateTimeTruncates scopedCrates := dateTimeTruncates_closed [] [] []

def runtime (serial : UInt8) : Runtime :=
  { still scopedCrates with entropy := fun _ => entropyOf serial }

def response (cert : Certificate) (serial : UInt8) (notAfter : ℕ) : CertificateResponse where
  certificate := pem (certificateDer cert)
  chain := []
  serialNumber := serialToDecimal (X509.serialBytes (entropyOf serial))
  notAfter := Nat.repr notAfter

/-- The scope that the tokens carry. -/
def instanceScope : OnceClaim where
  nspace := "prov:ci"
  value := "i-1"
  expiresAt := none

def signing (serial payload : UInt8) : Action CertificateResponse :=
  (service true []).sign (runtime serial) (signRequest (token "o" payload [9])) "ca" none

def renewing (hooks : List HookProvider) (serial : UInt8) : Action CertificateResponse :=
  (ReissueRequest.renew ⟨pem (certificateDer first)⟩).run (runtime serial) (service true hooks)
    (some (token "d" 2 [3])) "ca" none

/-- A token with the scope is presented at `now`. -/
def Config.sign (c : Config) (serial payload : UInt8) (cert : Certificate) (now : SystemTime) : Config where
  world := final ((signing serial payload).run c.world)
  descended := (instanceScope.key, cert) :: c.descended
  signed := ⟨[instanceScope.key], now, c.descended⟩ :: c.signed

/-- Time passes until `now`, with `db` in place. -/
def Config.at (c : Config) (db : SqliteStorage) (now : SystemTime) : Config :=
  { c with world := { c.world with storage := .sqlite db, clock := now } }

/-- The record of a certificate that was issued at second 1000 or 1500. -/
def recordOf (cert : Certificate) (serial : UInt8) (notBefore notAfter issuedAt : ℕ)
    (provisioner : Option String) (operation : String) : CertificateRecord where
  serialNumber := serialToDecimal (X509.serialBytes (entropyOf serial))
  subject := "web"
  sans := ["web"]
  notBefore := Nat.repr notBefore
  notAfter := Nat.repr notAfter
  issuedAt := Nat.repr issuedAt
  provisioner
  operation
  renewable := true
  pem := pem (certificateDer cert)

/-- The database after the first request. -/
def firstDb : SqliteStorage where
  certificates := (∅ : Table String CertificateRecord).insert
    (serialToDecimal (X509.serialBytes (entropyOf 1)))
    (recordOf first 1 940 87400 1000 (some "ci") "sign")
  tokens := ((∅ : Table String ℕ).insert "ott#t-1" 1360).insert "scope#prov:ci#i-1" 87400

/-- The database after a renewal. -/
def renewedDb (cert : Certificate) (serial : UInt8) (notAfter : ℕ) : SqliteStorage where
  certificates := firstDb.certificates.insert
    (serialToDecimal (X509.serialBytes (entropyOf serial)))
    (recordOf cert serial 1500 notAfter 1500 none "renew")
  tokens := firstDb.tokens.insert "dpop#p-1" 1860

def before : Config := .start (world sqlite (instant 1000))

def renewable : Config := (before.sign 1 1 first (instant 1000)).at firstDb (instant 1500)

/-- The first certificate is renewed. -/
def renewal (hooks : List HookProvider) (serial : UInt8) (cert : Certificate) (notAfter : ℕ)
    (h : (renewing hooks serial).run renewable.world =
      .ok (response cert serial notAfter) (final ((renewing hooks serial).run renewable.world))) :
    Reissue (runtime serial) where
  service := service true hooks
  request := .renew ⟨pem (certificateDer first)⟩
  dpop := some (token "d" 2 [3])
  requestUrl := "ca"
  requestId := none
  before := renewable.world
  response := response cert serial notAfter
  after := final ((renewing hooks serial).run renewable.world)
  succeeds := h

set_option maxRecDepth 2000 in
def slidRenewal : Reissue (runtime 2) := renewal [] 2 slid 87960 rfl

def capHook : HookProvider where
  name := "cap"
  provisioners := []
  call _ _ := .ok { notAfter := some (instant 87400) }

set_option maxRecDepth 2000 in
def cappedRenewal : Reissue (runtime 3) := renewal [capHook] 3 capped 87400 rfl

def Config.renew {serial : UInt8} (c : Config) (r : Reissue (runtime serial)) (cert : Certificate) :
    Config where
  world := r.after
  descended := (instanceScope.key, cert) :: c.descended
  signed := c.signed

def expired {serial : UInt8} (r : Reissue (runtime serial)) (cert : Certificate) (notAfter : ℕ) :
    Config :=
  (renewable.renew r cert).at (renewedDb cert serial notAfter) (instant 87500)

section

variable {AtSign : Config → Signing → Prop} {AtReissue : Config → (rt : Runtime) → Reissue rt → Prop}

theorem step_at (c : Config) {db : SqliteStorage} {t : SystemTime} (now : SystemTime)
    (h : c.world.storage = .sqlite db) (ht : c.world.clock = t) (hnow : t ≤ now) :
    Step scopedCrates AtSign AtReissue c (c.at db now) :=
  .other (World.Waits.evolves ⟨h.symm, ht.le.trans hnow, List.suffix_rfl⟩)

theorem step_sign (c : Config) (serial payload : UInt8) (cert : Certificate) {now : SystemTime}
    {response : CertificateResponse} {csr : ParsedCsr} {validated : ValidatedToken}
    {plan : Service.SignPlan} {w₁ w₂ : World}
    (h : (signing serial payload).run c.world =
      .ok response (final ((signing serial payload).run c.world)))
    (hauth : ((service true []).signAuthenticate (runtime serial) (signRequest (token "o" payload [9]))
      "ca").run c.world = .ok (csr, validated) w₁)
    (hplan : ((service true []).signPlan (runtime serial) (signRequest (token "o" payload [9])) csr
      validated).run w₁ = .ok plan w₂)
    (hcert : X509.certificateFromPem scopedCrates response.certificate = .ok cert)
    (honce : plan.onceScopes = [instanceScope])
    (hnow : (final ((signing serial payload).run c.world)).clock = now)
    (hadmitted : AtSign c ⟨[instanceScope.key], now, c.descended⟩) :
    Step scopedCrates AtSign AtReissue c (c.sign serial payload cert now) := by
  subst hnow
  have hscopes : plan.onceScopes.map OnceClaim.key = [instanceScope.key] :=
    congrArg (List.map OnceClaim.key) honce
  have hunbounded : unbounded plan.onceScopes = [instanceScope.key] := congrArg unbounded honce
  have hstep : Step scopedCrates AtSign AtReissue c _ :=
    .sign (runtime serial) rfl (service true []) (signRequest (token "o" payload [9])) "ca" none h hauth
      hplan hcert (by rwa [hscopes])
  rw [hscopes, hunbounded] at hstep
  exact hstep

theorem step_first (h : AtSign before ⟨[instanceScope.key], instant 1000, []⟩) :
    Step scopedCrates AtSign AtReissue before (before.sign 1 1 first (instant 1000)) :=
  step_sign before 1 1 first rfl rfl rfl rfl rfl rfl h

theorem step_renewable : Step scopedCrates AtSign AtReissue (before.sign 1 1 first (instant 1000))
    renewable :=
  step_at _ _ rfl rfl (by decide : instant 1000 ≤ instant 1500)

theorem step_renew {serial : UInt8} (r : Reissue (runtime serial)) {cert : Certificate}
    (hbefore : r.before = renewable.world) (hpresented : r.Presents first) (hreturned : r.Returns cert)
    (h : AtReissue renewable (runtime serial) r) :
    Step scopedCrates AtSign AtReissue renewable (renewable.renew r cert) :=
  .reissue (runtime serial) rfl r hbefore hpresented hreturned h

set_option maxRecDepth 4000 in
theorem step_expired_slid : Step scopedCrates AtSign AtReissue (renewable.renew slidRenewal slid)
    (expired slidRenewal slid 87960) :=
  step_at _ _ rfl rfl (by decide : instant 1500 ≤ instant 87500)

set_option maxRecDepth 4000 in
theorem step_expired_capped : Step scopedCrates AtSign AtReissue
    (renewable.renew cappedRenewal capped) (expired cappedRenewal capped 87400) :=
  step_at _ _ rfl rfl (by decide : instant 1500 ≤ instant 87500)

end

/-- The window that is asked for ends with the first certificate, and the scope is claimed until
then. -/
theorem covers_capped : Covers renewable (runtime 3) cappedRenewal := by
  intro presented hpresented p hp _
  obtain rfl := List.mem_singleton.mp hp
  exact ⟨_, _, _, rfl, rfl, .inl (.inl ⟨_, rfl, WithTop.coe_le_coe.mpr (le_refl 87400)⟩)⟩

end Scopes

open Scopes in
set_option maxRecDepth 4000 in
theorem once_per_scope_of_covered_capped :
    Signing.Alone ⟨[Scopes.instanceScope.key], Testca.instant 87500,
      [(Scopes.instanceScope.key, capped), (Scopes.instanceScope.key, first)]⟩ := by
  have hfirst : Step scopedCrates Apart Covers before (before.sign 1 1 first (Testca.instant 1000)) :=
    step_first fun p hp => absurd hp List.not_mem_nil
  have hsecond : Step scopedCrates Apart Covers (expired cappedRenewal capped 87400)
      ((expired cappedRenewal capped 87400).sign 4 3 second (Testca.instant 87500)) := by
    refine step_sign _ 4 3 second rfl rfl rfl rfl rfl rfl fun p hp _ => ?_
    obtain rfl | rfl := List.mem_pair.mp hp
    · decide
    · decide
  exact once_per_scope_of_covered pemRoundTrip_scoped dateTimeTruncates_scoped
    (Testca.world Testca.sqlite (Testca.instant 1000))
    (((((Relation.ReflTransGen.single hfirst).tail step_renewable).tail
      (step_renew cappedRenewal rfl rfl rfl covers_capped)).tail step_expired_capped).tail hsecond)
    _ List.mem_cons_self

open Scopes in
set_option maxRecDepth 4000 in
/-- The renewal is valid until second 87960, and the scope is free from second 87400 on. -/
theorem scope_signed_again : Run scopedCrates (fun _ _ => True) (fun _ _ _ => True) before
      ((expired slidRenewal slid 87960).sign 4 3 second (Testca.instant 87500)) ∧
    ¬∀ s ∈ ((expired slidRenewal slid 87960).sign 4 3 second (Testca.instant 87500)).signed,
      s.Alone := by
  have hsecond : Step scopedCrates (fun _ _ => True) (fun _ _ _ => True)
      (expired slidRenewal slid 87960)
      ((expired slidRenewal slid 87960).sign 4 3 second (Testca.instant 87500)) :=
    step_sign _ 4 3 second rfl rfl rfl rfl rfl rfl trivial
  refine ⟨?_, fun h => ?_⟩
  · exact ((((Relation.ReflTransGen.single (step_first trivial)).tail step_renewable).tail
      (step_renew slidRenewal rfl rfl rfl trivial)).tail step_expired_slid).tail hsecond
  · have halone := h _ List.mem_cons_self (instanceScope.key, slid) List.mem_cons_self
      List.mem_cons_self
    exact absurd halone (by decide : ¬(certValidityWindow slid).2 < Testca.instant 87500)

end Ayane
