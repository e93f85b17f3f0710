import Mathlib.Data.List.Chain
import Ayane.Service.ReissueRequest
import Ayane.Testca.Readable

/-!
# The lifetime of a reissued certificate

A reissued certificate lives in the window of the previous one slid to the present. Hooks
may move both of its ends, and only the later end is clamped, so the lifetime depends on
where the hooks leave the window.
-/

namespace Ayane

open Ayane.Action Effect

/-- Whole seconds from the epoch, negative before it. -/
def SystemTime.secs (t : SystemTime) : ℤ := t.nanos / 1000000000

/-- The span of a certificate in seconds. -/
def Certificate.lifetime (cert : Certificate) : ℤ :=
  (cert.tbsCertificate.validity.notAfter.dateTime.unixSecs : ℤ) -
    cert.tbsCertificate.validity.notBefore.dateTime.unixSecs

/-- The times of certificates are whole seconds from the epoch on. -/
def DateTimeTruncates (crates : ServerCrates) : Prop :=
  ∀ t d, crates.serverDer.dateTimeFromSystemTime t = .ok d → unixEpoch ≤ t ∧ d.unixSecs = unixSecs t

theorem SystemTime.secs_mono {s t : SystemTime} (h : s ≤ t) : s.secs ≤ t.secs := by
  rw [SystemTime.le_def] at h
  unfold SystemTime.secs
  omega

theorem SystemTime.secs_min (s t : SystemTime) : (min s t).secs = min s.secs t.secs := by
  rcases le_total s t with h | h
  · rw [min_eq_left h, min_eq_left (secs_mono h)]
  · rw [min_eq_right h, min_eq_right (secs_mono h)]

theorem nanos_toSystemTime (t : Time) : t.toSystemTime.nanos = t.dateTime.unixSecs * 1000000000 := by
  change ((fromSecs t.dateTime.unixSecs : ℕ) : ℤ) = _
  unfold fromSecs
  omega

theorem originalDuration_eq (cert : Certificate) :
    (Service.originalDuration cert : ℤ) = max cert.lifetime 0 * 1000000000 := by
  unfold Service.originalDuration SystemTime.durationSince Certificate.lifetime certValidityWindow
  dsimp only
  rw [nanos_toSystemTime, nanos_toSystemTime]
  split_ifs with h
  · rw [SystemTime.le_def, nanos_toSystemTime, nanos_toSystemTime] at h
    rw [Option.getD_some]
    omega
  · rw [SystemTime.le_def, nanos_toSystemTime, nanos_toSystemTime] at h
    rw [Option.getD_none]
    omega

/-- Times are cut to whole seconds. -/
theorem of_validity {crates : ServerCrates} (hdate : DateTimeTruncates crates)
    {notBefore notAfter : SystemTime} {validity : Validity}
    (h : X509.validity crates notBefore notAfter = .ok validity) :
    (validity.notBefore.dateTime.unixSecs : ℤ) = notBefore.secs ∧
      (validity.notAfter.dateTime.unixSecs : ℤ) = notAfter.secs := by
  have hsecs : ∀ t time, X509.toX509Time crates t = .ok time →
      (time.dateTime.unixSecs : ℤ) = t.secs := by
    intro t time htime
    simp only [X509.toX509Time, except_bind_eq_ok, mapErr_eq_ok, Except.ok.injEq] at htime
    obtain ⟨d, hd, rfl⟩ := htime
    obtain ⟨hepoch, hd⟩ := hdate t d hd
    have hdateTime : (if d.unixSecs < X509.year2050 then Time.utcTime d
        else Time.generalTime d).dateTime = d := by
      split_ifs <;> rfl
    have h0 : 0 ≤ t.nanos := hepoch
    rw [hdateTime, hd, unixSecs_eq, SystemTime.secs]
    omega
  simp only [X509.validity, except_bind_eq_ok, Except.ok.injEq] at h
  obtain ⟨nb, hnb, na, hna, rfl⟩ := h
  exact ⟨hsecs _ _ hnb, hsecs _ _ hna⟩

/-! ## One request -/

/-- A request to renew or rekey that succeeded, by whatever instance and whenever it was made. -/
structure Reissue (rt : Runtime) where
  service : Service
  request : ReissueRequest
  dpop : Option String
  requestUrl : String
  requestId : Option String
  before : World
  response : CertificateResponse
  after : World
  succeeds : (request.run rt service dpop requestUrl requestId).run before = .ok response after

namespace Reissue

variable {rt : Runtime}

/-- The certificate that was presented. -/
def Presents (r : Reissue rt) (cert : Certificate) : Prop :=
  X509.certificateFromPem rt.crates r.request.certificate = .ok cert

/-- The certificate that was returned. -/
def Returns (r : Reissue rt) (cert : Certificate) : Prop :=
  X509.certificateFromPem rt.crates r.response.certificate = .ok cert

/-- The returned certificate lives no longer than the presented one. -/
def Shortens (r : Reissue rt) : Prop :=
  ∀ presented returned, r.Presents presented → r.Returns returned →
    returned.lifetime ≤ presented.lifetime

/-- The hooks that were asked in `w` for `ctx` left the start of the window where it was or moved it
later, or else moved its end as well, to within the lifetime of the presented certificate. -/
def Within (r : Reissue rt) (auth : Service.ReissueAuth) (ctx : Context) (w : World) : Prop :=
  let notBefore := Hook.notBeforeFrom rt r.service.hooks ctx w
  let notAfter := Hook.notAfterFrom rt r.service.hooks ctx w
  0 ≤ auth.cert.lifetime ∧ (auth.now.secs ≤ notBefore.secs ∨
    notAfter.secs ≤ notBefore.secs + auth.cert.lifetime)

/-- What the hooks answered keeps within the lifetime of the presented certificate. -/
def KeepsWithin (r : Reissue rt) : Prop :=
  ∃ auth w ctx,
    (r.service.reissueAuthenticate rt r.request.certificate r.dpop r.requestUrl).run r.before =
      .ok auth w ∧
    Service.reissueContextFor rt.crates auth r.request.newCsr = .ok ctx ∧ r.Within auth ctx w

/-- When the window that is asked for ends: where the hooks that were asked in `w` for `ctx` left its
end, or a lifetime of the presented certificate from now. -/
def requestedEnd (r : Reissue rt) (auth : Service.ReissueAuth) (ctx : Context) (w : World) : ℤ :=
  min (Hook.notAfterFrom rt r.service.hooks ctx w).secs (auth.now.secs + max auth.cert.lifetime 0)

/-- The plan of a request: its window starts where the hooks left the start, and ends when the window
that was asked for does. -/
theorem exists_plan (r : Reissue rt) :
    ∃ eventType auth w₁ ctx plan w₂ w₃ w₄ event w₅,
      (r.service.reissueAuthenticate rt r.request.certificate r.dpop r.requestUrl).run r.before =
        .ok auth w₁ ∧
      Service.reissueContextFor rt.crates auth r.request.newCsr = .ok ctx ∧
      plan.custom.notBefore = Hook.notBeforeFrom rt r.service.hooks ctx w₁ ∧
      plan.custom.notAfter.secs = r.requestedEnd auth ctx w₁ ∧
      plan.custom.notBefore ≤ plan.custom.notAfter ∧
      plan.custom.onceClaims = Hook.onceClaimsFrom rt r.service.hooks ctx w₁ ∧
      (Service.proofClaimJti rt auth.proof).run w₂ = .ok () w₃ ∧
      (claimOnceScopes rt plan.custom.onceClaims plan.custom.notAfter).run w₃ = .ok () w₄ ∧
      (r.service.reissueIssue rt plan eventType r.requestId).run w₄ = .ok (r.response, event) w₅ ∧
      r.after = { w₅ with audit := event :: w₅.audit } := by
  obtain ⟨eventType, auth, w₁, plan, w₂, w₃, w₄, event, w₅, hauth, hplan, hjti, hscopes, hissue, hafter⟩ :=
    ReissueRequest.of_run r.succeeds
  obtain ⟨_, _, ceiling, _, custom, -, -, hceiling, hctx, hhooks, -, -, -, hcustom, hwindow⟩ :=
    Service.of_reissuePlan hplan
  obtain ⟨hnotBefore, hnotAfter⟩ := Hook.window_of_run hhooks
  have honce := Hook.onceClaims_of_run hhooks
  have hslid : ceiling.secs = auth.now.secs + max auth.cert.lifetime 0 := by
    have hnanos := SystemTime.checkedAdd_eq_some.mp hceiling
    rw [originalDuration_eq] at hnanos
    unfold SystemTime.secs
    omega
  have hordered : plan.custom.notBefore ≤ plan.custom.notAfter := by
    unfold Customization.checkWindow at hwindow
    split_ifs at hwindow with hcollapsed
    exact (not_le.mp hcollapsed).le
  refine ⟨eventType, auth, w₁, _, plan, w₂, w₃, w₄, event, w₅, hauth, hctx, ?_, ?_, hordered, ?_, hjti,
    hscopes, hissue, hafter⟩
  · rw [hcustom, Customization.clampTo_eq, ← hnotBefore]
  · rw [hcustom, Customization.clampTo_eq, requestedEnd, ← hnotAfter, ← hslid, ← SystemTime.secs_min]
    rfl
  · rw [hcustom, Customization.clampTo_eq, ← honce]

/-- The window of the returned certificate. -/
theorem window (r : Reissue rt) (hpem : PemRoundTrip rt.crates) (hdate : DateTimeTruncates rt.crates) :
    ∃ auth w ctx returned,
      (r.service.reissueAuthenticate rt r.request.certificate r.dpop r.requestUrl).run r.before =
        .ok auth w ∧
      Service.reissueContextFor rt.crates auth r.request.newCsr = .ok ctx ∧
      r.Presents auth.cert ∧ r.Returns returned ∧
      (returned.tbsCertificate.validity.notBefore.dateTime.unixSecs : ℤ) =
        (Hook.notBeforeFrom rt r.service.hooks ctx w).secs ∧
      (returned.tbsCertificate.validity.notAfter.dateTime.unixSecs : ℤ) = r.requestedEnd auth ctx w ∧
      0 ≤ returned.lifetime := by
  obtain ⟨_, auth, w, ctx, plan, _, _, _, _, _, hauth, hctx, hnotBefore, hnotAfter, hordered, -, -, -,
    hissue, -⟩ := r.exists_plan
  obtain ⟨issued, _, _, hissued, -, -, -, hresponse⟩ := Service.of_reissueIssue hissue
  obtain ⟨hpresented, -⟩ := Service.of_reissueAuthenticate hauth
  obtain ⟨_, _, -, hbuild⟩ := of_reissue hissued
  obtain ⟨validity, _, hvalidity, -, htbs, hpemText, -⟩ := of_build hbuild
  obtain ⟨hstart, hend⟩ := of_validity hdate hvalidity
  have hreturned : r.response.certificate = issued.pem := congrArg CertificateResponse.certificate hresponse
  refine ⟨auth, w, ctx, issued.certificate, hauth, hctx, hpresented, ?_, ?_, ?_, ?_⟩
  · rw [Returns, hreturned]
    exact hpem _ _ hpemText
  · rw [htbs, ← hnotBefore]
    exact hstart
  · rw [htbs, ← hnotAfter]
    exact hend
  · have hsecs : plan.reissueParams.notBefore.secs ≤ plan.reissueParams.notAfter.secs :=
      SystemTime.secs_mono hordered
    rw [← hstart, ← hend] at hsecs
    rw [Certificate.lifetime, htbs]
    exact Int.sub_nonneg_of_le hsecs

/-- A reissued certificate lives no longer than the presented one exactly when the hooks keep its
window within that lifetime. -/
theorem shortens_iff (r : Reissue rt) (hpem : PemRoundTrip rt.crates)
    (hdate : DateTimeTruncates rt.crates) : r.Shortens ↔ r.KeepsWithin := by
  obtain ⟨auth, w, ctx, returned, hauth, hctx, hpresents, hreturns, hstart, hend, hpositive⟩ :=
    r.window hpem hdate
  have hwithin : returned.lifetime ≤ auth.cert.lifetime ↔ r.Within auth ctx w := by
    unfold Certificate.lifetime at hpositive
    unfold requestedEnd at hend
    unfold Within
    rw [Certificate.lifetime.eq_1 returned]
    dsimp only
    omega
  constructor
  · intro h
    exact ⟨auth, w, ctx, hauth, hctx, hwithin.mp (h _ _ hpresents hreturns)⟩
  · rintro ⟨auth', w', ctx', hauth', hctx', h⟩ presented' returned' hpresents' hreturns'
    cases hauth.symm.trans hauth'
    cases hctx.symm.trans hctx'
    cases hpresents.symm.trans hpresents'
    cases hreturns.symm.trans hreturns'
    exact hwithin.mpr h

/-! ## Chains of requests -/

/-- The next request presents the certificate that this one returned. -/
def Then (r next : Reissue rt) : Prop := next.request.certificate = r.response.certificate

theorem exists_presented (r : Reissue rt) : ∃ cert, r.Presents cert := by
  obtain ⟨_, auth, _, _, _, _, _, _, _, hauth, -⟩ := ReissueRequest.of_run r.succeeds
  exact ⟨auth.cert, (Service.of_reissueAuthenticate hauth).1⟩

/-- What is presented to `next` lives no longer than what was presented to `r`. -/
def NoLonger (r next : Reissue rt) : Prop :=
  ∀ cert cert', r.Presents cert → next.Presents cert' → cert'.lifetime ≤ cert.lifetime

instance : IsTrans (Reissue rt) NoLonger where
  trans r s t hrs hst cert cert' hcert hcert' := by
    obtain ⟨middle, hmiddle⟩ := s.exists_presented
    exact (hst middle cert' hmiddle hcert').trans (hrs cert middle hcert hmiddle)

theorem noLonger_of_then {r next : Reissue rt} (hthen : r.Then next) (h : r.Shortens) :
    r.NoLonger next := by
  intro cert cert' hcert hcert'
  rw [Presents, hthen] at hcert'
  exact h cert cert' hcert hcert'

/-- Along a chain of requests that shorten, lifetimes only shrink. -/
theorem pairwise_of_shortens {chain : List (Reissue rt)} (hchain : chain.IsChain Then)
    (h : ∀ r ∈ chain, r.Shortens) :
    chain.Pairwise fun r s => ∀ first last, r.Presents first → s.Returns last →
      last.lifetime ≤ first.lifetime := by
  have hpresented : chain.Pairwise NoLonger := by
    refine List.isChain_iff_pairwise.mp ?_
    exact hchain.imp_of_mem_imp fun r s hr _ hthen => noLonger_of_then hthen (h r hr)
  refine hpresented.imp_of_mem fun {r s} _ hs hrs first last hfirst hlast => ?_
  obtain ⟨cert, hcert⟩ := s.exists_presented
  exact (h s hs cert last hcert hlast).trans (hrs first cert hfirst hcert)

end Reissue

/-- Every request of a chain shortens the lifetime of the certificate presented for it exactly when
the hooks keep each window within that lifetime; then every certificate further down the chain
lives no longer than the first. -/
theorem chain_lifetimes_iff (rt : Runtime) (hpem : PemRoundTrip rt.crates)
    (hdate : DateTimeTruncates rt.crates) (chain : List (Reissue rt))
    (hchain : chain.IsChain Reissue.Then) :
    ((∀ r ∈ chain, r.Shortens) ↔ ∀ r ∈ chain, r.KeepsWithin) ∧
      ((∀ r ∈ chain, r.KeepsWithin) → chain.Pairwise fun r s => ∀ first last, r.Presents first →
        s.Returns last → last.lifetime ≤ first.lifetime) := by
  have hsame : (∀ r ∈ chain, r.Shortens) ↔ ∀ r ∈ chain, r.KeepsWithin :=
    forall₂_congr fun r _ => r.shortens_iff hpem hdate
  exact ⟨hsame, fun h => Reissue.pairwise_of_shortens hchain (hsame.mpr h)⟩

/-! ## A hook that moves the start of the window -/

/-- What a renewal of the leaf returns when a hook moves its start to second 500. -/
def earlierLeaf : Certificate := Testca.reissuedLeaf (Testca.date 500) (Testca.date 9500)

def earlierRuntime : Runtime :=
  Testca.still (Testca.closedCrates [Testca.leaf, earlierLeaf] []
    [([1], .obj (Testca.proofFields "p-1" 1500))])

def earlierHook : HookProvider where
  name := "earlier"
  provisioners := []
  call _ _ := .ok { notBefore := some (Testca.instant 500) }

theorem dateTimeTruncates_closed (certs : List Certificate) (csrs : List (String × CertReq))
    (documents : List (Bytes × Json)) :
    DateTimeTruncates (Testca.closedCrates certs csrs documents) := by
  intro t d hd
  change (if h : unixEpoch ≤ t ∧ unixSecs t ≤ 253402300799 then _ else _) = _ at hd
  split_ifs at hd with h
  cases hd
  exact ⟨h.1, rfl⟩

/-- The leaf, which lives 8000 seconds, is renewed at second 1500. -/
def earlierRenewal : Reissue earlierRuntime where
  service := Testca.service true [earlierHook]
  request := .renew ⟨Testca.pem (Testca.certificateDer Testca.leaf)⟩
  dpop := some (Testca.token "d" 1 [3])
  requestUrl := "ca"
  requestId := none
  before := Testca.world Testca.sqlite (Testca.instant 1500)
  response := {
    certificate := Testca.pem (Testca.certificateDer earlierLeaf)
    chain := []
    serialNumber := serialToDecimal (X509.serialBytes Testca.zeroEntropy)
    notAfter := Nat.repr 9500 }
  after := final (((ReissueRequest.renew ⟨Testca.pem (Testca.certificateDer Testca.leaf)⟩).run
    earlierRuntime (Testca.service true [earlierHook]) (some (Testca.token "d" 1 [3])) "ca" none).run
      (Testca.world Testca.sqlite (Testca.instant 1500)))
  succeeds := rfl

/-- A certificate that lives 8000 seconds is renewed into one that lives 9000. -/
theorem lifetime_grows : ∃ presented returned, earlierRenewal.Presents presented ∧
    earlierRenewal.Returns returned ∧ presented.lifetime = 8000 ∧ returned.lifetime = 9000 :=
  ⟨Testca.leaf, earlierLeaf, rfl, rfl, by decide, by decide⟩

/-! ## A certificate that is renewed twice -/

namespace Twice

/-- What the first renewal of the leaf returns, at second 1500. -/
def onceLeaf : Certificate := Testca.reissuedLeaf (Testca.date 1500) (Testca.date 9500)

/-- What the next renewal returns, at second 2000, when a hook ends it at second 5000. -/
def twiceLeaf : Certificate := Testca.reissuedWith Testca.otherEntropy (Testca.date 2000) (Testca.date 5000)

def runtime : Runtime where
  crates := Testca.closedCrates [Testca.leaf, onceLeaf, twiceLeaf] []
    [([1], .obj (Testca.proofFields "p-1" 1500)), ([2], .obj (Testca.proofFields "p-2" 2000))]
  elapse _ := 0
  -- a renewal interacts eight times
  entropy n := if n < 8 then Testca.zeroEntropy else Testca.otherEntropy

def shorterHook : HookProvider where
  name := "shorter"
  provisioners := []
  call _ _ := .ok { notAfter := some (Testca.instant 5000) }

/-- The certificate is renewed with the proof in `payload`. -/
def renewing (cert : Certificate) (hooks : List HookProvider) (payload : UInt8) (w : World) :
    EStateM.Result Abort World CertificateResponse :=
  ((ReissueRequest.renew ⟨Testca.pem (Testca.certificateDer cert)⟩).run runtime
    (Testca.service true hooks) (some (Testca.token "d" payload [3])) "ca" none).run w

def response (cert : Certificate) (entropy : Digest 19) (notAfter : ℕ) : CertificateResponse where
  certificate := Testca.pem (Testca.certificateDer cert)
  chain := []
  serialNumber := serialToDecimal (X509.serialBytes entropy)
  notAfter := Nat.repr notAfter

def renewal (cert : Certificate) (hooks : List HookProvider) (payload : UInt8) (w : World)
    (returned : CertificateResponse)
    (h : renewing cert hooks payload w = .ok returned (final (renewing cert hooks payload w))) :
    Reissue runtime where
  service := Testca.service true hooks
  request := .renew ⟨Testca.pem (Testca.certificateDer cert)⟩
  dpop := some (Testca.token "d" payload [3])
  requestUrl := "ca"
  requestId := none
  before := w
  response := returned
  after := final (renewing cert hooks payload w)
  succeeds := h

def onceRenewal : Reissue runtime :=
  renewal Testca.leaf [] 1 (Testca.world Testca.sqlite (Testca.instant 1500))
    (response onceLeaf Testca.zeroEntropy 9500) rfl

set_option maxRecDepth 2000 in
def twiceRenewal : Reissue runtime :=
  renewal onceLeaf [shorterHook] 2 { onceRenewal.after with clock := Testca.instant 2000 }
    (response twiceLeaf Testca.otherEntropy 5000) rfl

theorem pemRoundTrip_runtime : PemRoundTrip runtime.crates := by
  refine Testca.pemRoundTrip_closed ?_
  simp only [List.forall_mem_cons]
  exact ⟨rfl, rfl, rfl, List.forall_mem_nil _⟩

theorem keepsWithin : ∀ r ∈ [onceRenewal, twiceRenewal], r.KeepsWithin := by
  have honce : onceRenewal.KeepsWithin := ⟨_, _, _, rfl, rfl, by decide, .inl (by decide)⟩
  have htwice : twiceRenewal.KeepsWithin := ⟨_, _, _, rfl, rfl, by decide, .inl (by decide)⟩
  exact List.forall_mem_cons.mpr ⟨honce, List.forall_mem_singleton.mpr htwice⟩

end Twice

open Twice in
/-- The leaf lives 8000 seconds, and so does its renewal; the next one lives 3000. -/
theorem chain_lifetimes_iff_twice :
    (∀ r ∈ [onceRenewal, twiceRenewal], r.KeepsWithin) ∧
      (∀ r ∈ [onceRenewal, twiceRenewal], r.Shortens) ∧
      [onceRenewal, twiceRenewal].Pairwise fun r s =>
        ∀ first last, r.Presents first → s.Returns last → last.lifetime ≤ first.lifetime := by
  have hchain : [onceRenewal, twiceRenewal].IsChain Reissue.Then :=
    .cons_cons rfl (.singleton twiceRenewal)
  obtain ⟨hsame, hpairwise⟩ := chain_lifetimes_iff runtime pemRoundTrip_runtime
    (dateTimeTruncates_closed _ _ _) [onceRenewal, twiceRenewal] hchain
  exact ⟨keepsWithin, hsame.mpr keepsWithin, hpairwise keepsWithin⟩

end Ayane
