import Ayane.Cli.Vouch
import Ayane.Service.RootsSignature

/-!
# Freshly signed roots at the client

A CA may be configured with any lifetime for its signatures of the roots, and with any URL.
The client takes what the CA has just signed when the lifetime is at least a second and at most
`MAX_SIGNATURE_LIFETIME`, the cap it keeps against a misconfigured CA.
-/

namespace Ayane

open Ayane.Action Effect

namespace Service

/-- The signer certificate chain served at `GET /v1/roots/signer-chain`. -/
def signerChainPem (service : Service) : String := String.join service.ca.chainPem

/-- The parameters of a signature that is made at `now`. -/
def rootsParams (service : Service) (now : SystemTime) : Protocol.RootsSigParams where
  created := UInt64.ofNat (unixSecs now)
  expires := UInt64.ofNat (unixSecs now) + UInt64.ofNat (asSecs service.rootsSignatureTtl)
  alg := service.ca.key.algorithm.rfc9421Alg

/-- The header values that the client pulls off the response. -/
def SignedRoots.headers (r : SignedRoots) : Cli.ResponseHeaders where
  contentDigest := r.contentDigest
  signatureInput := r.signatureInput
  signature := r.signature
  signatureKey := r.signatureKey

/-- The response was made for the roots at `now`, and its lifetime ends within the range of the clock. -/
structure SignedAt (crates : ServerCrates) (service : Service) (r : SignedRoots) (now : SystemTime) :
    Prop where
  digest : r.contentDigest = Protocol.contentDigestHeader crates.toCrates (crates.sha384 r.body)
  input : r.signatureInput = Protocol.signatureInputValue (service.rootsParams now)
  key : r.signatureKey = service.signatureKey crates
  signature : ∃ n raw, r.signature = Protocol.signatureHeaderValue crates.toCrates raw ∧
    service.ca.signHttpMessage crates n (utf8 (Protocol.rootsSignatureBase 200
      Protocol.rootsContentType r.contentDigest r.signatureKey (service.rootsParams now))) = .ok raw
  ends : ∃ t, now.plus service.rootsSignatureTtl = .ok t

variable {rt : Runtime} {service : Service} {w w' : World} {r : SignedRoots}

theorem signedAt_of_storeRoots {body : Bytes} {now : SystemTime}
    (h : (service.storeRoots rt (rt.crates.sha384 body) now
      (respondWith rt.crates body (rt.crates.sha384 body))).run w = .ok r w') :
    SignedAt rt.crates service r now := by
  unfold storeRoots at h
  obtain ⟨sig, w₁, hsign, hrest⟩ := run_bind_eq_ok.mp h
  obtain ⟨expiresAt, w₂, hexpires, hstore⟩ := run_bind_eq_ok.mp hrest
  obtain ⟨u, w₃, -, hpure⟩ := run_bind_eq_ok.mp hstore
  obtain ⟨raw, w₄, hkey, hsig⟩ := run_bind_eq_ok.mp hsign
  obtain ⟨hraw, -⟩ := of_withKey hkey
  cases hpure
  cases hsig
  constructor
  · rfl
  · rfl
  · rfl
  · exact ⟨_, raw, rfl, (Result.orAbort_eq_ok _ _).mp hraw⟩
  · exact ⟨expiresAt, (run_ofOutcome_eq_ok.mp hexpires).1⟩

/-- A request that finds no signature is answered with one of the instant at which it reads the
clock. -/
theorem signedAt_of_miss (h : (service.signedRoots rt).run w = .ok r w')
    (hmiss : ∀ digest sig, service.RootsDigest rt.crates digest → ¬ service.Finds rt w digest sig) :
    SignedAt rt.crates service r (w.tick rt).clock := by
  rw [signedRoots_eq] at h
  obtain ⟨body, w₁, hbody, hclock⟩ := run_bind_eq_ok.mp h
  obtain ⟨hroots, rfl⟩ := run_ofResult_eq_ok.mp hbody
  dsimp only at hclock
  rw [run_bind_of_ok (run_systemTimeNow rt w₁)] at hclock
  obtain ⟨found, w₂, hget, hrest⟩ := run_bind_eq_ok.mp hclock
  split at hrest
  · rename_i sig hsig
    have hdigest : service.RootsDigest rt.crates (rt.crates.sha384 body) :=
      ⟨body, (mapErr_eq_ok _ _ _).mp hroots, rfl⟩
    exact absurd ((finds_of_cacheGet hget sig).mp hsig) (hmiss _ sig hdigest)
  · exact signedAt_of_storeRoots hrest

end Service

/-! ## The client's checks -/

namespace Cli

open Protocol

/-- A signature is fresh when it is made if its lifetime is within the bounds. -/
theorem fresh_iff {c d : ℕ} {alg : String} (hcreated : c < 2 ^ 63) (hexpires : c + d < 2 ^ 64) :
    Fresh ⟨UInt64.ofNat c, UInt64.ofNat c + UInt64.ofNat d, alg⟩ (UInt64.ofNat c) ↔
      1 ≤ d ∧ d ≤ 7 * 24 * 3600 := by
  have hlifetime : UInt64.ofNat c + UInt64.ofNat d - UInt64.ofNat c = UInt64.ofNat d := by grind
  have hsum : (UInt64.ofNat c + UInt64.ofNat d).toNat = c + d := by
    rw [← UInt64.ofNat_add, UInt64.toNat_ofNat_of_lt' hexpires]
  have hc : (UInt64.ofNat c).toNat = c := UInt64.toNat_ofNat_of_lt' (hcreated.trans (by decide))
  have hd : (UInt64.ofNat d).toNat = d :=
    UInt64.toNat_ofNat_of_lt' ((Nat.le_add_left d c).trans_lt hexpires)
  have hskew : (UInt64.ofNat c + skew).toNat = c + 60 := by
    rw [UInt64.toNat_add, hc]
    change (c + 60) % 2 ^ 64 = _
    omega
  have hmax : maxSignatureLifetime.toNat = 7 * 24 * 3600 := rfl
  unfold Fresh
  simp only [hlifetime, UInt64.lt_iff_toNat_lt, UInt64.le_iff_toNat_le, hsum, hc, hd, hskew, hmax]
  omega

theorem fresh_rootsParams {service : Service} {now t : SystemTime}
    (h : now.plus service.rootsSignatureTtl = .ok t) :
    Fresh (service.rootsParams now) (UInt64.ofNat (unixSecs now)) ↔
      1 ≤ asSecs service.rootsSignatureTtl ∧ asSecs service.rootsSignatureTtl ≤ 7 * 24 * 3600 := by
  have hends := SystemTime.plus_eq_ok.mp h
  have hbefore := now.inRange
  have hafter := t.inRange
  unfold timeLimit at hbefore hafter
  have hsecs := unixSecs_eq now
  have hexpires : unixSecs now + asSecs service.rootsSignatureTtl < 2 ^ 64 := by
    unfold asSecs
    omega
  exact fresh_iff (by omega) hexpires

/-- The URL of the chain does not end like the name of the thumbprint, and looks like it only where the
external URL does. -/
theorem signerChainUrl_plain {service : Service}
    (hurl : ∀ url, service.externalUrl = some url → ¬ "x5t=\"".toList <:+: url.toList) :
    ¬ "x5t=\"".toList <:+: service.signerChainUrl.toList ∧
      ¬ "x5t=".toList <:+ service.signerChainUrl.toList := by
  have htoList : service.signerChainUrl.toList =
      (service.externalUrl.getD "").toList ++ signerChainPath.toList := String.toList_append
  rw [htoList]
  constructor
  · intro h
    have hneedle : "x5t=\"".toList = "x5t=".toList ++ ['"'] := by simp
    have hbase := Text.infix_of_infix_append (hneedle ▸ h) (by decide)
    rw [← hneedle] at hbase
    cases hexternal : service.externalUrl with
    | none =>
      rw [hexternal] at hbase
      simp at hbase
    | some url =>
      rw [hexternal] at hbase
      exact hurl url hexternal hbase
  · rintro ⟨pre, h⟩
    have hlast := congrArg List.getLast? h
    have hname : "x5t=".toList.getLast? = some '=' := by decide
    have hpath : signerChainPath.toList.getLast? = some 'n' := by decide
    rw [List.getLast?_append, List.getLast?_append, hname, hpath] at hlast
    cases hlast

section

variable {rt : Runtime} {service : Service} {issuer : Certificate} {r : Service.SignedRoots}
  {now : SystemTime}

/-- What has just been signed carries the right digest, thumbprint and signature, and is signed by the
issuing certificate as long as it is fresh. -/
theorem responseSigned_iff (hbase64 : ∀ b, rt.crates.base64.decode (rt.crates.base64.encode b) = .ok b)
    (hquote : ∀ b, '"' ∉ (rt.crates.base64Url.encode b).toList)
    (hissues : service.ca.IssuesUnder rt.crates issuer) (hkey : service.ca.key.Signs rt.crates)
    (hurl : ∀ url, service.externalUrl = some url → ¬ "x5t=\"".toList <:+: url.toList)
    (h : service.SignedAt rt.crates r now) :
    ResponseSigned rt.crates.toCrates r.body r.headers (UInt64.ofNat (unixSecs now)) issuer ↔
      Fresh (service.rootsParams now) (UInt64.ofNat (unixSecs now)) := by
  have halg := service.ca.key.algorithm.semicolon_not_mem_rfc9421Alg
  have hparams : parseRootsSigParams r.headers.signatureInput = .ok (service.rootsParams now) := by
    change parseRootsSigParams r.signatureInput = _
    rw [h.input]
    exact parseRootsSigParams_signatureInputValue _ halg
  constructor
  · intro hsigned
    obtain ⟨params, _, _, hread, hfresh, -⟩ := hsigned.signature
    obtain rfl := Except.ok.inj (hparams.symm.trans hread)
    exact hfresh
  · intro hfresh
    obtain ⟨hspki, -, der, hder, hleaf⟩ := CertificateAuthority.of_issuesUnder hissues
    obtain ⟨n, raw, hsignature, hraw⟩ := h.signature
    have hplain := signerChainUrl_plain hurl
    constructor
    · change parseContentDigest _ r.contentDigest = _
      rw [h.digest]
      exact parseContentDigest_contentDigestHeader _ hbase64 _
    · obtain ⟨url, hread⟩ := parseSignatureKeyX509_thumbprint hplain.1 hplain.2
        (hquote service.ca.signerLeafSha256)
      refine ⟨url, _, der, ?_, hder, by rw [← hleaf]⟩
      change parseSignatureKeyX509 r.signatureKey = _
      rw [h.key]
      exact hread
    · refine ⟨_, raw, service.ca.caSpkiDer, hparams, hfresh, ?_, hspki, ?_⟩
      · change parseSignatureHeader _ r.signature = _
        rw [hsignature]
        exact parseSignatureHeader_signatureHeaderValue _ hbase64 raw
      · exact CertificateAuthority.signs_of_issuesUnder hissues hkey _ _ _ hraw

/-- The client accepts what has just been signed exactly when it is fresh. -/
theorem accepted_iff_fresh (hbase64 : ∀ b, rt.crates.base64.decode (rt.crates.base64.encode b) = .ok b)
    (hquote : ∀ b, '"' ∉ (rt.crates.base64Url.encode b).toList)
    (hissues : service.ca.IssuesUnder rt.crates issuer) (hkey : service.ca.key.Signs rt.crates)
    (hurl : ∀ url, service.externalUrl = some url → ¬ "x5t=\"".toList <:+: url.toList)
    (h : service.SignedAt rt.crates r now) {pinned : Bytes} {rest known : List Certificate}
    (hchain : parseCertificates rt.crates.toCrates (utf8 service.signerChainPem) = .ok (issuer :: rest))
    (hpinned : parseCertificates rt.crates.toCrates pinned = .ok known) (hne : known ≠ [])
    (hanchor : anchorSigner rt.crates.toCrates (issuer :: rest) known
      (UInt64.ofNat (unixSecs now)) = .ok ()) :
    verifyRootsResponse rt.crates.toCrates r.body r.headers (utf8 service.signerChainPem) pinned
        (UInt64.ofNat (unixSecs now)) = .ok () ↔
      Fresh (service.rootsParams now) (UInt64.ofNat (unixSecs now)) := by
  have hsigned := responseSigned_iff hbase64 hquote hissues hkey hurl h
  rw [verifyRootsResponse_eq_ok, ← hsigned]
  constructor
  · rintro ⟨leaf, rest', known', hread, -, -, hresponse, -⟩
    obtain ⟨rfl, -⟩ := List.cons.inj (Except.ok.inj (hchain.symm.trans hread))
    exact hresponse
  · intro hresponse
    exact ⟨issuer, rest, known, hchain, hpinned, hne, hresponse, hanchor⟩

end

/-- A client that pins an anchor of the issuing certificate accepts the roots that have just been signed
exactly when their signature lives for a second at least and for seven days at most. -/
theorem freshRoots_accepted_iff {rt : Runtime} {service : Service} {issuer : Certificate}
    (hbase64 : ∀ b, rt.crates.base64.decode (rt.crates.base64.encode b) = .ok b)
    (hquote : ∀ b, '"' ∉ (rt.crates.base64Url.encode b).toList)
    (hissues : service.ca.IssuesUnder rt.crates issuer) (hkey : service.ca.key.Signs rt.crates)
    (hurl : ∀ url, service.externalUrl = some url → ¬ "x5t=\"".toList <:+: url.toList)
    {w w' : World} {r : Service.SignedRoots} (hrun : (service.signedRoots rt).run w = .ok r w')
    (hmiss : ∀ digest sig, service.RootsDigest rt.crates digest → ¬ service.Finds rt w digest sig)
    {pinned : Bytes} {rest known : List Certificate}
    (hchain : parseCertificates rt.crates.toCrates (utf8 service.signerChainPem) = .ok (issuer :: rest))
    (hpinned : parseCertificates rt.crates.toCrates pinned = .ok known) (hne : known ≠ [])
    (hanchor : anchorSigner rt.crates.toCrates (issuer :: rest) known
      (UInt64.ofNat (unixSecs (w.tick rt).clock)) = .ok ()) :
    verifyRootsResponse rt.crates.toCrates r.body r.headers (utf8 service.signerChainPem) pinned
        (UInt64.ofNat (unixSecs (w.tick rt).clock)) = .ok () ↔
      1 ≤ asSecs service.rootsSignatureTtl ∧ asSecs service.rootsSignatureTtl ≤ 7 * 24 * 3600 := by
  have hsigned := Service.signedAt_of_miss hrun hmiss
  obtain ⟨t, hends⟩ := hsigned.ends
  rw [accepted_iff_fresh hbase64 hquote hissues hkey hurl hsigned hchain hpinned hne hanchor,
    fresh_rootsParams hends]

/-! ## A lifetime above the cap -/

/-- Crates that write signatures and read none. -/
def freshCrates : ServerCrates :=
  { Testca.serverCrates [Testca.root, Testca.intermediate] [] [] with
    jsonText := {
      valueFromSlice := fun _ => .error "EOF while parsing a value"
      rootsToVec := fun roots => .ok (roots.flatMap utf8)
      cachedRootsSigToVec := fun _ => .ok [1]
      cachedRootsSigFromSlice := fun _ => .error "EOF while parsing a value" } }

/-- The small PKI with a lifetime for its signatures. -/
def freshService (ttl : Duration) : Service :=
  { Testca.service true [] with
    rootsSignatureTtl := ttl
    ca := { Roots.authority 2 Testca.intermediate with
      chainPem := [Testca.pem (Testca.certificateDer Testca.intermediate)] } }

def freshRuntime : Runtime := Testca.still freshCrates

def freshWorld : World := Testca.world Testca.sqlite (Testca.instant 5000)

theorem issuesUnder_freshService (ttl : Duration) :
    (freshService ttl).ca.IssuesUnder freshCrates Testca.intermediate :=
  ⟨Testca.pem (Testca.certificateDer Testca.intermediate), rfl, rfl⟩

theorem signs_freshService (ttl : Duration) : (freshService ttl).ca.key.Signs freshCrates := by
  intro n msg der raw hsign hencode
  cases hsign
  cases hencode
  have hverify : Testca.ecdsa.verify [2] msg (Testca.sign [2] msg) = .ok () := if_pos rfl
  change Protocol.orInvalid (Testca.ecdsa.verify [2] msg (Testca.sign [2] msg)) = .ok ()
  rw [hverify]
  rfl

theorem not_finds_freshWorld (ttl : Duration) (digest : Digest 48) (sig : CachedRootsSig) :
    ¬ (freshService ttl).Finds freshRuntime freshWorld digest sig := by
  rintro ⟨bytes, hget, -⟩
  cases hget

theorem parse_freshService (ttl : Duration) :
    parseCertificates freshCrates.toCrates (utf8 (freshService ttl).signerChainPem) =
      .ok [Testca.intermediate] := by
  change parseCertificates freshCrates.toCrates (utf8 (String.join
    [Testca.pem (Testca.certificateDer Testca.intermediate)])) = _
  decide +kernel

theorem parse_pinnedRoot_fresh :
    parseCertificates freshCrates.toCrates pinnedRoot = .ok [Testca.root] := by
  decide +kernel

theorem anchor_fresh : anchorSigner freshCrates.toCrates [Testca.intermediate] [Testca.root]
    (UInt64.ofNat (unixSecs (freshWorld.tick freshRuntime).clock)) = .ok () := by
  decide +kernel

theorem run_freshService {ttl : Duration}
    (h : (match ((freshService ttl).signedRoots freshRuntime).run freshWorld with
      | .ok _ _ => true
      | .error _ _ => false) = true) :
    ∃ r w', ((freshService ttl).signedRoots freshRuntime).run freshWorld = .ok r w' := by
  cases hrun : ((freshService ttl).signedRoots freshRuntime).run freshWorld with
  | ok r w' => exact ⟨r, w', rfl⟩
  | error abort w' =>
    rw [hrun] at h
    cases h

theorem freshRoots_accepted_hour : ∃ r w',
    ((freshService (fromSecs 3600)).signedRoots freshRuntime).run freshWorld = .ok r w' ∧
    verifyRootsResponse freshCrates.toCrates r.body r.headers
      (utf8 (freshService (fromSecs 3600)).signerChainPem) pinnedRoot
      (UInt64.ofNat (unixSecs (freshWorld.tick freshRuntime).clock)) = .ok () := by
  obtain ⟨r, w', hrun⟩ := @run_freshService (fromSecs 3600) (by decide +kernel)
  have haccepted := @freshRoots_accepted_iff freshRuntime (freshService (fromSecs 3600))
    Testca.intermediate Testca.base64_decode_encode Testca.quote_not_mem_hex
    (issuesUnder_freshService _) (signs_freshService _) (fun _ h => nomatch (h : none = some _))
    freshWorld w' r hrun (fun digest sig _ => not_finds_freshWorld _ digest sig) pinnedRoot [] [Testca.root]
    (parse_freshService _) parse_pinnedRoot_fresh (List.cons_ne_nil _ _) anchor_fresh
  exact ⟨r, w', hrun, haccepted.mpr (by decide)⟩

/-- With a lifetime of eight days what has just been signed is rejected. -/
theorem freshRoots_rejected : ∃ r w',
    ((freshService (fromSecs 691200)).signedRoots freshRuntime).run freshWorld = .ok r w' ∧
    (∀ digest sig, ¬ (freshService (fromSecs 691200)).Finds freshRuntime freshWorld digest sig) ∧
    (freshService (fromSecs 691200)).ca.IssuesUnder freshCrates Testca.intermediate ∧
    (freshService (fromSecs 691200)).ca.key.Signs freshCrates ∧
    parseCertificates freshCrates.toCrates (utf8 (freshService (fromSecs 691200)).signerChainPem) =
      .ok [Testca.intermediate] ∧
    parseCertificates freshCrates.toCrates pinnedRoot = .ok [Testca.root] ∧
    anchorSigner freshCrates.toCrates [Testca.intermediate] [Testca.root]
      (UInt64.ofNat (unixSecs (freshWorld.tick freshRuntime).clock)) = .ok () ∧
    verifyRootsResponse freshCrates.toCrates r.body r.headers
      (utf8 (freshService (fromSecs 691200)).signerChainPem) pinnedRoot
      (UInt64.ofNat (unixSecs (freshWorld.tick freshRuntime).clock)) ≠ .ok () := by
  obtain ⟨r, w', hrun⟩ := @run_freshService (fromSecs 691200) (by decide +kernel)
  have hsigned := Service.signedAt_of_miss hrun fun digest sig _ => not_finds_freshWorld _ digest sig
  refine ⟨r, w', hrun, not_finds_freshWorld _, issuesUnder_freshService _, signs_freshService _,
    parse_freshService _, parse_pinnedRoot_fresh, anchor_fresh, fun haccepted => ?_⟩
  obtain ⟨t, hends⟩ := hsigned.ends
  have hfresh := (@accepted_iff_fresh freshRuntime (freshService (fromSecs 691200))
    Testca.intermediate r _ Testca.base64_decode_encode Testca.quote_not_mem_hex
    (issuesUnder_freshService _) (signs_freshService _) (fun _ h => nomatch (h : none = some _)) hsigned
    pinnedRoot [] [Testca.root] (parse_freshService _) parse_pinnedRoot_fresh (List.cons_ne_nil _ _)
    anchor_fresh).mp haccepted
  exact absurd ((fresh_rootsParams hends).mp hfresh).2 (by decide)

end Cli

end Ayane
