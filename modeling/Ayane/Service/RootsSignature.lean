import Ayane.Lib.Run
import Ayane.Service.Issuance
import Ayane.Storage.CacheEntries
import Ayane.Testca.Server

/-!
# The signed roots of many instances

A signature of the roots is cached under the digest of the roots, in a storage that
outlives the instance that made it. Another instance with the same roots finds it there,
whatever its own certificate, key and address are, and serves it until it has to be
refreshed.
-/

namespace Ayane

open Ayane.Action Effect

/-- The headers belong to the instance: they name its certificate and its chain, and carry a
signature under its key over the base that is rebuilt from them. -/
structure Belongs (crates : ServerCrates) (service : Service)
    (contentType contentDigest signatureInput signature signatureKey : String) : Prop where
  names : signatureKey = service.signatureKey crates
  verifies : ∃ params raw, Protocol.parseRootsSigParams signatureInput = .ok params ∧
    Protocol.parseSignatureHeader crates.toCrates signature = .ok raw ∧
    Protocol.verifyRfc9421Signature crates.toCrates params.alg service.ca.caSpkiDer
      (utf8 (Protocol.rootsSignatureBase 200 contentType contentDigest signatureKey params)) raw =
        .ok ()

/-- The response belongs to the instance. -/
abbrev Service.SignedRoots.BelongsTo (crates : ServerCrates) (r : Service.SignedRoots)
    (service : Service) : Prop :=
  Belongs crates service r.contentType r.contentDigest r.signatureInput r.signature r.signatureKey

/-- The cached signature was made by the instance, for roots with the digest. -/
abbrev CachedRootsSig.MadeBy (crates : ServerCrates) (sig : CachedRootsSig) (service : Service)
    (digest : Digest 48) : Prop :=
  Belongs crates service Protocol.rootsContentType
    (Protocol.contentDigestHeader crates.toCrates digest) sig.signatureInput sig.signature
    sig.signatureKey

/-- Two instances that cannot be told apart by their signatures. -/
structure SameSigner (service service' : Service) : Prop where
  signerChainUrl : service.signerChainUrl = service'.signerChainUrl
  signerLeafSha256 : service.ca.signerLeafSha256 = service'.ca.signerLeafSha256
  caSpkiDer : service.ca.caSpkiDer = service'.ca.caSpkiDer

theorem SameSigner.refl (service : Service) : SameSigner service service := ⟨rfl, rfl, rfl⟩

theorem Belongs.of_sameSigner {crates : ServerCrates} {service service' : Service}
    {contentType contentDigest signatureInput signature signatureKey : String}
    (h : Belongs crates service contentType contentDigest signatureInput signature signatureKey)
    (hsame : SameSigner service service') :
    Belongs crates service' contentType contentDigest signatureInput signature signatureKey where
  names := by
    rw [h.names]
    unfold Service.signatureKey
    rw [hsame.signerChainUrl, hsame.signerLeafSha256]
  verifies := by
    rw [← hsame.caSpkiDer]
    exact h.verifies

/-- What is relied on of the crates: what is encoded is decoded, and told apart. -/
structure CachesFaithfully (crates : ServerCrates) : Prop where
  base64 : ∀ b, crates.base64.decode (crates.base64.encode b) = .ok b
  hex : ∀ b b', crates.hex.encode b = crates.hex.encode b' → b = b'
  json : ∀ sig bytes, crates.jsonText.cachedRootsSigToVec sig = .ok bytes →
    crates.jsonText.cachedRootsSigFromSlice bytes = .ok sig

/-- What the key signs, and is encoded for a message, verifies under its public key. -/
def KeyProvider.Signs (crates : ServerCrates) (key : KeyProvider) : Prop :=
  ∀ n msg der raw, key.sign n msg = .ok der →
    key.algorithm.rfc9421SignatureFromDer crates.toCrates der = .ok raw →
    Protocol.verifyRfc9421Signature crates.toCrates key.algorithm.rfc9421Alg key.publicKeyDer msg raw =
      .ok ()

/-- The CA was opened with the certificate, which it issues under. -/
def CertificateAuthority.IssuesUnder (crates : ServerCrates) (ca : CertificateAuthority)
    (issuer : Certificate) : Prop :=
  ∃ issuerCertPem, X509.certificateFromPem crates issuerCertPem = .ok issuer ∧
    CertificateAuthority.new crates ca.key issuerCertPem ca.chainPem ca.rootsPem = .ok ca

/-- The CA has the key and the thumbprint of the certificate that it issues under. -/
theorem CertificateAuthority.of_issuesUnder {crates : ServerCrates} {ca : CertificateAuthority}
    {issuer : Certificate} (h : ca.IssuesUnder crates issuer) :
    crates.der.spkiToDer issuer.tbsCertificate.subjectPublicKeyInfo = .ok ca.caSpkiDer ∧
      ca.key.publicKeyDer = ca.caSpkiDer ∧
      ∃ der, crates.der.certificateToDer issuer = .ok der ∧ ca.signerLeafSha256 = crates.sha256 der := by
  obtain ⟨pem, hread, hnew⟩ := h
  unfold CertificateAuthority.new at hnew
  obtain ⟨cert, hcert, hnew⟩ := Effect.except_bind_eq_ok.mp hnew
  obtain rfl : issuer = cert := Except.ok.inj (hread.symm.trans hcert)
  obtain ⟨spki, hspki, hnew⟩ := Effect.except_bind_eq_ok.mp hnew
  split at hnew
  · cases hnew
  · rename_i hkey
    obtain ⟨der, hder, hnew⟩ := Effect.except_bind_eq_ok.mp hnew
    have hca := Except.ok.inj hnew
    have hsame : spki = ca.caSpkiDer := congrArg CertificateAuthority.caSpkiDer hca
    subst hsame
    exact ⟨(mapErr_eq_ok _ _ _).mp hspki, not_not.mp hkey, der, (mapErr_eq_ok _ _ _).mp hder,
      (congrArg CertificateAuthority.signerLeafSha256 hca).symm⟩

/-- What the key of the CA signs verifies under the key of the issuing certificate. -/
def CertificateAuthority.Signs (crates : ServerCrates) (ca : CertificateAuthority) : Prop :=
  ∀ n msg raw, ca.signHttpMessage crates n msg = .ok raw →
    Protocol.verifyRfc9421Signature crates.toCrates ca.key.algorithm.rfc9421Alg ca.caSpkiDer msg raw =
      .ok ()

theorem CertificateAuthority.signs_of_issuesUnder {crates : ServerCrates} {ca : CertificateAuthority}
    {issuer : Certificate} (h : ca.IssuesUnder crates issuer) (hkey : ca.key.Signs crates) :
    ca.Signs crates := by
  intro n msg raw hraw
  obtain ⟨der, hsign, hencode⟩ := Effect.except_bind_eq_ok.mp hraw
  obtain ⟨-, hspki, -⟩ := of_issuesUnder h
  rw [← hspki]
  exact hkey n msg der raw hsign hencode

theorem rootsCacheKey_inj {crates : ServerCrates} (hfaithful : CachesFaithfully crates)
    {d d' : Digest 48} (h : Service.rootsCacheKey crates d = Service.rootsCacheKey crates d') :
    d = d' := by
  unfold Service.rootsCacheKey at h
  exact Subtype.ext (hfaithful.hex _ _ (by simpa using h))

/-! ## One request -/

namespace Service

variable {rt : Runtime} {service : Service} {w w' : World}

/-- The signature that the instance finds when it is asked from `w` for roots with the digest, and
does not have to refresh. -/
def Finds (rt : Runtime) (service : Service) (w : World) (digest : Digest 48) (sig : CachedRootsSig) :
    Prop :=
  ∃ bytes, (w.storage.getCache (rootsCacheKey rt.crates digest) ((w.tick rt).tick rt).clock).1 =
      .ok (some bytes) ∧
    rt.crates.jsonText.cachedRootsSigFromSlice bytes = .ok sig ∧
    unixSecs (w.tick rt).clock + asSecs (refreshMargin service.rootsSignatureTtl) < sig.expires.toNat

/-- The roots of the instance have the digest. -/
def RootsDigest (crates : ServerCrates) (service : Service) (digest : Digest 48) : Prop :=
  ∃ body, crates.jsonText.rootsToVec service.ca.rootsPem = .ok body ∧ crates.sha384 body = digest


/-- The signatures that are kept, by the digest of their roots. -/
def rootsEntries (crates : ServerCrates) (w : World) : Memo.Entries (Digest 48) Bytes :=
  fun digest => w.storage.cacheEntry (rootsCacheKey crates digest)

/-- Signatures may have expired, and none was stored. -/
def KeepsRoots (crates : ServerCrates) (w w' : World) : Prop :=
  Memo.Shrinks (rootsEntries crates w) (rootsEntries crates w')

instance (crates : ServerCrates) : Std.Refl (KeepsRoots crates) := ⟨fun _ => .refl _⟩

instance (crates : ServerCrates) : IsTrans World (KeepsRoots crates) :=
  ⟨fun _ _ _ => Memo.Shrinks.trans⟩

theorem keepsRoots_of_storage {crates : ServerCrates} (h : w'.storage = w.storage) :
    KeepsRoots crates w w' := by
  intro digest
  right
  rw [rootsEntries, h]
  rfl

theorem keepsRoots_of_waits {α : Type} {crates : ServerCrates} {x : Action α}
    (h : Within World.Waits x) : Within (KeepsRoots crates) x :=
  h.mono fun _ _ hwaits => keepsRoots_of_storage hwaits.storage

theorem keepsRoots_cacheGet {crates : ServerCrates} (key : String) :
    Within (KeepsRoots crates) (cacheGet rt key) := by
  refine Within.bind (fun w => ?_) fun found => ?_
  · unfold getCache
    rw [run_bind_of_ok (run_systemTimeNow rt w), final_onStorage]
    exact fun digest => Storage.shrinks_getCache key (w.tick rt).clock w.storage _
  · cases found with
    | none => exact within_pure _
    | some bytes => exact (within_ofResult _).bind fun _ => within_pure _

/-- What a lookup of a cached signature returns. -/
theorem of_cacheGet {key : String} {found : Option CachedRootsSig}
    (h : (cacheGet rt key).run w = .ok found w') :
    ∃ value, (w.storage.getCache key (w.tick rt).clock).1 = .ok value ∧
      match value with
      | none => found = none
      | some bytes => ∃ sig, rt.crates.jsonText.cachedRootsSigFromSlice bytes = .ok sig ∧
          found = some sig := by
  obtain ⟨value, w₁, hget, h⟩ := run_bind_eq_ok.mp h
  unfold getCache at hget
  rw [run_bind_of_ok (run_systemTimeNow rt w), run_onStorage_eq_ok] at hget
  refine ⟨value, (Result.orAbort_eq_ok _ _).mp hget.1, ?_⟩
  cases value with
  | none =>
    cases h
    rfl
  | some bytes =>
    obtain ⟨sig, w₂, hread, h⟩ := run_bind_eq_ok.mp h
    obtain ⟨hsig, -⟩ := run_ofResult_eq_ok.mp hread
    cases h
    exact ⟨sig, (mapErr_eq_ok _ _ _).mp hsig, rfl⟩

/-- What the lookup of a signature returns is found by the instance when it is fresh. -/
theorem finds_of_cacheGet {digest : Digest 48} {found : Option CachedRootsSig}
    (h : (cacheGet rt (rootsCacheKey rt.crates digest)).run (w.tick rt) = .ok found w')
    (sig : CachedRootsSig) :
    found.filter (fun sig => unixSecs (w.tick rt).clock +
        asSecs (refreshMargin service.rootsSignatureTtl) < sig.expires.toNat) = some sig ↔
      service.Finds rt w digest sig := by
  obtain ⟨value, hvalue, hfound⟩ := of_cacheGet h
  rw [storage_tick] at hvalue
  unfold Finds
  rw [hvalue]
  cases value with
  | none =>
    subst hfound
    simp
  | some bytes =>
    obtain ⟨sig', hsig', rfl⟩ := hfound
    constructor
    · intro hsig
      obtain ⟨hsame, hfresh⟩ := Option.filter_eq_some_iff.mp hsig
      cases hsame
      exact ⟨bytes, rfl, hsig', of_decide_eq_true hfresh⟩
    · rintro ⟨bytes', hbytes, hread, hfresh⟩
      cases hbytes
      cases hsig'.symm.trans hread
      exact Option.filter_eq_some_iff.mpr ⟨rfl, decide_eq_true hfresh⟩

/-- A signature that is stored. -/
theorem of_cacheSet {key : String} {sig : CachedRootsSig} {expiresAt : SystemTime} {u : Unit}
    (h : (cacheSet rt key sig expiresAt).run w = .ok u w') :
    ∃ bytes, rt.crates.jsonText.cachedRootsSigToVec sig = .ok bytes ∧
      w'.storage.cacheEntry = Function.update w.storage.cacheEntry key (some bytes) := by
  obtain ⟨bytes, w₁, hwrite, hset⟩ := run_bind_eq_ok.mp h
  obtain ⟨hbytes, rfl⟩ := run_ofResult_eq_ok.mp hwrite
  obtain ⟨hok, rfl⟩ := run_onStorage_eq_ok.mp hset
  exact ⟨bytes, (mapErr_eq_ok _ _ _).mp hbytes,
    Storage.cacheEntry_setCache ((Result.orAbort_eq_ok _ _).mp hok)⟩

theorem storage_of_cacheSet_error {key : String} {sig : CachedRootsSig} {expiresAt : SystemTime}
    {abort : Abort} (h : (cacheSet rt key sig expiresAt).run w = .error abort w') :
    w'.storage = w.storage := by
  obtain hwrite | ⟨bytes, w₁, hwrite, hset⟩ := run_bind_eq_error.mp h
  · exact ((within_ofResult _ : Within World.Waits _).of_error hwrite).storage
  · obtain ⟨-, rfl⟩ := run_ofResult_eq_ok.mp hwrite
    unfold setCache at hset
    rw [run_onStorage] at hset
    cases hok : (w₁.storage.setCache key bytes expiresAt).1 with
    | ok u =>
      simp only [Prod.map, hok, Result.orAbort] at hset
      cases hset
    | error e =>
      simp only [Prod.map, hok, Result.orAbort] at hset
      cases hset
      exact Storage.setCache_of_ne_ok (by simp [hok])

/-- A signature that is made belongs to the instance that makes it. -/
theorem of_signRoots (hfaithful : CachesFaithfully rt.crates) (hsigns : service.ca.Signs rt.crates)
    {contentDigest : String} {now : SystemTime} {sig : CachedRootsSig}
    (h : (service.signRoots rt contentDigest now).run w = .ok sig w') :
    w'.storage = w.storage ∧ Belongs rt.crates service Protocol.rootsContentType contentDigest
      sig.signatureInput sig.signature sig.signatureKey := by
  unfold signRoots at h
  obtain ⟨raw, w₁, hkey, hpure⟩ := run_bind_eq_ok.mp h
  obtain ⟨hraw, rfl⟩ := of_withKey hkey
  have hsigned := (Result.orAbort_eq_ok _ _).mp hraw
  cases hpure
  have halg := service.ca.key.algorithm.semicolon_not_mem_rfc9421Alg
  have hverifies := hsigns _ _ _ hsigned
  exact ⟨rfl, rfl, _, raw, Protocol.parseRootsSigParams_signatureInputValue _ halg,
    Protocol.parseSignatureHeader_signatureHeaderValue _ hfaithful.base64 raw, hverifies⟩

theorem keepsRoots_signRoots {crates : ServerCrates} (contentDigest : String) (now : SystemTime) :
    Within (KeepsRoots crates) (service.signRoots rt contentDigest now) :=
  (keepsRoots_of_waits (waits_withKey rt _)).bind fun _ => within_pure _

/-- The part of a request for the roots that makes a signature and stores it. -/
def storeRoots (rt : Runtime) (service : Service) (digest : Digest 48) (now : SystemTime)
    (respond : CachedRootsSig → SignedRoots) : Action SignedRoots := do
  let fresh ← service.signRoots rt (Protocol.contentDigestHeader rt.crates.toCrates digest) now
  let expiresAt ← ofOutcome (now.plus service.rootsSignatureTtl)
  cacheSet rt (rootsCacheKey rt.crates digest) fresh expiresAt
  return respond fresh

theorem of_storeRoots (hfaithful : CachesFaithfully rt.crates) (hsigns : service.ca.Signs rt.crates)
    {digest : Digest 48} {now : SystemTime} {respond : CachedRootsSig → SignedRoots} {r : SignedRoots}
    (h : (service.storeRoots rt digest now respond).run w = .ok r w') :
    ∃ sig bytes, r = respond sig ∧ sig.MadeBy rt.crates service digest ∧
      rt.crates.jsonText.cachedRootsSigToVec sig = .ok bytes ∧
      rootsEntries rt.crates w' = Function.update (rootsEntries rt.crates w) digest (some bytes) := by
  unfold storeRoots at h
  obtain ⟨sig, w₁, hsign, hrest⟩ := run_bind_eq_ok.mp h
  obtain ⟨expiresAt, w₂, hexpires, hstore⟩ := run_bind_eq_ok.mp hrest
  obtain ⟨-, rfl⟩ := run_ofOutcome_eq_ok.mp hexpires
  obtain ⟨u, w₃, hset, hpure⟩ := run_bind_eq_ok.mp hstore
  obtain ⟨hstorage, hmade⟩ := of_signRoots hfaithful hsigns hsign
  obtain ⟨bytes, hbytes, hentry⟩ := of_cacheSet hset
  cases hpure
  refine ⟨sig, bytes, rfl, hmade, hbytes, funext fun digest' => ?_⟩
  rw [rootsEntries, hentry, hstorage]
  by_cases hdigest : digest' = digest
  · subst hdigest
    rw [Function.update_self, Function.update_self]
  · have hkey : rootsCacheKey rt.crates digest' ≠ rootsCacheKey rt.crates digest :=
      fun hsame => hdigest (rootsCacheKey_inj hfaithful hsame)
    rw [Function.update_of_ne hdigest, Function.update_of_ne hkey]
    rfl

theorem keepsRoots_of_storeRoots_error {digest : Digest 48} {now : SystemTime}
    {respond : CachedRootsSig → SignedRoots} {abort : Abort}
    (h : (service.storeRoots rt digest now respond).run w = .error abort w') :
    KeepsRoots rt.crates w w' := by
  unfold storeRoots at h
  obtain hsign | ⟨sig, w₁, hsign, hrest⟩ := run_bind_eq_error.mp h
  · exact (keepsRoots_signRoots _ _).of_error hsign
  · have hfirst : KeepsRoots rt.crates w w₁ := (keepsRoots_signRoots _ _).of_ok hsign
    obtain hexpires | ⟨expiresAt, w₂, hexpires, hstore⟩ := run_bind_eq_error.mp hrest
    · exact trans_of (KeepsRoots rt.crates) hfirst ((within_ofOutcome _).of_error hexpires)
    · obtain ⟨-, rfl⟩ := run_ofOutcome_eq_ok.mp hexpires
      obtain hset | ⟨u, w₃, -, hpure⟩ := run_bind_eq_error.mp hstore
      · exact trans_of (KeepsRoots rt.crates) hfirst
          (keepsRoots_of_storage (storage_of_cacheSet_error hset))
      · cases hpure

/-- The body, the digest and the headers of a response with a signature. -/
def respondWith (crates : ServerCrates) (body : Bytes) (digest : Digest 48) (sig : CachedRootsSig) :
    SignedRoots where
  body
  contentType := Protocol.rootsContentType
  contentDigest := Protocol.contentDigestHeader crates.toCrates digest
  signatureInput := sig.signatureInput
  signature := sig.signature
  signatureKey := sig.signatureKey

/-- A request for the roots looks for a signature, and makes one when it finds none or has to
refresh it. -/
theorem signedRoots_eq (rt : Runtime) (service : Service) : service.signedRoots rt = (do
    let body ← ofResult (mapErr (fun e => .internal ("serialize roots: " ++ e))
      (rt.crates.jsonText.rootsToVec service.ca.rootsPem))
    let digest := rt.crates.sha384 body
    let now ← systemTimeNow rt
    let found ← cacheGet rt (rootsCacheKey rt.crates digest)
    match found.filter fun sig =>
        unixSecs now + asSecs (refreshMargin service.rootsSignatureTtl) < sig.expires.toNat with
    | some sig => return respondWith rt.crates body digest sig
    | none => service.storeRoots rt digest now (respondWith rt.crates body digest)) := by
  unfold signedRoots storeRoots
  refine congrArg (ofResult _ >>= ·) (funext fun body => ?_)
  refine congrArg (systemTimeNow rt >>= ·) (funext fun now => ?_)
  refine congrArg (cacheGet rt _ >>= ·) (funext fun found => ?_)
  cases found with
  | none => rfl
  | some sig =>
    by_cases hfresh : unixSecs now + asSecs (refreshMargin service.rootsSignatureTtl) <
        sig.expires.toNat
    · rw [Option.filter_some, decide_eq_true hfresh]
      exact if_pos hfresh
    · rw [Option.filter_some, decide_eq_false hfresh]
      exact if_neg hfresh

/-- A successful request either returns the signature that it finds, and stores none, or makes and
stores one. -/
theorem of_signedRoots (hfaithful : CachesFaithfully rt.crates) (hsigns : service.ca.Signs rt.crates)
    {digest : Digest 48} (hdigest : service.RootsDigest rt.crates digest) {r : SignedRoots}
    (h : (service.signedRoots rt).run w = .ok r w') :
    ∃ body,
      (∃ sig, service.Finds rt w digest sig ∧ KeepsRoots rt.crates w w' ∧
        r = respondWith rt.crates body digest sig) ∨
      (¬∃ sig, service.Finds rt w digest sig) ∧ ∃ sig bytes mid,
        sig.MadeBy rt.crates service digest ∧
        rt.crates.jsonText.cachedRootsSigToVec sig = .ok bytes ∧ KeepsRoots rt.crates w mid ∧
        rootsEntries rt.crates w' = Function.update (rootsEntries rt.crates mid) digest (some bytes) ∧
        r = respondWith rt.crates body digest sig := by
  obtain ⟨body, hbody, rfl⟩ := hdigest
  rw [signedRoots_eq] at h
  obtain ⟨body', w₁, hserialized, hclock⟩ := run_bind_eq_ok.mp h
  obtain ⟨hroots, rfl⟩ := run_ofResult_eq_ok.mp hserialized
  obtain rfl : body = body' := Except.ok.inj (hbody.symm.trans ((mapErr_eq_ok _ _ _).mp hroots))
  refine ⟨body, ?_⟩
  dsimp only at hclock
  rw [run_bind_of_ok (run_systemTimeNow rt w₁)] at hclock
  obtain ⟨found, mid, hget, hrest⟩ := run_bind_eq_ok.mp hclock
  have hmid : KeepsRoots rt.crates w₁ mid := trans_of (KeepsRoots rt.crates)
    (keepsRoots_of_storage (storage_tick rt w₁)) ((keepsRoots_cacheGet _).of_ok hget)
  have hfinds := @finds_of_cacheGet rt service w₁ mid _ _ hget
  split at hrest
  · rename_i sig hsig
    cases hrest
    exact .inl ⟨sig, (hfinds sig).mp hsig, hmid, rfl⟩
  · rename_i hnone
    refine .inr ⟨fun ⟨sig, hsig⟩ => ?_, ?_⟩
    · cases hnone.symm.trans ((hfinds sig).mpr hsig)
    · obtain ⟨sig, bytes, rfl, hmade, hbytes, hentries⟩ := of_storeRoots hfaithful hsigns hrest
      exact ⟨sig, bytes, mid, hmade, hbytes, hmid, hentries, rfl⟩

/-- A request that fails stores no signature. -/
theorem keepsRoots_of_signedRoots_error {abort : Abort}
    (h : (service.signedRoots rt).run w = .error abort w') : KeepsRoots rt.crates w w' := by
  rw [signedRoots_eq] at h
  obtain hbody | ⟨body, w₁, hbody, hclock⟩ := run_bind_eq_error.mp h
  · exact (within_ofResult _).of_error hbody
  obtain ⟨-, rfl⟩ := run_ofResult_eq_ok.mp hbody
  dsimp only at hclock
  rw [run_bind_of_ok (run_systemTimeNow rt w₁)] at hclock
  have htick : KeepsRoots rt.crates w₁ (w₁.tick rt) :=
    keepsRoots_of_storage (storage_tick rt w₁)
  refine trans_of (KeepsRoots rt.crates) htick ?_
  obtain hget | ⟨found, mid, hget, hrest⟩ := run_bind_eq_error.mp hclock
  · exact (keepsRoots_cacheGet _).of_error hget
  · refine trans_of (KeepsRoots rt.crates) ((keepsRoots_cacheGet _).of_ok hget) ?_
    split at hrest
    · cases hrest
    · exact keepsRoots_of_storeRoots_error hrest

/-! ## Other requests -/

theorem keepsRoots_of_cacheEntry {crates : ServerCrates}
    (h : w'.storage.cacheEntry = w.storage.cacheEntry) : KeepsRoots crates w w' :=
  fun _ => .inr (congrFun h _)

theorem keepsRoots_claimOnce {crates : ServerCrates} (key msg : String) (expiresAt : SystemTime) :
    Within (KeepsRoots crates) (claimOnce rt key expiresAt msg) := by
  intro w
  obtain ⟨claim, -, -, hrun⟩ | ⟨-, abort, w', hrun, hwaits⟩ := claimOnce_cases rt key msg expiresAt w
  · rw [hrun]
    exact keepsRoots_of_cacheEntry (Storage.cacheEntry_commitClaim claim w.storage)
  · rw [hrun]
    exact keepsRoots_of_storage hwaits.storage

theorem keepsRoots_recordCertificate {crates : ServerCrates} (record : CertificateRecord) :
    Within (KeepsRoots crates) (recordCertificate rt record) := by
  intro w
  rw [recordCertificate, final_onStorage]
  exact keepsRoots_of_cacheEntry (Storage.cacheEntry_recordCertificate record w.storage)

theorem keepsRoots_revokeSerial {crates : ServerCrates} (record : RevocationRecord) :
    Within (KeepsRoots crates) (revokeSerial rt record) := by
  intro w
  rw [revokeSerial, final_onStorage]
  exact keepsRoots_of_cacheEntry (Storage.cacheEntry_revoke record w.storage)

/-- A request for the roots ends no claim early. -/
theorem evolves_signedRoots (rt : Runtime) (service : Service) :
    Within World.Evolves (service.signedRoots rt) := by
  rw [signedRoots_eq]
  refine (within_ofResult _).bind fun body => ?_
  refine (evolves_of_waits (waits_systemTimeNow rt)).bind fun now => ?_
  have hget : Within World.Evolves (cacheGet rt (rootsCacheKey rt.crates (rt.crates.sha384 body))) :=
    (evolves_getCache rt _).bind fun found => by
      cases found with
      | none => exact within_pure _
      | some bytes => exact (within_ofResult _).bind fun _ => within_pure _
  refine hget.bind fun found => ?_
  split
  · exact within_pure _
  · refine ((evolves_of_waits (waits_withKey rt _)).bind fun _ => within_pure _).bind fun sig => ?_
    refine (within_ofOutcome _).bind fun expiresAt => ?_
    exact ((within_ofResult _).bind fun _ => evolves_setCache rt _ _ _).bind fun _ => within_pure _

end Service

/-! ## Instances that share a storage -/

namespace Roots

variable {crates : ServerCrates}

/-- An instance of the service, with the certificate that it issues under. -/
structure Instance (crates : ServerCrates) where
  service : Service
  issuer : Certificate
  issuesUnder : service.ca.IssuesUnder crates issuer
  signs : service.ca.key.Signs crates

/-- The headers name the certificate and the signer chain of the instance, and carry a signature
under the key of the certificate over the base that is rebuilt from them. -/
structure BelongsTo (r : Service.SignedRoots) (i : Instance crates) : Prop where
  names : ∃ der, crates.der.certificateToDer i.issuer = .ok der ∧
    r.signatureKey = Protocol.signatureKeyX509 i.service.signerChainUrl
      (Protocol.x5tFromDigest crates.toCrates (crates.sha256 der))
  verifies : ∃ spki params raw,
    crates.der.spkiToDer i.issuer.tbsCertificate.subjectPublicKeyInfo = .ok spki ∧
    Protocol.parseRootsSigParams r.signatureInput = .ok params ∧
    Protocol.parseSignatureHeader crates.toCrates r.signature = .ok raw ∧
    Protocol.verifyRfc9421Signature crates.toCrates params.alg spki
      (utf8 (Protocol.rootsSignatureBase 200 r.contentType r.contentDigest r.signatureKey params))
      raw = .ok ()

theorem belongsTo_of_belongs {r : Service.SignedRoots} {i : Instance crates}
    (h : r.BelongsTo crates i.service) : BelongsTo r i := by
  obtain ⟨hspki, -, der, hder, hleaf⟩ := CertificateAuthority.of_issuesUnder i.issuesUnder
  obtain ⟨params, raw, hparams, hraw, hverify⟩ := h.verifies
  refine ⟨⟨der, hder, ?_⟩, ⟨_, params, raw, hspki, hparams, hraw, hverify⟩⟩
  rw [h.names, Service.signatureKey, hleaf]

structure Config (crates : ServerCrates) where
  world : World
  /-- The instance that made the last signature of roots with the digest. -/
  author : Digest 48 → Option (Instance crates)
  /-- The instances that served signed roots with what they served, the latest first. -/
  served : List (Instance crates × Service.SignedRoots)

def Config.start (crates : ServerCrates) (w : World) : Config crates := ⟨w, fun _ => none, []⟩

/-- The steps of a run in which an instance serves a signature that it finds when it is
`Admitted`. -/
inductive Step (Admitted : Config crates → Instance crates → Digest 48 → Prop) (c : Config crates) :
    Config crates → Prop where
  /-- Time passes, and anything happens to the storage but that signed roots are stored. -/
  | other {w : World} (hclock : c.world.clock ≤ w.clock)
      (h : Service.KeepsRoots crates c.world w) : Step Admitted c { c with world := w }
  /-- An instance finds a signature and serves it. -/
  | hit (rt : Runtime) (hrt : rt.crates = crates) (i : Instance crates) {r : Service.SignedRoots}
      {w : World} {digest : Digest 48} {sig : CachedRootsSig}
      (h : (i.service.signedRoots rt).run c.world = .ok r w)
      (hdigest : i.service.RootsDigest crates digest)
      (hfinds : i.service.Finds rt c.world digest sig) (hadmitted : Admitted c i digest) :
      Step Admitted c { c with world := w, served := (i, r) :: c.served }
  /-- An instance finds no signature, or one that it has to refresh. -/
  | miss (rt : Runtime) (hrt : rt.crates = crates) (i : Instance crates) {r : Service.SignedRoots}
      {w : World} {digest : Digest 48}
      (h : (i.service.signedRoots rt).run c.world = .ok r w)
      (hdigest : i.service.RootsDigest crates digest)
      (hfinds : ¬∃ sig, i.service.Finds rt c.world digest sig) :
      Step Admitted c {
        world := w
        author := Function.update c.author digest (some i)
        served := (i, r) :: c.served }
  | fail (rt : Runtime) (hrt : rt.crates = crates) (i : Instance crates) {abort : Abort} {w : World}
      (h : (i.service.signedRoots rt).run c.world = .error abort w) :
      Step Admitted c { c with world := w }

abbrev Run (Admitted : Config crates → Instance crates → Digest 48 → Prop) :
    Config crates → Config crates → Prop :=
  Runs.Run (Step Admitted)

section

variable {Admitted : Config crates → Instance crates → Digest 48 → Prop} {c : Config crates}

/-- A request that stores no signed roots is a step. -/
theorem step_of_keepsRoots {α : Type} {x : Action α} (hevolves : Within World.Evolves x)
    (hkeeps : Within (Service.KeepsRoots crates) x) :
    Step Admitted c { c with world := final (x.run c.world) } :=
  .other (hevolves c.world).clock (hkeeps c.world)

theorem step_sign (rt : Runtime) (service : Service) (req : SignRequest) (requestUrl : String)
    (requestId : Option String) : Step Admitted c {
      c with world := final ((service.sign rt req requestUrl requestId).run c.world) } :=
  step_of_keepsRoots (service.evolves_sign rt req requestUrl requestId)
    (service.within_sign (fun _ _ h => Service.keepsRoots_of_storage h.storage)
      Service.keepsRoots_claimOnce Service.keepsRoots_recordCertificate req requestUrl requestId)

theorem step_renew (rt : Runtime) (service : Service) (req : RenewRequest) (dpop : Option String)
    (requestUrl : String) (requestId : Option String) : Step Admitted c {
      c with world := final ((service.renew rt req dpop requestUrl requestId).run c.world) } :=
  step_of_keepsRoots (service.evolves_renew rt req dpop requestUrl requestId)
    (service.within_renew (fun _ _ h => Service.keepsRoots_of_storage h.storage)
      Service.keepsRoots_claimOnce Service.keepsRoots_recordCertificate req dpop requestUrl requestId)

theorem step_rekey (rt : Runtime) (service : Service) (req : RekeyRequest) (dpop : Option String)
    (requestUrl : String) (requestId : Option String) : Step Admitted c {
      c with world := final ((service.rekey rt req dpop requestUrl requestId).run c.world) } :=
  step_of_keepsRoots (service.evolves_rekey rt req dpop requestUrl requestId)
    (service.within_rekey (fun _ _ h => Service.keepsRoots_of_storage h.storage)
      Service.keepsRoots_claimOnce Service.keepsRoots_recordCertificate req dpop requestUrl requestId)

theorem step_revoke (rt : Runtime) (service : Service) (req : RevokeRequest) (dpop : Option String)
    (requestUrl : String) (requestId : Option String) : Step Admitted c {
      c with world := final ((service.revoke rt req dpop requestUrl requestId).run c.world) } :=
  step_of_keepsRoots (service.evolves_revoke rt req dpop requestUrl requestId)
    (service.within_revoke (fun _ _ h => Service.keepsRoots_of_storage h.storage)
      Service.keepsRoots_claimOnce Service.keepsRoots_revokeSerial req dpop requestUrl requestId)

end

/-- The signature was made by an instance that cannot be told apart. -/
def Own (c : Config crates) (i : Instance crates) (digest : Digest 48) : Prop :=
  ∀ author, c.author digest = some author → SameSigner author.service i.service

/-- The value is a signature made by the author of the roots. -/
def Authored (author : Digest 48 → Option (Instance crates)) (digest : Digest 48) (bytes : Bytes) :
    Prop :=
  ∃ i sig, author digest = some i ∧ crates.jsonText.cachedRootsSigFromSlice bytes = .ok sig ∧
    sig.MadeBy crates i.service digest

structure Inv (c : Config crates) : Prop where
  cached : Memo.Holds (Authored c.author) (Service.rootsEntries crates c.world)
  served : ∀ p ∈ c.served, p.2.BelongsTo crates p.1.service

variable {c c' : Config crates}

/-- A signature that is found was made by the author of the roots. -/
theorem Inv.madeBy (h : Inv c) {rt : Runtime} (hrt : rt.crates = crates) {service : Service}
    {digest : Digest 48} {sig : CachedRootsSig} (hfinds : service.Finds rt c.world digest sig) :
    ∃ author, c.author digest = some author ∧ sig.MadeBy crates author.service digest := by
  subst hrt
  obtain ⟨bytes, hget, hread, -⟩ := hfinds
  obtain ⟨author, made, hauthor, hmade, hmadeBy⟩ :=
    h.cached digest bytes (Storage.cacheEntry_of_getCache hget)
  obtain rfl : made = sig := Except.ok.inj (hmade.symm.trans hread)
  exact ⟨author, hauthor, hmadeBy⟩

theorem step_inv (hfaithful : CachesFaithfully crates) (hstep : Step Own c c') (h : Inv c) :
    Inv c' := by
  cases hstep with
  | other _ hkeeps => exact ⟨h.cached.shrinks hkeeps, h.served⟩
  | fail rt hrt i hfail =>
    subst hrt
    exact ⟨h.cached.shrinks (Service.keepsRoots_of_signedRoots_error hfail), h.served⟩
  | hit rt hrt i hok hdigest hfinds hown =>
    subst hrt
    have hsigns := CertificateAuthority.signs_of_issuesUnder i.issuesUnder i.signs
    obtain ⟨_, ⟨sig, hsig, hkeeps, rfl⟩ | ⟨hnone, -⟩⟩ :=
      Service.of_signedRoots hfaithful hsigns hdigest hok
    · obtain ⟨author, hauthor, hmade⟩ := h.madeBy rfl hsig
      have hbelongs := hmade.of_sameSigner (hown author hauthor)
      exact ⟨h.cached.shrinks hkeeps, List.forall_mem_cons.mpr ⟨hbelongs, h.served⟩⟩
    · exact absurd ⟨_, hfinds⟩ hnone
  | miss rt hrt i hok hdigest hfinds =>
    subst hrt
    have hsigns := CertificateAuthority.signs_of_issuesUnder i.issuesUnder i.signs
    obtain ⟨_, ⟨sig, hsig, -⟩ | ⟨-, sig, bytes, mid, hmade, hbytes, hkeeps, hentries, rfl⟩⟩ :=
      Service.of_signedRoots hfaithful hsigns hdigest hok
    · exact absurd ⟨sig, hsig⟩ hfinds
    · refine ⟨?_, List.forall_mem_cons.mpr ⟨hmade, h.served⟩⟩
      dsimp only
      rw [hentries]
      refine (h.cached.shrinks hkeeps).put ?_ fun digest' hne bytes' hauthored => ?_
      · exact ⟨i, sig, Function.update_self .., hfaithful.json _ _ hbytes, hmade⟩
      · obtain ⟨author, made, hauthor, hread, hmadeBy⟩ := hauthored
        exact ⟨author, made, (Function.update_of_ne hne ..).trans hauthor, hread, hmadeBy⟩

end Roots

open Roots in
/-- As long as the signatures that instances find were made by instances that cannot be told
apart from them, everything that is served belongs to the instance that serves it. -/
theorem roots_belong_of_own {crates : ServerCrates} (hfaithful : CachesFaithfully crates) (w : World)
    (hempty : ∀ digest, Service.rootsEntries crates w digest = none) {c : Config crates}
    (hrun : Run Own (.start crates w) c) : ∀ p ∈ c.served, BelongsTo p.2 p.1 := by
  have hstart : Inv (.start crates w) := by
    refine ⟨fun digest bytes hbytes => ?_, fun p hp => absurd hp List.not_mem_nil⟩
    cases (hempty digest).symm.trans hbytes
  have hinv : Inv c := Runs.invariant hrun hstart fun _ _ => step_inv hfaithful
  exact fun p hp => belongsTo_of_belongs (hinv.served p hp)

/-! ## An issuing key that is rotated under the same root -/

namespace Roots

/-- The intermediate that takes over. -/
def rotated : Certificate := Testca.certificate "intermediate" "root" 4 1 true

/-- The CA that issues under `issuer` with the key `key`. -/
def authority (key : UInt8) (issuer : Certificate) : CertificateAuthority where
  key := {
    algorithm := .ecdsaSha256
    publicKeyDer := [key]
    sign := fun _ msg => .ok (Testca.sign [key] msg) }
  issuerName := issuer.tbsCertificate.subject
  caKeyId := (Testca.digest 20 [key]).val
  caSpkiDer := [key]
  chainPem := []
  rootsPem := [Testca.pem (Testca.certificateDer Testca.root)]
  signerLeafSha256 := Testca.digest 32 (Testca.certificateDer issuer)

def service (key : UInt8) (issuer : Certificate) : Service :=
  { Testca.service true [] with ca := authority key issuer }

def certificates : List Certificate := [Testca.root, Testca.intermediate, rotated]

/-- The digest of the roots. -/
def rootDigest : Digest 48 :=
  Testca.digest 48 (utf8 (Testca.pem (Testca.certificateDer Testca.root)))

/-- The signature that the key `2` makes at the second 1000. -/
def firstSig : CachedRootsSig :=
  let crates := Testca.serverCrates certificates [] []
  let params : Protocol.RootsSigParams := {
    created := 1000
    expires := 4600
    alg := "ecdsa-p256-sha256" }
  let signatureKey := (service 2 Testca.intermediate).signatureKey crates
  let base := Protocol.rootsSignatureBase 200 Protocol.rootsContentType
    (Protocol.contentDigestHeader crates.toCrates rootDigest) signatureKey params
  { created := 1000
    expires := 4600
    signatureKey
    signature := Protocol.signatureHeaderValue crates.toCrates (Testca.sign [2] (utf8 base))
    signatureInput := Protocol.signatureInputValue params }

/-- Crates that write and read that signature. -/
def rootsCrates : ServerCrates :=
  { Testca.serverCrates certificates [] [] with
    jsonText := {
      valueFromSlice := fun _ => .error "EOF while parsing a value"
      rootsToVec := fun roots => .ok (roots.flatMap utf8)
      cachedRootsSigToVec := fun sig => if sig = firstSig then .ok [1] else .error "unknown signature"
      cachedRootsSigFromSlice := fun b =>
        if b = [1] then .ok firstSig else .error "EOF while parsing a value" } }

theorem signs_authority (key : UInt8) (issuer : Certificate) :
    (authority key issuer).key.Signs rootsCrates := by
  intro n msg der raw hsign hencode
  cases hsign
  cases hencode
  have hverify : Testca.ecdsa.verify [key] msg (Testca.sign [key] msg) = .ok () := if_pos rfl
  change Protocol.orInvalid (Testca.ecdsa.verify [key] msg (Testca.sign [key] msg)) = .ok ()
  rw [hverify]
  rfl

theorem cachesFaithfully_rootsCrates : CachesFaithfully rootsCrates where
  base64 := Testca.base64_decode_encode
  hex b b' h := Except.ok.inj (by
    rw [← Testca.hex_decode_encode b, ← Testca.hex_decode_encode b']
    exact congrArg Testca.hex.decode h)
  json sig bytes h := by
    simp only [rootsCrates] at h ⊢
    split at h
    · cases h
      subst sig
      rfl
    · cases h

def first : Instance rootsCrates where
  service := service 2 Testca.intermediate
  issuer := Testca.intermediate
  issuesUnder := ⟨Testca.pem (Testca.certificateDer Testca.intermediate), rfl, rfl⟩
  signs := signs_authority 2 Testca.intermediate

def second : Instance rootsCrates where
  service := service 4 rotated
  issuer := rotated
  issuesUnder := ⟨Testca.pem (Testca.certificateDer rotated), rfl, rfl⟩
  signs := signs_authority 4 rotated

def respondFirst : Service.SignedRoots :=
  Service.respondWith rootsCrates (utf8 (Testca.pem (Testca.certificateDer Testca.root))) rootDigest
    firstSig

def before : Config rootsCrates :=
  .start rootsCrates (Testca.world Testca.sqlite (Testca.instant 1000))

/-- The first instance has served the roots. -/
def afterFirst : Config rootsCrates where
  world := final ((first.service.signedRoots (Testca.still rootsCrates)).run before.world)
  author := Function.update before.author rootDigest (some first)
  served := [(first, respondFirst)]

/-- Then the instance `i` has, with the signature that is there. -/
def afterHit (i : Instance rootsCrates) : Config rootsCrates where
  world := final ((i.service.signedRoots (Testca.still rootsCrates)).run afterFirst.world)
  author := afterFirst.author
  served := [(i, respondFirst), (first, respondFirst)]

theorem step_first {Admitted : Config rootsCrates → Instance rootsCrates → Digest 48 → Prop} :
    Step Admitted before afterFirst := by
  refine .miss (Testca.still rootsCrates) rfl first rfl ⟨_, rfl, rfl⟩ ?_
  rintro ⟨sig, bytes, hget, -⟩
  cases hget

theorem step_first_again : Step Own afterFirst (afterHit first) := by
  refine .hit (Testca.still rootsCrates) rfl first rfl ⟨_, rfl, rfl⟩
    ⟨[1], rfl, rfl, (by decide : 1000 + 300 < 4600)⟩ fun author hauthor => ?_
  cases hauthor
  exact .refl _

theorem step_second : Step (fun _ _ _ => True) afterFirst (afterHit second) :=
  .hit (Testca.still rootsCrates) rfl second rfl ⟨_, rfl, rfl⟩
    ⟨[1], rfl, rfl, (by decide : 1000 + 300 < 4600)⟩ trivial

end Roots

open Roots in
theorem roots_belong_of_own_first : BelongsTo respondFirst first :=
  roots_belong_of_own cachesFaithfully_rootsCrates (Testca.world Testca.sqlite (Testca.instant 1000))
    (fun _ => rfl) ((Relation.ReflTransGen.single step_first).tail step_first_again)
    (first, respondFirst) List.mem_cons_self

open Roots in
/-- The instance with the new key serves the signature of the old one, which names the old
certificate. -/
theorem roots_not_belong : Run (fun _ _ _ => True) before (afterHit second) ∧
    ¬∀ p ∈ (afterHit second).served, BelongsTo p.2 p.1 := by
  refine ⟨(Relation.ReflTransGen.single step_first).tail step_second, fun h => ?_⟩
  obtain ⟨⟨der, hder, hnames⟩, -⟩ := h _ List.mem_cons_self
  cases hder
  revert hnames
  decide

end Ayane
