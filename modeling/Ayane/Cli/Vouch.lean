import Ayane.Cli.CaPath

/-!
# Who can vouch for roots

When the client accepts a roots response: the response is signed by the first
certificate of the served chain (`ResponseSigned`) and that certificate has a
signer path to the pinned bundle. Nothing asks whether the signing certificate is
itself a certificate authority or pinned, so the holder of any certificate below a
pinned root can sign a response.
-/

namespace Ayane.Cli

open Protocol Effect

/-- The lifetime of the signature is bounded and `now` lies in it. -/
def Fresh (params : RootsSigParams) (now : UInt64) : Prop :=
  params.created < params.expires ∧ params.expires - params.created ≤ maxSignatureLifetime ∧
    now < params.expires ∧ params.created ≤ now + skew

theorem checkFreshness_eq_ok {params : RootsSigParams} {now : UInt64} {u : Unit} :
    checkFreshness params now = .ok u ↔ Fresh params now := by
  simp only [checkFreshness, except_bind_eq_ok, ensure_eq_ok, exists_and_left, Fresh]
  simp

/-- The response carries the digest of its body, is fresh, and is signed by `leaf`. -/
structure ResponseSigned (crates : Crates) (body : Bytes) (headers : ResponseHeaders)
    (now : UInt64) (leaf : Certificate) : Prop where
  digest : parseContentDigest crates headers.contentDigest = .ok (crates.sha384 body)
  thumbprint : ∃ x5u x5t leafDer,
    parseSignatureKeyX509 headers.signatureKey = .ok (x5u, x5t) ∧
    crates.der.certificateToDer leaf = .ok leafDer ∧
    x5tFromDigest crates (crates.sha256 leafDer) = x5t
  signature : ∃ params raw spki,
    parseRootsSigParams headers.signatureInput = .ok params ∧ Fresh params now ∧
    parseSignatureHeader crates headers.signature = .ok raw ∧
    crates.der.spkiToDer leaf.tbsCertificate.subjectPublicKeyInfo = .ok spki ∧
    Protocol.verifyRfc9421Signature crates params.alg spki
      (utf8 (rootsSignatureBase 200 rootsContentType headers.contentDigest headers.signatureKey
        params)) raw = .ok ()

theorem checkThumbprint_eq_ok {crates : Crates} {x5t : String} {leaf : Certificate} {u : Unit} :
    checkThumbprint crates x5t leaf = .ok u ↔
      ∃ leafDer, crates.der.certificateToDer leaf = .ok leafDer ∧
        x5tFromDigest crates (crates.sha256 leafDer) = x5t := by
  simp only [checkThumbprint, except_bind_eq_ok, ensure_eq_ok]

theorem verifyRfc9421Signature_eq_ok {crates : Crates} {alg : String} {spki msg raw : Bytes}
    {u : Unit} : verifyRfc9421Signature crates alg spki msg raw = .ok u ↔
      Protocol.verifyRfc9421Signature crates alg spki msg raw = .ok () := by
  unfold verifyRfc9421Signature
  cases Protocol.verifyRfc9421Signature crates alg spki msg raw <;> simp

theorem checkSignature_eq_ok {crates : Crates} {headers : ResponseHeaders}
    {params : RootsSigParams} {leaf : Certificate} {u : Unit} :
    checkSignature crates headers params leaf = .ok u ↔
      ∃ raw spki, parseSignatureHeader crates headers.signature = .ok raw ∧
        crates.der.spkiToDer leaf.tbsCertificate.subjectPublicKeyInfo = .ok spki ∧
        Protocol.verifyRfc9421Signature crates params.alg spki
          (utf8 (rootsSignatureBase 200 rootsContentType headers.contentDigest
            headers.signatureKey params)) raw = .ok () := by
  simp only [checkSignature, except_bind_eq_ok, parsed_eq_ok, verifyRfc9421Signature_eq_ok]
  constructor
  · rintro ⟨raw, hraw, spki, hspki, hverify⟩
    exact ⟨raw, spki, hraw, hspki, hverify⟩
  · rintro ⟨raw, spki, hraw, hspki, hverify⟩
    exact ⟨raw, hraw, spki, hspki, hverify⟩

/-- When a roots response is accepted. -/
theorem verifyRootsResponse_eq_ok {crates : Crates} {body : Bytes} {headers : ResponseHeaders}
    {signerChainPem knownRootsPem : Bytes} {now : UInt64} :
    verifyRootsResponse crates body headers signerChainPem knownRootsPem now = .ok () ↔
      ∃ leaf rest known, parseCertificates crates signerChainPem = .ok (leaf :: rest) ∧
        parseCertificates crates knownRootsPem = .ok known ∧ known ≠ [] ∧
        ResponseSigned crates body headers now leaf ∧
        anchorSigner crates (leaf :: rest) known now = .ok () := by
  unfold verifyRootsResponse
  simp only [except_bind_eq_ok, parsed_eq_ok, ensure_eq_ok, checkFreshness_eq_ok]
  constructor
  · rintro ⟨digest, hdigest, -, rfl, params, hparams, -, hfresh, ⟨x5u, x5t⟩, hkey, chain, hchain, h⟩
    cases chain with
    | nil => cases h
    | cons leaf rest =>
      simp only [except_bind_eq_ok, checkThumbprint_eq_ok, checkSignature_eq_ok,
        ensure_eq_ok] at h
      obtain ⟨-, ⟨der, hder, hx5t⟩, -, ⟨raw, spki, hraw, hspki, hverify⟩, known, hknown, -, hne,
        hanchor⟩ := h
      exact ⟨leaf, rest, known, hchain, hknown, hne,
        ⟨hdigest, ⟨x5u, x5t, der, hkey, hder, hx5t⟩,
          ⟨params, raw, spki, hparams, hfresh, hraw, hspki, hverify⟩⟩, hanchor⟩
  · rintro ⟨leaf, rest, known, hchain, hknown, hne,
      ⟨hdigest, ⟨x5u, x5t, der, hkey, hder, hx5t⟩,
        ⟨params, raw, spki, hparams, hfresh, hraw, hspki, hverify⟩⟩, hanchor⟩
    refine ⟨_, hdigest, (), rfl, params, hparams, (), hfresh, (x5u, x5t), hkey, _, hchain, ?_⟩
    simp only [except_bind_eq_ok, checkThumbprint_eq_ok, checkSignature_eq_ok, ensure_eq_ok]
    exact ⟨(), ⟨der, hder, hx5t⟩, (), ⟨raw, spki, hraw, hspki, hverify⟩, known, hknown, (), hne,
      hanchor⟩

/-- `leaf` asserts cA=TRUE, or its encoding is the encoding of a pinned certificate. -/
def MayVouch (crates : Crates) (known : List Certificate) (leaf : Certificate) : Prop :=
  isCa crates leaf = true ∨
    ∃ a ∈ known, ∃ der, crates.der.certificateToDer a = .ok der ∧
      crates.der.certificateToDer leaf = .ok der

/-- Acceptance means that the signing certificate is a CA or pinned exactly when it is
one, or the response is not signed by it, or it has no signer path. -/
theorem verifyRootsResponse_vouched_iff (crates : Crates) (body : Bytes)
    (headers : ResponseHeaders) (signerChainPem knownRootsPem : Bytes) (now : UInt64) :
    (verifyRootsResponse crates body headers signerChainPem knownRootsPem now = .ok () →
      ∃ leaf rest known, parseCertificates crates signerChainPem = .ok (leaf :: rest) ∧
        parseCertificates crates knownRootsPem = .ok known ∧ MayVouch crates known leaf) ↔
    ∀ leaf rest known, parseCertificates crates signerChainPem = .ok (leaf :: rest) →
      parseCertificates crates knownRootsPem = .ok known →
      MayVouch crates known leaf ∨ ¬ResponseSigned crates body headers now leaf ∨
        ¬∃ bag anchors, (leaf :: rest).mapM (Node.new crates) = .ok bag ∧
          known.mapM (Node.new crates) = .ok anchors ∧
          ∃ k ≤ maxPathDepth, ∃ c t, SignerPath crates bag anchors now k c t := by
  constructor
  · intro h leaf rest known hchain hknown
    by_cases hsigned : ResponseSigned crates body headers now leaf
    · by_cases hpath : ∃ bag anchors, (leaf :: rest).mapM (Node.new crates) = .ok bag ∧
          known.mapM (Node.new crates) = .ok anchors ∧
          ∃ k ≤ maxPathDepth, ∃ c t, SignerPath crates bag anchors now k c t
      · obtain ⟨bag, anchors, hbag, hanchors, hpath⟩ := hpath
        have hanchor := (anchorSigner_eq_ok hbag hanchors).mpr hpath
        have hne : known ≠ [] := by
          rintro rfl
          obtain ⟨k, -, c, t, p⟩ := hpath
          have hnone : anchors = [] := by
            simpa [pure, Except.pure] using hanchors.symm
          subst hnone
          simpa [Node.anchored] using p.anchored
        obtain ⟨leaf', rest', known', hchain', hknown', hvouch⟩ :=
          h (verifyRootsResponse_eq_ok.mpr
            ⟨leaf, rest, known, hchain, hknown, hne, hsigned, hanchor⟩)
        rw [hchain] at hchain'
        rw [hknown] at hknown'
        cases hchain'
        cases hknown'
        exact .inl hvouch
      · exact .inr (.inr hpath)
    · exact .inr (.inl hsigned)
  · intro h hok
    obtain ⟨leaf, rest, known, hchain, hknown, -, hsigned, hanchor⟩ :=
      verifyRootsResponse_eq_ok.mp hok
    refine ⟨leaf, rest, known, hchain, hknown, ?_⟩
    rcases h leaf rest known hchain hknown with hvouch | hno | hno
    · exact hvouch
    · exact absurd hsigned hno
    · obtain ⟨bag, anchors, hbag, hanchors⟩ := exists_nodes_of_anchorSigner hanchor
      exact absurd ⟨bag, anchors, hbag, hanchors, (anchorSigner_eq_ok hbag hanchors).mp hanchor⟩ hno

/-! ## A subscriber signs the roots -/

/-- The crates of the PKI with a root, an issuing CA and a subscriber of it. -/
def subscriberCrates : Crates :=
  Testca.crates [Testca.root, Testca.intermediate, Testca.subscriber]

/-- The response a subscriber makes for `body`, created at 5000. -/
def subscriberResponse (body : Bytes) : ResponseHeaders :=
  let contentDigest := contentDigestHeader subscriberCrates (subscriberCrates.sha384 body)
  let x5t := x5tFromDigest subscriberCrates
    (subscriberCrates.sha256 (Testca.certificateDer Testca.subscriber))
  let signatureKey := signatureKeyX509 signerChainPath x5t
  let params : RootsSigParams := { created := 5000, expires := 5600, alg := "ecdsa-p256-sha256" }
  let base := rootsSignatureBase 200 rootsContentType contentDigest signatureKey params
  { contentDigest
    signatureInput := signatureInputValue params
    signature := signatureHeaderValue subscriberCrates (Testca.sign [3] (utf8 base))
    signatureKey }

/-- Whatever the body, the response is signed by the subscriber's certificate. -/
theorem subscriberResponse_signed (body : Bytes) :
    ResponseSigned subscriberCrates body (subscriberResponse body) 5100 Testca.subscriber where
  digest := parseContentDigest_contentDigestHeader _ Testca.base64_decode_encode _
  thumbprint := by
    have hkey := @parseSignatureKeyX509_signatureKeyX509 signerChainPath
      (x5tFromDigest subscriberCrates
        (subscriberCrates.sha256 (Testca.certificateDer Testca.subscriber)))
      (by decide) (Testca.quote_not_mem_hex _) (by decide)
    exact ⟨_, _, _, hkey, rfl, rfl⟩
  signature := by
    refine ⟨_, _, _, parseRootsSigParams_signatureInputValue _ (by decide), ?_,
      parseSignatureHeader_signatureHeaderValue _ Testca.base64_decode_encode _, rfl, ?_⟩
    · unfold Fresh
      decide
    · exact if_pos rfl

/-- The chain a subscriber serves: its own certificate and its issuer. -/
def subscriberChain : Bytes :=
  utf8 (Testca.pem (Testca.certificateDer Testca.subscriber) ++
    Testca.pem (Testca.certificateDer Testca.intermediate))

/-- The bundle of a client that pins the root. -/
def pinnedRoot : Bytes := utf8 (Testca.pem (Testca.certificateDer Testca.root))

theorem parse_subscriberChain : parseCertificates subscriberCrates subscriberChain =
    .ok [Testca.subscriber, Testca.intermediate] := by
  decide +kernel

theorem parse_pinnedRoot : parseCertificates subscriberCrates pinnedRoot = .ok [Testca.root] := by
  decide +kernel

/-- Whatever the subscriber signs is accepted. -/
theorem accepted_of_signed {body : Bytes} {headers : ResponseHeaders}
    (h : ResponseSigned subscriberCrates body headers 5100 Testca.subscriber) :
    verifyRootsResponse subscriberCrates body headers subscriberChain pinnedRoot 5100 = .ok () := by
  have hanchor : anchorSigner subscriberCrates [Testca.subscriber, Testca.intermediate]
      [Testca.root] 5100 = .ok () := by decide
  exact verifyRootsResponse_eq_ok.mpr ⟨_, _, _, parse_subscriberChain, parse_pinnedRoot,
    List.cons_ne_nil _ _, h, hanchor⟩

/-- A response of the subscriber's choice is accepted, and the subscriber is neither a
CA nor pinned. -/
theorem subscriberResponse_accepted :
    verifyRootsResponse subscriberCrates (utf8 "roots") (subscriberResponse (utf8 "roots"))
      subscriberChain pinnedRoot 5100 = .ok () ∧
    ¬∃ leaf rest known, parseCertificates subscriberCrates subscriberChain = .ok (leaf :: rest) ∧
      parseCertificates subscriberCrates pinnedRoot = .ok known ∧
      MayVouch subscriberCrates known leaf := by
  constructor
  · exact accepted_of_signed (subscriberResponse_signed _)
  · rintro ⟨leaf, rest, known, hleaf, hpinned, hvouch⟩
    rw [parse_subscriberChain] at hleaf
    rw [parse_pinnedRoot] at hpinned
    cases hleaf
    cases hpinned
    rcases hvouch with hca | ⟨a, ha, der, hder, hleaf⟩
    · exact absurd hca (by decide)
    · rw [List.mem_singleton] at ha
      subst ha
      rw [← hleaf] at hder
      exact absurd hder (by decide)

end Ayane.Cli
