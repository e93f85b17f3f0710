import Ayane.Cli.Vouch
import Ayane.Protocol.SignatureBase

/-!
# What an accepted response is bound to

The client rebuilds the signature base from header values as they came and from the
parameters it parsed, and the parser is lenient about how these are written. Still the
base determines everything the client goes on to trust: two accepted responses with one
base have the same body, were signed by the same certificate, and have the same
parameters, however their headers are spelled.
-/

namespace Ayane.Cli

open Protocol Effect

/-- A roots response and the chain that is served for it. -/
structure RootsResponse where
  body : Bytes
  headers : ResponseHeaders
  signerChainPem : Bytes

namespace RootsResponse

variable (crates : Crates)

/-- Some client accepts the response at some time. -/
def Accepted (r : RootsResponse) : Prop :=
  ∃ knownRootsPem now,
    verifyRootsResponse crates r.body r.headers r.signerChainPem knownRootsPem now = .ok ()

/-- The base that the client rebuilds. -/
def signatureBase (r : RootsResponse) : Except HttpSigError String := do
  let params ← parseRootsSigParams r.headers.signatureInput
  .ok (rootsSignatureBase 200 rootsContentType r.headers.contentDigest r.headers.signatureKey params)

/-- The certificate the response must be signed by, the first of the chain. -/
def IsSigner (r : RootsResponse) (cert : Certificate) : Prop :=
  ∃ rest, parseCertificates crates r.signerChainPem = .ok (cert :: rest)

/-- The header values that go into the base are lines. -/
structure OneLineHeaders (r : RootsResponse) : Prop where
  contentDigest : OneLine r.headers.contentDigest
  signatureKey : OneLine r.headers.signatureKey

/-- The digests of the two bodies, and those of the signers' certificates, tell them apart. -/
structure NoCollision (r r' : RootsResponse) : Prop where
  body : crates.sha384 r.body = crates.sha384 r'.body → r.body = r'.body
  signer : ∀ cert cert' der der', r.IsSigner crates cert → r'.IsSigner crates cert' →
    crates.der.certificateToDer cert = .ok der → crates.der.certificateToDer cert' = .ok der' →
      crates.sha256 der = crates.sha256 der' → der = der'

/-- Everything a client trusts in two responses is the same. -/
structure SameContent (r r' : RootsResponse) : Prop where
  body : r.body = r'.body
  signatureKey : ∃ x5u x5t, parseSignatureKeyX509 r.headers.signatureKey = .ok (x5u, x5t) ∧
    parseSignatureKeyX509 r'.headers.signatureKey = .ok (x5u, x5t)
  signer : ∃ cert, r.IsSigner crates cert ∧ r'.IsSigner crates cert
  params : ∃ params, parseRootsSigParams r.headers.signatureInput = .ok params ∧
    parseRootsSigParams r'.headers.signatureInput = .ok params

end RootsResponse

/-- A certificate that was read is what its own encoding is read as. -/
def RereadsCertificates (crates : Crates) : Prop :=
  ∀ {b cert der}, crates.der.certificateFromDer b = .ok cert →
    crates.der.certificateToDer cert = .ok der → crates.der.certificateFromDer der = .ok cert

section

variable {crates : Crates}

theorem fromDer_of_parseCertificates {pemBytes : Bytes} {certs : List Certificate}
    (h : parseCertificates crates pemBytes = .ok certs) {cert : Certificate} (hmem : cert ∈ certs) :
    ∃ b, crates.der.certificateFromDer b = .ok cert := by
  obtain ⟨blocks, -, hcerts⟩ := except_bind_eq_ok.mp h
  obtain ⟨block, -, hblock⟩ := (mem_of_mapM hcerts).mp hmem
  exact ⟨block.contents, hblock⟩

/-- Certificates with the same thumbprint are the same, unless their digests collide. -/
theorem signer_unique (hreads : RereadsCertificates crates)
    (hbase64 : ∀ b, crates.base64Url.decode (crates.base64Url.encode b) = .ok b)
    {r r' : RootsResponse} (hclean : r.NoCollision crates r') {cert cert' : Certificate} {der der' : Bytes}
    (hcert : r.IsSigner crates cert) (hcert' : r'.IsSigner crates cert')
    (hder : crates.der.certificateToDer cert = .ok der)
    (hder' : crates.der.certificateToDer cert' = .ok der')
    (hx5t : x5tFromDigest crates (crates.sha256 der) = x5tFromDigest crates (crates.sha256 der')) :
    cert = cert' := by
  have hdecoded := congrArg crates.base64Url.decode hx5t
  unfold x5tFromDigest at hdecoded
  rw [hbase64, hbase64] at hdecoded
  have hdigest : crates.sha256 der = crates.sha256 der' := Subtype.ext (Except.ok.inj hdecoded)
  obtain rfl := hclean.signer cert cert' der der' hcert hcert' hder hder' hdigest
  obtain ⟨rest, hchain⟩ := hcert
  obtain ⟨rest', hchain'⟩ := hcert'
  obtain ⟨b, hb⟩ := fromDer_of_parseCertificates hchain List.mem_cons_self
  obtain ⟨b', hb'⟩ := fromDer_of_parseCertificates hchain' List.mem_cons_self
  exact Except.ok.inj ((hreads hb hder).symm.trans (hreads hb' hder'))

/-- Accepted responses with one base have the same content. -/
theorem sameContent_of_signatureBase (hreads : RereadsCertificates crates)
    (hbase64 : ∀ b, crates.base64Url.decode (crates.base64Url.encode b) = .ok b)
    {r r' : RootsResponse} (hr : r.Accepted crates) (hr' : r'.Accepted crates)
    (hline : r.OneLineHeaders) (hline' : r'.OneLineHeaders) (hclean : r.NoCollision crates r')
    (hbase : r.signatureBase = r'.signatureBase) : r.SameContent crates r' := by
  obtain ⟨known, now, hok⟩ := hr
  obtain ⟨known', now', hok'⟩ := hr'
  obtain ⟨leaf, rest, -, hchain, -, -, hsigned, -⟩ := verifyRootsResponse_eq_ok.mp hok
  obtain ⟨leaf', rest', -, hchain', -, -, hsigned', -⟩ := verifyRootsResponse_eq_ok.mp hok'
  obtain ⟨x5u, x5t, der, hkey, hder, hx5t⟩ := hsigned.thumbprint
  obtain ⟨x5u', x5t', der', hkey', hder', hx5t'⟩ := hsigned'.thumbprint
  obtain ⟨params, -, -, hparams, -⟩ := hsigned.signature
  obtain ⟨params', -, -, hparams', -⟩ := hsigned'.signature
  have hbases : rootsSignatureBase 200 rootsContentType r.headers.contentDigest
      r.headers.signatureKey params = rootsSignatureBase 200 rootsContentType
        r'.headers.contentDigest r'.headers.signatureKey params' := by
    simpa [RootsResponse.signatureBase, hparams, hparams', bind, Except.bind] using hbase
  obtain ⟨hdigests, hkeys, rfl⟩ := rootsSignatureBase_inj hline.contentDigest hline'.contentDigest
    hline.signatureKey hline'.signatureKey hbases
  have hboth : (x5u, x5t) = (x5u', x5t') := by
    rw [hkeys, hkey'] at hkey
    exact (Except.ok.inj hkey).symm
  obtain ⟨rfl, rfl⟩ := Prod.mk.inj hboth
  obtain rfl : leaf = leaf' := signer_unique hreads hbase64 hclean ⟨rest, hchain⟩ ⟨rest', hchain'⟩
    hder hder' (hx5t.trans hx5t'.symm)
  constructor
  · refine hclean.body ?_
    have hdigest := hsigned.digest
    rw [hdigests, hsigned'.digest] at hdigest
    exact (Except.ok.inj hdigest).symm
  · exact ⟨x5u, x5t, hkey, hkey'⟩
  · exact ⟨leaf, ⟨rest, hchain⟩, ⟨rest', hchain'⟩⟩
  · exact ⟨params, hparams, hparams'⟩

end

/-- The base can be read off, and accepted responses with one base have the same content. -/
theorem signatureBase_binds (crates : Crates) (hreads : RereadsCertificates crates)
    (hbase64 : ∀ b, crates.base64Url.decode (crates.base64Url.encode b) = .ok b) :
    (∀ contentDigest contentDigest' signatureKey signatureKey' : String,
      OneLine contentDigest → OneLine contentDigest' → OneLine signatureKey → OneLine signatureKey' →
      ∀ p p', rootsSignatureBase 200 rootsContentType contentDigest signatureKey p =
          rootsSignatureBase 200 rootsContentType contentDigest' signatureKey' p' →
        contentDigest = contentDigest' ∧ signatureKey = signatureKey' ∧ p = p') ∧
    ∀ r r' : RootsResponse, r.Accepted crates → r'.Accepted crates → r.OneLineHeaders →
      r'.OneLineHeaders → r.NoCollision crates r' → r.signatureBase = r'.signatureBase →
        r.SameContent crates r' := by
  constructor
  · intro contentDigest contentDigest' signatureKey signatureKey' hd hd' hk hk' p p' h
    exact rootsSignatureBase_inj hd hd' hk hk' h
  · intro r r' hr hr' hline hline' hclean hbase
    exact sameContent_of_signatureBase hreads hbase64 hr hr' hline hline' hclean hbase

/-! ## The same parameters, spelled differently -/

/-- The parameters of the subscriber's response in another order, with one repeated and one that
nobody knows. -/
def respelledParams : String :=
  ";;alg=\"ecdsa-p256-sha256\";created=1;tag=x;expires=5600;created=+5000"

def respelledInput : String := rootsSignatureLabel ++ "=" ++ (coveredComponents ++ respelledParams)

def subscribed : RootsResponse where
  body := utf8 "roots"
  headers := subscriberResponse (utf8 "roots")
  signerChainPem := subscriberChain

def respelled : RootsResponse :=
  { subscribed with headers := { subscribed.headers with signatureInput := respelledInput } }

theorem parse_respelledInput :
    parseRootsSigParams respelledInput = .ok ⟨5000, 5600, "ecdsa-p256-sha256"⟩ := by
  have hlast : respelledParams.toList =
      ";;alg=\"ecdsa-p256-sha256\";created=1;tag=x;expires=5600;created=+500".toList ++ ['0'] := by
    decide
  have hread : ((Text.split ';' respelledParams).filter (fun s => !s.isEmpty)).foldlM readParam {} =
      .ok ⟨some 5000, some 5600, some "ecdsa-p256-sha256"⟩ := by
    decide +kernel
  exact parseRootsSigParams_append hlast (by decide) hread rfl

theorem respelled_signed :
    ResponseSigned subscriberCrates respelled.body respelled.headers 5100 Testca.subscriber where
  digest := (subscriberResponse_signed (utf8 "roots")).digest
  thumbprint := (subscriberResponse_signed (utf8 "roots")).thumbprint
  signature := by
    obtain ⟨params, raw, spki, hparams, hfresh, hraw, hspki, hverify⟩ :=
      (subscriberResponse_signed (utf8 "roots")).signature
    have hsame : params = ⟨5000, 5600, "ecdsa-p256-sha256"⟩ := by
      have hround := parseRootsSigParams_signatureInputValue ⟨5000, 5600, "ecdsa-p256-sha256"⟩
        (by decide)
      exact Except.ok.inj (hparams.symm.trans hround)
    subst hsame
    exact ⟨_, raw, spki, parse_respelledInput, hfresh, hraw, hspki, hverify⟩

/-- A table reads the encoding of a certificate it holds as the first certificate with it. -/
theorem rereads_crates (certs : List Certificate) : RereadsCertificates (Testca.crates certs) := by
  intro b cert der hb hder
  obtain rfl : Testca.certificateDer cert = der := Except.ok.inj hder
  dsimp only [Testca.crates, Testca.der] at hb ⊢
  cases hfind : certs.find? fun c => Testca.certificateDer c = b with
  | none =>
    rw [hfind] at hb
    cases hb
  | some c =>
    rw [hfind] at hb
    obtain rfl : c = cert := Except.ok.inj hb
    have hc : Testca.certificateDer c = b := by simpa using List.find?_some hfind
    rw [hc, hfind]

theorem noCollision_respelled : subscribed.NoCollision subscriberCrates respelled where
  body _ := rfl
  signer := by
    rintro cert cert' der der' ⟨rest, hchain⟩ ⟨rest', hchain'⟩ hder hder' -
    have hsame : cert = cert' := (List.cons.inj (Except.ok.inj (hchain.symm.trans hchain'))).1
    subst hsame
    exact Except.ok.inj (hder.symm.trans hder')

theorem signatureBase_binds_respelled :
    subscribed.headers.signatureInput ≠ respelled.headers.signatureInput ∧
      subscribed.SameContent subscriberCrates respelled := by
  obtain ⟨-, hbinds⟩ := signatureBase_binds subscriberCrates (rereads_crates _)
    Testca.hex_decode_encode
  have hlines : subscribed.OneLineHeaders := ⟨by decide +kernel, by decide +kernel⟩
  have hbase : subscribed.signatureBase = respelled.signatureBase := by
    have hround : parseRootsSigParams subscribed.headers.signatureInput =
        .ok ⟨5000, 5600, "ecdsa-p256-sha256"⟩ :=
      parseRootsSigParams_signatureInputValue ⟨5000, 5600, "ecdsa-p256-sha256"⟩ (by decide)
    rw [RootsResponse.signatureBase, RootsResponse.signatureBase, hround]
    exact congrArg (· >>= _) parse_respelledInput.symm
  refine ⟨by decide +kernel, hbinds subscribed respelled ?_ ?_ hlines ⟨hlines.1, hlines.2⟩
    noCollision_respelled hbase⟩
  · exact ⟨pinnedRoot, 5100, accepted_of_signed (subscriberResponse_signed _)⟩
  · exact ⟨pinnedRoot, 5100, accepted_of_signed respelled_signed⟩

end Ayane.Cli
