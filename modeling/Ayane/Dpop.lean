import Ayane.ServerCrates
import Ayane.Lib.Text

/-!
# DPoP proofs

`ayane/src/dpop.rs`: a proof is a token signed by the key of the certificate it is
presented with, bound to the method and the URI of the request, and fresh.
-/

namespace Ayane.Dpop

open Effect

structure DpopClaims where
  htm : String
  htu : String
  iat : Int64
  jti : String
  nonce : Option String
  deriving DecidableEq

def DpopClaims.names : List String := ["htm", "htu", "iat", "jti", "nonce"]

def DpopClaims.ofJson (j : Json) : Except String DpopClaims := do
  let j := j.named names
  let htm ← j.required "htm" Json.decodeString
  let htu ← j.required "htu" Json.decodeString
  let iat ← j.required "iat" Json.decodeI64
  let jti ← j.required "jti" Json.decodeString
  let nonce ← j.optional "nonce" Json.decodeString
  .ok { htm, htu, iat, jti, nonce }

structure VerifiedProof where
  jti : String
  issuedAt : SystemTime
  deriving DecidableEq

/-- The key of a certificate and the algorithm for it. -/
def decodingKeyFromSpki (crates : ServerCrates) (spki : SubjectPublicKeyInfo) :
    Result (DecodingKey × JwtAlgorithm) := do
  let spkiDer ← mapErr derError (crates.der.spkiToDer spki)
  if spki.algorithm.oid = Oid.idEcPublicKey then
    let curve := spki.algorithm.parameters.map crates.serverDer.oidFromAny
    let alg ← match curve with
      | some (.ok oid) =>
        if oid = Oid.secp256r1 then .ok JwtAlgorithm.ES256
        else if oid = Oid.secp384r1 then .ok JwtAlgorithm.ES384
        else .error (.badRequest "unsupported EC curve in certificate for DPoP")
      | _ => .error (.badRequest "unsupported EC curve in certificate for DPoP")
    let key ← mapErr (fun e => .internal ("DPoP EC key: " ++ e))
      (crates.jwt.decodingKeyFromEcSpki spkiDer)
    .ok (key, alg)
  else if spki.algorithm.oid = Oid.rsaEncryption then
    let key ← mapErr (fun e => .internal ("DPoP RSA key: " ++ e))
      (crates.jwt.decodingKeyFromRsaSpki spkiDer)
    .ok (key, .RS256)
  else .error (.badRequest "unsupported certificate key type for DPoP")

/-- Only the signature is validated; the claims are checked below. -/
def proofValidation (algorithm : JwtAlgorithm) : Validation where
  algorithm
  requiredSpecClaims := []
  validateExp := false
  validateNbf := false
  validateAud := false

def skew : Duration := fromSecs 60

/-- The signature of a proof under the key of `cert`, and its claims. -/
def decodeProof (crates : ServerCrates) (proof : String) (cert : Certificate) (now : SystemTime) :
    Outcome DpopClaims := do
  let header ← (mapErr (fun e => .unauthorized ("invalid DPoP header: " ++ e))
    (crates.jwt.decodeHeader proof)).orAbort
  ensure (header.typ = some "dpop+jwt")
    (.error (.unauthorized "DPoP proof has wrong typ (expected dpop+jwt)"))
  let (key, algorithm) ←
    (decodingKeyFromSpki crates cert.tbsCertificate.subjectPublicKeyInfo).orAbort
  ensure (header.alg = algorithm)
    (.error (.unauthorized "DPoP proof algorithm does not match the certificate key"))
  crates.jwt.decode proof key (proofValidation algorithm) DpopClaims.ofJson
    (fun e => .unauthorized ("DPoP proof signature invalid: " ++ e)) now

/-- The proof is neither issued in the future nor stale. -/
def checkAge (iat : SystemTime) (maxAge : Duration) (now : SystemTime) : Outcome Unit := do
  let latest ← now.plus skew
  ensure (iat ≤ latest) (.error (.unauthorized "DPoP proof issued in the future"))
  ensure (∀ age ∈ now.durationSince iat, age ≤ maxAge)
    (.error (.unauthorized "DPoP proof is stale"))

def verify (crates : ServerCrates) (proof : String) (cert : Certificate)
    (expectedMethod expectedUri : String) (maxAge : Duration) (now : SystemTime) :
    Outcome VerifiedProof := do
  let claims ← decodeProof crates proof cert now
  ensure (Text.eqIgnoreAsciiCase claims.htm expectedMethod)
    (.error (.unauthorized ("DPoP htm " ++ Text.debug claims.htm ++ " does not match " ++
      Text.debug expectedMethod)))
  ensure (claims.htu = expectedUri)
    (.error (.unauthorized ("DPoP htu " ++ Text.debug claims.htu ++ " does not match " ++
      Text.debug expectedUri)))
  -- seconds of a signed 64-bit integer are in range of an instant, so this never overflows
  let iat := systemTimeFromEpoch claims.iat
  checkAge iat maxAge now
  .ok { jti := claims.jti, issuedAt := iat }

/-- What an accepted proof says. -/
def Says (crates : ServerCrates) (proof : String) (verified : VerifiedProof) : Prop :=
  ∃ payload claims, crates.jwt.payload proof = .ok payload ∧ DpopClaims.ofJson payload = .ok claims ∧
    verified = { jti := claims.jti, issuedAt := systemTimeFromEpoch claims.iat }

theorem says_of_verify {crates : ServerCrates} {proof : String} {cert : Certificate}
    {expectedMethod expectedUri : String} {maxAge : Duration} {now : SystemTime}
    {verified : VerifiedProof}
    (h : verify crates proof cert expectedMethod expectedUri maxAge now = .ok verified) :
    Says crates proof verified := by
  simp only [verify, decodeProof, except_bind_eq_ok, Except.ok.injEq] at h
  obtain ⟨claims, ⟨_, -, _, -, _, -, _, -, hdecode⟩, _, -, _, -, _, -, hverified⟩ := h
  obtain ⟨-, payload, hpayload, hclaims, -⟩ := Jwt.decode_eq_ok.mp hdecode
  exact ⟨payload, claims, hpayload, hclaims, hverified.symm⟩

/-- A proof says one thing, whatever it is verified against. -/
theorem Says.unique {crates : ServerCrates} {proof : String} {verified verified' : VerifiedProof}
    (h : Says crates proof verified) (h' : Says crates proof verified') : verified = verified' := by
  obtain ⟨payload, claims, hpayload, hclaims, rfl⟩ := h
  obtain ⟨payload', claims', hpayload', hclaims', rfl⟩ := h'
  cases hpayload.symm.trans hpayload'
  cases hclaims.symm.trans hclaims'
  rfl

end Ayane.Dpop
