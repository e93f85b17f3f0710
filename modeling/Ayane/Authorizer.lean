import Ayane.World

/-!
# Token authorization

`ayane/src/authorizer`: a token is routed to the first provisioner whose issuer it names,
verified under that provisioner's key, and returned with its claims and the id that
makes it one-time. A `jwks` provisioner resolves its key from a key set that is fetched
and cached; here the key it resolves is the answer of an interaction.
-/

namespace Ayane

open Ayane.Action Effect

/-! ## Claims -/

/-- RFC 7800-style confirmation, with the `x5t#S256` member. -/
structure Confirmation where
  x5tS256 : Option String
  deriving DecidableEq

/-- A once-per-scope constraint carried by a token. -/
structure OnceScope where
  scope : String
  /-- Epoch seconds; absent for the `notAfter` of the issued certificate. -/
  exp : Option Int64
  deriving DecidableEq

structure OttClaims where
  iss : String
  aud : String
  sub : String
  sans : List String
  iat : Int64
  nbf : Int64
  exp : Int64
  jti : Option String
  renew : Bool
  cnf : Option Confirmation
  once : Option OnceScope
  deriving DecidableEq

def Confirmation.ofJson (j : Json) : Except String Confirmation := do
  let j := j.named ["x5t#S256"]
  let x5tS256 ← j.optional "x5t#S256" Json.decodeString
  .ok { x5tS256 }

def OnceScope.ofJson (j : Json) : Except String OnceScope := do
  let j := j.named ["scope", "exp"]
  let scope ← j.required "scope" Json.decodeString
  let exp ← j.optional "exp" Json.decodeI64
  .ok { scope, exp }

def OttClaims.names : List String :=
  ["iss", "aud", "sub", "sans", "iat", "nbf", "exp", "jti", "renew", "cnf", "once"]

/-- The derived decoding of the claims. -/
def OttClaims.ofJson (j : Json) : Except String OttClaims := do
  let j := j.named names
  let iss ← j.required "iss" Json.decodeString
  let aud ← j.required "aud" Json.decodeString
  let sub ← j.required "sub" Json.decodeString
  let sans ← j.defaulted "sans" [] (Json.decodeList Json.decodeString)
  let iat ← j.required "iat" Json.decodeI64
  let nbf ← j.required "nbf" Json.decodeI64
  let exp ← j.required "exp" Json.decodeI64
  let jti ← j.optional "jti" Json.decodeString
  let renew ← j.defaulted "renew" true Json.decodeBool
  let cnf ← j.optional "cnf" Confirmation.ofJson
  let once ← j.optional "once" OnceScope.ofJson
  .ok { iss, aud, sub, sans, iat, nbf, exp, jti, renew, cnf, once }

/-! ## Keys -/

/-- A verification key and the one algorithm permitted for it. -/
structure SigningKey where
  decodingKey : DecodingKey
  algorithm : JwtAlgorithm

/-- The algorithm permitted for a key. An RSA key may say which of the RSA ones. -/
def algorithmFromJwk (jwk : Jwk) : Option JwtAlgorithm :=
  match jwk.algorithm with
  | .ellipticCurve .p256 _ => some .ES256
  | .ellipticCurve .p384 _ => some .ES384
  | .ellipticCurve _ _ => none
  | .rsa _ =>
    match jwk.keyAlgorithm with
    | some .RS384 => some .RS384
    | some .RS512 => some .RS512
    | some .PS256 => some .PS256
    | some .PS384 => some .PS384
    | some .PS512 => some .PS512
    | _ => some .RS256
  | .octetKeyPair .ed25519 _ => some .EdDSA
  | .octetKeyPair _ _ => none
  | .octetKey _ => none

def signingKeyFromJwk (crates : ServerCrates) (jwk : Jwk) : Except String SigningKey :=
  match crates.jwt.decodingKeyFromJwk jwk with
  | .error e => .error ("invalid JWK: " ++ e)
  | .ok decodingKey =>
    match algorithmFromJwk jwk with
    | some algorithm => .ok { decodingKey, algorithm }
    | none => .error "cannot determine algorithm from JWK"

/-! ## Verification -/

/-- The `iss` claim of a token that nobody has verified. -/
def unverifiedIssuer (crates : ServerCrates) (token : String) : Result String := do
  let payload ← okOr (.unauthorized "malformed token") (Text.split '.' token)[1]?
  let bytes ← mapErr (fun _ => .unauthorized "malformed token payload")
    (crates.base64Url.decode payload)
  let value ← mapErr (fun _ => .unauthorized "malformed token payload")
    (crates.jsonText.valueFromSlice bytes)
  okOr (.unauthorized "token missing iss claim") ((value.get? "iss").bind Json.asStr?)

/-- The id of a token without a `jti`: the digest of the whole token. -/
def replayIdFromToken (crates : ServerCrates) (token : String) : String :=
  crates.hex.encode (crates.sha256 (utf8 token))

structure VerifiedToken where
  claims : OttClaims
  replayId : String

/-- What a token is validated against. `nbf` is validated when present but not required. -/
def tokenValidation (audience issuer : String) (audiences : List String) (key : SigningKey)
    (leewaySecs : ℕ) : Validation where
  algorithm := key.algorithm
  requiredSpecClaims := ["exp", "aud", "iss", "sub"]
  leeway := leewaySecs
  validateExp := true
  validateNbf := true
  validateAud := true
  aud := some (if audiences.isEmpty then [audience] else audiences)
  iss := some [issuer]

/-- A token's signature and registered claims, when the clock shows `now`. -/
def validateSigned (crates : ServerCrates) (token audience issuer : String)
    (audiences : List String) (key : SigningKey) (leewaySecs : ℕ) (now : SystemTime) :
    Outcome VerifiedToken := do
  let claims ← crates.jwt.decode token key.decodingKey
    (tokenValidation audience issuer audiences key leewaySecs) OttClaims.ofJson
    (fun e => .unauthorized ("token validation failed: " ++ e)) now
  .ok { claims, replayId := claims.jti.getD (replayIdFromToken crates token) }

/-- Claims that are validated come from an object: a sequence that is long enough to be the claims of a
token is too long to be the registered ones. -/
theorem object_of_admits {v : Validation} {payload : Json} {claims : OttClaims} {now : SystemTime}
    (hrequired : "exp" ∈ v.requiredSpecClaims) (hclaims : OttClaims.ofJson payload = .ok claims)
    (hadmits : v.Admits (payload.named registeredClaims) now) : ∃ fields, payload = .obj fields := by
  cases payload with
  | obj fields => exact ⟨fields, rfl⟩
  | arr items =>
    have hnbf : ∃ nbf, (Json.named OttClaims.names (.arr items)).required "nbf" Json.decodeI64 = .ok nbf := by
      simp only [OttClaims.ofJson, except_bind_eq_ok] at hclaims
      obtain ⟨_, -, _, -, _, -, _, -, _, -, nbf, hnbf, -⟩ := hclaims
      exact ⟨nbf, hnbf⟩
    by_cases hlong : registeredClaims.length < items.length
    · have hexp := hadmits.required "exp" hrequired (by decide)
      rw [Json.named, if_neg (Nat.not_le.mpr hlong)] at hexp
      cases hexp
    · obtain ⟨nbf, hnbf⟩ := hnbf
      have hshort : items.length ≤ 5 := Nat.not_lt.mp hlong
      match items, hshort, hnbf with
      | [], _, hnbf | [_], _, hnbf | [_, _], _, hnbf | [_, _, _], _, hnbf | [_, _, _, _], _, hnbf
      | [_, _, _, _, _], _, hnbf => cases hnbf
  | _ =>
    simp only [OttClaims.ofJson, except_bind_eq_ok] at hclaims
    obtain ⟨_, hiss, -⟩ := hclaims
    cases hiss

/-- A token that validates has an `exp` that the clock has not left behind. -/
theorem validateSigned_window {crates : ServerCrates} {token audience issuer : String}
    {audiences : List String} {key : SigningKey} {leewaySecs : ℕ} {now : SystemTime}
    {verified : VerifiedToken}
    (h : validateSigned crates token audience issuer audiences key leewaySecs now = .ok verified) :
    unixEpoch ≤ now ∧ ∃ exp : ℕ, verified.claims.exp.toInt = exp ∧
      unixSecs now ≤ exp + leewaySecs := by
  obtain ⟨claims, hdecode, hverified⟩ := except_bind_eq_ok.mp h
  cases hverified
  obtain ⟨-, payload, -, hclaims, hcheck⟩ := Jwt.decode_eq_ok.mp hdecode
  obtain ⟨hadmits, htells⟩ := crates.jwt.claims.admits_of_validate hcheck
  obtain ⟨fields, rfl⟩ := object_of_admits (by simp [tokenValidation]) hclaims hadmits
  refine ⟨crates.jwt.claims.epoch_of_tells (htells rfl), ?_⟩
  simp only [OttClaims.ofJson, except_bind_eq_ok, Json.required_eq_ok, Except.ok.injEq] at hclaims
  obtain ⟨_, -, _, -, _, -, _, -, _, -, _, -, e, ⟨v, hfield, hread⟩, _, -, _, -, _, -, _, -, rfl⟩ :=
    hclaims
  obtain ⟨n, rfl, hn⟩ := Json.decodeI64_eq_ok.mp hread
  obtain ⟨hpositive, hle⟩ := hadmits.exp rfl n (Json.get?_of_field? hfield)
  rw [← hn] at hpositive hle
  obtain ⟨exp, hexp⟩ := Int.eq_ofNat_of_zero_le hpositive
  rw [hexp] at hle
  exact ⟨exp, hexp, by exact_mod_cast hle⟩

/-- How a provisioner authenticates tokens. -/
inductive TokenVerifier where
  | jwk (issuer : String) (audiences : List String) (key : SigningKey)
  /-- With the key that its source resolves for a `kid`. -/
  | jwks (issuer : String) (audiences : List String)
      (resolve : ℕ → Option String → Result SigningKey)

namespace TokenVerifier

/-- The clock-skew leeway of every verifier. -/
def leewaySecs : ℕ := 60

def issuer : TokenVerifier → String
  | .jwk issuer _ _ | .jwks issuer _ _ => issuer

/-- Whether a token names this provisioner's issuer; its signature is not looked at. -/
def claimsToken (crates : ServerCrates) (verifier : TokenVerifier) (token : String) : Bool :=
  match unverifiedIssuer crates token with
  | .ok iss => iss == verifier.issuer
  | .error _ => false

def verify (rt : Runtime) (verifier : TokenVerifier) (token audience : String) :
    Action VerifiedToken :=
  match verifier with
  | .jwk issuer audiences key => do
    let now ← systemTimeNow rt
    ofOutcome (validateSigned rt.crates token audience issuer audiences key leewaySecs now)
  | .jwks issuer audiences resolve => do
    let header ← ofResult (mapErr (fun e => .unauthorized ("malformed token header: " ++ e))
      (rt.crates.jwt.decodeHeader token))
    let n ← interact rt
    let key ← ofResult (resolve n header.kid)
    let now ← systemTimeNow rt
    ofOutcome (validateSigned rt.crates token audience issuer audiences key leewaySecs now)

end TokenVerifier

structure Provisioner where
  name : String
  template : Option String
  /-- Whether a verified token alone authorizes issuance. -/
  authorized : Bool
  verifier : TokenVerifier

/-- A token that has been validated, with the policy of its provisioner. -/
structure ValidatedToken where
  provisioner : String
  claims : OttClaims
  template : Option String
  authorized : Bool
  replayId : String

structure ProvisionerAuthorizer where
  provisioners : List Provisioner

/-- Route a token to the first provisioner it names, and verify it there. -/
def ProvisionerAuthorizer.validate (rt : Runtime) (authorizer : ProvisionerAuthorizer)
    (token audience : String) : Action ValidatedToken :=
  match authorizer.provisioners.find? fun p => p.verifier.claimsToken rt.crates token with
  | none =>
    let issuer := match unverifiedIssuer rt.crates token with
      | .ok issuer => issuer
      | .error _ => "<unknown>"
    throw (.error (.unauthorized ("unknown provisioner " ++ Text.debug issuer)))
  | some provisioner => do
    let verified ← provisioner.verifier.verify rt token audience
    return {
      provisioner := provisioner.name
      claims := verified.claims
      template := provisioner.template
      authorized := provisioner.authorized
      replayId := verified.replayId }

end Ayane
