import Ayane.Authorizer.Documented
import Ayane.Cli.Csrgen
import Ayane.Cli.Endpoint
import Ayane.Http.Api
import Ayane.Testca.JsonText

/-!
# Tokens and proofs of the client

`ayane-cli/src/proof.rs`: a proof for a `POST` to a URL, signed by the key of a certificate, and a
token that authorizes an issuance. What the client signs is read back by the server as it was; the
server accepts it for the URLs it was made for, from then on until it is too old.
-/

namespace Ayane

open Effect

/-! ## Claims on the wire -/

theorem Json.decodeI64_toInt (n : Int64) : Json.decodeI64 (.int n.toInt) = .ok n :=
  Json.decodeI64_eq_ok.mpr ⟨_, rfl, rfl⟩

theorem Json.plain_toInt (n : Int64) : (Json.int n.toInt).Plain 1 := by
  have hmin := n.le_toInt
  have hmax := n.toInt_lt
  exact .int (by omega)

namespace Dpop.DpopClaims

def fields (c : DpopClaims) : List (String × Option Json) := [
  ("htm", some (.str c.htm)), ("htu", some (.str c.htu)), ("iat", some (.int c.iat.toInt)),
  ("jti", some (.str c.jti)), ("nonce", c.nonce.map .str)]

def toJson (c : DpopClaims) : Json := .record c.fields

theorem nodup_fields (c : DpopClaims) : (c.fields.map Prod.fst).Nodup :=
  (by decide : names.Nodup)

theorem ofJson_toJson (c : DpopClaims) : ofJson c.toJson = .ok c := by
  have h := c.nodup_fields
  have hiat : c.toJson.required "iat" Json.decodeI64 = .ok c.iat :=
    (Json.required_record h (by simp [fields])).trans (Json.decodeI64_toInt c.iat)
  simp only [ofJson, except_bind_eq_ok]
  exact ⟨c.htm, Json.required_str h (by simp [fields]), c.htu, Json.required_str h (by simp [fields]),
    c.iat, hiat, c.jti, Json.required_str h (by simp [fields]), c.nonce,
    Json.optional_str h (by simp [fields]), rfl⟩

theorem plain_toJson (c : DpopClaims) : c.toJson.Plain 2 := by
  refine Json.plain_record c.nodup_fields ?_
  simp only [fields, List.forall_mem_cons, Option.mem_some_iff, forall_eq']
  exact ⟨.str _, .str _, Json.plain_toInt c.iat, .str _, fun _ => Json.plain_of_mem_map_str, by simp⟩

end Dpop.DpopClaims

namespace Confirmation

def fields (c : Confirmation) : List (String × Option Json) := [("x5t#S256", c.x5tS256.map .str)]

def toJson (c : Confirmation) : Json := .record c.fields

theorem nodup_fields (c : Confirmation) : (c.fields.map Prod.fst).Nodup := List.nodup_singleton _

theorem ofJson_toJson (c : Confirmation) : ofJson c.toJson = .ok c := by
  simp only [ofJson, except_bind_eq_ok]
  exact ⟨c.x5tS256, Json.optional_str c.nodup_fields (by simp [fields]), rfl⟩

theorem plain_toJson (c : Confirmation) : c.toJson.Plain 2 := by
  refine Json.plain_record c.nodup_fields ?_
  simp only [fields, List.forall_mem_cons]
  exact ⟨fun _ => Json.plain_of_mem_map_str, by simp⟩

end Confirmation

namespace OnceScope

def names : List String := ["scope", "exp"]

def fields (o : OnceScope) : List (String × Option Json) := [
  ("scope", some (.str o.scope)), ("exp", o.exp.map fun exp => .int exp.toInt)]

def toJson (o : OnceScope) : Json := .record o.fields

theorem nodup_fields (o : OnceScope) : (o.fields.map Prod.fst).Nodup := (by decide : names.Nodup)

theorem ofJson_toJson (o : OnceScope) : ofJson o.toJson = .ok o := by
  have h := o.nodup_fields
  have hexp : o.toJson.optional "exp" Json.decodeI64 = .ok o.exp := by
    refine Json.optional_record Json.decodeI64_toInt (fun _ hnull => ?_) h (by simp [fields])
    cases hnull
  simp only [ofJson, except_bind_eq_ok]
  exact ⟨o.scope, Json.required_str h (by simp [fields]), o.exp, hexp, rfl⟩

theorem plain_toJson (o : OnceScope) : o.toJson.Plain 2 := by
  refine Json.plain_record o.nodup_fields ?_
  simp only [fields, List.forall_mem_cons, Option.mem_some_iff, forall_eq']
  refine ⟨.str _, fun j hj => ?_, by simp⟩
  obtain ⟨exp, -, rfl⟩ := Option.map_eq_some_iff.mp hj
  exact Json.plain_toInt exp

end OnceScope

namespace OttClaims

/-- An id that is absent is written as `null`; `renew` is skipped when it is true. -/
def fields (c : OttClaims) : List (String × Option Json) := [
  ("iss", some (.str c.iss)), ("aud", some (.str c.aud)), ("sub", some (.str c.sub)),
  ("sans", some (.arr (c.sans.map .str))), ("iat", some (.int c.iat.toInt)),
  ("nbf", some (.int c.nbf.toInt)), ("exp", some (.int c.exp.toInt)),
  ("jti", some ((c.jti.map Json.str).getD .null)), ("renew", if c.renew then none else some (.bool false)),
  ("cnf", c.cnf.map Confirmation.toJson), ("once", c.once.map OnceScope.toJson)]

def toJson (c : OttClaims) : Json := .record c.fields

theorem nodup_fields (c : OttClaims) : (c.fields.map Prod.fst).Nodup := (by decide : names.Nodup)

theorem optional_jti (c : OttClaims) : c.toJson.optional "jti" Json.decodeString = .ok c.jti :=
  @Json.optional_orNull _ _ _ _ .str _ (fun _ _ => rfl) (fun _ hnull => by cases hnull) c.nodup_fields (by simp [fields])

theorem defaulted_renew (c : OttClaims) : c.toJson.defaulted "renew" true Json.decodeBool = .ok c.renew := by
  rw [toJson, Json.defaulted_record c.nodup_fields
    (by simp [fields] : ("renew", if c.renew then none else some (.bool false)) ∈ c.fields)]
  cases c.renew <;> rfl

theorem ofJson_toJson (c : OttClaims) : ofJson c.toJson = .ok c := by
  have h := c.nodup_fields
  have number : ∀ name (n : Int64), (name, some (.int n.toInt)) ∈ c.fields →
      c.toJson.required name Json.decodeI64 = .ok n :=
    fun _ n hmem => (Json.required_record h hmem).trans (Json.decodeI64_toInt n)
  have hsans : c.toJson.defaulted "sans" [] (Json.decodeList Json.decodeString) = .ok c.sans := by
    rw [toJson, Json.defaulted_record h
      (by simp [fields] : ("sans", some (.arr (c.sans.map .str))) ∈ c.fields)]
    exact Json.decodeStrings_map c.sans
  have hcnf : c.toJson.optional "cnf" Confirmation.ofJson = .ok c.cnf := by
    refine Json.optional_record Confirmation.ofJson_toJson (fun _ hnull => ?_) h (by simp [fields])
    cases hnull
  have honce : c.toJson.optional "once" OnceScope.ofJson = .ok c.once := by
    refine Json.optional_record OnceScope.ofJson_toJson (fun _ hnull => ?_) h (by simp [fields])
    cases hnull
  simp only [ofJson, except_bind_eq_ok]
  exact ⟨c.iss, Json.required_str h (by simp [fields]), c.aud, Json.required_str h (by simp [fields]),
    c.sub, Json.required_str h (by simp [fields]), c.sans, hsans, c.iat, number _ _ (by simp [fields]),
    c.nbf, number _ _ (by simp [fields]), c.exp, number _ _ (by simp [fields]), c.jti, c.optional_jti,
    c.renew, c.defaulted_renew, c.cnf, hcnf, c.once, honce, rfl⟩

theorem plain_toJson (c : OttClaims) : c.toJson.Plain 3 := by
  have number : ∀ n : Int64, (Json.int n.toInt).Plain 2 := fun n => (Json.plain_toInt n).mono (by decide)
  refine Json.plain_record c.nodup_fields ?_
  simp only [fields, List.forall_mem_cons, Option.mem_some_iff, forall_eq']
  refine ⟨.str _, .str _, .str _, (Json.plain_strings c.sans).mono (by decide), number _, number _, number _,
    ?_, fun j hj => ?_, fun j hj => ?_, fun j hj => ?_, by simp⟩
  · cases c.jti with
    | none => exact .null
    | some jti => exact .str jti
  · split_ifs at hj
    · cases hj
    · cases hj
      exact .bool false
  · obtain ⟨cnf, -, rfl⟩ := Option.map_eq_some_iff.mp hj
    exact cnf.plain_toJson
  · obtain ⟨once, -, rfl⟩ := Option.map_eq_some_iff.mp hj
    exact once.plain_toJson

/-- When a verifier takes claims, 60 seconds being tolerated. -/
structure Admitted (c : OttClaims) (validator : ClaimsValidator) (audience issuer : String)
    (audiences : List String) (now : SystemTime) : Prop where
  clock : validator.Tells TokenVerifier.leewaySecs now
  iss : c.iss = issuer
  aud : Serves audience audiences c.aud
  exp : 0 ≤ c.exp.toInt ∧ (unixSecs now : ℤ) - 60 ≤ c.exp.toInt
  nbf : 0 ≤ c.nbf.toInt ∧ c.nbf.toInt ≤ (unixSecs now : ℤ) + 60

theorem validate_toJson_eq_ok {c : OttClaims} {validator : ClaimsValidator} {audience issuer : String}
    {audiences : List String} {key : SigningKey} {now : SystemTime} :
    validator.validate (tokenValidation audience issuer audiences key TokenVerifier.leewaySecs) c.toJson now =
        .ok () ↔ c.Admitted validator audience issuer audiences now := by
  have found : ∀ name v, (name, some v) ∈ c.fields → c.toJson.field? name = .ok (some v) :=
    fun _ _ hmem => Json.field?_record c.nodup_fields hmem
  have text : ∀ name s, (name, some (.str s)) ∈ c.fields → c.toJson.Holds name Json.IsString :=
    fun name s hmem => ⟨_, found name _ hmem, s, rfl⟩
  have date : ∀ name (n : Int64), (name, some (.int n.toInt)) ∈ c.fields → c.toJson.Holds name Json.IsI64 :=
    fun name n hmem => ⟨_, found name _ hmem, n.toInt, rfl, n.le_toInt, n.toInt_lt⟩
  rw [validate_tokenValidation_iff (text "iss" c.iss (by simp [fields])) (text "aud" c.aud (by simp [fields]))
    (text "sub" c.sub (by simp [fields])) (date "exp" c.exp (by simp [fields]))
    (date "nbf" c.nbf (by simp [fields])),
    Json.get?_of_field? (found "iss" _ (by simp [fields]; rfl)),
    Json.get?_of_field? (found "aud" _ (by simp [fields]; rfl)),
    Json.get?_of_field? (found "exp" _ (by simp [fields]; rfl)),
    Json.get?_of_field? (found "nbf" _ (by simp [fields]; rfl))]
  simp only [Option.some.injEq, Json.str.injEq, Json.int.injEq, exists_eq_left']
  constructor
  · rintro ⟨hclock, hiss, haud, hexp, hnbf⟩
    exact ⟨hclock, hiss, haud, hexp, hnbf⟩
  · rintro ⟨hclock, hiss, haud, hexp, hnbf⟩
    exact ⟨hclock, hiss, haud, hexp, hnbf⟩

end OttClaims

namespace Dpop

/-- When a proof of the second of `sent` is neither of the future nor stale, 60 seconds being tolerated. -/
structure Current (sent : SystemTime) (maxAge : Duration) (now : SystemTime) : Prop where
  inRange : now.nanos + skew < timeLimit
  past : (fromSecs (unixSecs sent) : ℤ) ≤ now.nanos + skew
  fresh : now.nanos ≤ fromSecs (unixSecs sent) + maxAge

theorem checkAge_eq_ok {iat now : SystemTime} {maxAge : Duration} {u : Unit} :
    checkAge iat maxAge now = .ok u ↔ now.nanos + skew < timeLimit ∧ iat.nanos ≤ now.nanos + skew ∧
      now.nanos ≤ iat.nanos + maxAge := by
  have hage : (∀ age ∈ now.durationSince iat, age ≤ maxAge) ↔ now.nanos ≤ iat.nanos + maxAge := by
    unfold SystemTime.durationSince
    split_ifs with hle
    · rw [SystemTime.le_def] at hle
      simp only [Option.mem_some_iff, forall_eq', Int.toNat_le]
      omega
    · rw [SystemTime.le_def] at hle
      simp only [Option.not_mem_none, false_implies, implies_true, true_iff]
      omega
  simp only [checkAge, except_bind_eq_ok, SystemTime.plus_eq_ok, ensure_eq_ok, hage, SystemTime.le_def]
  constructor
  · rintro ⟨latest, hlatest, _, hpast, hfresh⟩
    have hrange := latest.inRange.2
    exact ⟨by omega, by omega, hfresh⟩
  · rintro ⟨hrange, hpast, hfresh⟩
    have hmin := now.inRange.1
    exact ⟨⟨now.nanos + skew, by omega, hrange⟩, rfl, (), hpast, hfresh⟩

end Dpop

namespace Cli

/-! ## What the client signs with -/

/-- The crates of the server, with what the client calls besides. -/
structure ProofCrates extends ServerCrates where
  /-- `KeyPair::encoding_key`. -/
  encodingKey : KeyPair → Except String Bytes
  /-- `KeyPair::public_jwk`. -/
  publicJwk : KeyPair → Except String Jwk
  /-- `jsonwebtoken::encode` of a header, the key that it shows, and claims. -/
  encode : JwtHeader → Option Jwk → Json → Bytes → Except String String

namespace KeyPair

def jwtAlgorithm : KeyPair → JwtAlgorithm
  | .ecP256 _ => .ES256
  | .ecP384 _ => .ES384
  | .rsa _ => .RS256

/-- How a certificate says of which kind its key is. -/
def Named (crates : ServerCrates) (key : KeyPair) (spki : SubjectPublicKeyInfo) : Prop :=
  match key with
  | .ecP256 _ => spki.algorithm.oid = Oid.idEcPublicKey ∧
      spki.algorithm.parameters.map crates.serverDer.oidFromAny = some (.ok Oid.secp256r1)
  | .ecP384 _ => spki.algorithm.oid = Oid.idEcPublicKey ∧
      spki.algorithm.parameters.map crates.serverDer.oidFromAny = some (.ok Oid.secp384r1)
  | .rsa _ => spki.algorithm.oid = Oid.rsaEncryption

/-- The key that the crate verifies with, from the encoded public key. -/
def decodingKey (crates : ServerCrates) (key : KeyPair) (spkiDer : Bytes) : Except String DecodingKey :=
  match key with
  | .ecP256 _ | .ecP384 _ => crates.jwt.decodingKeyFromEcSpki spkiDer
  | .rsa _ => crates.jwt.decodingKeyFromRsaSpki spkiDer

/-- What is signed by the key pair is verified by the other key. -/
def VerifiedBy (crates : ProofCrates) (key : KeyPair) (decodingKey : DecodingKey) : Prop :=
  ∀ encodingKey header jwk claims token, crates.encodingKey key = .ok encodingKey →
    crates.encode header jwk claims encodingKey = .ok token →
    crates.jwt.verifySignature header.alg decodingKey token = .ok ()

/-- The public key of a certificate belongs to the key pair. -/
structure Certified (crates : ProofCrates) (key : KeyPair) (spki : SubjectPublicKeyInfo) : Prop where
  named : key.Named crates.toServerCrates spki
  verified : ∃ spkiDer decodingKey, crates.der.spkiToDer spki = .ok spkiDer ∧
    key.decodingKey crates.toServerCrates spkiDer = .ok decodingKey ∧ key.VerifiedBy crates decodingKey

end KeyPair

/-- The header and the claims of a token are read back as they were written. -/
structure ProofCrates.ReadsBack (crates : ProofCrates) : Prop where
  header : ∀ header jwk claims encodingKey token,
    crates.encode header jwk claims encodingKey = .ok token → crates.jwt.decodeHeader token = .ok header
  payload : ∀ header jwk claims encodingKey token, claims.Plain 127 →
    crates.encode header jwk claims encodingKey = .ok token → crates.jwt.payload token = .ok claims

/-! ## Minting -/

/-- The seconds of the clock; `0` before the epoch. -/
def unixNow (now : SystemTime) : Int64 :=
  match secsSinceEpoch now with
  | some secs => Int64.ofNat secs
  | none => 0

def randomId (crates : Crates) (entropy : Digest 16) : String := crates.hex.encode entropy

def makeDpop (crates : ProofCrates) (key : KeyPair) (htu : String) (now : SystemTime)
    (entropy : Digest 16) : Except String String := do
  let claims : Dpop.DpopClaims := {
    htm := "POST"
    htu
    iat := unixNow now
    jti := randomId crates.toCrates entropy
    nonce := none }
  let jwk ← crates.publicJwk key
  let encodingKey ← crates.encodingKey key
  crates.encode { alg := key.jwtAlgorithm, typ := some "dpop+jwt", kid := none } (some jwk) claims.toJson
    encodingKey

/-- Inputs of `make_ott`. -/
structure OttParams where
  issuer : String
  audience : String
  subject : String
  sans : List String
  validitySecs : Int64
  renew : Bool
  once : Option OnceScope

/-- The claims of a token. Its end wraps around where the seconds leave 64 bits. -/
def OttParams.claims (crates : Crates) (params : OttParams) (now : SystemTime) (entropy : Digest 16) :
    OttClaims where
  iss := params.issuer
  aud := params.audience
  sub := params.subject
  sans := params.sans
  iat := unixNow now
  nbf := unixNow now - 5
  exp := unixNow now + params.validitySecs
  jti := some (randomId crates entropy)
  renew := params.renew
  cnf := none
  once := params.once

def makeOtt (crates : ProofCrates) (key : KeyPair) (params : OttParams) (now : SystemTime)
    (entropy : Digest 16) : Except String String := do
  let claims := params.claims crates.toCrates now entropy
  let encodingKey ← crates.encodingKey key
  crates.encode { alg := key.jwtAlgorithm, typ := some "JWT", kid := none } none claims.toJson encodingKey

theorem toInt_unixNow (now : SystemTime) : (unixNow now).toInt = unixSecs now := by
  have hrange := now.inRange
  have hlt : unixSecs now < 2 ^ 63 := by
    rw [unixSecs_eq]
    unfold timeLimit at hrange
    omega
  unfold unixNow
  cases hsecs : secsSinceEpoch now with
  | some secs =>
    obtain ⟨-, rfl⟩ := secsSinceEpoch_eq_some.mp hsecs
    exact Int64.toInt_ofNat_of_lt hlt
  | none =>
    have hbefore : ¬unixEpoch ≤ now := fun h => by
      cases hsecs.symm.trans (secsSinceEpoch_eq_some.mpr ⟨h, rfl⟩)
    rw [unixSecs_of_not_le hbefore]
    rfl

theorem nanos_unixNow (now : SystemTime) :
    (systemTimeFromEpoch (unixNow now)).nanos = fromSecs (unixSecs now) := by
  change ((fromSecs (max (unixNow now).toInt 0).toNat : ℕ) : ℤ) = _
  rw [toInt_unixNow]
  congr 2
  omega

section

variable {crates : ProofCrates} {key : KeyPair} {cert : Certificate} {sent now : SystemTime}
  {entropy : Digest 16}

/-- The server takes the key of a certificate for the kind that the client signs with. -/
theorem decodingKeyFromSpki_of_certified {spki : SubjectPublicKeyInfo} (h : key.Certified crates spki) :
    ∃ decodingKey, Dpop.decodingKeyFromSpki crates.toServerCrates spki =
      .ok (decodingKey, key.jwtAlgorithm) ∧ key.VerifiedBy crates decodingKey := by
  obtain ⟨spkiDer, decodingKey, hder, hkey, hverified⟩ := h.verified
  have hnamed := h.named
  refine ⟨decodingKey, ?_, hverified⟩
  have hrsa : Oid.rsaEncryption ≠ Oid.idEcPublicKey := by decide
  have hcurves : Oid.secp384r1 ≠ Oid.secp256r1 := by decide
  cases key with
  | ecP256 secret =>
    obtain ⟨hoid, hcurve⟩ := hnamed
    simp only [Dpop.decodingKeyFromSpki, hoid, hcurve, if_true, except_bind_eq_ok, mapErr_eq_ok]
    exact ⟨spkiDer, hder, _, rfl, decodingKey, hkey, rfl⟩
  | ecP384 secret =>
    obtain ⟨hoid, hcurve⟩ := hnamed
    simp only [Dpop.decodingKeyFromSpki, hoid, hcurve, if_true, if_neg hcurves, except_bind_eq_ok,
      mapErr_eq_ok]
    exact ⟨spkiDer, hder, _, rfl, decodingKey, hkey, rfl⟩
  | rsa secret =>
    have hoid : spki.algorithm.oid = Oid.rsaEncryption := hnamed
    simp only [Dpop.decodingKeyFromSpki, hoid, if_neg hrsa, if_true, except_bind_eq_ok, mapErr_eq_ok]
    exact ⟨spkiDer, hder, decodingKey, hkey, rfl⟩

/-- The validation of a proof leaves the registered claims alone, of which a proof has none. -/
theorem validate_proofValidation (validator : ClaimsValidator) (algorithm : JwtAlgorithm)
    (c : Dpop.DpopClaims) (now : SystemTime) :
    validator.validate (Dpop.proofValidation algorithm) c.toJson now = .ok () := by
  have hnone : ∀ name ∈ registeredClaims, c.toJson.field? name = .ok none := by
    intro name hname
    have hnames : c.fields.map Prod.fst = Dpop.DpopClaims.names := rfl
    refine Json.field?_record_of_notMem ?_
    rw [hnames]
    exact (by decide : ∀ name ∈ registeredClaims, name ∉ Dpop.DpopClaims.names) name hname
  have hget : ∀ name ∈ registeredClaims, ∀ v, c.toJson.get? name ≠ some v := by
    intro name hname v hv
    cases (Json.get?_of_field? (hnone name hname)).symm.trans hv
  refine validator.validate_of_admits ⟨⟨_, rfl⟩, fun name hname => ⟨_, hnone name hname⟩, ?_, ?_⟩
    ⟨nofun, nofun, nofun, nofun, nofun⟩ nofun
  · intro name hname v hv
    exact absurd hv (hget name ((by decide : ["exp", "nbf"] ⊆ registeredClaims) hname) v)
  · intro name hname v hv
    exact absurd hv (hget name ((by decide : ["sub", "iss", "aud"] ⊆ registeredClaims) hname) v)

/-- Whatever its clock shows, the server reads in a proof what the client has put there. -/
theorem decodeProof_makeDpop (hread : crates.ReadsBack)
    (hkey : key.Certified crates cert.tbsCertificate.subjectPublicKeyInfo) {htu proof : String}
    (hproof : makeDpop crates key htu sent entropy = .ok proof) :
    Dpop.decodeProof crates.toServerCrates proof cert now = .ok {
      htm := "POST"
      htu
      iat := unixNow sent
      jti := randomId crates.toCrates entropy
      nonce := none } := by
  obtain ⟨jwk, -, encodingKey, hencoding, htoken⟩ := by
    simpa only [makeDpop, except_bind_eq_ok] using hproof
  obtain ⟨decodingKey, hspki, hverified⟩ := decodingKeyFromSpki_of_certified hkey
  have hheader := hread.header _ _ _ _ _ htoken
  have hpayload := hread.payload _ _ _ _ _ ((Dpop.DpopClaims.plain_toJson _).mono (by decide)) htoken
  have hsignature := hverified _ _ _ _ _ hencoding htoken
  simp only [Dpop.decodeProof, except_bind_eq_ok, Result.orAbort_eq_ok, mapErr_eq_ok, ensure_eq_ok]
  refine ⟨_, hheader, (), rfl, _, hspki, (), rfl, ?_⟩
  exact Jwt.decode_eq_ok.mpr ⟨hsignature, _, hpayload, Dpop.DpopClaims.ofJson_toJson _,
    validate_proofValidation _ _ _ _⟩

/-- A proof is accepted for its URL while it is current, and for nothing else. -/
theorem verify_makeDpop_iff (hread : crates.ReadsBack)
    (hkey : key.Certified crates cert.tbsCertificate.subjectPublicKeyInfo) {htu proof uri : String}
    (hproof : makeDpop crates key htu sent entropy = .ok proof) {maxAge : Duration}
    {verified : Dpop.VerifiedProof} :
    Dpop.verify crates.toServerCrates proof cert "POST" uri maxAge now = .ok verified ↔
      htu = uri ∧ Dpop.Current sent maxAge now ∧ verified =
        ⟨randomId crates.toCrates entropy, systemTimeFromEpoch (unixNow sent)⟩ := by
  have hpost : Text.eqIgnoreAsciiCase "POST" "POST" = true := by decide
  simp only [Dpop.verify, decodeProof_makeDpop hread hkey hproof, except_bind_eq_ok, ensure_eq_ok, hpost,
    exists_eq_left', Dpop.checkAge_eq_ok, nanos_unixNow, Except.ok.injEq]
  constructor
  · rintro ⟨_, -, _, huri, _, ⟨hrange, hpast, hfresh⟩, hverified⟩
    exact ⟨huri, ⟨hrange, hpast, hfresh⟩, hverified.symm⟩
  · rintro ⟨huri, hcurrent, hverified⟩
    exact ⟨(), trivial, (), huri, (), ⟨hcurrent.inRange, hcurrent.past, hcurrent.fresh⟩, hverified.symm⟩

end

theorem endpoint_inj {base base' path : String} :
    endpoint base path = endpoint base' path ↔
      Text.trimEndMatches '/' base = Text.trimEndMatches '/' base' := by
  constructor
  · intro h
    have hlist := congrArg String.toList h
    simp only [endpoint, String.toList_append] at hlist
    exact String.toList_inj.mp (List.append_cancel_right hlist)
  · intro h
    simp only [endpoint, h]

/-! ### Tokens that are minted -/

namespace Minting

/-- The header of a token is told by its first letter; the claims follow as hexadecimal text. -/
def jwt : Jwt where
  decodeHeader token :=
    if token.toList.head? = some 'd' then .ok { alg := .ES256, typ := some "dpop+jwt", kid := none }
    else .ok { alg := .ES256, typ := some "JWT", kid := none }
  verifySignature alg key _ := if alg = .ES256 ∧ key = [3] then .ok () else .error "InvalidSignature"
  payload token :=
    (Testca.hex.decode (String.ofList token.toList.tail)).bind Testca.JsonText.bodies.fromSlice
  claims := Testca.claimsValidator
  decodingKeyFromJwk _ := .error "InvalidKeyFormat"
  decodingKeyFromEcSpki := .ok
  decodingKeyFromRsaSpki _ := .error "InvalidKeyFormat"

/-- The letter of a header. -/
def letter (header : JwtHeader) : Except String Char :=
  if header.alg = .ES256 ∧ header.kid = none then
    if header.typ = some "dpop+jwt" then .ok 'd'
    else if header.typ = some "JWT" then .ok 'o'
    else .error "InvalidAlgorithm"
  else .error "InvalidAlgorithm"

/-- Only the key `3` signs. -/
def crates : ProofCrates where
  toServerCrates := { Testca.serverCrates [] [] [] with jwt }
  encodingKey
    | .ecP256 key => if key = [3] then .ok key else .error "InvalidEcdsaKey"
    | _ => .error "InvalidEcdsaKey"
  publicJwk _ := .ok { algorithm := .ellipticCurve .p256 [3], keyAlgorithm := none, keyId := none }
  encode header _ claims _ := (letter header).map fun letter =>
    String.ofList (letter :: (Testca.hex.encode (Testca.JsonText.bodies.toVec claims)).toList)

theorem alg_of_letter {header : JwtHeader} {c : Char} (h : letter header = .ok c) :
    header.alg = .ES256 ∧ header.kid = none ∧
      (c = 'd' ∧ header.typ = some "dpop+jwt" ∨ c = 'o' ∧ header.typ = some "JWT") := by
  unfold letter at h
  split_ifs at h with hheader hproof htoken
  · cases h
    exact ⟨hheader.1, hheader.2, .inl ⟨rfl, hproof⟩⟩
  · cases h
    exact ⟨hheader.1, hheader.2, .inr ⟨rfl, htoken⟩⟩

theorem of_encode {header : JwtHeader} {jwk : Option Jwk} {claims : Json} {encodingKey : Bytes}
    {token : String} (h : crates.encode header jwk claims encodingKey = .ok token) :
    ∃ c, letter header = .ok c ∧ token = String.ofList
      (c :: (Testca.hex.encode (Testca.JsonText.bodies.toVec claims)).toList) := by
  change (letter header).map _ = .ok token at h
  cases hletter : letter header with
  | error e =>
    rw [hletter] at h
    cases h
  | ok c =>
    rw [hletter] at h
    cases h
    exact ⟨c, rfl, rfl⟩

theorem decodeHeader_ofList (c : Char) (s : String) :
    jwt.decodeHeader (String.ofList (c :: s.toList)) =
      if c = 'd' then .ok { alg := .ES256, typ := some "dpop+jwt", kid := none }
      else .ok { alg := .ES256, typ := some "JWT", kid := none } := by
  simp only [jwt, String.toList_ofList, List.head?_cons, Option.some.injEq]

theorem payload_ofList (c : Char) (s : String) :
    jwt.payload (String.ofList (c :: s.toList)) =
      (Testca.hex.decode s).bind Testca.JsonText.bodies.fromSlice := by
  simp only [jwt, String.toList_ofList, List.tail_cons, String.ofList_toList]

theorem readsBack : crates.ReadsBack where
  header header jwk claims encodingKey token h := by
    obtain ⟨c, hletter, rfl⟩ := of_encode h
    obtain ⟨halg, hkid, hkind⟩ := alg_of_letter hletter
    obtain ⟨alg, typ, kid⟩ := header
    refine (decodeHeader_ofList c _).trans ?_
    cases halg
    cases hkid
    obtain ⟨rfl, htyp⟩ | ⟨rfl, htyp⟩ := hkind
    · cases htyp
      rfl
    · cases htyp
      rfl
  payload header jwk claims encodingKey token hplain h := by
    obtain ⟨c, -, rfl⟩ := of_encode h
    refine (payload_ofList c _).trans ?_
    rw [Testca.hex_decode_encode]
    exact Testca.JsonText.readsBack_bodies 127 claims (le_refl 127) hplain

def key : KeyPair := .ecP256 [3]

theorem verifiedBy : key.VerifiedBy crates [3] := by
  intro encodingKey header jwk claims token _ h
  obtain ⟨c, hletter, -⟩ := of_encode h
  rw [(alg_of_letter hletter).1]
  rfl

theorem certified : key.Certified crates Testca.leaf.tbsCertificate.subjectPublicKeyInfo where
  named := ⟨rfl, rfl⟩
  verified := ⟨[3], [3], rfl, rfl, verifiedBy⟩

def entropy : Digest 16 := ⟨List.replicate 16 7, by decide⟩

def params : OttParams where
  issuer := "ci"
  audience := "https://ca/v1/sign"
  subject := "web"
  sans := ["web"]
  validitySecs := 300
  renew := true
  once := none

/-- What the client hands out. -/
def proof : Except String String :=
  makeDpop crates key (endpoint "https://ca/" "/v1/renew") (Testca.instant 1000) entropy

def token : Except String String := makeOtt crates key params (Testca.instant 1000) entropy

end Minting

/-- The proof that the client makes for an operation at `base` is accepted by a server at `served` if and
only if they are the same but for slashes at the end, and the server's clock is at most 60 seconds
behind and `maxAge` ahead of the second in which the proof was made. -/
theorem dpop_accepted_iff {crates : ProofCrates} (hread : crates.ReadsBack) {key : KeyPair}
    {cert : Certificate} (hkey : key.Certified crates cert.tbsCertificate.subjectPublicKeyInfo)
    {base path : String} {sent : SystemTime} {entropy : Digest 16} {proof : String}
    (hproof : makeDpop crates key (endpoint base path) sent entropy = .ok proof) (service : Service)
    (served : String) (header : String → Option String) (maxAge : Duration) (now : SystemTime)
    (verified : Dpop.VerifiedProof) :
    Dpop.verify crates.toServerCrates proof cert "POST"
        (requestUrl ⟨path, header⟩ (.boot service (some served))) maxAge now = .ok verified ↔
      Text.trimEndMatches '/' base = Text.trimEndMatches '/' served ∧ Dpop.Current sent maxAge now ∧
        verified = ⟨randomId crates.toCrates entropy, systemTimeFromEpoch (unixNow sent)⟩ := by
  rw [requestUrl_eq_endpoint, verify_makeDpop_iff hread hkey hproof, endpoint_inj]

theorem dpop_accepted_renewal : ∃ proof, Minting.proof = .ok proof ∧
    Dpop.verify Minting.crates.toServerCrates proof Testca.leaf "POST"
        (requestUrl ⟨"/v1/renew", fun _ => none⟩ (.boot (Testca.service true []) (some "https://ca")))
          (fromSecs 300) (Testca.instant 1040) =
      .ok ⟨randomId Minting.crates.toCrates Minting.entropy,
        systemTimeFromEpoch (unixNow (Testca.instant 1000))⟩ := by
  refine ⟨_, rfl, ?_⟩
  refine (dpop_accepted_iff Minting.readsBack Minting.certified rfl (Testca.service true []) "https://ca"
    (fun _ => none) (fromSecs 300) (Testca.instant 1040) _).mpr ⟨by decide, ?_, rfl⟩
  exact ⟨by decide, by decide, by decide⟩

/-- The token that the client mints is accepted if and only if it names the issuer and an audience of the
verifier, its dates are not before the epoch and the clock, give or take 60 seconds, is in its time; what
the server gets from it is what the client put there, and the id is the one it drew. -/
theorem ott_accepted_iff {crates : ProofCrates} (hread : crates.ReadsBack) {key : KeyPair}
    {signingKey : SigningKey} (halgorithm : signingKey.algorithm = key.jwtAlgorithm)
    (hkey : key.VerifiedBy crates signingKey.decodingKey) {params : OttParams} {minted : SystemTime}
    {entropy : Digest 16} {token : String} (htoken : makeOtt crates key params minted entropy = .ok token)
    (audience issuer : String) (audiences : List String) (now : SystemTime) (verified : VerifiedToken) :
    validateSigned crates.toServerCrates token audience issuer audiences signingKey
        TokenVerifier.leewaySecs now = .ok verified ↔
      (params.claims crates.toCrates minted entropy).Admitted crates.jwt.claims audience issuer audiences
          now ∧
        verified = ⟨params.claims crates.toCrates minted entropy, randomId crates.toCrates entropy⟩ := by
  obtain ⟨encodingKey, hencoding, hencoded⟩ := by
    simpa only [makeOtt, except_bind_eq_ok] using htoken
  have hpayload := hread.payload _ _ _ _ _ ((OttClaims.plain_toJson _).mono (by decide)) hencoded
  have hsignature := hkey _ _ _ _ _ hencoding hencoded
  rw [← halgorithm] at hsignature
  have hclaims := OttClaims.ofJson_toJson (params.claims crates.toCrates minted entropy)
  simp only [validateSigned, except_bind_eq_ok, Jwt.decode_eq_ok, hpayload, Except.ok.injEq]
  constructor
  · rintro ⟨claims, ⟨-, _, rfl, hread, hcheck⟩, rfl⟩
    obtain rfl := Except.ok.inj (hclaims.symm.trans hread)
    exact ⟨OttClaims.validate_toJson_eq_ok.mp hcheck, rfl⟩
  · rintro ⟨hadmitted, rfl⟩
    exact ⟨_, ⟨hsignature, _, rfl, hclaims, OttClaims.validate_toJson_eq_ok.mpr hadmitted⟩, rfl⟩

theorem ott_accepted_minted : ∃ token, Minting.token = .ok token ∧
    validateSigned Minting.crates.toServerCrates token "https://ca/v1/sign" "ci" []
        { decodingKey := [3], algorithm := .ES256 } TokenVerifier.leewaySecs (Testca.instant 1040) =
      .ok ⟨Minting.params.claims Minting.crates.toCrates (Testca.instant 1000) Minting.entropy,
        randomId Minting.crates.toCrates Minting.entropy⟩ := by
  refine ⟨_, rfl, ?_⟩
  refine (ott_accepted_iff Minting.readsBack rfl Minting.verifiedBy rfl "https://ca/v1/sign" "ci" []
    (Testca.instant 1040) _).mpr ⟨⟨(by decide : unixEpoch ≤ Testca.instant 1040), rfl, ?_, by decide,
      by decide⟩, rfl⟩
  exact mem_audiences_iff.mp (by decide)

end Cli

end Ayane
