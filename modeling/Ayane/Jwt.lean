import Ayane.Certificate
import Ayane.Lib.Effect

/-!
# JSON web tokens

What the program uses of `jsonwebtoken` and `serde`: a token's header, its payload as a
JSON value, the check of its signature, and the validation of the registered claims
against a `Validation`. A payload is read twice, once into the claims the program asked
for and once into the registered claims that are validated; both readings are of the same
JSON value. The second is the crate's own, and what is documented of it is relied on.
-/

namespace Ayane

open Effect

/-- A JSON value. A number that is no integer is kept as its text. -/
inductive Json where
  | null
  | bool (b : Bool)
  | int (n : Int)
  | float (text : String)
  | str (s : String)
  | arr (items : List Json)
  | obj (fields : List (String × Json))

namespace Json

/-- `serde_json::Value::get` on an object: the last of fields with one name. -/
def get? (j : Json) (name : String) : Option Json :=
  match j with
  | .obj fields => (fields.reverse.find? fun f => f.1 = name).map (·.2)
  | _ => none

def asStr? : Json → Option String
  | .str s => some s
  | _ => none

/-! ### Derived decoding -/

/-- A sequence that stands for an object, with the values of its fields in order. -/
def named (names : List String) : Json → Json
  | .arr items => if items.length ≤ names.length then .obj (names.zip items) else .arr items
  | j => j

/-- A field of a derived `Deserialize`: absent, or present once. -/
def field? (j : Json) (name : String) : Except String (Option Json) :=
  match j with
  | .obj fields =>
    match fields.filter fun f => f.1 = name with
    | [] => .ok none
    | [f] => .ok (some f.2)
    | _ => .error ("duplicate field `" ++ name ++ "`")
  | _ => .error "invalid type: expected a map"

/-- A field without a default. -/
def required {α : Type} (j : Json) (name : String) (decode : Json → Except String α) :
    Except String α := do
  match ← j.field? name with
  | some v => decode v
  | none => .error ("missing field `" ++ name ++ "`")

/-- A field with `#[serde(default = ...)]`. -/
def defaulted {α : Type} (j : Json) (name : String) (default : α)
    (decode : Json → Except String α) : Except String α := do
  match ← j.field? name with
  | some v => decode v
  | none => .ok default

/-- A field of an `Option` type, for which `null` is the same as absent. -/
def optional {α : Type} (j : Json) (name : String) (decode : Json → Except String α) :
    Except String (Option α) := do
  match ← j.field? name with
  | some .null | none => .ok none
  | some v => (decode v).map some

def decodeString : Json → Except String String
  | .str s => .ok s
  | _ => .error "invalid type: expected a string"

def decodeBool : Json → Except String Bool
  | .bool b => .ok b
  | _ => .error "invalid type: expected a boolean"

def decodeI64 : Json → Except String Int64
  | .int n =>
    if -2 ^ 63 ≤ n ∧ n < 2 ^ 63 then .ok (Int64.ofInt n)
    else .error "invalid value: expected i64"
  | _ => .error "invalid type: expected i64"

def decodeList {α : Type} (decode : Json → Except String α) : Json → Except String (List α)
  | .arr items => items.mapM decode
  | _ => .error "invalid type: expected a sequence"

theorem required_eq_ok {α : Type} {j : Json} {name : String} {decode : Json → Except String α}
    {a : α} : j.required name decode = .ok a ↔ ∃ v, j.field? name = .ok (some v) ∧ decode v = .ok a := by
  unfold required
  rw [except_bind_eq_ok]
  constructor
  · rintro ⟨v, hv, h⟩
    cases v with
    | none => cases h
    | some v => exact ⟨v, hv, h⟩
  · rintro ⟨v, hv, h⟩
    exact ⟨some v, hv, h⟩

/-- An optional field that is there with a value other than `null`. -/
theorem optional_of_field {α : Type} {j v : Json} {name : String} {decode : Json → Except String α}
    (hfield : j.field? name = .ok (some v)) (hv : v ≠ .null) :
    j.optional name decode = (decode v).map some := by
  unfold optional
  rw [hfield]
  cases v with
  | null => exact absurd rfl hv
  | _ => rfl

theorem decodeI64_eq_ok {v : Json} {e : Int64} :
    v.decodeI64 = .ok e ↔ ∃ n, v = .int n ∧ e.toInt = n := by
  constructor
  · intro h
    cases v with
    | int n =>
      simp only [decodeI64] at h
      split_ifs at h with hrange
      cases h
      exact ⟨n, rfl, Int64.toInt_ofInt_of_le (by omega) (by omega)⟩
    | _ => cases h
  · rintro ⟨_, rfl, rfl⟩
    rw [decodeI64, if_pos ⟨e.le_toInt, e.toInt_lt⟩, Int64.ofInt_toInt]

/-- A field that is absent, or present once, is what a lookup finds. -/
theorem get?_of_field? {j : Json} {claim : Option Json} {name : String} (h : j.field? name = .ok claim) :
    j.get? name = claim := by
  cases j with
  | obj fields =>
    simp only [field?] at h
    split at h
    · rename_i hf
      cases h
      simp only [get?]
      rw [← List.head?_filter, List.filter_reverse, hf]
      rfl
    · rename_i f hf
      cases h
      simp only [get?]
      rw [← List.head?_filter, List.filter_reverse, hf]
      rfl
    · cases h
  | _ => cases h

end Json

/-! ## Tokens -/

inductive JwtAlgorithm where
  | ES256 | ES384 | RS256 | RS384 | RS512 | PS256 | PS384 | PS512 | EdDSA | HS256 | HS384 | HS512
  deriving DecidableEq, Repr

structure JwtHeader where
  alg : JwtAlgorithm
  typ : Option String
  kid : Option String

/-- A key in the form the crate verifies with. -/
abbrev DecodingKey := Bytes

inductive EllipticCurve where
  | p256 | p384 | p521 | ed25519
  deriving DecidableEq

/-- The key parameters of a JWK, with the key itself as the crate reads it. -/
inductive AlgorithmParameters where
  | ellipticCurve (curve : EllipticCurve) (key : Bytes)
  | rsa (key : Bytes)
  | octetKeyPair (curve : EllipticCurve) (key : Bytes)
  | octetKey (key : Bytes)
  deriving DecidableEq

structure Jwk where
  algorithm : AlgorithmParameters
  keyAlgorithm : Option JwtAlgorithm
  keyId : Option String
  deriving DecidableEq

/-! ## Validation -/

/-- What a token is validated against. -/
structure Validation where
  algorithm : JwtAlgorithm
  requiredSpecClaims : List String := ["exp"]
  leeway : ℕ := 60
  validateExp : Bool := true
  validateNbf : Bool := false
  validateAud : Bool := true
  aud : Option (List String) := none
  iss : Option (List String) := none

/-- The claims that are validated, in the order in which they are read. -/
def registeredClaims : List String := ["exp", "nbf", "sub", "iss", "aud"]

/-- The registered claims are there at most once, dates as unsigned integers and the others as texts. -/
structure Json.Registers (payload : Json) : Prop where
  object : ∃ fields, payload = .obj fields
  once : ∀ name ∈ registeredClaims, ∃ claim, payload.field? name = .ok claim
  date : ∀ name ∈ ["exp", "nbf"], ∀ v, payload.get? name = some v → ∃ n : ℕ, v = .int n ∧ n < 2 ^ 64
  text : ∀ name ∈ ["sub", "iss", "aud"], ∀ v, payload.get? name = some v → ∃ s, v = .str s

namespace Validation

/-- Whether validating reads the clock. -/
def readsClock (v : Validation) : Bool := v.validateExp || v.validateNbf

/-- What a validation demands of claims at the time `now`. A date that is no unsigned integer is refused. -/
structure Admits (v : Validation) (claims : Json) (now : SystemTime) : Prop where
  required : ∀ name ∈ v.requiredSpecClaims, name ∈ registeredClaims → (claims.get? name).isSome
  exp : v.validateExp = true → ∀ n, claims.get? "exp" = some (.int n) →
    0 ≤ n ∧ (unixSecs now : ℤ) ≤ n + v.leeway
  nbf : v.validateNbf = true → ∀ n, claims.get? "nbf" = some (.int n) →
    0 ≤ n ∧ n ≤ (unixSecs now : ℤ) + v.leeway
  iss : ∀ correct ∈ v.iss, ∀ iss, claims.get? "iss" = some (.str iss) → iss ∈ correct
  aud : v.validateAud = true → ∀ aud, claims.get? "aud" = some (.str aud) →
    ∃ correct ∈ v.aud, aud ∈ correct

end Validation

/-- The validation of claims by the `jsonwebtoken` crate, with what is documented of it. -/
structure ClaimsValidator where
  /-- Whether a payload passes when the clock shows an instant. Without a text it panics. -/
  validate : Validation → Json → SystemTime → Except (Option String) Unit
  /-- The second of an instant can be told, and a leeway taken off it. -/
  Tells : ℕ → SystemTime → Prop
  epoch_of_tells : ∀ {leeway now}, Tells leeway now → unixEpoch ≤ now
  tells_of_le : ∀ {leeway now}, unixEpoch ≤ now → leeway ≤ unixSecs now → Tells leeway now
  admits_of_validate : ∀ {v payload now}, validate v payload now = .ok () →
    v.Admits (payload.named registeredClaims) now ∧ (v.validateExp = true → Tells v.leeway now)
  validate_of_admits : ∀ {v payload now}, payload.Registers → v.Admits payload now →
    (v.readsClock = true → Tells v.leeway now) → validate v payload now = .ok ()

/-- The functions of the `jsonwebtoken` crate that look at the bytes of a token or a key, and its
validation of claims. -/
structure Jwt where
  decodeHeader : String → Except String JwtHeader
  /-- The algorithm and the signature of a token, against a key. -/
  verifySignature : JwtAlgorithm → DecodingKey → String → Except String Unit
  /-- The JSON value of the payload. -/
  payload : String → Except String Json
  claims : ClaimsValidator
  /-- `DecodingKey::from_jwk`. -/
  decodingKeyFromJwk : Jwk → Except String DecodingKey
  /-- `DecodingKey::from_ec_pem`, of the PEM form of these bytes. -/
  decodingKeyFromEcSpki : Bytes → Except String DecodingKey
  /-- `DecodingKey::from_rsa_pem`, of the PEM form of these bytes. -/
  decodingKeyFromRsaSpki : Bytes → Except String DecodingKey

namespace Jwt

/-- The claims of a token when the clock shows `now`. -/
def check (jwt : Jwt) (validation : Validation) (report : String → Error) (payload : Json)
    (now : SystemTime) : Outcome Unit :=
  match jwt.claims.validate validation payload now with
  | .ok () => .ok ()
  | .error (some e) => .error (.error (report e))
  | .error none => .error (.panic "Time went backwards")

theorem check_eq_ok {jwt : Jwt} {validation : Validation} {report : String → Error} {payload : Json}
    {now : SystemTime} : jwt.check validation report payload now = .ok () ↔
      jwt.claims.validate validation payload now = .ok () := by
  unfold check
  split <;> simp [*]

/-- `jsonwebtoken::decode`, when the clock shows `now`. -/
def decode {α : Type} (jwt : Jwt) (token : String) (key : DecodingKey) (validation : Validation)
    (claims : Json → Except String α) (report : String → Error) (now : SystemTime) : Outcome α := do
  (mapErr report (jwt.verifySignature validation.algorithm key token)).orAbort
  let payload ← (mapErr report (jwt.payload token)).orAbort
  let decoded ← (mapErr report (claims payload)).orAbort
  jwt.check validation report payload now
  .ok decoded

theorem decode_eq_ok {α : Type} {jwt : Jwt} {token : String} {key : DecodingKey}
    {validation : Validation} {claims : Json → Except String α} {report : String → Error}
    {now : SystemTime} {a : α} :
    jwt.decode token key validation claims report now = .ok a ↔
      jwt.verifySignature validation.algorithm key token = .ok () ∧
        ∃ payload, jwt.payload token = .ok payload ∧ claims payload = .ok a ∧
          jwt.claims.validate validation payload now = .ok () := by
  simp only [decode, except_bind_eq_ok, Result.orAbort_eq_ok, mapErr_eq_ok, Except.ok.injEq]
  constructor
  · rintro ⟨_, hsig, payload, hpayload, a', ha', _, hcheck, rfl⟩
    exact ⟨hsig, payload, hpayload, ha', check_eq_ok.mp hcheck⟩
  · rintro ⟨hsig, payload, hpayload, ha, hcheck⟩
    exact ⟨(), hsig, payload, hpayload, a, ha, (), check_eq_ok.mpr hcheck, rfl⟩

end Jwt

end Ayane
