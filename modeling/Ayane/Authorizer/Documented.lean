import Ayane.Testca.Server

/-!
# The tokens that are documented

What is documented of a token says which of its claims are required and when they hold. The
claims are decided in two places, by the validation of the registered ones and by the decoding
of all of them. The first refuses dates before the epoch, and the second also requires `iat` and
`nbf`. A token that is accepted is a documented one; the converse holds as far as the payload can be
decoded.
-/

namespace Ayane

open Effect

namespace Json

/-! ## Fields -/

/-- The field is there once, with a value that satisfies `p`. -/
def Holds (j : Json) (name : String) (p : Json → Prop) : Prop :=
  ∃ v, j.field? name = .ok (some v) ∧ p v

/-- The field is absent, or there once with a value that satisfies `p`. -/
def Allows (j : Json) (name : String) (p : Json → Prop) : Prop :=
  ∃ field, j.field? name = .ok field ∧ ∀ v, field = some v → p v

def IsString (v : Json) : Prop := ∃ s, v = .str s

def IsBool (v : Json) : Prop := ∃ b, v = .bool b

/-- An integer that an `i64` holds. -/
def IsI64 (v : Json) : Prop := ∃ n, v = .int n ∧ -2 ^ 63 ≤ n ∧ n < 2 ^ 63

def IsStrings (v : Json) : Prop := ∃ items, v = .arr items ∧ ∀ item ∈ items, item.IsString

/-- The value is `null`, or satisfies `p`. -/
def OrNull (p : Json → Prop) (v : Json) : Prop := v = .null ∨ p v

section

variable {α : Type} {j v : Json} {name : String} {decode : Json → Except String α}

theorem exists_decodeString : (∃ s, v.decodeString = .ok s) ↔ v.IsString := by
  cases v <;> simp [decodeString, IsString]

theorem exists_decodeBool : (∃ b, v.decodeBool = .ok b) ↔ v.IsBool := by
  cases v <;> simp [decodeBool, IsBool]

theorem exists_decodeI64 : (∃ n, v.decodeI64 = .ok n) ↔ v.IsI64 := by
  cases v with
  | int n =>
    simp only [decodeI64]
    split_ifs with h
    · exact ⟨fun _ => ⟨n, rfl, h⟩, fun _ => ⟨_, rfl⟩⟩
    · constructor
      · rintro ⟨_, hn⟩
        cases hn
      · rintro ⟨_, hn, hrange⟩
        cases hn
        exact absurd hrange h
  | _ => simp [decodeI64, IsI64]

theorem exists_decodeStrings : (∃ ss, decodeList decodeString v = .ok ss) ↔ v.IsStrings := by
  cases v with
  | arr items =>
    simp only [decodeList, IsStrings, Json.arr.injEq, exists_eq_left', ← exists_decodeString]
    constructor
    · rintro ⟨ss, hss⟩ item hitem
      exact exists_of_mapM hss hitem
    · exact exists_mapM
  | _ => simp [decodeList, IsStrings]

variable {p : Json → Prop}

/-- A field without a default can be decoded when it is there with a value that can. -/
theorem exists_required (hp : ∀ v, (∃ a, decode v = .ok a) ↔ p v) :
    (∃ a, j.required name decode = .ok a) ↔ j.Holds name p := by
  simp only [required_eq_ok, Holds, ← hp]
  constructor
  · rintro ⟨a, v, hv, ha⟩
    exact ⟨v, hv, a, ha⟩
  · rintro ⟨v, hv, a, ha⟩
    exact ⟨a, v, hv, ha⟩

theorem exists_defaulted (hp : ∀ v, (∃ a, decode v = .ok a) ↔ p v) {default : α} :
    (∃ a, j.defaulted name default decode = .ok a) ↔ j.Allows name p := by
  simp only [defaulted, except_bind_eq_ok, Allows, ← hp]
  constructor
  · rintro ⟨a, field, hfield, ha⟩
    refine ⟨field, hfield, ?_⟩
    rintro v rfl
    exact ⟨a, ha⟩
  · rintro ⟨field, hfield, h⟩
    cases field with
    | none => exact ⟨default, none, hfield, rfl⟩
    | some v =>
      obtain ⟨a, ha⟩ := h v rfl
      exact ⟨a, some v, hfield, ha⟩

theorem exists_optional (hp : ∀ v, (∃ a, decode v = .ok a) ↔ p v) :
    (∃ a, j.optional name decode = .ok a) ↔ j.Allows name (OrNull p) := by
  unfold Allows
  cases hfield : j.field? name with
  | error e => simp [optional, hfield, bind, Except.bind]
  | ok field =>
    cases field with
    | none => simp [optional, hfield, bind, Except.bind]
    | some v =>
      by_cases hv : v = .null
      · subst hv
        simp [optional, hfield, bind, Except.bind, OrNull]
      · rw [optional_of_field hfield hv]
        cases hdecode : decode v <;> simp [OrNull, hv, hdecode, Except.map, ← hp]

end

end Json

/-! ## Payloads -/

/-- What the confirmation of a token may be: an object, or its one value in a sequence. -/
def Json.IsConfirmation (v : Json) : Prop :=
  (v.named ["x5t#S256"]).Allows "x5t#S256" (Json.OrNull Json.IsString)

/-- What the scope of a token may be: an object, or its values in order. -/
def Json.IsOnceScope (v : Json) : Prop :=
  (v.named ["scope", "exp"]).Holds "scope" Json.IsString ∧
    (v.named ["scope", "exp"]).Allows "exp" (Json.OrNull Json.IsI64)

/-- An integer that is a date from the epoch on. -/
def Json.IsDate (v : Json) : Prop := v.IsI64 ∧ ∀ n, v = .int n → 0 ≤ n

/-- A payload that can be decoded: every claim is there at most once and of its type, `iat` and `nbf`
are there, and neither `nbf` nor `exp` is negative. -/
structure Decodable (payload : Json) : Prop where
  iss : payload.Holds "iss" Json.IsString
  aud : payload.Holds "aud" Json.IsString
  sub : payload.Holds "sub" Json.IsString
  sans : payload.Allows "sans" Json.IsStrings
  iat : payload.Holds "iat" Json.IsI64
  nbf : payload.Holds "nbf" Json.IsDate
  exp : payload.Holds "exp" Json.IsDate
  jti : payload.Allows "jti" (Json.OrNull Json.IsString)
  renew : payload.Allows "renew" Json.IsBool
  cnf : payload.Allows "cnf" (Json.OrNull Json.IsConfirmation)
  once : payload.Allows "once" (Json.OrNull Json.IsOnceScope)

theorem Confirmation.exists_ofJson {v : Json} :
    (∃ c, Confirmation.ofJson v = .ok c) ↔ v.IsConfirmation := by
  have hfield : (∃ c, Confirmation.ofJson v = .ok c) ↔
      ∃ a, (v.named ["x5t#S256"]).optional "x5t#S256" Json.decodeString = .ok a := by
    simp only [ofJson, except_bind_eq_ok, Except.ok.injEq]
    constructor
    · rintro ⟨_, a, ha, -⟩
      exact ⟨a, ha⟩
    · rintro ⟨a, ha⟩
      exact ⟨_, a, ha, rfl⟩
  exact hfield.trans (Json.exists_optional fun _ => Json.exists_decodeString)

theorem OnceScope.exists_ofJson {v : Json} :
    (∃ o, OnceScope.ofJson v = .ok o) ↔ v.IsOnceScope := by
  have hfields : (∃ o, OnceScope.ofJson v = .ok o) ↔
      (∃ a, (v.named ["scope", "exp"]).required "scope" Json.decodeString = .ok a) ∧
        ∃ a, (v.named ["scope", "exp"]).optional "exp" Json.decodeI64 = .ok a := by
    simp only [ofJson, except_bind_eq_ok, Except.ok.injEq]
    constructor
    · rintro ⟨_, a, ha, b, hb, -⟩
      exact ⟨⟨a, ha⟩, b, hb⟩
    · rintro ⟨⟨a, ha⟩, b, hb⟩
      exact ⟨_, a, ha, b, hb, rfl⟩
  exact hfields.trans (and_congr (Json.exists_required fun _ => Json.exists_decodeString)
    (Json.exists_optional fun _ => Json.exists_decodeI64))

theorem OttClaims.exists_ofJson {payload : Json} (hobject : payload.named OttClaims.names = payload) :
    (∃ claims, OttClaims.ofJson payload = .ok claims) ↔
      payload.Holds "iss" Json.IsString ∧ payload.Holds "aud" Json.IsString ∧
      payload.Holds "sub" Json.IsString ∧ payload.Allows "sans" Json.IsStrings ∧
      payload.Holds "iat" Json.IsI64 ∧ payload.Holds "nbf" Json.IsI64 ∧
      payload.Holds "exp" Json.IsI64 ∧ payload.Allows "jti" (Json.OrNull Json.IsString) ∧
      payload.Allows "renew" Json.IsBool ∧ payload.Allows "cnf" (Json.OrNull Json.IsConfirmation) ∧
      payload.Allows "once" (Json.OrNull Json.IsOnceScope) := by
  have string : ∀ name, (∃ a, payload.required name Json.decodeString = .ok a) ↔
      payload.Holds name Json.IsString := fun _ => Json.exists_required fun _ => Json.exists_decodeString
  have number : ∀ name, (∃ a, payload.required name Json.decodeI64 = .ok a) ↔
      payload.Holds name Json.IsI64 := fun _ => Json.exists_required fun _ => Json.exists_decodeI64
  rw [← string, ← string, ← string, ← number, ← number, ← number,
    ← @Json.exists_defaulted _ payload "sans" _ _ (fun _ => Json.exists_decodeStrings) [],
    ← @Json.exists_defaulted _ payload "renew" _ _ (fun _ => Json.exists_decodeBool) true,
    ← @Json.exists_optional _ payload "jti" _ _ fun _ => Json.exists_decodeString,
    ← @Json.exists_optional _ payload "cnf" _ _ fun _ => Confirmation.exists_ofJson,
    ← @Json.exists_optional _ payload "once" _ _ fun _ => OnceScope.exists_ofJson]
  simp only [ofJson, hobject, except_bind_eq_ok, Except.ok.injEq]
  constructor
  · rintro ⟨_, iss, hiss, aud, haud, sub, hsub, sans, hsans, iat, hiat, nbf, hnbf, exp, hexp, jti, hjti,
      renew, hrenew, cnf, hcnf, once, honce, -⟩
    exact ⟨⟨iss, hiss⟩, ⟨aud, haud⟩, ⟨sub, hsub⟩, ⟨sans, hsans⟩, ⟨iat, hiat⟩, ⟨nbf, hnbf⟩, ⟨exp, hexp⟩,
      ⟨jti, hjti⟩, ⟨renew, hrenew⟩, ⟨cnf, hcnf⟩, once, honce⟩
  · rintro ⟨⟨iss, hiss⟩, ⟨aud, haud⟩, ⟨sub, hsub⟩, ⟨sans, hsans⟩, ⟨iat, hiat⟩, ⟨nbf, hnbf⟩, ⟨exp, hexp⟩,
      ⟨jti, hjti⟩, ⟨renew, hrenew⟩, ⟨cnf, hcnf⟩, once, honce⟩
    exact ⟨_, iss, hiss, aud, haud, sub, hsub, sans, hsans, iat, hiat, nbf, hnbf, exp, hexp, jti, hjti,
      renew, hrenew, cnf, hcnf, once, honce, rfl⟩

/-! ## Tokens -/

/-- An audience that a verifier takes tokens for. -/
def Serves (audience : String) (audiences : List String) (aud : String) : Prop :=
  if audiences = [] then aud = audience else aud ∈ audiences

/-- What is documented of a token whose payload is `payload`, for requests to `audience` at the time
`now`. -/
structure Documented (crates : ServerCrates) (token audience issuer : String)
    (audiences : List String) (key : SigningKey) (now : SystemTime) (payload : Json) : Prop where
  signature : crates.jwt.verifySignature key.algorithm key.decodingKey token = .ok ()
  iss : payload.get? "iss" = some (.str issuer)
  aud : ∃ aud, payload.get? "aud" = some (.str aud) ∧ Serves audience audiences aud
  exp : ∃ exp, payload.get? "exp" = some (.int exp) ∧ (unixSecs now : ℤ) - 60 ≤ exp
  sub : ∃ sub, payload.get? "sub" = some (.str sub)
  nbf : ∀ v, payload.get? "nbf" = some v → ∃ nbf, v = .int nbf ∧ nbf ≤ (unixSecs now : ℤ) + 60

theorem mem_audiences_iff {audience aud : String} {audiences : List String} :
    aud ∈ (if audiences.isEmpty then [audience] else audiences) ↔ Serves audience audiences aud := by
  unfold Serves
  cases audiences <;> simp

section

variable {payload : Json} {now : SystemTime}

theorem Json.Holds.get? {name : String} {p : Json → Prop} (h : payload.Holds name p) :
    ∃ v, payload.get? name = some v ∧ p v := by
  obtain ⟨v, hfield, hv⟩ := h
  exact ⟨v, Json.get?_of_field? hfield, hv⟩

theorem Json.Holds.once {name : String} {p : Json → Prop} (h : payload.Holds name p) :
    ∃ claim, payload.field? name = .ok claim := by
  obtain ⟨v, hfield, -⟩ := h
  exact ⟨_, hfield⟩

theorem Json.Holds.mono {name : String} {p q : Json → Prop} (h : payload.Holds name p)
    (hq : ∀ v, payload.get? name = some v → p v → q v) : payload.Holds name q := by
  obtain ⟨v, hfield, hv⟩ := h
  exact ⟨v, hfield, hq v (Json.get?_of_field? hfield) hv⟩

/-- A payload with a field is an object. -/
theorem Json.Holds.object {name : String} {p : Json → Prop} (h : payload.Holds name p) :
    ∃ fields, payload = .obj fields := by
  obtain ⟨v, hfield, -⟩ := h
  cases payload with
  | obj fields => exact ⟨fields, rfl⟩
  | _ => cases hfield

theorem Json.IsDate.exists_nat {v : Json} (h : v.IsDate) : ∃ n : ℕ, v = .int n ∧ n < 2 ^ 64 := by
  obtain ⟨⟨n, rfl, -, hn⟩, hpositive⟩ := h
  obtain ⟨n, rfl⟩ := Int.eq_ofNat_of_zero_le (hpositive n rfl)
  refine ⟨n, rfl, lt_trans ?_ (by decide : 2 ^ 63 < 2 ^ 64)⟩
  exact_mod_cast hn

theorem Json.registers_of_holds (hexp : payload.Holds "exp" Json.IsDate)
    (hnbf : payload.Holds "nbf" Json.IsDate) (hsub : payload.Holds "sub" Json.IsString)
    (hiss : payload.Holds "iss" Json.IsString) (haud : payload.Holds "aud" Json.IsString) :
    payload.Registers := by
  obtain ⟨_, hgetExp, hdateExp⟩ := hexp.get?
  obtain ⟨_, hgetNbf, hdateNbf⟩ := hnbf.get?
  obtain ⟨_, hgetSub, sub, rfl⟩ := hsub.get?
  obtain ⟨_, hgetIss, iss, rfl⟩ := hiss.get?
  obtain ⟨_, hgetAud, aud, rfl⟩ := haud.get?
  refine ⟨hexp.object, ?_, ?_, ?_⟩
  · simp only [registeredClaims, List.forall_mem_cons]
    exact ⟨hexp.once, hnbf.once, hsub.once, hiss.once, haud.once, by simp⟩
  · simp only [List.forall_mem_cons, hgetExp, hgetNbf, Option.some.injEq, forall_eq']
    exact ⟨hdateExp.exists_nat, hdateNbf.exists_nat, by simp⟩
  · simp [hgetSub, hgetIss, hgetAud]

section

variable {audience issuer : String} {audiences : List String} {key : SigningKey}

/-- What is demanded of claims of which each is of its type. -/
theorem admits_tokenValidation_iff (hiss : payload.Holds "iss" Json.IsString)
    (haud : payload.Holds "aud" Json.IsString) (hsub : payload.Holds "sub" Json.IsString)
    (hexp : payload.Holds "exp" Json.IsI64) (hnbf : payload.Holds "nbf" Json.IsI64) :
    (tokenValidation audience issuer audiences key TokenVerifier.leewaySecs).Admits payload now ↔
      payload.get? "iss" = some (.str issuer) ∧
        (∃ aud, payload.get? "aud" = some (.str aud) ∧ Serves audience audiences aud) ∧
        (∃ exp, payload.get? "exp" = some (.int exp) ∧ 0 ≤ exp ∧ (unixSecs now : ℤ) - 60 ≤ exp) ∧
        ∃ nbf, payload.get? "nbf" = some (.int nbf) ∧ 0 ≤ nbf ∧ nbf ≤ (unixSecs now : ℤ) + 60 := by
  obtain ⟨_, hgetIss, iss, rfl⟩ := hiss.get?
  obtain ⟨_, hgetAud, aud, rfl⟩ := haud.get?
  obtain ⟨_, hgetSub, sub, rfl⟩ := hsub.get?
  obtain ⟨_, hgetExp, exp, rfl, -⟩ := hexp.get?
  obtain ⟨_, hgetNbf, nbf, rfl, -⟩ := hnbf.get?
  simp only [hgetIss, hgetAud, hgetExp, hgetNbf, Option.some.injEq, Json.str.injEq, Json.int.injEq,
    exists_eq_left']
  constructor
  · intro hadmits
    obtain ⟨hpositive, hfresh⟩ := hadmits.exp rfl exp hgetExp
    obtain ⟨correct, hcorrect, hserves⟩ := hadmits.aud rfl aud hgetAud
    cases hcorrect
    have hissuer := hadmits.iss [issuer] rfl iss hgetIss
    exact ⟨List.mem_singleton.mp hissuer, mem_audiences_iff.mp hserves,
      ⟨hpositive, sub_le_iff_le_add.mpr hfresh⟩, hadmits.nbf rfl nbf hgetNbf⟩
  · rintro ⟨rfl, hserves, ⟨hpositive, hfresh⟩, hmature⟩
    refine ⟨by simp [tokenValidation, hgetExp, hgetAud, hgetIss, hgetSub], ?_, ?_, ?_, ?_⟩
    · rintro - n hn
      cases hgetExp.symm.trans hn
      exact ⟨hpositive, sub_le_iff_le_add.mp hfresh⟩
    · rintro - n hn
      cases hgetNbf.symm.trans hn
      exact hmature
    · rintro correct hcorrect s hs
      cases hcorrect
      cases hgetIss.symm.trans hs
      exact List.mem_singleton_self _
    · rintro - s hs
      cases hgetAud.symm.trans hs
      exact ⟨_, rfl, mem_audiences_iff.mpr hserves⟩

/-- Such claims pass when what is demanded of them holds and the clock can be told. -/
theorem validate_tokenValidation_iff {validator : ClaimsValidator}
    (hiss : payload.Holds "iss" Json.IsString) (haud : payload.Holds "aud" Json.IsString)
    (hsub : payload.Holds "sub" Json.IsString) (hexp : payload.Holds "exp" Json.IsI64)
    (hnbf : payload.Holds "nbf" Json.IsI64) :
    validator.validate (tokenValidation audience issuer audiences key TokenVerifier.leewaySecs) payload now =
        .ok () ↔
      validator.Tells TokenVerifier.leewaySecs now ∧ payload.get? "iss" = some (.str issuer) ∧
        (∃ aud, payload.get? "aud" = some (.str aud) ∧ Serves audience audiences aud) ∧
        (∃ exp, payload.get? "exp" = some (.int exp) ∧ 0 ≤ exp ∧ (unixSecs now : ℤ) - 60 ≤ exp) ∧
        ∃ nbf, payload.get? "nbf" = some (.int nbf) ∧ 0 ≤ nbf ∧ nbf ≤ (unixSecs now : ℤ) + 60 := by
  obtain ⟨fields, rfl⟩ := hiss.object
  rw [← admits_tokenValidation_iff hiss haud hsub hexp hnbf]
  constructor
  · intro hvalidates
    obtain ⟨hadmits, htells⟩ := validator.admits_of_validate hvalidates
    exact ⟨htells rfl, hadmits⟩
  · rintro ⟨htells, hadmits⟩
    have hdateExp : (Json.obj fields).Holds "exp" Json.IsDate := hexp.mono fun v hv hi64 =>
      ⟨hi64, by rintro n rfl; exact (hadmits.exp rfl n hv).1⟩
    have hdateNbf : (Json.obj fields).Holds "nbf" Json.IsDate := hnbf.mono fun v hv hi64 =>
      ⟨hi64, by rintro n rfl; exact (hadmits.nbf rfl n hv).1⟩
    exact validator.validate_of_admits (Json.registers_of_holds hdateExp hdateNbf hsub hiss haud) hadmits
      fun _ => htells

end

end

/-- A token is accepted when its signature verifies, its payload is the claims of a token, and these
pass the checks. -/
theorem exists_validateSigned_eq_ok {crates : ServerCrates} {token audience issuer : String}
    {audiences : List String} {key : SigningKey} {leewaySecs : Nat} {now : SystemTime} {payload : Json}
    (hpayload : crates.jwt.payload token = .ok payload) :
    (∃ verified, validateSigned crates token audience issuer audiences key leewaySecs now = .ok verified) ↔
      crates.jwt.verifySignature key.algorithm key.decodingKey token = .ok () ∧
        (∃ claims, OttClaims.ofJson payload = .ok claims) ∧
        crates.jwt.claims.validate (tokenValidation audience issuer audiences key leewaySecs) payload now =
          .ok () := by
  simp only [validateSigned, except_bind_eq_ok, Jwt.decode_eq_ok, hpayload, Except.ok.injEq]
  constructor
  · rintro ⟨_, claims, ⟨hsig, _, rfl, hclaims, hcheck⟩, -⟩
    exact ⟨hsig, ⟨claims, hclaims⟩, hcheck⟩
  · rintro ⟨hsig, ⟨claims, hclaims⟩, hcheck⟩
    exact ⟨_, claims, ⟨hsig, payload, rfl, hclaims, hcheck⟩, rfl⟩

/-- A token is accepted when it is a documented one, its payload can be decoded, and the clock can be
told. -/
theorem exists_validateSigned_iff {crates : ServerCrates} {token audience issuer : String}
    {audiences : List String} {key : SigningKey} {now : SystemTime} {payload : Json}
    (hpayload : crates.jwt.payload token = .ok payload) :
    (∃ verified, validateSigned crates token audience issuer audiences key TokenVerifier.leewaySecs now =
        .ok verified) ↔
      Documented crates token audience issuer audiences key now payload ∧ Decodable payload ∧
        crates.jwt.claims.Tells TokenVerifier.leewaySecs now := by
  rw [exists_validateSigned_eq_ok hpayload]
  constructor
  · rintro ⟨hsig, ⟨claims, hclaims⟩, hvalidates⟩
    have hadmits := (crates.jwt.claims.admits_of_validate hvalidates).1
    obtain ⟨fields, rfl⟩ := object_of_admits (by simp [tokenValidation]) hclaims hadmits
    obtain ⟨hiss, haud, hsub, hsans, hiat, hnbf, hexp, hjti, hrenew, hcnf, honce⟩ :=
      (OttClaims.exists_ofJson rfl).mp ⟨claims, hclaims⟩
    obtain ⟨htells, hissuer, hserves, ⟨exp, hgetExp, hpositive, hfresh⟩, nbf, hgetNbf, hdate, hmature⟩ :=
      (validate_tokenValidation_iff hiss haud hsub hexp hnbf).mp hvalidates
    obtain ⟨_, hgetSub, sub, rfl⟩ := hsub.get?
    refine ⟨⟨hsig, hissuer, hserves, ⟨exp, hgetExp, hfresh⟩, ⟨sub, hgetSub⟩, fun v hv => ?_⟩,
      ⟨hiss, haud, hsub, hsans, hiat, hnbf.mono fun v hv hi64 => ⟨hi64, ?_⟩,
        hexp.mono fun v hv hi64 => ⟨hi64, ?_⟩, hjti, hrenew, hcnf, honce⟩, htells⟩
    · cases hgetNbf.symm.trans hv
      exact ⟨nbf, rfl, hmature⟩
    · rintro n rfl
      cases hgetNbf.symm.trans hv
      exact hdate
    · rintro n rfl
      cases hgetExp.symm.trans hv
      exact hpositive
  · rintro ⟨hdoc, hdec, htells⟩
    obtain ⟨fields, rfl⟩ := hdec.iss.object
    have hexp := hdec.exp.mono fun _ _ hdate => hdate.1
    have hnbf := hdec.nbf.mono fun _ _ hdate => hdate.1
    refine ⟨hdoc.signature, (OttClaims.exists_ofJson rfl).mpr ⟨hdec.iss, hdec.aud, hdec.sub, hdec.sans,
      hdec.iat, hnbf, hexp, hdec.jti, hdec.renew, hdec.cnf, hdec.once⟩,
      (validate_tokenValidation_iff hdec.iss hdec.aud hdec.sub hexp hnbf).mpr
        ⟨htells, hdoc.iss, hdoc.aud, ?_, ?_⟩⟩
    · obtain ⟨exp, hget, hfresh⟩ := hdoc.exp
      obtain ⟨_, hget', -, hpositive⟩ := hdec.exp.get?
      cases hget.symm.trans hget'
      exact ⟨exp, hget, hpositive exp rfl, hfresh⟩
    · obtain ⟨_, hget, -, hpositive⟩ := hdec.nbf.get?
      obtain ⟨nbf, rfl, hmature⟩ := hdoc.nbf _ hget
      exact ⟨nbf, hget, hpositive nbf rfl, hmature⟩

/-- Exactly the documented tokens are accepted, as far as those can be decoded and the clock can be
told. -/
theorem validateSigned_documented_iff {crates : ServerCrates} {token audience issuer : String}
    {audiences : List String} {key : SigningKey} {now : SystemTime} {payload : Json}
    (hpayload : crates.jwt.payload token = .ok payload) :
    ((∃ verified, validateSigned crates token audience issuer audiences key TokenVerifier.leewaySecs
        now = .ok verified) ↔
      Documented crates token audience issuer audiences key now payload) ↔
    (Documented crates token audience issuer audiences key now payload →
      Decodable payload ∧ crates.jwt.claims.Tells TokenVerifier.leewaySecs now) := by
  rw [exists_validateSigned_iff hpayload]
  constructor
  · intro h hdoc
    exact (h.mpr hdoc).2
  · intro h
    exact ⟨fun haccepted => haccepted.1, fun hdoc => ⟨hdoc, h hdoc⟩⟩

/-! ## Tokens without a claim -/

/-- A payload of the small service's provisioner, less one claim. -/
def ottWithout (claim : String) : Json :=
  .obj ((Testca.ottFields "web" "t-1" 1000 1300).filter fun field => field.1 ≠ claim)

/-- Crates that know such payloads: one without `nbf`, one without `iat` and one without `jti`. -/
def sparseCrates : ServerCrates :=
  Testca.serverCrates [] [] [([1], ottWithout "nbf"), ([2], ottWithout "iat"), ([3], ottWithout "jti")]

def sparseKey : SigningKey := { decodingKey := [9], algorithm := .ES256 }

/-- A token without a `jti` is accepted. -/
theorem validateSigned_documented_iff_jti :
    ((∃ verified, validateSigned sparseCrates (Testca.token "o" 3 [9]) "ca" "ci" [] sparseKey
        TokenVerifier.leewaySecs (Testca.instant 1000) = .ok verified) ↔
      Documented sparseCrates (Testca.token "o" 3 [9]) "ca" "ci" [] sparseKey (Testca.instant 1000)
        (ottWithout "jti")) ↔
    (Documented sparseCrates (Testca.token "o" 3 [9]) "ca" "ci" [] sparseKey (Testca.instant 1000)
        (ottWithout "jti") →
      Decodable (ottWithout "jti") ∧
        sparseCrates.jwt.claims.Tells TokenVerifier.leewaySecs (Testca.instant 1000)) :=
  validateSigned_documented_iff rfl

/-- Tokens without an `nbf`, or without an `iat`, are documented and yet rejected. -/
theorem rejected_sparse :
    (Documented sparseCrates (Testca.token "o" 1 [9]) "ca" "ci" [] sparseKey (Testca.instant 1000)
        (ottWithout "nbf") ∧
      validateSigned sparseCrates (Testca.token "o" 1 [9]) "ca" "ci" [] sparseKey
        TokenVerifier.leewaySecs (Testca.instant 1000) = .error (.error (.unauthorized
          "token validation failed: missing field `nbf`"))) ∧
    (Documented sparseCrates (Testca.token "o" 2 [9]) "ca" "ci" [] sparseKey (Testca.instant 1000)
        (ottWithout "iat") ∧
      validateSigned sparseCrates (Testca.token "o" 2 [9]) "ca" "ci" [] sparseKey
        TokenVerifier.leewaySecs (Testca.instant 1000) = .error (.error (.unauthorized
          "token validation failed: missing field `iat`"))) := by
  refine ⟨⟨⟨rfl, rfl, ⟨_, rfl, rfl⟩, ⟨_, rfl, by decide⟩, ⟨_, rfl⟩, nofun⟩, rfl⟩,
    ⟨rfl, rfl, ⟨_, rfl, rfl⟩, ⟨_, rfl, by decide⟩, ⟨_, rfl⟩, ?_⟩, rfl⟩
  rintro v ⟨⟩
  exact ⟨1000, rfl, by decide⟩

end Ayane
