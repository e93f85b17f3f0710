import Ayane.Testca.Server

/-!
# The replay id of a token

What a token says is the part of it that is signed. Its replay id is the `jti` it says, or
else a digest of the whole token. The digest covers the signature, which the signature does
not, so that a second valid signature of one statement gives it a second replay id.
-/

namespace Ayane

open Effect

/-- The part of a token that is signed: everything before the last dot. -/
def signingInput (token : String) : String :=
  ".".intercalate (Text.split '.' token).dropLast

/-- The payload of a token is read from the part that is signed. -/
def PayloadSigned (jwt : Jwt) : Prop :=
  ∀ token token', signingInput token = signingInput token' → jwt.payload token = jwt.payload token'

section

variable {crates : ServerCrates} {token token' audience audience' issuer issuer' : String}
  {audiences audiences' : List String} {key : SigningKey} {leewaySecs leewaySecs' : ℕ}
  {now now' : SystemTime} {verified verified' : VerifiedToken}

/-- What an accepted token says, and the replay id that it gets. -/
theorem of_validateSigned
    (h : validateSigned crates token audience issuer audiences key leewaySecs now = .ok verified) :
    ∃ payload, crates.jwt.payload token = .ok payload ∧
      OttClaims.ofJson payload = .ok verified.claims ∧
      verified.replayId = verified.claims.jti.getD (replayIdFromToken crates token) := by
  obtain ⟨claims, hdecode, hverified⟩ := except_bind_eq_ok.mp h
  cases hverified
  obtain ⟨-, payload, hpayload, hclaims, -⟩ := Jwt.decode_eq_ok.mp hdecode
  exact ⟨payload, hpayload, hclaims, rfl⟩

/-- Two accepted tokens with one signing input make the same claims. -/
theorem claims_eq_of_signingInput (hpayload : PayloadSigned crates.jwt)
    (h : validateSigned crates token audience issuer audiences key leewaySecs now = .ok verified)
    (h' : validateSigned crates token' audience' issuer' audiences' key leewaySecs' now' = .ok verified')
    (hinput : signingInput token = signingInput token') : verified.claims = verified'.claims := by
  obtain ⟨payload, hread, hclaims, -⟩ := of_validateSigned h
  obtain ⟨payload', hread', hclaims', -⟩ := of_validateSigned h'
  rw [hpayload token token' hinput, hread'] at hread
  cases hread
  exact Except.ok.inj (hclaims.symm.trans hclaims')

/-- Two accepted tokens with one signing input get one replay id exactly when they carry a `jti` or
are the same token, as long as their digests tell them apart. -/
theorem replayId_eq_iff (hpayload : PayloadSigned crates.jwt)
    (hcollision : replayIdFromToken crates token = replayIdFromToken crates token' → token = token')
    (h : validateSigned crates token audience issuer audiences key leewaySecs now = .ok verified)
    (h' : validateSigned crates token' audience' issuer' audiences' key leewaySecs' now' = .ok verified')
    (hinput : signingInput token = signingInput token') :
    verified.replayId = verified'.replayId ↔ verified.claims.jti.isSome ∨ token = token' := by
  have hclaims := claims_eq_of_signingInput hpayload h h' hinput
  obtain ⟨_, -, -, hid⟩ := of_validateSigned h
  obtain ⟨_, -, -, hid'⟩ := of_validateSigned h'
  rw [hid, hid', ← hclaims]
  cases hjti : verified.claims.jti with
  | some jti => simp
  | none =>
    simp only [Option.getD_none, Option.isSome_none, Bool.false_eq_true, false_or]
    constructor
    · exact hcollision
    · intro heq
      rw [heq]

end

/-! ## Two signatures of one statement -/

/-- The other valid signature of a message. -/
def negated (sig : Bytes) : Bytes := sig.map fun b => 0 - b

/-- A verifier that accepts the negated signature of every signature that it accepts. -/
def malleableCrates (documents : List (Bytes × Json)) : ServerCrates :=
  { Testca.serverCrates [] [] documents with
    jwt := { Testca.jwt documents with
      verifySignature := fun alg key token =>
        match Text.split '.' token with
        | [_, _, sig] =>
          match Testca.hex.decode sig with
          | .ok sig =>
            if alg = .ES256 ∧ (sig = key ∨ negated sig = key) then .ok () else .error "InvalidSignature"
          | .error _ => .error "Base64"
        | _ => .error "InvalidToken"
      payload := fun token =>
        match Text.split '.' (signingInput token) with
        | [_, payload] => (Testca.hex.decode payload).bind (Testca.document documents)
        | _ => .error "InvalidToken" } }

/-- A token without a `jti`. -/
def anonymousCrates : ServerCrates :=
  malleableCrates [([1], .obj [("iss", .str "ci"), ("aud", .str "ca"), ("sub", .str "web"),
    ("iat", .int 1000), ("nbf", .int 1000), ("exp", .int 1300)])]

def anonymousKey : SigningKey := ⟨[9], .ES256⟩

theorem payloadSigned_anonymous : PayloadSigned anonymousCrates.jwt := by
  intro token token' hinput
  simp only [anonymousCrates, malleableCrates, hinput]

theorem replayIdFromToken_ne :
    replayIdFromToken anonymousCrates "o.01.09" ≠ replayIdFromToken anonymousCrates "o.01.f7" := by
  intro h
  have hchar := congrArg (fun id => id.toList[10]?) h
  revert hchar
  decide

/-- What the token says, with the replay id of one of its texts. -/
def anonymous (token : String) : VerifiedToken where
  claims := {
    iss := "ci", aud := "ca", sub := "web", sans := [], iat := 1000, nbf := 1000, exp := 1300
    jti := none, renew := true, cnf := none, once := none }
  replayId := replayIdFromToken anonymousCrates token

theorem anonymous_accepted :
    validateSigned anonymousCrates "o.01.09" "ca" "ci" [] anonymousKey 60 (Testca.instant 1000) =
        .ok (anonymous "o.01.09") ∧
      validateSigned anonymousCrates "o.01.f7" "ca" "ci" [] anonymousKey 60 (Testca.instant 1000) =
        .ok (anonymous "o.01.f7") :=
  ⟨rfl, rfl⟩

/-- Both signatures of the token without a `jti` are accepted, and their replay ids differ. -/
theorem replayId_differs :
    validateSigned anonymousCrates "o.01.09" "ca" "ci" [] anonymousKey 60 (Testca.instant 1000) =
        .ok (anonymous "o.01.09") ∧
      validateSigned anonymousCrates "o.01.f7" "ca" "ci" [] anonymousKey 60 (Testca.instant 1000) =
        .ok (anonymous "o.01.f7") ∧
      signingInput "o.01.09" = signingInput "o.01.f7" ∧
      (anonymous "o.01.09").replayId ≠ (anonymous "o.01.f7").replayId :=
  ⟨anonymous_accepted.1, anonymous_accepted.2, by decide, replayIdFromToken_ne⟩

theorem replayId_eq_iff_anonymous :
    (anonymous "o.01.09").replayId = (anonymous "o.01.f7").replayId ↔
      (anonymous "o.01.09").claims.jti.isSome ∨ "o.01.09" = "o.01.f7" :=
  replayId_eq_iff payloadSigned_anonymous (fun h => absurd h replayIdFromToken_ne)
    anonymous_accepted.1 anonymous_accepted.2 (by decide)

end Ayane
