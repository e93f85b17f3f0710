import Ayane.Authorizer.Documented
import Ayane.Authorizer.ReplayId
import Ayane.Config
import Ayane.Lib.Keyed
import Ayane.Service.Phases

/-!
# Routing

A token names an issuer, and goes to the first provisioner that expects it. The issuers of the
provisioners are told apart when these are built, so that there is no second one: the order of the
provisioners does not matter, and an accepted token comes from the issuer that was configured.
-/

namespace Ayane

open Ayane.Action Effect

/-! ## Building the provisioners -/

section

variable (crates : ServerCrates) (resolve : JwksSource → ℕ → Option String → Result SigningKey)

def JwkVerifier.new (cfg : ProvisionerConfig) (key : Jwk) : Result TokenVerifier := do
  let key ← mapErr (fun e => .config ("provisioner " ++ Text.debug cfg.name ++ ": " ++ e))
    (signingKeyFromJwk crates key)
  .ok (.jwk cfg.name cfg.audiences key)

/-- The key of a token is what `resolve` gets from the source. -/
def JwksVerifier.new (cfg : ProvisionerConfig) (jwks : JwksConfig) : Result TokenVerifier := do
  if cfg.audiences.isEmpty then
    .error (.config ("provisioner " ++ Text.debug cfg.name ++
      ": `jwks` requires a non-empty `audiences`"))
  else
    let issuer := jwks.resolvedIssuer cfg.name
    let source ← JwksSource.new issuer jwks cfg.name
    .ok (.jwks issuer cfg.audiences (resolve source))

namespace ProvisionerAuthorizer

/-- Whether the HTTP client is built. -/
def needsHttp (configs : List ProvisionerConfig) : Bool :=
  configs.any fun cfg => match cfg.kind with | .jwk _ => false | .jwks _ => true

def buildVerifier (http : Option Unit) (cfg : ProvisionerConfig) : Outcome TokenVerifier :=
  match cfg.kind with
  | .jwk key => (JwkVerifier.new crates cfg key).orAbort
  | .jwks jwks =>
    match http with
    | some _ => (JwksVerifier.new resolve cfg jwks).orAbort
    | none => .error (.panic "http client is built when a jwks provisioner exists")

def buildProvisioner (http : Option Unit) (cfg : ProvisionerConfig) : Outcome Provisioner := do
  let verifier ← buildVerifier crates resolve http cfg
  .ok {
    name := cfg.name
    template := cfg.template
    authorized := cfg.effectiveAuthorized
    verifier }

/-- The loop over the configurations, with the issuers that were seen. -/
def buildProvisioners (http : Option Unit) : List String → List ProvisionerConfig →
    Outcome (List Provisioner)
  | _, [] => .ok []
  | seenIssuers, cfg :: configs => do
    let issuer := cfg.expectedIssuer
    if issuer ∈ seenIssuers then
      .error (.error (.config ("provisioner issuer " ++ Text.debug issuer ++
        " is claimed by more than one provisioner")))
    else
      let provisioner ← buildProvisioner crates resolve http cfg
      let provisioners ← buildProvisioners http (issuer :: seenIssuers) configs
      .ok (provisioner :: provisioners)

/-- `httpClient` is the client, or why it could not be built. -/
def fromConfigs (httpClient : Except String Unit) (configs : List ProvisionerConfig) :
    Outcome ProvisionerAuthorizer := do
  let http ←
    if needsHttp configs then
      ((mapErr (fun e => .config ("jwks http client: " ++ e)) httpClient).orAbort).map some
    else .ok none
  let provisioners ← buildProvisioners crates resolve http [] configs
  .ok { provisioners }

end ProvisionerAuthorizer

end

/-! ## The issuers that are told apart -/

section

variable {crates : ServerCrates} {resolve : JwksSource → ℕ → Option String → Result SigningKey}

theorem JwkVerifier.issuer_of_new {cfg : ProvisionerConfig} {key : Jwk} {verifier : TokenVerifier}
    (h : JwkVerifier.new crates cfg key = .ok verifier) : verifier.issuer = cfg.name := by
  obtain ⟨key, -, h⟩ := except_bind_eq_ok.mp h
  cases h
  rfl

theorem JwksVerifier.issuer_of_new {cfg : ProvisionerConfig} {jwks : JwksConfig}
    {verifier : TokenVerifier} (h : JwksVerifier.new resolve cfg jwks = .ok verifier) :
    verifier.issuer = jwks.resolvedIssuer cfg.name := by
  unfold JwksVerifier.new at h
  split_ifs at h with haudiences
  · obtain ⟨source, -, h⟩ := except_bind_eq_ok.mp h
    cases h
    rfl

namespace ProvisionerAuthorizer

variable {http : Option Unit} {cfg : ProvisionerConfig} {p : Provisioner}
  {configs configs' : List ProvisionerConfig} {ps : List Provisioner}

/-- A verifier looks for the issuer that was compared with the others. -/
theorem issuer_of_buildVerifier {verifier : TokenVerifier}
    (h : buildVerifier crates resolve http cfg = .ok verifier) :
    verifier.issuer = cfg.expectedIssuer := by
  unfold buildVerifier at h
  unfold ProvisionerConfig.expectedIssuer
  cases hkind : cfg.kind with
  | jwk key =>
    rw [hkind] at h
    exact JwkVerifier.issuer_of_new ((Result.orAbort_eq_ok _ _).mp h)
  | jwks jwks =>
    rw [hkind] at h
    cases http with
    | some _ => exact JwksVerifier.issuer_of_new ((Result.orAbort_eq_ok _ _).mp h)
    | none => cases h

/-- The provisioner is what the configuration says. -/
structure Configures (cfg : ProvisionerConfig) (p : Provisioner) : Prop where
  name : p.name = cfg.name
  template : p.template = cfg.template
  authorized : p.authorized = cfg.effectiveAuthorized
  issuer : p.verifier.issuer = cfg.expectedIssuer

theorem configures_of_buildProvisioner (h : buildProvisioner crates resolve http cfg = .ok p) :
    Configures cfg p := by
  obtain ⟨verifier, hverifier, h⟩ := except_bind_eq_ok.mp h
  cases h
  exact ⟨rfl, rfl, rfl, issuer_of_buildVerifier hverifier⟩

/-- The loop ends well when no issuer is seen twice and every provisioner can be built. -/
theorem buildProvisioners_eq_ok {seen : List String} :
    buildProvisioners crates resolve http seen configs = .ok ps ↔
      Keyed.Distinct ProvisionerConfig.expectedIssuer configs ∧
        (∀ cfg ∈ configs, cfg.expectedIssuer ∉ seen) ∧
        configs.mapM (buildProvisioner crates resolve http) = .ok ps := by
  unfold Keyed.Distinct
  induction configs generalizing seen ps with
  | nil => simp [buildProvisioners, pure, Except.pure]
  | cons cfg configs ih =>
    simp only [buildProvisioners]
    split_ifs with hseen
    · simp [hseen]
    · simp only [except_bind_eq_ok, ih, List.map_cons, List.nodup_cons, mapM_cons_eq_ok,
        Except.ok.injEq, List.mem_cons, not_or, List.mem_map]
      constructor
      · rintro ⟨p, hp, ps', ⟨hdistinct, hnew, hps'⟩, rfl⟩
        refine ⟨⟨?_, hdistinct⟩, ?_, p, ps', hp, hps', rfl⟩
        · rintro ⟨other, hother, hissuer⟩
          exact (hnew other hother).1 hissuer
        · rintro other (rfl | hother)
          · exact hseen
          · exact (hnew other hother).2
      · rintro ⟨⟨hfirst, hdistinct⟩, hunseen, p, ps', hp, hps', rfl⟩
        exact ⟨p, hp, ps', ⟨hdistinct, fun other hother =>
          ⟨fun hissuer => hfirst ⟨other, hother, hissuer⟩, hunseen other (.inr hother)⟩, hps'⟩, rfl⟩

theorem fromConfigs_eq_ok {httpClient : Except String Unit} {authorizer : ProvisionerAuthorizer} :
    fromConfigs crates resolve httpClient configs = .ok authorizer ↔
      Keyed.Distinct ProvisionerConfig.expectedIssuer configs ∧
        (needsHttp configs = true → httpClient = .ok ()) ∧
        configs.mapM (buildProvisioner crates resolve (if needsHttp configs then some () else none)) =
          .ok authorizer.provisioners := by
  obtain ⟨provisioners⟩ := authorizer
  unfold fromConfigs
  split_ifs with hneeds
  · cases httpClient with
    | error e => simp [except_bind_eq_ok, mapErr, Result.orAbort, Except.map, hneeds]
    | ok u => simp [except_bind_eq_ok, mapErr, Result.orAbort, Except.map, buildProvisioners_eq_ok]
  · simp [except_bind_eq_ok, buildProvisioners_eq_ok, hneeds]

theorem needsHttp_eq_of_perm (hperm : configs.Perm configs') :
    needsHttp configs = needsHttp configs' :=
  hperm.any_eq

/-- The provisioners that are built expect different issuers. -/
theorem distinct_of_mapM (h : configs.mapM (buildProvisioner crates resolve http) = .ok ps)
    (hdistinct : Keyed.Distinct ProvisionerConfig.expectedIssuer configs) :
    Keyed.Distinct (fun p => p.verifier.issuer) ps := by
  have hissuers : ps.map (fun p => p.verifier.issuer) =
      configs.map ProvisionerConfig.expectedIssuer := by
    clear hdistinct
    induction configs generalizing ps with
    | nil =>
      cases h
      rfl
    | cons cfg configs ih =>
      obtain ⟨p, ps', hp, hps', rfl⟩ := mapM_cons_eq_ok.mp h
      rw [List.map_cons, List.map_cons, ih hps', (configures_of_buildProvisioner hp).issuer]
  unfold Keyed.Distinct at hdistinct ⊢
  rwa [hissuers]

end ProvisionerAuthorizer

end

/-! ## Tokens -/

namespace TokenVerifier

/-- A token is claimed by the issuer that it names. -/
theorem claimsToken_of_ok {crates : ServerCrates} {token iss : String}
    (h : unverifiedIssuer crates token = .ok iss) :
    (fun p : Provisioner => p.verifier.claimsToken crates token) =
      fun p => decide (p.verifier.issuer = iss) := by
  funext p
  simp only [claimsToken, h, beq_eq_decide, eq_comm]

theorem claimsToken_of_error {crates : ServerCrates} {token : String} {e : Error}
    (h : unverifiedIssuer crates token = .error e) :
    (fun p : Provisioner => p.verifier.claimsToken crates token) = fun _ => false := by
  funext p
  simp [claimsToken, h]

end TokenVerifier

/-- An accepted token names the issuer that it was verified for. -/
theorem iss_of_validateSigned {crates : ServerCrates} {token audience issuer : String}
    {audiences : List String} {key : SigningKey} {now : SystemTime} {verified : VerifiedToken}
    (h : validateSigned crates token audience issuer audiences key TokenVerifier.leewaySecs now =
      .ok verified) : verified.claims.iss = issuer := by
  obtain ⟨payload, hpayload, hclaims, -⟩ := of_validateSigned h
  obtain ⟨hdoc, hdec, -⟩ := (exists_validateSigned_iff hpayload).mp ⟨verified, h⟩
  obtain ⟨fields, rfl⟩ := hdec.iss.object
  obtain ⟨iss, hiss, hclaims⟩ := except_bind_eq_ok.mp hclaims
  have hverified : verified.claims.iss = iss := by
    simp only [except_bind_eq_ok, Except.ok.injEq] at hclaims
    obtain ⟨_, -, _, -, _, -, _, -, _, -, _, -, _, -, _, -, _, -, _, -, hclaims⟩ := hclaims
    rw [← hclaims]
  obtain ⟨v, hfield, hv⟩ := Json.required_eq_ok.mp hiss
  have hget : (Json.obj fields).get? "iss" = some v := Json.get?_of_field? hfield
  cases hget.symm.trans hdoc.iss
  cases hv
  exact hverified

theorem ProvisionerAuthorizer.iss_of_validate {rt : Runtime} {authorizer : ProvisionerAuthorizer}
    {token audience : String} {w w' : World} {validated : ValidatedToken}
    (h : (authorizer.validate rt token audience).run w = .ok validated w') :
    ∃ p ∈ authorizer.provisioners, validated.claims.iss = p.verifier.issuer ∧
      validated.provisioner = p.name ∧ validated.template = p.template ∧
      validated.authorized = p.authorized := by
  obtain ⟨p, verified, hfind, hverify, rfl⟩ := of_validate h
  obtain ⟨audiences, key, now, -, -, hsigned⟩ := TokenVerifier.of_verify hverify
  exact ⟨p, List.mem_of_find?_eq_some hfind, iss_of_validateSigned hsigned, rfl, rfl, rfl⟩

namespace ProvisionerAuthorizer

variable {crates : ServerCrates} {ps ps' : List Provisioner}

/-- Of provisioners that expect different issuers, at most one claims a token. -/
theorem countP_claimsToken_le_one (hdistinct : Keyed.Distinct (fun p => p.verifier.issuer) ps)
    (token : String) : ps.countP (fun p => p.verifier.claimsToken crates token) ≤ 1 := by
  cases hiss : unverifiedIssuer crates token with
  | ok iss =>
    rw [TokenVerifier.claimsToken_of_ok hiss, List.countP_eq_length_filter]
    exact hdistinct.length_under_le_one
  | error e =>
    rw [TokenVerifier.claimsToken_of_error hiss]
    simp

/-- Of provisioners that expect different issuers, the same one verifies a token in every order. -/
theorem validate_eq_of_perm {rt : Runtime}
    (hdistinct : Keyed.Distinct (fun p => p.verifier.issuer) ps) (hperm : ps.Perm ps')
    (token audience : String) :
    validate rt ⟨ps'⟩ token audience = validate rt ⟨ps⟩ token audience := by
  have hfind : ps'.find? (fun p => p.verifier.claimsToken rt.crates token) =
      ps.find? fun p => p.verifier.claimsToken rt.crates token := by
    cases hiss : unverifiedIssuer rt.crates token with
    | ok iss =>
      rw [TokenVerifier.claimsToken_of_ok hiss]
      exact (hdistinct.find?_eq_of_perm hperm).symm
    | error e =>
      rw [TokenVerifier.claimsToken_of_error hiss, List.find?_eq_none.mpr (by simp),
        List.find?_eq_none.mpr (by simp)]
  unfold validate
  rw [hfind]

/-- The configurations are accepted in every order, with the same provisioners. -/
theorem exists_fromConfigs_of_perm {resolve : JwksSource → ℕ → Option String → Result SigningKey}
    {httpClient : Except String Unit} {configs configs' : List ProvisionerConfig}
    {authorizer : ProvisionerAuthorizer} (hperm : configs.Perm configs')
    (h : fromConfigs crates resolve httpClient configs = .ok authorizer) :
    ∃ authorizer', fromConfigs crates resolve httpClient configs' = .ok authorizer' ∧
      authorizer.provisioners.Perm authorizer'.provisioners := by
  obtain ⟨hdistinct, hclient, hbuilt⟩ := fromConfigs_eq_ok.mp h
  rw [needsHttp_eq_of_perm hperm] at hclient hbuilt
  obtain ⟨ps', hps', hps⟩ := exists_mapM_of_perm hperm hbuilt
  exact ⟨⟨ps'⟩, fromConfigs_eq_ok.mpr ⟨(hperm.map _).nodup_iff.mp hdistinct, hclient, hps'⟩, hps⟩

end ProvisionerAuthorizer

/-- Of the provisioners of an accepted configuration at most one claims a token; in every other order
they are accepted too, and a token is validated with the same result; and what is accepted was issued by
the one issuer that is expected of the provisioner whose policy is applied. -/
theorem fromConfigs_routes {rt : Runtime}
    {resolve : JwksSource → ℕ → Option String → Result SigningKey} {httpClient : Except String Unit}
    {configs : List ProvisionerConfig} {authorizer : ProvisionerAuthorizer}
    (h : ProvisionerAuthorizer.fromConfigs rt.crates resolve httpClient configs = .ok authorizer) :
    (∀ token, authorizer.provisioners.countP (fun p => p.verifier.claimsToken rt.crates token) ≤ 1) ∧
    (∀ configs', configs.Perm configs' →
      ∃ authorizer', ProvisionerAuthorizer.fromConfigs rt.crates resolve httpClient configs' =
          .ok authorizer' ∧
        authorizer.provisioners.Perm authorizer'.provisioners ∧
        ∀ token audience,
          authorizer'.validate rt token audience = authorizer.validate rt token audience) ∧
    ∀ token audience w validated w',
      (authorizer.validate rt token audience).run w = .ok validated w' →
      ∃ cfg ∈ configs, validated.claims.iss = cfg.expectedIssuer ∧
        validated.provisioner = cfg.name ∧ validated.template = cfg.template ∧
        validated.authorized = cfg.effectiveAuthorized ∧
        ∀ other ∈ configs, other.expectedIssuer = validated.claims.iss → other = cfg := by
  obtain ⟨hdistinct, -, hbuilt⟩ := ProvisionerAuthorizer.fromConfigs_eq_ok.mp h
  have hissuers := ProvisionerAuthorizer.distinct_of_mapM hbuilt hdistinct
  refine ⟨ProvisionerAuthorizer.countP_claimsToken_le_one hissuers, ?_, ?_⟩
  · intro configs' hperm
    obtain ⟨authorizer', hok, hps⟩ := ProvisionerAuthorizer.exists_fromConfigs_of_perm hperm h
    exact ⟨authorizer', hok, hps, ProvisionerAuthorizer.validate_eq_of_perm hissuers hps⟩
  · intro token audience w validated w' hrun
    obtain ⟨p, hp, hiss, hname, htemplate, hauthorized⟩ :=
      ProvisionerAuthorizer.iss_of_validate hrun
    obtain ⟨cfg, hcfg, hbuild⟩ := (mem_of_mapM hbuilt).mp hp
    have hconfigures := ProvisionerAuthorizer.configures_of_buildProvisioner hbuild
    have hissuer := hiss.trans hconfigures.issuer
    refine ⟨cfg, hcfg, hissuer, hname.trans hconfigures.name, htemplate.trans hconfigures.template,
      hauthorized.trans hconfigures.authorized, fun other hother hsame => ?_⟩
    exact List.inj_on_of_nodup_map hdistinct hother hcfg (hsame.trans hissuer)

/-! ## Two provisioners -/

/-- A key that the provisioner `ci` is configured with. -/
def ciConfig : ProvisionerConfig where
  name := "ci"
  audiences := []
  template := none
  authorized := none
  kind := .jwk { algorithm := .ellipticCurve .p256 [9], keyAlgorithm := none, keyId := none }

/-- An external issuer, whose name is read off its discovery URL. -/
def idpConfig : ProvisionerConfig where
  name := "idp"
  audiences := ["ca"]
  template := some "server"
  authorized := none
  kind := .jwks {
    jwksUrl := none
    openidConfigurationUrl := some "https://idp/.well-known/openid-configuration"
    issuer := none }

def noKeys (_ : JwksSource) (_ : ℕ) (_ : Option String) : Result SigningKey :=
  .error (.internal "JWKS cache empty after refresh")

def ciRuntime : Runtime :=
  Testca.still (Testca.serverCrates [] [] [([1], Testca.ottClaims "web" "t-1" 1000 1300)])

def idpSource : JwksSource where
  issuer := "https://idp"
  location := .oidc "https://idp/.well-known/openid-configuration"
  minRefetch := fromSecs 60

def ciAuthorizer : ProvisionerAuthorizer where
  provisioners := [Testca.provisioner true,
    { name := "idp"
      template := some "server"
      authorized := false
      verifier := .jwks "https://idp" ["ca"] (noKeys idpSource) }]

theorem fromConfigs_ci :
    ProvisionerAuthorizer.fromConfigs ciRuntime.crates noKeys (.ok ()) [ciConfig, idpConfig] =
      .ok ciAuthorizer := by
  rfl

theorem fromConfigs_routes_ci :
    (∀ token, ciAuthorizer.provisioners.countP
      (fun p => p.verifier.claimsToken ciRuntime.crates token) ≤ 1) ∧
    (∀ configs', [ciConfig, idpConfig].Perm configs' →
      ∃ authorizer', ProvisionerAuthorizer.fromConfigs ciRuntime.crates noKeys (.ok ()) configs' =
          .ok authorizer' ∧
        ciAuthorizer.provisioners.Perm authorizer'.provisioners ∧
        ∀ token audience, authorizer'.validate ciRuntime token audience =
          ciAuthorizer.validate ciRuntime token audience) ∧
    ∀ token audience w validated w',
      (ciAuthorizer.validate ciRuntime token audience).run w = .ok validated w' →
      ∃ cfg ∈ [ciConfig, idpConfig], validated.claims.iss = cfg.expectedIssuer ∧
        validated.provisioner = cfg.name ∧ validated.template = cfg.template ∧
        validated.authorized = cfg.effectiveAuthorized ∧
        ∀ other ∈ [ciConfig, idpConfig], other.expectedIssuer = validated.claims.iss → other = cfg :=
  @fromConfigs_routes ciRuntime noKeys (.ok ()) [ciConfig, idpConfig] ciAuthorizer fromConfigs_ci

end Ayane
