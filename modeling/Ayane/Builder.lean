import Ayane.Authorizer.Routing
import Ayane.Hook.Transports
import Ayane.Http
import Ayane.KeyProvider

/-!
# Building the service

`ayane/src/builder.rs`: from a configuration to a live service. Every part of the configuration is read by
the part of the service that it is for, in the order of the source; the first that fails ends it. What is
outside of the process, such as files, KMS or the database, is an `Environment`.
-/

namespace Ayane

open Effect

/-- What a service is built in. -/
structure Environment where
  crates : ServerCrates
  keys : KeyCrates
  hooks : HookCrates
  clients : HookClients
  readToString : String → Except String String
  /-- The KMS client of a region. -/
  kms : Option String → KmsClient
  /-- The HTTP client for key sets, or why it could not be built. -/
  jwksClient : Except String Unit
  /-- The key of a source for a `kid`, at a numbered interaction. -/
  resolve : JwksSource → ℕ → Option String → Result SigningKey
  /-- Whether the storage backend can be opened. -/
  openStorage : StorageConfig → Result Unit
  /-- Whether an event sink can be opened. -/
  openSink : EventConfig → Result Unit

/-- The templates that are referred to by name. -/
def Configuration.referenced (cfg : Configuration) : List String :=
  cfg.defaultTemplate.toList ++ cfg.provisioners.filterMap (·.template)

/-- A reference that dangles is an error of the configuration. -/
def Configuration.checkReferenced (cfg : Configuration) : Result Unit :=
  cfg.referenced.forM fun name =>
    ensure ((cfg.templates.lookup name).isSome = true)
      (.config ("referenced template " ++ Text.debug name ++ " is not defined under `templates`"))

/-- The certificate of the CA is first in its chain, and is its root when no other is configured. -/
def CertificateAuthority.fromConfig (env : Environment) (cfg : CaConfig) :
    Result CertificateAuthority := do
  let key ← KeyProvider.fromConfig env.crates.toCrates env.keys env.readToString env.kms cfg.key
  let issuerPem ← cfg.certificate.load env.readToString
  let chain ← cfg.chain.mapM (PemSource.load env.readToString)
  let roots ← cfg.roots.mapM (PemSource.load env.readToString)
  new env.crates key issuerPem (issuerPem :: chain) (if roots.isEmpty then [issuerPem] else roots)

def buildService (env : Environment) (cfg : Configuration) : Outcome Service := do
  cfg.checkReferenced.orAbort
  cfg.validateProvisionerAuthorization.orAbort
  let ca ← (CertificateAuthority.fromConfig env cfg.ca).orAbort
  let authorizer ←
    ProvisionerAuthorizer.fromConfigs env.crates env.resolve env.jwksClient cfg.provisioners
  (env.openStorage cfg.storage).orAbort
  (cfg.events.forM env.openSink).orAbort
  let hooks ←
    (cfg.hooks.mapM (HookProvider.fromConfig env.crates.toCrates env.hooks env.clients)).orAbort
  .ok {
    authorizer
    ca
    hooks
    templates := cfg.templates
    defaultTemplateName := cfg.defaultTemplate
    rootsSignatureTtl := cfg.ca.rootsSignatureTtl
    externalUrl := cfg.server.externalUrl }

/-! ## What has been built -/

/-- The service is what its configuration says. -/
structure Service.Built (env : Environment) (cfg : Configuration) (service : Service) : Prop where
  defined : ∀ name ∈ cfg.referenced, ∃ template, cfg.templates.lookup name = some template
  /-- Somebody can authorize the tokens of a provisioner. -/
  authorizable : ∀ p ∈ cfg.provisioners, p.effectiveAuthorized = true ∨ cfg.hasHook p = true
  ca : CertificateAuthority.fromConfig env cfg.ca = .ok service.ca
  provisioners : ∀ p ∈ service.authorizer.provisioners, ∃ cfg' ∈ cfg.provisioners,
    ProvisionerAuthorizer.Configures cfg' p
  hooks : List.Forall₂ (HookProvider.Configured env.crates.toCrates env.hooks env.clients) cfg.hooks
    service.hooks
  templates : service.templates = cfg.templates
  defaultTemplateName : service.defaultTemplateName = cfg.defaultTemplate
  externalUrl : service.externalUrl = cfg.server.externalUrl

section

variable {env : Environment} {cfg : Configuration} {service : Service}

theorem Configuration.defined_of_checkReferenced (h : cfg.checkReferenced = .ok ()) :
    ∀ name ∈ cfg.referenced, ∃ template, cfg.templates.lookup name = some template := by
  intro name hname
  exact Option.isSome_iff_exists.mp (ensure_eq_ok.mp (forM_eq_ok.mp h name hname))

theorem Configuration.authorizable_of_validate (h : cfg.validateProvisionerAuthorization = .ok ()) :
    ∀ p ∈ cfg.provisioners, p.effectiveAuthorized = true ∨ cfg.hasHook p = true := by
  intro p hp
  have hvalid := forM_eq_ok.mp h p hp
  split_ifs at hvalid with hsome
  exact Bool.or_eq_true _ _ ▸ hsome

/-- A service is built from what its configuration says. -/
theorem built_of_buildService (h : buildService env cfg = .ok service) : service.Built env cfg := by
  simp only [buildService, except_bind_eq_ok, Result.orAbort_eq_ok] at h
  obtain ⟨_, hreferenced, _, hauthorization, ca, hca, authorizer, hauthorizer, _, -, _, -, hooks, hhooks,
    h⟩ := h
  obtain ⟨-, -, hbuilt⟩ := ProvisionerAuthorizer.fromConfigs_eq_ok.mp hauthorizer
  cases h
  constructor
  · exact cfg.defined_of_checkReferenced hreferenced
  · exact cfg.authorizable_of_validate hauthorization
  · exact hca
  · intro p hp
    obtain ⟨cfg', hcfg, hp⟩ := (mem_of_mapM hbuilt).mp hp
    exact ⟨cfg', hcfg, ProvisionerAuthorizer.configures_of_buildProvisioner hp⟩
  · exact (forall₂_of_mapM hhooks).imp fun _ _ => HookProvider.configured_of_fromConfig
  · rfl
  · rfl
  · rfl

end

end Ayane
