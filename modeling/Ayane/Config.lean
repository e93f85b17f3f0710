import Ayane.Authorizer.Jwks

/-!
# Configuration

`ayane/src/config.rs`: what a provisioner is configured with, and the issuer that its tokens are
expected to name; the settings of the certificate that the server serves with, which are checked
when the configuration is read; and the whole document, as it has been read.
-/

namespace Ayane

open Effect

/-- How the tokens of a provisioner are verified. -/
inductive ProvisionerKind where
  /-- With one key. -/
  | jwk (key : Jwk)
  /-- With the keys of an external issuer. -/
  | jwks (jwks : JwksConfig)

structure ProvisionerConfig where
  name : String
  audiences : List String
  template : Option String
  /-- Whether a validated token alone authorizes issuance; absent for the default of the kind. -/
  authorized : Option Bool
  kind : ProvisionerKind

/-- What the URL of a discovery document has after its issuer. -/
def oidcDiscoverySuffix : String := "/.well-known/openid-configuration"

def ProvisionerConfig.effectiveAuthorized (cfg : ProvisionerConfig) : Bool :=
  cfg.authorized.getD (match cfg.kind with | .jwk _ => true | .jwks _ => false)

def JwksConfig.resolvedIssuer (jwks : JwksConfig) (name : String) : String :=
  match jwks.issuer with
  | some issuer => issuer
  | none => (jwks.openidConfigurationUrl.bind (Text.stripSuffix oidcDiscoverySuffix)).getD name

/-- The issuer by which tokens are routed to a provisioner. -/
def ProvisionerConfig.expectedIssuer (cfg : ProvisionerConfig) : String :=
  match cfg.kind with
  | .jwk _ => cfg.name
  | .jwks jwks => jwks.resolvedIssuer cfg.name

/-! ## Serving -/

/-- Settings of the serving certificate. -/
structure TlsConfig where
  dnsNames : List String := []
  ipAddresses : List String := []
  validity : Duration := fromSecs (24 * 3600)
  renewBefore : Option Duration := none
  renewJitter : Option Duration := none

namespace TlsConfig

def effectiveRenewBefore (tls : TlsConfig) : Duration := tls.renewBefore.getD (tls.validity / 3)

def effectiveRenewJitter (tls : TlsConfig) : Duration := tls.renewJitter.getD (tls.validity / 20)

/-- An address of the settings. -/
def parseIp (ip : String) : Result Net.IpAddr :=
  okOr (.config ("server.tls.ip_addresses: invalid IP " ++ Text.debug ip ++
    ": invalid IP address syntax")) (Net.IpAddr.parse ip)

def validate (tls : TlsConfig) : Result Unit := do
  let _ ← tls.ipAddresses.mapM parseIp
  if tls.effectiveRenewBefore ≥ tls.validity then
    .error (.config "server.tls.renew_before must be shorter than validity")
  else .ok ()

theorem validate_eq_ok {tls : TlsConfig} (h : tls.validate = .ok ()) :
    tls.effectiveRenewBefore < tls.validity := by
  obtain ⟨_, -, h⟩ := except_bind_eq_ok.mp h
  split_ifs at h with hshort
  exact not_le.mp hshort

end TlsConfig

structure ServerConfig where
  /-- Public base URL. -/
  externalUrl : Option String := none
  tls : TlsConfig := {}

/-! ## The authority -/

/-- PEM text, or where it is. -/
inductive PemSource where
  | file (path : String)
  | inline (pem : String)

/-- Resolve to PEM text; `readToString` reads a file. -/
def PemSource.load (readToString : String → Except String String) : PemSource → Result String
  | .inline pem => .ok pem
  | .file path => mapErr (fun e => .config ("read PEM " ++ path ++ ": " ++ e)) (readToString path)

/-- Signing-key backend. -/
inductive KeyConfig where
  /-- A local PEM private key; the algorithm is for RSA keys. -/
  | file (file pem algorithm : Option String)
  /-- An asymmetric key in AWS KMS. -/
  | awsKms (keyId algorithm : String) (region : Option String)

structure CaConfig where
  certificate : PemSource
  key : KeyConfig
  /-- What is returned to clients after the issuing certificate. -/
  chain : List PemSource := []
  roots : List PemSource := []
  rootsSignatureTtl : Duration := fromSecs (24 * 3600)

/-! ## Hooks, events and storage -/

/-- Hook transport. -/
inductive HookTarget where
  /-- An endpoint; the secret is the key of a signature, in base64. -/
  | http (url : String) (secret bearerToken : Option String)
  | lambda (functionName : String) (region : Option String)
  /-- A local command, with its arguments. -/
  | exec (command : List String)

structure HookConfig where
  name : String
  target : HookTarget
  /-- The provisioners it applies to; empty means all. -/
  provisioners : List String := []
  timeout : Option Duration := none

inductive EventConfig where
  | stdout
  | file (path : String)
  | eventBridge (eventBusName source region : Option String)

inductive StorageConfig where
  | sqlite (path : String)
  | dynamodb (tableName : String) (region : Option String)

/-! ## The document -/

structure Configuration where
  ca : CaConfig
  provisioners : List ProvisionerConfig := []
  templates : Table String CertificateTemplate := ∅
  defaultTemplate : Option String := none
  hooks : List HookConfig := []
  events : List EventConfig := []
  storage : StorageConfig := .sqlite ":memory:"
  server : ServerConfig := {}

namespace Configuration

/-- Whether a hook applies to a provisioner. -/
def hasHook (cfg : Configuration) (provisioner : ProvisionerConfig) : Bool :=
  cfg.hooks.any fun w => w.provisioners.isEmpty || w.provisioners.any fun p => p == provisioner.name

/-- An unauthorized provisioner without a hook that could grant it never issues anything. -/
def validateProvisionerAuthorization (cfg : Configuration) : Result Unit :=
  cfg.provisioners.forM fun provisioner =>
    if provisioner.effectiveAuthorized || cfg.hasHook provisioner then .ok ()
    else .error (.config ("provisioner " ++ Text.debug provisioner.name ++
      " is not authorized but no hook applies to it"))

end Configuration

end Ayane
