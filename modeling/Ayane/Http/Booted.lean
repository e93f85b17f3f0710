import Ayane.Builder
import Ayane.Http.Served
import Ayane.Service.Vetted

/-!
# Servers that have been started

A server is a service that was built from its configuration, behind its router. Servers with
configurations of their own share a storage and serve requests at the same time. For a certificate that
one of them records, its configured hooks have answered over their transports, and its configured
provisioners stand.
-/

namespace Ayane

open Effect Interleave Storage

/-- A service that was built from a configuration, and what its runs are given. -/
structure Server where
  env : Environment
  config : Configuration
  service : Service
  built : buildService env config = .ok service
  elapse : ℕ → Duration
  entropy : ℕ → Digest 19
  requestEntropy : ℕ → Digest 16

namespace Server

def rt (server : Server) : HttpRuntime where
  crates := server.env.crates
  elapse := server.elapse
  entropy := server.entropy
  bodies := server.env.hooks.bodies
  requestEntropy := server.requestEntropy

/-- `main.rs` gives the handlers the service and the external URL. -/
def state (server : Server) : AppState := .boot server.service server.config.server.externalUrl

/-- Who answers for a request, by the configuration. -/
def Authorizes (server : Server) (request : HookRequest) (responses : List HookResponse) : Prop :=
  match request.provisioner with
  | some name => ∃ p ∈ server.config.provisioners, p.name = name ∧
      (p.effectiveAuthorized = true ∨ ∃ response ∈ responses, response.allow = some true)
  | none => ∃ ca cert der, CertificateAuthority.fromConfig server.env server.config.ca = .ok ca ∧
      ca.verifyIssued server.env.crates cert = .ok () ∧
      server.env.crates.der.certificateToDer cert = .ok der ∧ request.previousCertificateDer = some der

/-- A configured hook has replied. -/
def Replies (server : Server) (cfg : HookConfig) : ℕ → HookRequest → HookResponse → Prop :=
  cfg.Replies server.env.crates.toCrates server.env.hooks server.env.clients

/-- What stands behind a record of the server: every configured hook that applies was sent the request
and replied to it, the record says what the replies make of it, and somebody answers for it. -/
structure Vets (server : Server) (record : CertificateRecord) : Prop where
  vetted : ∃ request replies, Hook.Vetted server.Replies
      (server.config.hooks.filter (·.appliesTo request.provisioner)) request replies ∧
    record.Vetted request (replies.map Prod.snd) ∧ server.Authorizes request (replies.map Prod.snd)

/-- A request was put to a configured hook, which got it and replied. -/
structure Exchanges (server : Server) (cfg : HookConfig) (n : ℕ) (request : HookRequest)
    (response : HookResponse) : Prop where
  exchange : ∃ body bytes, cfg.Delivers server.env.crates.toCrates server.env.hooks server.env.clients n
      body bytes ∧
    server.env.hooks.bodies.read (HookRequest.ofJson server.env.hooks) body = .ok request ∧
    server.env.hooks.bodies.read (HookResponse.ofJson server.env.hooks) bytes = .ok response

/-- A hook of the server is the one that is configured, and decides what the other side of its transport
decides of the requests that it reads. -/
structure Reaches (server : Server) (cfg : HookConfig) (hook : HookProvider) : Prop where
  name : hook.name = cfg.name
  applies : ∀ provisioner, hook.appliesTo provisioner = cfg.appliesTo provisioner
  exchanges : ∀ n request response, hook.call n request = .ok response →
    server.Exchanges cfg n request response
  decides : ∀ policy, cfg.Hosts server.env.crates.toCrates server.env.hooks server.env.clients policy →
    ∀ n request body bytes, request.toVec server.env.hooks = .ok body →
      (policy request).toVec server.env.hooks = .ok bytes → hook.call n request = .ok (policy request)

variable {server : Server}

theorem service_state (server : Server) : server.state.service = server.service := by
  change { server.service with externalUrl := server.config.server.externalUrl } = server.service
  rw [← (built_of_buildService server.built).externalUrl]

theorem authorizes_of_service {request : HookRequest} {responses : List HookResponse}
    (h : server.service.Authorizes server.rt.toRuntime request responses) :
    server.Authorizes request responses := by
  have hbuilt := built_of_buildService server.built
  unfold Service.Authorizes at h
  unfold Authorizes
  cases hprovisioner : request.provisioner with
  | some name =>
    simp only [hprovisioner] at h ⊢
    obtain ⟨p, hp, hname, hauthorized⟩ := h
    obtain ⟨cfg, hcfg, hconfigures⟩ := hbuilt.provisioners p hp
    rw [hconfigures.name] at hname
    rw [hconfigures.authorized] at hauthorized
    exact ⟨cfg, hcfg, hname, hauthorized⟩
  | none =>
    simp only [hprovisioner] at h ⊢
    obtain ⟨cert, der, hissued, hder, hprevious⟩ := h
    exact ⟨server.service.ca, cert, der, hbuilt.ca, hissued, hder, hprevious⟩

/-- What the service vets is vetted by what is configured. -/
theorem vets_of_service {record : CertificateRecord}
    (h : server.service.Vets server.rt.toRuntime record) : server.Vets record := by
  have hbuilt := built_of_buildService server.built
  obtain ⟨request, replies, hvetted, hrecord, hauthorizes⟩ := h
  have hknown : List.Forall₂ (HookProvider.Configured server.env.crates.toCrates server.env.hooks
      server.env.clients) (server.config.hooks.filter (·.appliesTo request.provisioner))
      (server.service.hooks.filter (·.appliesTo request.provisioner)) := by
    refine List.rel_filter ?_ hbuilt.hooks
    exact fun cfg hook hconfigured => iff_of_eq
      (congrArg (· = true) (hconfigured.appliesTo_eq request.provisioner))
  obtain ⟨replies', hvetted', hresponses⟩ := hvetted.known_by hknown
    fun cfg hook hconfigured n response => (hconfigured.call n request response).mp
  refine ⟨request, replies', hvetted', ?_, ?_⟩
  · rw [hresponses]
    exact hrecord
  · rw [hresponses]
    exact authorizes_of_service hauthorizes

theorem plans_vetted (server : Server) :
    server.state.service.Plans server.rt.toRuntime server.Vets := by
  have hplans := Service.plans_vets server.rt.toRuntime server.state.service
  have hvets : ∀ {record}, server.state.service.Vets server.rt.toRuntime record → server.Vets record := by
    intro record h
    rw [service_state] at h
    exact vets_of_service h
  exact {
    sign := fun req requestUrl o validated plan o' h issued starts issuedAt =>
      hvets (hplans.sign req requestUrl o validated plan o' h issued starts issuedAt)
    reissue := fun certificatePem newCsrPem dpop requestUrl o auth plan o' h issued starts issuedAt =>
      hvets (hplans.reissue certificatePem newCsrPem dpop requestUrl o auth plan o' h issued starts
        issuedAt) }

end Server

/-! ## Requests at servers -/

/-- A request at the server that serves it. -/
structure ServerCall where
  server : Server
  request : ApiRequest
  arrival : Own

def ServerCall.call (c : ServerCall) : HttpCall where
  rt := c.server.rt
  state := c.server.state
  request := c.request
  arrival := c.arrival

/-! ### A request to sign that a hook grants -/

namespace Booting

def crates : ServerCrates := Testca.serverCrates [Testca.intermediate] [("csr", Testca.csr)]
  [([1], .obj [("iss", .str "ci"), ("aud", .str "ca/v1/sign"), ("sub", .str "web"), ("iat", .int 1000),
    ("nbf", .int 1000), ("exp", .int 1300), ("jti", .str "t-1")])]

/-- The key of the CA is the one that signs with `2`. -/
def keys : KeyCrates where
  p256FromPkcs8Pem _ :=
    .ok { publicKeyDer := .ok [2], trySign := fun _ message => .ok (Testca.sign [2] message) }
  p384FromPkcs8Pem _ := .error "PEM error"
  rsaFromPkcs8Pem _ := .error "PEM error"
  rsaFromPkcs1Pem _ := .error "PEM error"
  sha512 := Testca.digest 64

/-- The instants that a request to sign at second 1000 is made of. -/
def dates : List (String × SystemTime) := [("1970-01-01T00:15:40Z", Testca.instant 940),
  ("1970-01-01T00:16:40Z", Testca.instant 1000), ("1970-01-02T00:16:40Z", Testca.instant 87400)]

def hooks : HookCrates where
  bodies := Testca.JsonText.bodies
  base64 := Testca.base64
  formatDateTime t :=
    match dates.find? fun d => d.2 = t with
    | some d => .ok d.1
    | none => .error "out of range"
  parseDateTime s :=
    match dates.find? fun d => d.1 = s with
    | some d => .ok d.2
    | none => .error "premature end of input"
  hmacSha256 _ := Testca.digest 32

def allows : HookResponse := { allow := some true }

/-- Every HTTP hook allows what it is asked. -/
def clients : HookClients where
  http _ := .ok fun _ _ => .ok {
    status := 200
    statusLine := "200 OK"
    body := allows.toVec hooks }
  lambda _ _ _ := .error "dispatch failure"
  spawn _ _ _ _ := .error "No such file or directory (os error 2)"
  debugDuration := Nat.repr

def env : Environment where
  crates
  keys
  hooks
  clients
  readToString _ := .error "No such file or directory (os error 2)"
  kms _ := {
    getPublicKey := fun _ => .error "dispatch failure"
    sign := fun _ _ => .error "dispatch failure" }
  jwksClient := .ok ()
  resolve := noKeys
  openStorage _ := .ok ()
  openSink _ := .ok ()

def config : Configuration where
  ca := {
    certificate := .inline (Testca.pem (Testca.certificateDer Testca.intermediate))
    key := .file none (some "key") none }
  provisioners := [{ ciConfig with authorized := some false }]
  hooks := [{ name := "policy", target := .http "https://policy" none none }]
  server := { externalUrl := some "ca" }

/-- What the hook is asked about a request to sign. -/
def request : HookRequest where
  timestamp := Testca.instant 1000
  operation := .sign
  provisioner := some "ci"
  subject := "web"
  sans := [.dns "web"]
  csrDer := some [1]
  previousCertificateDer := none
  notBefore := Testca.instant 940
  notAfter := Testca.instant 87400
  renew := true

theorem isSome_service : (buildService env config).toOption.isSome = true := by decide +kernel

theorem eq_ok_of_isSome {α : Type} {x : Outcome α} (h : x.toOption.isSome = true) :
    x = .ok (x.toOption.get h) := by
  cases x with
  | ok a => rfl
  | error abort => cases h

def server : Server where
  env
  config
  service := (buildService env config).toOption.get isSome_service
  built := eq_ok_of_isSome isSome_service
  elapse _ := 0
  entropy _ := Testca.zeroEntropy
  requestEntropy := Signing.rt.requestEntropy

def call (signs : Bool) : ServerCall where
  server
  request := (Signing.call signs).request
  arrival := (Signing.call signs).arrival

theorem panicsOnly : PanicsOnly env.crates := by
  intro t abort h
  cases h

end Booting

namespace Server

end Server

section

variable {ι : Type} (calls : ι → ServerCall) (s : Storage) [DecidableEq ι]

/-- A certificate that is new in the storage was vetted by what is configured at one of the servers,
however their requests are interleaved. -/
theorem vetted_of_serving (htimes : ∀ i, PanicsOnly (calls i).server.env.crates)
    (turns : List (Turn ι {op : Storage.Operation // op.entry? = none})) (record : CertificateRecord)
    (hrecord : ((serving (fun i => (calls i).call) s).after (fun op s => op.1.apply s) turns).state.Holds
      (.certificate record)) :
    s.Holds (.certificate record) ∨ ∃ i, (calls i).server.Vets record := by
  have hstart : System.Answering Holds
      (fun i entry (_ : EStateM.Result Abort Own ApiResponse) => entry.Certifies (calls i).server.Vets)
      s.Holds (serving (fun i => (calls i).call) s) :=
    ⟨fun i => (answersFor_router (htimes i) (calls i).server.plans_vetted).mono fun _ _ h => h.1,
      fun _ h => .inl h⟩
  have hact : ∀ (op : {op : Storage.Operation // op.entry? = none}) (s : Storage) (entry : Entry),
      (op.1.apply s).Holds entry → s.Holds entry := fun op _ _ h => holds_of_idle op.2 h
  refine ((hstart.after hact turns).source _ hrecord).imp_right ?_
  rintro ⟨i, hends⟩
  have : Nonempty Storage := ⟨s⟩
  obtain ⟨r, hr⟩ := (((serving (fun i => (calls i).call) s).after (fun op s => op.1.apply s)
    turns).progs i).exists_ends
  exact ⟨i, hends r hr⟩

end

theorem vetted_booting : ∃ record, (Booting.call true).server.Vets record := by
  have hstored : Signing.stored ((serving (fun i => (Booting.call i).call) Testca.sqlite).after
      (fun op s => op.1.apply s) (Signing.turns {op : Storage.Operation // op.entry? = none})).state =
        some Signing.serial := by
    decide +kernel
  obtain ⟨record, hrecord⟩ := Signing.holds_of_stored hstored
  obtain hold | ⟨i, hvets⟩ := vetted_of_serving Booting.call Testca.sqlite
    (fun _ => Booting.panicsOnly) (Signing.turns {op : Storage.Operation // op.entry? = none}) record
    hrecord
  · exact absurd hold (Signing.not_holds (.certificate record))
  · exact ⟨record, hvets⟩

end Ayane
