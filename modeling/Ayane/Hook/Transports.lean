import Ayane.Config
import Ayane.Hook.Wire

/-!
# Hook transports

`ayane/src/hook/http.rs`, `lambda.rs` and `exec.rs`: a hook is reached over HTTP, as an AWS Lambda function
or as a local command. Each sends the payload and reads the reply; whatever goes wrong in between is an
error, so that a hook whose reply was read has delivered it. How the other side answers at a numbered
interaction is given.
-/

namespace Ayane

open Effect

/-! ## The other side -/

/-- A request to an HTTP hook. -/
structure HookPost where
  url : String
  headers : List (String × String)
  body : Bytes

/-- The reply of an HTTP hook. -/
structure HookReply where
  status : ℕ
  /-- The status as it is displayed. -/
  statusLine : String
  /-- What reading the body gives. -/
  body : Except String Bytes

/-- An invocation of a Lambda function. -/
structure LambdaInvoke where
  functionName : String
  invocationType : String
  payload : Bytes

structure LambdaOutput where
  statusCode : Int
  functionError : Option String
  payload : Option Bytes

/-- How a command has ended. -/
structure ProcessOutput where
  success : Bool
  /-- The exit status as it is displayed. -/
  status : String
  stdout : Bytes

/-- A command that was started: when it ends, and what waiting for it gives. -/
structure Child where
  elapsed : Duration
  output : Except String ProcessOutput

/-- What hooks are reached through. -/
structure HookClients where
  /-- An HTTP client with a timeout, or why it could not be built. -/
  http : Option Duration → Except String (ℕ → HookPost → Except String HookReply)
  /-- The Lambda client of a region. -/
  lambda : Option String → ℕ → LambdaInvoke → Except String LambdaOutput
  /-- A program with its arguments, and what is written to its input. -/
  spawn : ℕ → String → List String → Bytes → Except String Child
  /-- The `Debug` of a duration. -/
  debugDuration : Duration → String

variable (crates : Crates) (hooks : HookCrates)

/-- The payload of a request. -/
def encodeRequest (hooks : HookCrates) (request : HookRequest) : Result Bytes :=
  mapErr (fun e => .internal ("hook request encode: " ++ e)) (request.toVec hooks)

def decodeReply (hooks : HookCrates) (bytes : Bytes) : Result HookResponse :=
  mapErr (fun e => .internal ("hook response decode: " ++ e))
    (hooks.bodies.read (HookResponse.ofJson hooks) bytes)

/-! ## HTTP -/

structure HttpHook where
  name : String
  provisioners : List String
  url : String
  hmacKey : Option Bytes
  bearerToken : Option String
  client : ℕ → HookPost → Except String HookReply

namespace HttpHook

/-- The key of the signature, if there is one. -/
def decodeSecret : Option String → Result (Option Bytes)
  | some s => (mapErr (fun e => .config ("hook secret base64: " ++ e)) (crates.base64.decode s)).map some
  | none => .ok none

def new (clients : HookClients) (name : String) (provisioners : List String) (url : String)
    (secretB64 bearerToken : Option String) (timeout : Option Duration) : Result HttpHook := do
  let hmacKey ← decodeSecret crates secretB64
  let client ← mapErr (fun e => .config ("hook http client: " ++ e)) (clients.http timeout)
  .ok { name, provisioners, url, hmacKey, bearerToken, client }

/-- The HMAC-SHA256 of a body, in hexadecimal. -/
def sign (key body : Bytes) : String := crates.hex.encode (hooks.hmacSha256 key body).1

/-- What is sent with a body. -/
def post (hook : HttpHook) (body : Bytes) : HookPost where
  url := hook.url
  headers := [("content-type", "application/json")] ++
    (hook.hmacKey.map fun key => ("X-Ayane-Signature", sign crates hooks key body)).toList ++
    (hook.bearerToken.map fun token => ("authorization", "Bearer " ++ token)).toList
  body

def call (hook : HttpHook) (n : ℕ) (request : HookRequest) : Result HookResponse := do
  let body ← encodeRequest hooks request
  let resp ← mapErr (fun e => .internal ("hook request: " ++ e))
    (hook.client n (hook.post crates hooks body))
  ensure (200 ≤ resp.status ∧ resp.status < 300)
    (.internal ("hook " ++ hook.name ++ " returned HTTP " ++ resp.statusLine))
  let bytes ← mapErr (fun e => .internal ("hook response body: " ++ e)) resp.body
  decodeReply hooks bytes

/-- The endpoint was sent a body, and answered it with success and a reply. -/
structure Delivers (hook : HttpHook) (n : ℕ) (body bytes : Bytes) : Prop where
  exchange : ∃ resp, hook.client n (hook.post crates hooks body) = .ok resp ∧ 200 ≤ resp.status ∧
    resp.status < 300 ∧ resp.body = .ok bytes

end HttpHook

/-! ## Lambda -/

structure LambdaHook where
  name : String
  provisioners : List String
  client : ℕ → LambdaInvoke → Except String LambdaOutput
  functionName : String

namespace LambdaHook

def invocation (hook : LambdaHook) (payload : Bytes) : LambdaInvoke where
  functionName := hook.functionName
  invocationType := "RequestResponse"
  payload

def call (hook : LambdaHook) (n : ℕ) (request : HookRequest) : Result HookResponse := do
  let payload ← encodeRequest hooks request
  let resp ← mapErr (fun e => .internal ("lambda invoke: " ++ e))
    (hook.client n (hook.invocation payload))
  ensure (200 ≤ resp.statusCode ∧ resp.statusCode < 300)
    (.internal ("lambda invoke returned status " ++ toString resp.statusCode))
  match resp.functionError with
  | some err => .error (.internal ("lambda hook error: " ++ err))
  | none =>
    let body ← okOr (.internal "empty lambda response") resp.payload
    decodeReply hooks body

/-- The function was invoked with a payload, and returned a reply without failing. -/
structure Delivers (hook : LambdaHook) (n : ℕ) (payload bytes : Bytes) : Prop where
  invoked : ∃ resp, hook.client n (hook.invocation payload) = .ok resp ∧ 200 ≤ resp.statusCode ∧
    resp.statusCode < 300 ∧ resp.functionError = none ∧ resp.payload = some bytes

end LambdaHook

/-! ## Commands -/

/-- A command is never empty. -/
structure ExecHook where
  name : String
  provisioners : List String
  command : List String
  nonempty : command ≠ []
  timeout : Option Duration

namespace ExecHook

def new (name : String) (provisioners command : List String) (timeout : Option Duration) :
    Result ExecHook :=
  if nonempty : command ≠ [] then .ok { name, provisioners, command, nonempty, timeout }
  else .error (.config ("hook " ++ Text.debug name ++ ": exec command must not be empty"))

def program (hook : ExecHook) : String := hook.command.head hook.nonempty

/-- What waiting for a command gives; one that is too slow is killed. -/
def wait (clients : HookClients) (hook : ExecHook) (child : Child) :
    Result (Except String ProcessOutput) :=
  match hook.timeout with
  | some timeout =>
    if timeout < child.elapsed then
      .error (.internal ("hook " ++ hook.name ++ " timed out after " ++ clients.debugDuration timeout))
    else .ok child.output
  | none => .ok child.output

/-- Run the command. -/
def invoke (clients : HookClients) (hook : ExecHook) (n : ℕ) (body : Bytes) : Result Bytes := do
  let child ← mapErr (fun e => .internal
      ("hook " ++ hook.name ++ ": spawn " ++ Text.debug hook.program ++ ": " ++ e))
    (clients.spawn n hook.program hook.command.tail body)
  let output ← hook.wait clients child
  let output ← mapErr (fun e => .internal ("hook " ++ hook.name ++ ": wait: " ++ e)) output
  ensure (output.success = true)
    (.internal ("hook " ++ hook.name ++ " exited with " ++ output.status))
  .ok output.stdout

def call (clients : HookClients) (hook : ExecHook) (n : ℕ) (request : HookRequest) :
    Result HookResponse := do
  let body ← encodeRequest hooks request
  let stdout ← hook.invoke clients n body
  decodeReply hooks stdout

/-- The command was run on a body, and ended in time with success and a reply. -/
structure Delivers (clients : HookClients) (hook : ExecHook) (n : ℕ) (body bytes : Bytes) : Prop where
  ran : ∃ child output, clients.spawn n hook.program hook.command.tail body = .ok child ∧
    (∀ timeout ∈ hook.timeout, child.elapsed ≤ timeout) ∧ child.output = .ok output ∧
    output.success = true ∧ output.stdout = bytes

end ExecHook

/-! ## The configured hook -/

/-- `hook::from_config`. -/
def HookProvider.fromConfig (clients : HookClients) (cfg : HookConfig) : Result HookProvider :=
  match cfg.target with
  | .http url secret bearerToken => do
    let hook ← HttpHook.new crates clients cfg.name cfg.provisioners url secret bearerToken cfg.timeout
    .ok { name := hook.name, provisioners := hook.provisioners, call := hook.call crates hooks }
  | .lambda functionName region =>
    let hook : LambdaHook := {
      name := cfg.name
      provisioners := cfg.provisioners
      client := clients.lambda region
      functionName }
    .ok { name := hook.name, provisioners := hook.provisioners, call := hook.call hooks }
  | .exec command => do
    let hook ← ExecHook.new cfg.name cfg.provisioners command cfg.timeout
    .ok { name := hook.name, provisioners := hook.provisioners, call := hook.call hooks clients }

namespace HookConfig

/-- Whether the hook is asked about the requests of a provisioner. -/
def appliesTo (cfg : HookConfig) (provisioner : Option String) : Bool :=
  cfg.provisioners.isEmpty || (provisioner.map cfg.provisioners.contains).getD false

/-- A payload got to the hook over its transport, and this is what came back. -/
def Delivers (clients : HookClients) (cfg : HookConfig) (n : ℕ) (body bytes : Bytes) : Prop :=
  match cfg.target with
  | .http url secret bearerToken => ∃ hook, HttpHook.new crates clients cfg.name cfg.provisioners url
      secret bearerToken cfg.timeout = .ok hook ∧ hook.Delivers crates hooks n body bytes
  | .lambda functionName region => LambdaHook.Delivers
      ⟨cfg.name, cfg.provisioners, clients.lambda region, functionName⟩ n body bytes
  | .exec command => ∃ hook, ExecHook.new cfg.name cfg.provisioners command cfg.timeout = .ok hook ∧
      hook.Delivers clients n body bytes

/-- The other side of the transport reads the payload of a request, and replies what its policy says. -/
structure Hosts (clients : HookClients) (cfg : HookConfig) (policy : HookRequest → HookResponse) : Prop where
  replies : ∀ n body request bytes, hooks.bodies.read (HookRequest.ofJson hooks) body = .ok request →
    (policy request).toVec hooks = .ok bytes → cfg.Delivers crates hooks clients n body bytes

/-- The hook was asked with the payload of a request, and this is its reply. -/
structure Replies (clients : HookClients) (cfg : HookConfig) (n : ℕ) (request : HookRequest)
    (response : HookResponse) : Prop where
  delivered : ∃ body bytes, request.toVec hooks = .ok body ∧
    cfg.Delivers crates hooks clients n body bytes ∧
    hooks.bodies.read (HookResponse.ofJson hooks) bytes = .ok response

end HookConfig

section

variable {crates hooks} {n : ℕ} {request : HookRequest} {response : HookResponse}

theorem HttpHook.call_eq_ok {hook : HttpHook} : hook.call crates hooks n request = .ok response ↔
    ∃ body bytes, request.toVec hooks = .ok body ∧ hook.Delivers crates hooks n body bytes ∧
      hooks.bodies.read (HookResponse.ofJson hooks) bytes = .ok response := by
  simp only [call, encodeRequest, decodeReply, except_bind_eq_ok, mapErr_eq_ok, ensure_eq_ok]
  constructor
  · rintro ⟨body, hbody, resp, hresp, -, hstatus, bytes, hbytes, hread⟩
    exact ⟨body, bytes, hbody, ⟨resp, hresp, hstatus.1, hstatus.2, hbytes⟩, hread⟩
  · rintro ⟨body, bytes, hbody, ⟨resp, hresp, hlow, hhigh, hbytes⟩, hread⟩
    exact ⟨body, hbody, resp, hresp, (), ⟨hlow, hhigh⟩, bytes, hbytes, hread⟩

theorem LambdaHook.call_eq_ok {hook : LambdaHook} : hook.call hooks n request = .ok response ↔
    ∃ body bytes, request.toVec hooks = .ok body ∧ hook.Delivers n body bytes ∧
      hooks.bodies.read (HookResponse.ofJson hooks) bytes = .ok response := by
  simp only [call, encodeRequest, except_bind_eq_ok, mapErr_eq_ok, ensure_eq_ok]
  constructor
  · rintro ⟨payload, hpayload, resp, hresp, -, hstatus, hread⟩
    cases hfailed : resp.functionError with
    | some err =>
      rw [hfailed] at hread
      cases hread
    | none =>
      rw [hfailed] at hread
      simp only [decodeReply, except_bind_eq_ok, mapErr_eq_ok, okOr_eq_ok] at hread
      obtain ⟨bytes, hbytes, hread⟩ := hread
      exact ⟨payload, bytes, hpayload, ⟨resp, hresp, hstatus.1, hstatus.2, hfailed, hbytes⟩, hread⟩
  · rintro ⟨payload, bytes, hpayload, ⟨resp, hresp, hlow, hhigh, hfailed, hbytes⟩, hread⟩
    refine ⟨payload, hpayload, resp, hresp, (), ⟨hlow, hhigh⟩, ?_⟩
    rw [hfailed]
    simp only [decodeReply, except_bind_eq_ok, mapErr_eq_ok, okOr_eq_ok]
    exact ⟨bytes, hbytes, hread⟩

theorem ExecHook.invoke_eq_ok {clients : HookClients} {hook : ExecHook} {body bytes : Bytes} :
    hook.invoke clients n body = .ok bytes ↔ hook.Delivers clients n body bytes := by
  have hwaited : ∀ child output, hook.wait clients child = .ok output ↔
      (∀ timeout ∈ hook.timeout, child.elapsed ≤ timeout) ∧ child.output = output := by
    intro child output
    unfold wait
    cases hook.timeout with
    | none => simp
    | some timeout =>
      dsimp only
      split_ifs with hlate
      · simpa using fun hle => absurd hle (Nat.not_le.mpr hlate)
      · simpa using fun _ => Nat.not_lt.mp hlate
  simp only [invoke, except_bind_eq_ok, mapErr_eq_ok, ensure_eq_ok, hwaited, Except.ok.injEq]
  constructor
  · rintro ⟨child, hchild, _, ⟨hintime, rfl⟩, output, houtput, -, hsuccess, hstdout⟩
    exact ⟨child, output, hchild, hintime, houtput, hsuccess, hstdout⟩
  · rintro ⟨child, output, hchild, hintime, houtput, hsuccess, hstdout⟩
    exact ⟨child, hchild, _, ⟨hintime, rfl⟩, output, houtput, (), hsuccess, hstdout⟩

theorem ExecHook.call_eq_ok {clients : HookClients} {hook : ExecHook} :
    hook.call hooks clients n request = .ok response ↔
      ∃ body bytes, request.toVec hooks = .ok body ∧ hook.Delivers clients n body bytes ∧
        hooks.bodies.read (HookResponse.ofJson hooks) bytes = .ok response := by
  simp only [call, encodeRequest, decodeReply, except_bind_eq_ok, mapErr_eq_ok, invoke_eq_ok]
  constructor
  · rintro ⟨body, hbody, bytes, hdelivers, hread⟩
    exact ⟨body, bytes, hbody, hdelivers, hread⟩
  · rintro ⟨body, bytes, hbody, hdelivers, hread⟩
    exact ⟨body, hbody, bytes, hdelivers, hread⟩

/-- The hook is the one that was configured, and answers with what is delivered to it and back. -/
structure HookProvider.Configured (crates : Crates) (hooks : HookCrates) (clients : HookClients)
    (cfg : HookConfig) (hook : HookProvider) : Prop where
  name : hook.name = cfg.name
  provisioners : hook.provisioners = cfg.provisioners
  call : ∀ n request response, hook.call n request = .ok response ↔
    cfg.Replies crates hooks clients n request response

theorem HookProvider.Configured.appliesTo_eq {clients : HookClients} {cfg : HookConfig}
    {hook : HookProvider} (h : Configured crates hooks clients cfg hook) (provisioner : Option String) :
    cfg.appliesTo provisioner = hook.appliesTo provisioner := by
  unfold HookConfig.appliesTo HookProvider.appliesTo
  rw [h.provisioners]
  cases provisioner <;> rfl

theorem HttpHook.of_new {clients : HookClients} {name url : String} {provisioners : List String}
    {secretB64 bearerToken : Option String} {timeout : Option Duration} {hook : HttpHook}
    (h : new crates clients name provisioners url secretB64 bearerToken timeout = .ok hook) :
    hook.name = name ∧ hook.provisioners = provisioners := by
  obtain ⟨_, -, h⟩ := except_bind_eq_ok.mp h
  obtain ⟨_, -, h⟩ := except_bind_eq_ok.mp h
  cases h
  exact ⟨rfl, rfl⟩

theorem ExecHook.of_new {name : String} {provisioners command : List String} {timeout : Option Duration}
    {hook : ExecHook} (h : new name provisioners command timeout = .ok hook) :
    hook.name = name ∧ hook.provisioners = provisioners := by
  unfold new at h
  split_ifs at h
  cases h
  exact ⟨rfl, rfl⟩

theorem HookConfig.replies_iff {clients : HookClients} {cfg : HookConfig} :
    cfg.Replies crates hooks clients n request response ↔
      ∃ body bytes, request.toVec hooks = .ok body ∧ cfg.Delivers crates hooks clients n body bytes ∧
        hooks.bodies.read (HookResponse.ofJson hooks) bytes = .ok response :=
  ⟨fun h => h.delivered, fun h => ⟨h⟩⟩

/-- What was made from one outcome is made from it whenever it is the outcome. -/
theorem exists_of_ok {α : Type} {x : Result α} {a : α} (h : x = .ok a) {P : α → Prop} :
    P a ↔ ∃ a', x = .ok a' ∧ P a' := by
  constructor
  · exact fun hP => ⟨a, h, hP⟩
  · rintro ⟨a', ha', hP⟩
    cases h.symm.trans ha'
    exact hP

theorem HookProvider.configured_of_fromConfig {clients : HookClients} {cfg : HookConfig}
    {hook : HookProvider} (h : fromConfig crates hooks clients cfg = .ok hook) :
    Configured crates hooks clients cfg hook := by
  obtain ⟨name, target, provisioners, timeout⟩ := cfg
  cases target with
  | http url secret bearerToken =>
    obtain ⟨http, hnew, h⟩ := except_bind_eq_ok.mp h
    cases h
    obtain ⟨hname, hprovisioners⟩ := HttpHook.of_new hnew
    refine ⟨hname, hprovisioners, fun n request response => ?_⟩
    simp only [HttpHook.call_eq_ok, HookConfig.replies_iff, HookConfig.Delivers, ← exists_of_ok hnew]
  | lambda functionName region =>
    cases h
    refine ⟨rfl, rfl, fun n request response => ?_⟩
    simp only [LambdaHook.call_eq_ok, HookConfig.replies_iff, HookConfig.Delivers]
  | exec command =>
    obtain ⟨exec, hnew, h⟩ := except_bind_eq_ok.mp h
    cases h
    obtain ⟨hname, hprovisioners⟩ := ExecHook.of_new hnew
    refine ⟨hname, hprovisioners, fun n request response => ?_⟩
    simp only [ExecHook.call_eq_ok, HookConfig.replies_iff, HookConfig.Delivers, ← exists_of_ok hnew]

end

end Ayane
