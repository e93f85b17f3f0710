import Ayane.Http
import Ayane.Http.Api
import Ayane.Service.Threads
import Ayane.World.Leaves

/-!
# Handlers

The router and the handlers of `ayane/src/http.rs`, as threads: requests are served at the same time.
A handler extracts the effective URL, a correlation id, the proof of possession and the body of a
request, calls the service, and answers with what it returns; an error becomes a problem. A panic of
the service is the only way in which a request is not answered.
-/

namespace Ayane

open Effect

structure HttpRuntime extends Runtime where
  bodies : JsonBodies
  /-- The random bytes of a correlation id. -/
  requestEntropy : ℕ → Digest 16

inductive Method where
  | get | head | post
  | other (name : String)
  deriving DecidableEq

structure ApiRequest where
  method : Method
  parts : RequestParts
  /-- What reading the body gives. -/
  body : Except String Bytes

structure ApiResponse where
  status : ℕ
  headers : List (String × String)
  body : Bytes

/-! ## Extractors -/

/-- `RequestId::from_request_parts`: the correlation id of a request, or a random one. -/
def requestId (rt : HttpRuntime) (parts : RequestParts) (o : Own) : String :=
  (parts.header "x-request-id").getD (rt.crates.hex.encode (rt.requestEntropy o.interactions))

/-- `Dpop::from_request_parts`. -/
def dpopHeader (parts : RequestParts) : Option String := parts.header "DPoP"

/-- `ApiJson::from_request`. -/
def apiJson {α : Type} (bodies : JsonBodies) (decode : Json → Except String α)
    (body : Except String Bytes) : Result α := do
  let bytes ← mapErr (fun e => .badRequest ("read request body: " ++ e)) body
  mapErr (fun e => .badRequest ("invalid JSON body: " ++ e)) (bodies.read decode bytes)

/-! ## Responses -/

/-- `axum::Json`, with a status. -/
def jsonResponse (bodies : JsonBodies) (status : ℕ) (j : Json) : ApiResponse where
  status
  headers := [("content-type", "application/json")]
  body := bodies.toVec j

/-- `ApiError::into_response`. -/
def apiError (bodies : JsonBodies) (e : Error) : ApiResponse where
  status := e.status
  headers := [("content-type", "application/problem+json")]
  body := bodies.toVec e.toProblem.toJson

/-- The answer of a handler that returns a response or an error. -/
def answer (bodies : JsonBodies) (handler : Thread ApiResponse) : Thread ApiResponse := do
  match ← Thread.attempt handler with
  | .ok response => return response
  | .error e => return apiError bodies e

/-- What `HeaderValue::from_str` takes: visible ASCII and tabs. -/
def validHeaderValue (value : String) : Bool :=
  value.toList.all fun c => (32 ≤ c.toNat && c.toNat < 127) || c == '\t'

/-- A header from a value; one that is no ASCII is an internal error. -/
def setHeader (name value : String) (response : ApiResponse) : Result ApiResponse := do
  ensure (validHeaderValue value = true)
    (.internal "invalid header value: failed to parse header value")
  .ok { response with headers := response.headers ++ [(name, value)] }

/-! ## Handlers -/

section

variable (rt : HttpRuntime) (state : AppState)

def healthHandler : Thread ApiResponse :=
  return jsonResponse rt.bodies 200 (.record [("status", some (.str "ok"))])

def rootsHandler : Thread ApiResponse :=
  answer rt.bodies do
    let signed ← state.service.signedRootsThread rt.toRuntime
    Thread.ofResult do
      let response := { status := 200, headers := [], body := signed.body }
      let response ← setHeader "content-type" signed.contentType response
      let response ← setHeader "Content-Digest" signed.contentDigest response
      let response ← setHeader "Signature-Key" signed.signatureKey response
      let response ← setHeader "Signature-Input" signed.signatureInput response
      setHeader "Signature" signed.signature response

def rootsSignerChainHandler : Thread ApiResponse :=
  return {
    status := 200
    headers := [("content-type", "application/pem-certificate-chain")]
    body := utf8 (String.join state.service.ca.chainPem) }

def TokenVerifier.kind : TokenVerifier → String
  | .jwk .. => "jwk"
  | .jwks .. => "jwks"

def TokenVerifier.audiences : TokenVerifier → List String
  | .jwk _ audiences _ | .jwks _ audiences _ => audiences

def Provisioner.info (p : Provisioner) : ProvisionerInfo where
  name := p.name
  kind := p.verifier.kind
  audiences := p.verifier.audiences
  authorized := p.authorized

def provisionersHandler : Thread ApiResponse :=
  return jsonResponse rt.bodies 200 (.record [("provisioners",
    some (.arr (state.service.authorizer.provisioners.map fun p => p.info.toJson)))])

/-- A handler of a body: `serve` gets the body and the correlation id. -/
def bodyHandler {α β : Type} (decode : Json → Except String α) (encode : β → Json) (status : ℕ)
    (serve : α → String → Thread β) (request : ApiRequest) : Thread ApiResponse :=
  answer rt.bodies do
    let id ← Thread.reads (requestId rt request.parts)
    let req ← Thread.ofResult (apiJson rt.bodies decode request.body)
    let resp ← serve req id
    return jsonResponse rt.bodies status (encode resp)

def signHandler (request : ApiRequest) : Thread ApiResponse :=
  bodyHandler rt SignRequest.ofJson CertificateResponse.toJson 201 (fun req id =>
    state.service.signThread rt.toRuntime req (requestUrl request.parts state) (some id)) request

def renewHandler (request : ApiRequest) : Thread ApiResponse :=
  bodyHandler rt RenewRequest.ofJson CertificateResponse.toJson 201 (fun req id =>
    state.service.reissueThread rt.toRuntime req.certificate none (dpopHeader request.parts)
      (requestUrl request.parts state) (some id)) request

def rekeyHandler (request : ApiRequest) : Thread ApiResponse :=
  bodyHandler rt RekeyRequest.ofJson CertificateResponse.toJson 201 (fun req id =>
    state.service.reissueThread rt.toRuntime req.certificate (some req.csr) (dpopHeader request.parts)
      (requestUrl request.parts state) (some id)) request

def revokeHandler (request : ApiRequest) : Thread ApiResponse :=
  bodyHandler rt RevokeRequest.ofJson RevokeResponse.toJson 200 (fun req id =>
    state.service.revokeThread rt.toRuntime req (dpopHeader request.parts) (requestUrl request.parts state)
      (some id)) request

end

/-! ## The router -/

inductive Route where
  | health | roots | rootsSignerChain | provisioners | sign | renew | rekey | revoke
  deriving DecidableEq

namespace Route

def all : List Route := [health, roots, rootsSignerChain, provisioners, sign, renew, rekey, revoke]

def path : Route → String
  | health => "/v1/health"
  | roots => "/v1/roots"
  | rootsSignerChain => "/v1/roots/signer-chain"
  | provisioners => "/v1/provisioners"
  | sign => "/v1/sign"
  | renew => "/v1/renew"
  | rekey => "/v1/rekey"
  | revoke => "/v1/revoke"

def ofPath (path : String) : Option Route := all.find? fun route => route.path = path

theorem ofPath_path (route : Route) : ofPath route.path = some route := by
  cases route <;> decide

end Route

/-- An answer of the router itself. -/
def bareResponse (status : ℕ) (headers : List (String × String)) : ApiResponse where
  status
  headers
  body := []

/-- A route that is got. Its head is the same without the body. -/
def routeGet (handler : Thread ApiResponse) (request : ApiRequest) : Thread ApiResponse :=
  match request.method with
  | .get => handler
  | .head => do
    let response ← handler
    return { response with body := [] }
  | .post | .other _ => return bareResponse 405 [("allow", "GET,HEAD")]

/-- A route that is posted to. -/
def routePost (handler : ApiRequest → Thread ApiResponse) (request : ApiRequest) :
    Thread ApiResponse :=
  match request.method with
  | .post => handler request
  | .get | .head | .other _ => return bareResponse 405 [("allow", "POST")]

def router (rt : HttpRuntime) (state : AppState) (request : ApiRequest) : Thread ApiResponse :=
  match Route.ofPath request.parts.path with
  | some .health => routeGet (healthHandler rt) request
  | some .roots => routeGet (rootsHandler rt state) request
  | some .rootsSignerChain => routeGet (rootsSignerChainHandler state) request
  | some .provisioners => routeGet (provisionersHandler rt state) request
  | some .sign => routePost (signHandler rt state) request
  | some .renew => routePost (renewHandler rt state) request
  | some .rekey => routePost (rekeyHandler rt state) request
  | some .revoke => routePost (revokeHandler rt state) request
  | none => return bareResponse 404 []

end Ayane
