import Ayane.Cli.Renew
import Ayane.Http.Handlers
import Ayane.Lib.Lossy
import Ayane.Testca.JsonText
import Ayane.Testca.Server

/-!
# Calls of the client

`post_json_typed` and `deserialize_response_typed` of `ayane-cli/src/cmd/mod.rs`, and what the commands
post with them. A call that is delivered does what the request does at the service, and the client is
told what the service returned; of an error it is told the status and what is public about it.
-/

namespace Ayane.Cli

open Effect

/-- A request as the HTTP client is given it. -/
structure ClientRequest where
  method : Method
  url : String
  headers : List (String × String)
  body : Bytes

/-- A response, with what reading its body gives. -/
structure ClientResponse where
  status : ℕ
  bytes : Except String Bytes

/-- `String::from_utf8_lossy`. -/
def fromUtf8Lossy (bytes : Bytes) : String :=
  (String.fromUTF8? ⟨(Lossy.replaced bytes).toArray⟩).getD ""

def deserializeResponseTyped {α : Type} (bodies : JsonBodies) (decode : Json → Except String α)
    (resp : ClientResponse) : Except RequestError α := do
  let bytes ← resp.bytes.mapError .transport
  if 200 ≤ resp.status ∧ resp.status < 300 then
    (bodies.read decode bytes).mapError .decode
  else
    let message := match bodies.read ProblemDetails.ofJson bytes with
      | .ok problem => problem.detail.getD problem.title
      | .error _ => fromUtf8Lossy bytes
    .error (.status resp.status message)

/-- The HTTP client: what comes of a request, or why it could not be made. -/
abbrev Send := ClientRequest → Thread (Except String ClientResponse)

def jsonRequest (bodies : JsonBodies) (url : String) (dpop : Option String) (body : Json) :
    ClientRequest where
  method := .post
  url
  headers := ("content-type", "application/json") :: (dpop.map (("DPoP", ·))).toList
  body := bodies.toVec body

def postJsonTyped {α : Type} (bodies : JsonBodies) (send : Send) (url : String)
    (dpop : Option String) (body : Json) (decode : Json → Except String α) :
    Thread (Except RequestError α) :=
  -- a header that is no header value is found when the request is sent
  if dpop.all validHeaderValue then do
    match ← send (jsonRequest bodies url dpop body) with
    | .ok resp => return deserializeResponseTyped bodies decode resp
    | .error e => return .error (.transport e)
  else return .error (.transport "builder error")

/-! ## What the commands post -/

inductive Posted where
  | sign (req : SignRequest)
  | renew (req : RenewRequest) (dpop : String)
  | rekey (req : RekeyRequest) (dpop : String)
  | revoke (req : RevokeRequest) (dpop : Option String)

namespace Posted

def route : Posted → Route
  | sign _ => .sign
  | renew .. => .renew
  | rekey .. => .rekey
  | revoke .. => .revoke

def dpop : Posted → Option String
  | sign _ => none
  | renew _ dpop | rekey _ dpop => some dpop
  | revoke _ dpop => dpop

def body : Posted → Json
  | sign req => req.toJson
  | renew req _ => req.toJson
  | rekey req _ => req.toJson
  | revoke req _ => req.toJson

/-- How the command reads the response. -/
def decode : Posted → Json → Except String Response
  | sign _, j | renew .., j | rekey .., j => (CertificateResponse.ofJson j).map .certificate
  | revoke .., j => (RevokeResponse.ofJson j).map .revoked

def post (bodies : JsonBodies) (send : Send) (base : String) (posted : Posted) :
    Thread (Except RequestError Response) :=
  postJsonTyped bodies send (endpoint base posted.route.path) posted.dpop posted.body posted.decode

/-- The request of the service. -/
def request : Posted → Request
  | sign req => .sign req
  | renew req dpop => .reissue (.renew req) (some dpop)
  | rekey req dpop => .reissue (.rekey req) (some dpop)
  | revoke req dpop => .revoke req dpop

end Posted

/-- What a client is told of an error. -/
def refusal (e : Error) : RequestError := .status e.status (e.titleAndDetail.2.getD e.titleAndDetail.1)

/-- What the client makes of a response that it gets whole. -/
def received (resp : ApiResponse) : ClientResponse := ⟨resp.status, .ok resp.body⟩

/-- The HTTP client carries a request to a route as it was sent, and the response back. -/
structure Carried (rt : HttpRuntime) (state : AppState) (send : Send) (sent : ClientRequest)
    (route : Route) (arrived : ApiRequest) : Prop where
  method : arrived.method = sent.method
  path : arrived.parts.path = route.path
  dpop : arrived.parts.header "DPoP" = sent.headers.lookup "DPoP"
  body : arrived.body = .ok sent.body
  answered : send sent = do
    let resp ← router rt state arrived
    return .ok (received resp)

section

variable {bodies : JsonBodies} {α : Type} {decode : Json → Except String α}

/-- A body is read as it was written. -/
theorem read_toVec (h : bodies.ReadsBack) {j : Json} {a : α} (hplain : j.Plain 2)
    (hdecode : decode j = .ok a) : bodies.read decode (bodies.toVec j) = .ok a := by
  rw [JsonBodies.read, h 2 j (by omega) hplain]
  exact hdecode

theorem read_jsonResponse (h : bodies.ReadsBack) {j : Json} {a : α} {status : ℕ}
    (hstatus : 200 ≤ status ∧ status < 300) (hplain : j.Plain 2) (hdecode : decode j = .ok a) :
    deserializeResponseTyped bodies decode (received (jsonResponse bodies status j)) = .ok a := by
  change (if 200 ≤ status ∧ status < 300 then (bodies.read decode (bodies.toVec j)).mapError _
    else _) = _
  rw [if_pos hstatus, read_toVec h hplain hdecode]
  rfl

/-- Of an error the client is told what the problem says. -/
theorem read_apiError (h : bodies.ReadsBack) (e : Error) :
    deserializeResponseTyped bodies decode (received (apiError bodies e)) = .error (refusal e) := by
  have hlt := e.status_lt
  have hle := e.le_status
  have hstatus : e.toProblem.status < 2 ^ 16 := by
    change e.status < 2 ^ 16
    omega
  have hread := read_toVec h (e.toProblem.plain_toJson hstatus) (e.toProblem.ofJson_toJson hstatus)
  change (if 200 ≤ e.status ∧ e.status < 300 then _ else
    Except.error (RequestError.status e.status
      (match bodies.read ProblemDetails.ofJson (bodies.toVec e.toProblem.toJson) with
        | .ok problem => problem.detail.getD problem.title
        | .error _ => _))) = _
  rw [if_neg (by omega), hread]
  rfl

/-- A handler of a body that was written by the client: the client gets what the handler's part of
the service returns. -/
theorem received_bodyHandler {rt : HttpRuntime} (h : rt.bodies.ReadsBack) {β γ : Type}
    {ofJson : Json → Except String β} {encode : γ → Json} {status : ℕ} {serve : β → String → Thread γ}
    {arrived : ApiRequest} {j : Json} {req : β} {wrap : γ → α}
    (harrived : arrived.body = .ok (rt.bodies.toVec j)) (hplain : j.Plain 2) (hreq : ofJson j = .ok req)
    (hstatus : 200 ≤ status ∧ status < 300) (hencode : ∀ resp, (encode resp).Plain 2)
    (hdecode : ∀ resp, decode (encode resp) = .ok (wrap resp)) :
    (do
      let resp ← bodyHandler rt ofJson encode status serve arrived
      return deserializeResponseTyped rt.bodies decode (received resp)) =
    (do
      let id ← Thread.reads (requestId rt arrived.parts)
      let outcome ← Thread.attempt (do
        let resp ← serve req id
        return wrap resp)
      return outcome.mapError refusal) := by
  have hbody : apiJson rt.bodies ofJson arrived.body = .ok req := by
    rw [harrived]
    change mapErr _ (rt.bodies.read ofJson (rt.bodies.toVec j)) = .ok req
    rw [read_toVec h hplain hreq]
    rfl
  simp only [bodyHandler, answer, hbody, Thread.attempt_reads_bind, Thread.ofResult, pure_bind,
    Thread.attempt_map, bind_assoc]
  congr 1
  funext id
  congr 1
  funext outcome
  cases outcome with
  | ok resp =>
    have hread := read_jsonResponse h hstatus (hencode resp) (hdecode resp)
    exact (pure_bind _ _).trans (congrArg pure hread)
  | error e => exact (pure_bind _ _).trans (congrArg pure (read_apiError h e))

end

/-- The proof of a request is the one that arrives. -/
theorem lookup_jsonRequest (bodies : JsonBodies) (url : String) (dpop : Option String) (body : Json) :
    (jsonRequest bodies url dpop body).headers.lookup "DPoP" = dpop := by
  cases dpop <;> rfl

/-- A call that is carried to the service does what the request does there, and the client is told what
the service returned, or the status of an error and what is public about it. -/
theorem post_transparent {rt : HttpRuntime} {state : AppState} {send : Send} {base : String}
    {posted : Posted} {arrived : ApiRequest} (hbodies : rt.bodies.ReadsBack)
    (hdpop : ∀ proof ∈ posted.dpop, validHeaderValue proof = true)
    (hcarried : Carried rt state send
      (jsonRequest rt.bodies (endpoint base posted.route.path) posted.dpop posted.body)
      posted.route arrived) :
    posted.post rt.bodies send base = do
      let id ← Thread.reads (requestId rt arrived.parts)
      let outcome ← Thread.attempt (posted.request.thread rt.toRuntime state.service
        (requestUrl arrived.parts state) (some id))
      return outcome.mapError refusal := by
  have hvalid : posted.dpop.all validHeaderValue = true := by
    cases hproof : posted.dpop with
    | none => rfl
    | some proof => exact hdpop proof hproof
  have hmethod : arrived.method = .post := hcarried.method
  have hproof : dpopHeader arrived.parts = posted.dpop :=
    hcarried.dpop.trans (lookup_jsonRequest _ _ _ _)
  have hroute : Route.ofPath arrived.parts.path = some posted.route := by
    rw [hcarried.path, Route.ofPath_path]
  have hcertificate (resp : CertificateResponse) :
      (CertificateResponse.ofJson resp.toJson).map Response.certificate = .ok (.certificate resp) := by
    rw [resp.ofJson_toJson]
    rfl
  have hrevoked (resp : RevokeResponse) :
      (RevokeResponse.ofJson resp.toJson).map Response.revoked = .ok (.revoked resp) := by
    rw [resp.ofJson_toJson]
    rfl
  unfold Posted.post postJsonTyped
  rw [if_pos hvalid, hcarried.answered, bind_assoc]
  simp only [pure_bind]
  cases posted with
  | sign req =>
    simp only [router, hroute, Posted.route, routePost, hmethod, signHandler]
    exact received_bodyHandler hbodies hcarried.body req.plain_toJson req.ofJson_toJson (by omega)
      CertificateResponse.plain_toJson hcertificate
  | renew req dpop =>
    simp only [router, hroute, Posted.route, routePost, hmethod, renewHandler, hproof]
    exact received_bodyHandler hbodies hcarried.body req.plain_toJson req.ofJson_toJson (by omega)
      CertificateResponse.plain_toJson hcertificate
  | rekey req dpop =>
    simp only [router, hroute, Posted.route, routePost, hmethod, rekeyHandler, hproof]
    exact received_bodyHandler hbodies hcarried.body req.plain_toJson req.ofJson_toJson (by omega)
      CertificateResponse.plain_toJson hcertificate
  | revoke req dpop =>
    simp only [router, hroute, Posted.route, routePost, hmethod, revokeHandler, hproof]
    exact received_bodyHandler hbodies hcarried.body req.plain_toJson req.ofJson_toJson (by omega)
      RevokeResponse.plain_toJson hrevoked

/-! ### A renewal -/

def renewRuntime : HttpRuntime := Testca.JsonText.serving
  (Testca.still (Testca.serverCrates [Testca.leaf] [] [([1], .obj (Testca.proofFields "p-1" 1500))]))

def renewState : AppState := .boot (Testca.service true []) (some "https://ca")

/-- What arrives at `https://ca` of a request that is sent there. -/
def arriving (sent : ClientRequest) : ApiRequest where
  method := sent.method
  parts := ⟨String.ofList (sent.url.toList.drop 10), fun name => sent.headers.lookup name⟩
  body := .ok sent.body

def delivering : Send := fun sent => do
  let resp ← router renewRuntime renewState (arriving sent)
  return .ok (received resp)

def renewal : Posted :=
  .renew ⟨Testca.pem (Testca.certificateDer Testca.leaf)⟩ (Testca.token "d" 1 [3])

theorem post_transparent_renewal :
    let arrived := arriving (jsonRequest renewRuntime.bodies (endpoint "https://ca/" renewal.route.path)
      renewal.dpop renewal.body)
    renewal.post renewRuntime.bodies delivering "https://ca/" = do
      let id ← Thread.reads (requestId renewRuntime arrived.parts)
      let outcome ← Thread.attempt (renewal.request.thread renewRuntime.toRuntime renewState.service
        (requestUrl arrived.parts renewState) (some id))
      return outcome.mapError refusal :=
  post_transparent Testca.JsonText.readsBack_bodies (by decide)
    { method := rfl, path := by decide, dpop := rfl, body := rfl, answered := rfl }

end Ayane.Cli
