import Ayane.Http.Handlers
import Ayane.Service.Accounted
import Ayane.Testca.JsonText
import Ayane.Testca.Server

/-!
# Requests that are served at the same time

Instances that share one storage serve HTTP requests, whose steps interleave. A request that is answered
has reported what it was answered, and what it was answered stays true of the storage; and whatever is
new in the storage was put there by a request that is answered so.
-/

namespace Ayane

open Ayane.Action Effect Interleave Storage Thread

/-- A request at the instance that serves it, with what it has for itself when it arrives. -/
structure HttpCall where
  rt : HttpRuntime
  state : AppState
  request : ApiRequest
  arrival : Own

namespace HttpCall

def prog (call : HttpCall) : Prog Storage (EStateM.Result Abort Own ApiResponse) :=
  router call.rt call.state call.request call.arrival

/-- The correlation id, as its events have it. -/
def requestId (call : HttpCall) : Option String :=
  some (Ayane.requestId call.rt call.request.parts call.arrival)

/-- How a request ends that reports nothing. -/
def Unreported (call : HttpCall) : EStateM.Result Abort Own ApiResponse → Prop
  | .ok _ o => SameAudit call.arrival o
  | .error (.error _) _ => False
  | .error (.panic _) _ => True

section

variable {α β : Type} (call : HttpCall) (decode : Json → Except String α) (encode : β → Json)
  (status : ℕ) (eventType : String)

/-- How a request with a body ends: nothing is reported when the body cannot be read, and otherwise one
event, which says how the request was answered. -/
def Answered (P : α → β → AuditEvent → Storage → Prop) (r : EStateM.Result Abort Own ApiResponse)
    (s : Storage) : Prop :=
  match r with
  | .ok response o =>
    match apiJson call.rt.bodies decode call.request.body with
    | .error e => response = apiError call.rt.bodies e ∧ SameAudit call.arrival o
    | .ok req => ∃ event, o.audit = event :: call.arrival.audit ∧
        ((∃ resp, response = jsonResponse call.rt.bodies status (encode resp) ∧
          event.Succeeds eventType call.requestId ∧ P req resp event s) ∨
        ∃ e, response = apiError call.rt.bodies e ∧ event.Denies eventType call.requestId e)
  | .error (.error _) _ => False
  | .error (.panic _) _ => True

/-- How a request with a body ends that has stored something: it is answered so, or it panics. -/
def Tells (D : α → β → AuditEvent → Prop) : EStateM.Result Abort Own ApiResponse → Prop
  | .ok response o => ∃ req resp event, apiJson call.rt.bodies decode call.request.body = .ok req ∧
      response = jsonResponse call.rt.bodies status (encode resp) ∧
      o.audit = event :: call.arrival.audit ∧ event.Succeeds eventType call.requestId ∧ D req resp event
  | .error (.error _) _ => False
  | .error (.panic _) _ => True

end

/-- How a request ends, by its route. -/
def Accounted (call : HttpCall) (r : EStateM.Result Abort Own ApiResponse) (s : Storage) : Prop :=
  match call.request.method, Route.ofPath call.request.parts.path with
  | .post, some .sign => call.Answered SignRequest.ofJson CertificateResponse.toJson 201
      "certificate.issued" (fun _ => Recorded) r s
  | .post, some .renew => call.Answered RenewRequest.ofJson CertificateResponse.toJson 201
      "certificate.renewed" (fun _ => Recorded) r s
  | .post, some .rekey => call.Answered RekeyRequest.ofJson CertificateResponse.toJson 201
      "certificate.rekeyed" (fun _ => Recorded) r s
  | .post, some .revoke => call.Answered RevokeRequest.ofJson RevokeResponse.toJson 200
      "certificate.revoked" (Service.Acknowledged call.rt.crates) r s
  | _, _ => call.Unreported r

/-- How a request ends that has put an entry into the storage, by its route. -/
def Put (call : HttpCall) (entry : Entry) (r : EStateM.Result Abort Own ApiResponse) : Prop :=
  match call.request.method, Route.ofPath call.request.parts.path, entry with
  | .post, some .sign, .certificate record => call.Tells SignRequest.ofJson CertificateResponse.toJson 201
      "certificate.issued" (fun _ => record.Told) r
  | .post, some .renew, .certificate record => call.Tells RenewRequest.ofJson CertificateResponse.toJson
      201 "certificate.renewed" (fun _ => record.Told) r
  | .post, some .rekey, .certificate record => call.Tells RekeyRequest.ofJson CertificateResponse.toJson
      201 "certificate.rekeyed" (fun _ => record.Told) r
  | .post, some .revoke, .revocation record => call.Tells RevokeRequest.ofJson RevokeResponse.toJson 200
      "certificate.revoked" (record.Told call.rt.crates) r
  | _, _, _ => False

end HttpCall

/-! ## Handlers -/

section

variable {α β : Type} {call : HttpCall} {decode : Json → Except String α} {encode : β → Json}
  {status : ℕ} {eventType : String} {serve : α → String → Thread β}
  {P : α → β → AuditEvent → Storage → Prop} {s : Storage}

theorem answered_of_error {e : Error} {o : Own}
    (hbody : apiJson call.rt.bodies decode call.request.body = .error e) (hsame : SameAudit call.arrival o) :
    call.Answered decode encode status eventType P (.ok (apiError call.rt.bodies e) o) s := by
  simpa only [HttpCall.Answered, hbody, true_and] using hsame

theorem answered_of_ok {req : α} {event : AuditEvent} {response : ApiResponse} {o : Own}
    (hbody : apiJson call.rt.bodies decode call.request.body = .ok req)
    (haudit : o.audit = event :: call.arrival.audit)
    (h : (∃ resp, response = jsonResponse call.rt.bodies status (encode resp) ∧
        event.Succeeds eventType call.requestId ∧ P req resp event s) ∨
      ∃ e, response = apiError call.rt.bodies e ∧ event.Denies eventType call.requestId e) :
    call.Answered decode encode status eventType P (.ok response o) s := by
  simp only [HttpCall.Answered, hbody]
  exact ⟨event, haudit, h⟩

theorem leaves_bodyHandler
    (hserve : ∀ req, (serve req (requestId call.rt call.request.parts call.arrival)).Leaves Persists
      (Reported eventType call.requestId (P req) call.arrival) call.arrival s) :
    (bodyHandler call.rt decode encode status serve call.request).Leaves Persists
      (call.Answered decode encode status eventType P) call.arrival s := by
  unfold bodyHandler answer
  rw [attempt_reads_bind, bind_assoc]
  refine leaves_reads ?_
  cases hbody : apiJson call.rt.bodies decode call.request.body with
  | error e => exact ⟨answered_of_error hbody rfl⟩
  | ok req =>
    simp only [Thread.ofResult, pure_bind, attempt_map, bind_assoc]
    refine leaves_bind (leaves_attempt (hserve req)) (fun outcome o s h => ?_) fun abort o s h => ?_
    · cases outcome with
      | ok resp =>
        obtain ⟨event, haudit, hsucceeds, hP⟩ := h
        exact leaves_pure (answered_of_ok hbody haudit (.inl ⟨resp, rfl, hsucceeds, hP⟩))
      | error e =>
        obtain ⟨event, haudit, hdenies⟩ := h
        exact leaves_pure (answered_of_ok hbody haudit (.inr ⟨e, rfl, hdenies⟩))
    · cases abort with
      | error e => exact h.elim
      | panic message => trivial

theorem answersFor_bodyHandler {γ : Type} {kind : γ → Entry} {P : γ → Prop}
    {D : γ → α → β → AuditEvent → Prop}
    (hserve : ∀ req, (serve req (requestId call.rt call.request.parts call.arrival) call.arrival).AnswersFor
      Holds (Stores kind P fun record => Told eventType call.requestId (D record req) call.arrival)) :
    (bodyHandler call.rt decode encode status serve call.request call.arrival).AnswersFor Holds
      (Stores kind P fun record => call.Tells decode encode status eventType (D record)) := by
  unfold bodyHandler answer
  rw [attempt_reads_bind, bind_assoc]
  change ((attempt (Thread.ofResult (apiJson call.rt.bodies decode call.request.body) >>= fun req =>
    serve req (requestId call.rt call.request.parts call.arrival) >>= fun resp =>
      pure (jsonResponse call.rt.bodies status (encode resp))) >>= _) call.arrival).AnswersFor Holds _
  cases hbody : apiJson call.rt.bodies decode call.request.body with
  | error e => trivial
  | ok req =>
    simp only [Thread.ofResult, pure_bind, attempt_map, bind_assoc]
    refine answersFor_bind (answersFor_attempt (hserve req)) (fun outcome o _ => ?_)
      (fun entry outcome o htold r hends => ?_) fun entry abort o htold => ?_
    · cases outcome <;> trivial
    · cases outcome with
      | ok resp =>
        obtain ⟨record, hentry, hP, event, haudit, hsucceeds, hD⟩ := htold
        obtain rfl := hends
        exact ⟨record, hentry, hP, req, resp, event, hbody, rfl, haudit, hsucceeds, hD⟩
      | error e =>
        obtain ⟨_, -, -, hfalse⟩ := htold
        exact hfalse.elim
    · cases abort with
      | error e => exact htold.elim
      | panic message =>
        obtain ⟨record, hentry, hP, -⟩ := htold
        exact ⟨record, hentry, hP, trivial⟩

theorem silent_bodyHandler {R : Storage → Storage → Prop} {rt : HttpRuntime} {request : ApiRequest}
    (hserve : ∀ req id o, (serve req id o).Silent R) (o : Own) :
    (bodyHandler rt decode encode status serve request o).Silent R := by
  unfold bodyHandler answer
  refine silent_bind (silent_attempt ?_) fun outcome _ _ => by cases outcome <;> trivial
  refine silent_bind trivial fun id o _ => ?_
  refine silent_bind ?_ fun req o _ => silent_bind (hserve req id o) fun _ _ _ => trivial
  cases apiJson rt.bodies decode request.body <;> trivial

end

theorem quiet_ofResult {α : Type} {R : Storage → Storage → Prop} (r : Result α) :
    Quiet R SameAudit (Thread.ofResult r) := by
  cases r with
  | ok a => exact quiet_pure a
  | error e =>
    refine ⟨fun _ => trivial, fun o r hends => ?_⟩
    obtain rfl := hends
    rfl

theorem leaves_rootsHandler (call : HttpCall) {s : Storage} :
    (rootsHandler call.rt call.state).Leaves Persists (fun r _ => call.Unreported r) call.arrival s := by
  have hquiet := quiet_persists (call.state.service.quiet_signedRoots call.rt.toRuntime)
  have hroots := quiet_bind hquiet fun signed => quiet_ofResult (R := Persists) (do
    let response : ApiResponse := { status := 200, headers := [], body := signed.body }
    let response ← setHeader "content-type" signed.contentType response
    let response ← setHeader "Content-Digest" signed.contentDigest response
    let response ← setHeader "Signature-Key" signed.signatureKey response
    let response ← setHeader "Signature-Input" signed.signatureInput response
    setHeader "Signature" signed.signature response)
  have hleaves := @Quiet.leaves _ Persists _ call.arrival s SameAudit (fun _ => True) hroots
    (fun _ _ _ _ => trivial) trivial
  refine leaves_bind (leaves_attempt hleaves) (fun outcome o s hended => ?_) fun abort o s hended => ?_
  · cases outcome with
    | ok response => exact leaves_pure hended.1.2
    | error e => exact leaves_pure hended.1.2
  · cases abort with
    | error e => exact hended.elim
    | panic message => trivial

theorem silent_rootsHandler (rt : HttpRuntime) (state : AppState) (o : Own) :
    (rootsHandler rt state o).Silent Prepares := by
  refine silent_bind (silent_attempt ?_) fun outcome _ _ => by cases outcome <;> trivial
  refine silent_bind ((state.service.quiet_signedRoots rt.toRuntime).silent o) fun signed o _ => ?_
  exact (quiet_ofResult _).silent o

/-! ## The router -/

section

variable {R : Storage → Storage → Prop} {call : HttpCall} {s : Storage}

/-- A route that is got, and asked for otherwise. -/
theorem leaves_routeGet {handler : Thread ApiResponse}
    (h : handler.Leaves R (fun r _ => call.Unreported r) call.arrival s) :
    (routeGet handler call.request).Leaves R (fun r _ => call.Unreported r) call.arrival s := by
  unfold routeGet
  cases call.request.method with
  | get => exact h
  | head => exact leaves_bind h (fun _ _ _ hended => leaves_pure hended) fun _ _ _ hended => hended
  | post => exact leaves_pure rfl
  | other name => exact leaves_pure rfl

theorem silent_routeGet {handler : Thread ApiResponse} {request : ApiRequest} {o : Own}
    (h : (handler o).Silent R) : (routeGet handler request o).Silent R := by
  unfold routeGet
  cases request.method with
  | get => exact h
  | head => exact silent_bind h fun _ _ _ => trivial
  | post => trivial
  | other name => trivial

theorem silent_routePost {handler : ApiRequest → Thread ApiResponse} {request : ApiRequest} {o : Own}
    (h : (handler request o).Silent R) : (routePost handler request o).Silent R := by
  unfold routePost
  cases request.method with
  | post => exact h
  | get => trivial
  | head => trivial
  | other name => trivial

end

/-- A request does nothing to the storage but what requests do. -/
theorem silent_router (rt : HttpRuntime) (state : AppState) (request : ApiRequest) (o : Own) :
    (router rt state request o).Silent Served := by
  unfold router
  cases Route.ofPath request.parts.path with
  | none => trivial
  | some route =>
    cases route with
    | health => exact silent_routeGet trivial
    | roots =>
      exact silent_routeGet ((silent_rootsHandler rt state o).mono fun _ _ => Prepares.served)
    | rootsSignerChain => exact silent_routeGet trivial
    | provisioners => exact silent_routeGet trivial
    | sign =>
      exact silent_routePost (silent_bodyHandler (fun req id => state.service.silent_signThread _ _ _ _) o)
    | renew =>
      exact silent_routePost
        (silent_bodyHandler (fun req id => state.service.silent_reissueThread _ _ _ _ _ _) o)
    | rekey =>
      exact silent_routePost
        (silent_bodyHandler (fun req id => state.service.silent_reissueThread _ _ _ _ _ _) o)
    | revoke =>
      exact silent_routePost
        (silent_bodyHandler (fun req id => state.service.silent_revokeThread _ _ _ _ _) o)

section

variable {call : HttpCall} {s : Storage}

theorem accounted_of_unreported (hroute : ∀ route ∈ [Route.sign, .renew, .rekey, .revoke],
      call.request.method = .post → Route.ofPath call.request.parts.path ≠ some route)
    {r : EStateM.Result Abort Own ApiResponse} (h : call.Unreported r) : call.Accounted r s := by
  unfold HttpCall.Accounted
  split
  · exact absurd ‹_› (hroute .sign (by simp) ‹_›)
  · exact absurd ‹_› (hroute .renew (by simp) ‹_›)
  · exact absurd ‹_› (hroute .rekey (by simp) ‹_›)
  · exact absurd ‹_› (hroute .revoke (by simp) ‹_›)
  · exact h

/-- A route that is posted to, and asked for otherwise. -/
theorem leaves_routePost {handler : ApiRequest → Thread ApiResponse}
    {Q : EStateM.Result Abort Own ApiResponse → Storage → Prop}
    (hpost : call.request.method = .post → (handler call.request).Leaves Persists Q call.arrival s)
    (hother : call.request.method ≠ .post → ∀ r s, call.Unreported r → Q r s) :
    (routePost handler call.request).Leaves Persists Q call.arrival s := by
  unfold routePost
  cases hmethod : call.request.method with
  | post => exact hpost hmethod
  | get => exact leaves_pure (hother (by simp [hmethod]) _ _ rfl)
  | head => exact leaves_pure (hother (by simp [hmethod]) _ _ rfl)
  | other name => exact leaves_pure (hother (by simp [hmethod]) _ _ rfl)

theorem leaves_signHandler (htimes : PanicsOnly call.rt.crates) (hread : s.Readable) :
    (signHandler call.rt call.state call.request).Leaves Persists
      (call.Answered SignRequest.ofJson CertificateResponse.toJson 201 "certificate.issued"
        fun _ => Recorded) call.arrival s :=
  leaves_bodyHandler fun req => call.state.service.leaves_signThread htimes req _ _ _ hread

theorem leaves_renewHandler (htimes : PanicsOnly call.rt.crates) (hread : s.Readable) :
    (renewHandler call.rt call.state call.request).Leaves Persists
      (call.Answered RenewRequest.ofJson CertificateResponse.toJson 201 "certificate.renewed"
        fun _ => Recorded) call.arrival s :=
  leaves_bodyHandler fun req =>
    call.state.service.leaves_reissueThread htimes req.certificate none _ _ _ _ hread

theorem leaves_rekeyHandler (htimes : PanicsOnly call.rt.crates) (hread : s.Readable) :
    (rekeyHandler call.rt call.state call.request).Leaves Persists
      (call.Answered RekeyRequest.ofJson CertificateResponse.toJson 201 "certificate.rekeyed"
        fun _ => Recorded) call.arrival s :=
  leaves_bodyHandler fun req =>
    call.state.service.leaves_reissueThread htimes req.certificate (some req.csr) _ _ _ _ hread

theorem leaves_revokeHandler (htimes : PanicsOnly call.rt.crates) (hread : s.Readable) :
    (revokeHandler call.rt call.state call.request).Leaves Persists
      (call.Answered RevokeRequest.ofJson RevokeResponse.toJson 200 "certificate.revoked"
        (Service.Acknowledged call.rt.crates)) call.arrival s :=
  leaves_bodyHandler fun req => call.state.service.leaves_revokeThread htimes req _ _ _ _ hread

/-- A request is answered as it is accounted for. -/
theorem leaves_router (htimes : PanicsOnly call.rt.crates) (hread : s.Readable) :
    (router call.rt call.state call.request).Leaves Persists call.Accounted call.arrival s := by
  have hunposted : call.request.method ≠ .post → ∀ r s, call.Unreported r → call.Accounted r s :=
    fun hmethod r s h => accounted_of_unreported (fun _ _ hpost => absurd hpost hmethod) h
  unfold router
  cases hroute : Route.ofPath call.request.parts.path with
  | none =>
    refine leaves_pure (accounted_of_unreported ?_ rfl)
    simp [hroute]
  | some route =>
    have hgot : route ∉ [Route.sign, .renew, .rekey, .revoke] → ∀ r s, call.Unreported r →
        call.Accounted r s := by
      intro hnot r s h
      refine accounted_of_unreported (fun route' hmem _ hsame => hnot ?_) h
      rw [hroute] at hsame
      cases hsame
      exact hmem
    cases route with
    | health =>
      exact (leaves_routeGet (leaves_pure rfl)).mono (hgot (by decide))
    | roots => exact (leaves_routeGet (leaves_rootsHandler call)).mono (hgot (by decide))
    | rootsSignerChain =>
      exact (leaves_routeGet (leaves_pure rfl)).mono (hgot (by decide))
    | provisioners =>
      exact (leaves_routeGet (leaves_pure rfl)).mono (hgot (by decide))
    | sign =>
      refine leaves_routePost (fun hpost => (leaves_signHandler htimes hread).mono fun r s h => ?_)
        hunposted
      simpa only [HttpCall.Accounted, hroute, hpost] using h
    | renew =>
      refine leaves_routePost (fun hpost => (leaves_renewHandler htimes hread).mono fun r s h => ?_)
        hunposted
      simpa only [HttpCall.Accounted, hroute, hpost] using h
    | rekey =>
      refine leaves_routePost (fun hpost => (leaves_rekeyHandler htimes hread).mono fun r s h => ?_)
        hunposted
      simpa only [HttpCall.Accounted, hroute, hpost] using h
    | revoke =>
      refine leaves_routePost (fun hpost => (leaves_revokeHandler htimes hread).mono fun r s h => ?_)
        hunposted
      simpa only [HttpCall.Accounted, hroute, hpost] using h

theorem answered_persists {α β : Type} {decode : Json → Except String α} {encode : β → Json} {status : ℕ}
    {eventType : String} {P : α → β → AuditEvent → Storage → Prop}
    (hP : ∀ req resp event s s', s.Persists s' → P req resp event s → P req resp event s')
    {r : EStateM.Result Abort Own ApiResponse} {s s' : Storage} (hs : s.Persists s')
    (h : call.Answered decode encode status eventType P r s) :
    call.Answered decode encode status eventType P r s' := by
  rcases r with ⟨response, o⟩ | ⟨_ | _, o⟩
  · unfold HttpCall.Answered at h ⊢
    cases hbody : apiJson call.rt.bodies decode call.request.body with
    | error e => simpa only [hbody] using h
    | ok req =>
      simp only [hbody] at h ⊢
      obtain ⟨event, haudit, ⟨resp, hresponse, hsucceeds, hserved⟩ | hdenied⟩ := h
      · exact ⟨event, haudit, .inl ⟨resp, hresponse, hsucceeds, hP _ _ _ _ _ hs hserved⟩⟩
      · exact ⟨event, haudit, .inr hdenied⟩
  · exact h
  · exact h

/-- What a request was answered stays true of the storage. -/
theorem accounted_persists {r : EStateM.Result Abort Own ApiResponse} {s s' : Storage}
    (hs : s.Persists s') (h : call.Accounted r s) : call.Accounted r s' := by
  have hrecorded : ∀ {α : Type} (_ : α) resp event s s', Persists s s' → Recorded resp event s →
      Recorded resp event s' := fun _ _ _ _ _ hs h => h.persists hs
  unfold HttpCall.Accounted at h ⊢
  split at h
  · exact answered_persists hrecorded hs h
  · exact answered_persists hrecorded hs h
  · exact answered_persists hrecorded hs h
  · exact answered_persists (fun _ _ _ _ _ hs h => h.persists hs) hs h
  · exact h

theorem answersFor_routePost {handler : ApiRequest → Thread ApiResponse}
    {R : Entry → EStateM.Result Abort Own ApiResponse → Prop}
    (h : call.request.method = .post → (handler call.request call.arrival).AnswersFor Holds R) :
    (routePost handler call.request call.arrival).AnswersFor Holds R := by
  unfold routePost
  cases hmethod : call.request.method with
  | post => exact h hmethod
  | get => trivial
  | head => trivial
  | other name => trivial

/-- A request puts into the storage what it is answered, and a certificate as it was planned. -/
theorem answersFor_router (htimes : PanicsOnly call.rt.crates) {P : CertificateRecord → Prop}
    (hplans : call.state.service.Plans call.rt.toRuntime P) :
    call.prog.AnswersFor Holds fun entry r => entry.Certifies P ∧ call.Put entry r := by
  have hquiet : ∀ {p : Prog Storage (EStateM.Result Abort Own ApiResponse)}, p.Silent Steady →
      p.AnswersFor Holds fun entry r => entry.Certifies P ∧ call.Put entry r :=
    fun hp => hp.answersFor fun _ _ hs => hs.holds
  unfold HttpCall.prog router
  cases hroute : Route.ofPath call.request.parts.path with
  | none => exact hquiet trivial
  | some route =>
    cases route with
    | health => exact hquiet (silent_routeGet trivial)
    | roots =>
      exact hquiet (silent_routeGet ((silent_rootsHandler _ _ _).mono fun _ _ => Prepares.steady))
    | rootsSignerChain => exact hquiet (silent_routeGet trivial)
    | provisioners => exact hquiet (silent_routeGet trivial)
    | sign =>
      refine answersFor_routePost fun hpost => (answersFor_bodyHandler fun req =>
        call.state.service.answersFor_signThread htimes hplans req _ _ _).mono ?_
      rintro entry r ⟨record, rfl, hP, htells⟩
      refine ⟨hP, ?_⟩
      simp only [HttpCall.Put, hroute, hpost]
      exact htells
    | renew =>
      refine answersFor_routePost fun hpost => (answersFor_bodyHandler fun req =>
        call.state.service.answersFor_reissueThread htimes hplans req.certificate none _ _ _ _).mono ?_
      rintro entry r ⟨record, rfl, hP, htells⟩
      refine ⟨hP, ?_⟩
      simp only [HttpCall.Put, hroute, hpost]
      exact htells
    | rekey =>
      refine answersFor_routePost fun hpost => (answersFor_bodyHandler fun req =>
        call.state.service.answersFor_reissueThread htimes hplans req.certificate (some req.csr) _ _ _
          _).mono ?_
      rintro entry r ⟨record, rfl, hP, htells⟩
      refine ⟨hP, ?_⟩
      simp only [HttpCall.Put, hroute, hpost]
      exact htells
    | revoke =>
      refine answersFor_routePost fun hpost => (answersFor_bodyHandler fun req =>
        call.state.service.answersFor_revokeThread htimes req _ _ _ _).mono ?_
      rintro entry r ⟨record, rfl, -, htells⟩
      refine ⟨trivial, ?_⟩
      simp only [HttpCall.Put, hroute, hpost]
      exact htells

end

/-! ## Any number of requests -/

/-! ### A request to sign and one to revoke -/

namespace Signing

/-- The claims of a token for the path. -/
def claims (path sub jti : String) : Json := .obj [("iss", .str "ci"), ("aud", .str ("ca" ++ path)),
  ("sub", .str sub), ("iat", .int 1000), ("nbf", .int 1000), ("exp", .int 1300), ("jti", .str jti)]

def rt : HttpRuntime := Testca.JsonText.serving (Testca.still (Testca.serverCrates []
  [("csr", Testca.csr)] [([1], claims "/v1/sign" "web" "t-1"), ([2], claims "/v1/revoke" "7" "t-2")]))

/-- A certificate is signed, and another one revoked. -/
def call (signs : Bool) : HttpCall where
  rt
  state := .boot (Testca.service true []) (some "ca")
  request := {
    method := .post
    parts := ⟨if signs then "/v1/sign" else "/v1/revoke", fun _ => none⟩
    body := .ok (utf8 (if signs then "\x7b\"csr\":\"csr\",\"token\":\"o.01.09\"\x7d"
      else "\x7b\"serial_number\":\"7\",\"token\":\"o.02.09\"\x7d")) }
  arrival := (Testca.world Testca.sqlite (Testca.instant 1000)).own

/-- The requests take turns. -/
@[irreducible] def turns (ε : Type) : List (Turn Bool ε) :=
  (List.replicate 6 [.prog true, .prog false]).flatten

theorem panicsOnly : PanicsOnly rt.crates := by
  intro t abort h
  cases h

def status : EStateM.Result Abort Own ApiResponse → Option ℕ
  | .ok response _ => some response.status
  | .error _ _ => none

def serial : String := "1427247692705959881058285969449495136382746624"

def stored : Storage → Option String
  | .sqlite db => (db.certificates.lookup serial).map (·.serialNumber)
  | .dynamodb _ => none

def revoked : Storage → Option String
  | .sqlite db => (db.revocations.lookup "7").map (·.serialNumber)
  | .dynamodb _ => none

theorem not_holds (entry : Entry) : ¬Testca.sqlite.Holds entry := by
  intro h
  cases entry with
  | certificate record => cases h
  | revocation record => cases h

theorem holds_of_stored {s : Storage} (h : stored s = some serial) :
    ∃ record, s.Holds (.certificate record) := by
  cases s with
  | sqlite db =>
    obtain ⟨record, hrecord, hserial⟩ := Option.map_eq_some_iff.mp h
    refine ⟨record, ?_⟩
    change db.certificates.lookup record.serialNumber = some record
    rw [hserial]
    exact hrecord
  | dynamodb db => cases h

theorem holds_of_revoked {s : Storage} (h : revoked s = some "7") :
    ∃ record, s.Holds (.revocation record) := by
  cases s with
  | sqlite db =>
    obtain ⟨record, hrecord, hserial⟩ := Option.map_eq_some_iff.mp h
    refine ⟨record, ?_⟩
    change Except.ok (db.revocations.lookup record.serialNumber) = Except.ok (some record)
    rw [hserial, hrecord]
  | dynamodb db => cases h

end Signing

section

variable {ι : Type} (calls : ι → HttpCall) (s : Storage)

/-- The requests, about to be served, and the storage that the instances share. -/
def serving : System ι Storage (EStateM.Result Abort Own ApiResponse) where
  progs i := (calls i).prog
  state := s

variable [DecidableEq ι]

/-- A request that has been served, among others and among any operations on the storage, is accounted for:
it is answered unless it panics, it has reported one event that says how, and the certificate that it
returned or the revocation that it acknowledged is in the storage from then on. -/
theorem accounted_of_serving (hread : s.Readable) (htimes : ∀ i, PanicsOnly (calls i).rt.crates)
    (turns : List (Turn ι Storage.Operation)) (i : ι) (r : EStateM.Result Abort Own ApiResponse)
    (hresult : (((serving calls s).after (fun op s => op.apply s) turns).progs i).result = some r) :
    (calls i).Accounted r ((serving calls s).after (fun op s => op.apply s) turns).state := by
  have hstart : System.Relying Persists (fun i r s => (calls i).Accounted r s) (serving calls s) :=
    ⟨fun i => (leaves_router (htimes i) hread).prog,
      fun i => (silent_router _ _ _ _).mono fun _ _ => Performs.persists⟩
  exact hstart.of_result (fun _ _ _ _ hs h => accounted_persists hs h) (fun op s => s.persists_apply op)
    hresult

end

theorem accounted_signing :
    let served := (serving Signing.call Testca.sqlite).after (fun op s => op.apply s)
      (Signing.turns Storage.Operation)
    (∃ r, Signing.status r = some 201 ∧ (Signing.call true).Accounted r served.state) ∧
      ∃ r, Signing.status r = some 200 ∧ (Signing.call false).Accounted r served.state := by
  have hstatus : ∀ signs, (((serving Signing.call Testca.sqlite).after (fun op s => op.apply s)
      (Signing.turns Storage.Operation)).progs signs).result.bind Signing.status =
        some (if signs then 201 else 200) := by
    decide +kernel
  obtain ⟨signed, hsigned, h201⟩ := Option.bind_eq_some_iff.mp (hstatus true)
  obtain ⟨revoked, hrevoked, h200⟩ := Option.bind_eq_some_iff.mp (hstatus false)
  exact ⟨⟨signed, h201, accounted_of_serving Signing.call Testca.sqlite (fun _ => ⟨_, rfl⟩)
      (fun _ => Signing.panicsOnly) (Signing.turns Storage.Operation) true signed hsigned⟩,
    revoked, h200, accounted_of_serving Signing.call Testca.sqlite (fun _ => ⟨_, rfl⟩)
      (fun _ => Signing.panicsOnly) (Signing.turns Storage.Operation) false revoked hrevoked⟩

section

variable {ι : Type} (calls : ι → HttpCall) (s : Storage) [DecidableEq ι]

/-- A certificate or a revocation that is new in the storage was put there by one of the requests, however
they are interleaved: however that goes on, it is answered with it and reports it, or it panics. -/
theorem put_of_serving (htimes : ∀ i, PanicsOnly (calls i).rt.crates)
    (turns : List (Turn ι {op : Storage.Operation // op.entry? = none})) (entry : Entry)
    (hentry : ((serving calls s).after (fun op s => op.1.apply s) turns).state.Holds entry) :
    s.Holds entry ∨ ∃ i, ∀ r,
      (((serving calls s).after (fun op s => op.1.apply s) turns).progs i).Ends r →
        (calls i).Put entry r := by
  have hstart : System.Answering Holds (fun i => (calls i).Put) s.Holds (serving calls s) :=
    ⟨fun i => (answersFor_router (htimes i) (calls i).state.service.plans_any).mono fun _ _ h => h.2,
      fun _ h => .inl h⟩
  have hact : ∀ (op : {op : Storage.Operation // op.entry? = none}) (s : Storage) (entry : Entry),
      (op.1.apply s).Holds entry → s.Holds entry := fun op _ _ h => holds_of_idle op.2 h
  exact (hstart.after hact turns).source entry hentry

end

theorem put_signing :
    let served := (serving Signing.call Testca.sqlite).after (fun op s => op.1.apply s)
      (Signing.turns {op : Storage.Operation // op.entry? = none})
    (∃ record i, ∀ r, (served.progs i).Ends r → (Signing.call i).Put (.certificate record) r) ∧
      ∃ record i, ∀ r, (served.progs i).Ends r → (Signing.call i).Put (.revocation record) r := by
  intro served
  have hput : ∀ entry, served.state.Holds entry →
      ∃ i, ∀ r, (served.progs i).Ends r → (Signing.call i).Put entry r := by
    intro entry hentry
    obtain hold | hput := put_of_serving Signing.call Testca.sqlite (fun _ => Signing.panicsOnly)
      (Signing.turns {op : Storage.Operation // op.entry? = none}) entry hentry
    · exact absurd hold (Signing.not_holds entry)
    · exact hput
  have hstored : Signing.stored served.state = some Signing.serial := by decide +kernel
  have hrevoked : Signing.revoked served.state = some "7" := by decide +kernel
  obtain ⟨certificate, hcertificate⟩ := Signing.holds_of_stored hstored
  obtain ⟨revocation, hrevocation⟩ := Signing.holds_of_revoked hrevoked
  exact ⟨⟨certificate, hput _ hcertificate⟩, revocation, hput _ hrevocation⟩

end Ayane
