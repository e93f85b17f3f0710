import Ayane.Service.TokenRequest
import Ayane.Testca.Server

/-!
# Tokens of unauthorized provisioners

A provisioner may be configured so that its tokens only authenticate: a hook has to grant
each request. Signing keeps to that. Revoking does not: a valid token that names the
serial number is enough, and no hook is consulted.
-/

namespace Ayane

open Ayane.Action Effect

/-- Between `w` and `w'` a hook that applies to `provisioner` was consulted, and granted the
request. -/
def Granted (hooks : List HookProvider) (provisioner : String) (w w' : World) : Prop :=
  ∃ answers, w'.consultations = answers ++ w.consultations ∧
    ∃ c ∈ answers, c.hook ∈ hooks ∧ c.hook.appliesTo (some provisioner) = true ∧
      c.provisioner = some provisioner ∧ c.allow = some true

section

variable {hooks : List HookProvider} {provisioner : String} {w w' w'' : World}

theorem Granted.later (h : Granted hooks provisioner w w')
    (hsuffix : w'.consultations <:+ w''.consultations) : Granted hooks provisioner w w'' := by
  obtain ⟨answers, heq, c, hc, hgrant⟩ := h
  obtain ⟨more, hmore⟩ := hsuffix
  refine ⟨more ++ answers, ?_, c, List.mem_append_right _ hc, hgrant⟩
  rw [← hmore, heq, List.append_assoc]

theorem Granted.earlier (h : Granted hooks provisioner w' w'')
    (hsuffix : w.consultations <:+ w'.consultations) : Granted hooks provisioner w w'' := by
  obtain ⟨answers, heq, c, hc, hgrant⟩ := h
  obtain ⟨before, hbefore⟩ := hsuffix
  refine ⟨answers ++ before, ?_, c, List.mem_append_left _ hc, hgrant⟩
  rw [heq, ← hbefore, List.append_assoc]

theorem not_granted_of_eq (h : w'.consultations = w.consultations) :
    ¬Granted hooks provisioner w w' := by
  rintro ⟨answers, heq, c, hc, -⟩
  have hnil : answers = [] := List.append_left_eq_self.mp (heq.symm.trans h)
  rw [hnil] at hc
  cases hc

end

/-! ## Signing -/

namespace Hook

/-- One hook turns the request into an allowed one only by granting it. -/
theorem granted_of_consult {rt : Runtime} {hooks : List HookProvider} {ctx : Context}
    {provisioner : String} (hctx : ctx.provisioner = some provisioner) {request : HookRequest}
    {acc acc' : Customization × Bool} {hook : HookProvider} (hmem : hook ∈ hooks) {w w' : World}
    (hrun : (consult rt ctx request acc hook).run w = .ok acc' w') (hyes : acc'.2 = true) :
    acc.2 = true ∨ Granted hooks provisioner w w' := by
  unfold consult at hrun
  split at hrun
  · cases hrun
    exact .inl hyes
  · rename_i happlies
    obtain ⟨response, w₁, hcall, hrun⟩ := run_bind_eq_ok.mp hrun
    have hanswer := consultations_of_callHook hcall
    split at hrun
    · cases hrun
    · obtain ⟨c, w₂, hc, hpure⟩ := run_bind_eq_ok.mp hrun
      have hw := (run_ofResult_eq_ok.mp hc).2
      cases hpure
      subst hw
      rcases Bool.or_eq_true_iff.mp hyes with hbefore | hgrant
      · exact .inl hbefore
      · refine .inr ⟨[⟨hook, ctx.provisioner, response.allow⟩], hanswer, _, List.mem_singleton_self _,
          hmem, ?_, hctx, of_decide_eq_true hgrant⟩
        rw [← hctx]
        simpa using happlies

/-- What an unauthorized request gets past the hooks with is a grant. -/
theorem granted_of_run {rt : Runtime} {hooks : List HookProvider} {ctx : Context}
    {provisioner : String} (hctx : ctx.provisioner = some provisioner)
    (hauth : ctx.authorized = false) {custom : Customization} {w w' : World}
    (hrun : (run rt hooks ctx).run w = .ok custom w') : Granted hooks provisioner w w' := by
  unfold run at hrun
  split at hrun
  · obtain ⟨u, w₁, hguard, -⟩ := run_bind_eq_ok.mp hrun
    rw [hauth] at hguard
    cases hguard
  · obtain ⟨request, w₁, hrequest, hrun⟩ := run_bind_eq_ok.mp hrun
    obtain ⟨⟨c, allowed⟩, w₂, hfold, hrun⟩ := run_bind_eq_ok.mp hrun
    obtain ⟨u, w₃, hguard, hpure⟩ := run_bind_eq_ok.mp hrun
    obtain ⟨hguard, hw⟩ := run_ofResult_eq_ok.mp hguard
    cases hpure
    subst hw
    have hallowed : allowed = true := by
      rw [hauth] at hguard
      cases allowed with
      | true => rfl
      | false => cases hguard
    have hbefore := (waits_request rt ctx).of_ok hrequest
    -- the answers so far include a grant as soon as the request counts as allowed
    let GrantedWhenAllowed : Customization × Bool → World → Prop :=
      fun acc w => w₁.Waits w ∧ (acc.2 = true → Granted hooks provisioner w₁ w)
    have hgrant : GrantedWhenAllowed (custom, allowed) w' := by
      refine foldlM_invariant (P := GrantedWhenAllowed) ?_ ⟨Std.Refl.refl w₁, fun h => absurd h Bool.false_ne_true⟩ hfold
      rintro hook hmem acc v acc' v' ⟨hwaits, hacc⟩ hconsult
      have hstep := (waits_consult rt ctx request acc hook).of_ok hconsult
      refine ⟨trans_of World.Waits hwaits hstep, fun hyes => ?_⟩
      obtain hold | hnew := granted_of_consult hctx hmem hconsult hyes
      · exact (hacc hold).later hstep.consultations
      · exact hnew.earlier hwaits.consultations
    exact (hgrant.2 hallowed).earlier hbefore.consultations

end Hook

namespace Service

variable {rt : Runtime} {service : Service}

theorem signPlan_granted {req : SignRequest} {csr : ParsedCsr} {validated : ValidatedToken}
    (hauth : validated.authorized = false) {plan : SignPlan} {w w' : World}
    (hrun : (service.signPlan rt req csr validated).run w = .ok plan w') :
    Granted service.hooks validated.provisioner w w' := by
  obtain ⟨sans, notBefore, notAfter, custom, ceiling, -, -, -, -, hhooks, -⟩ := of_signPlan hrun
  exact (Hook.granted_of_run rfl hauth hhooks).earlier List.suffix_rfl

end Service

section

variable {rt : Runtime} {service : Service} {requestUrl : String} {requestId : Option String}
  {validated : ValidatedToken} {w w₁ : World}

/-- A request to sign that changes anything has been granted. -/
theorem sign_granted {req : SignRequest} {csr : ParsedCsr}
    (hvalid : (service.signAuthenticate rt req requestUrl).run w = .ok (csr, validated) w₁)
    (hauth : validated.authorized = false)
    (hacts : (TokenRequest.sign req).Acts rt service requestUrl requestId w) :
    Granted service.hooks validated.provisioner w
      ((TokenRequest.sign req).after rt service requestUrl requestId w) := by
  have hwaits := (service.waits_signAuthenticate rt req requestUrl).of_ok hvalid
  have haudit := waits_of_audited rt "certificate.issued" requestId
    (service.trySign rt req requestUrl requestId) w
  have htry : (service.trySign rt req requestUrl requestId).run w = _ := run_bind_of_ok hvalid _
  cases hplan : (service.signPlan rt req csr validated).run w₁ with
  | ok plan w₂ =>
    have hgranted := (Service.signPlan_granted hauth hplan).earlier hwaits.consultations
    rw [htry, run_bind_of_ok hplan] at haudit
    have hrest : w₂.Evolves _ :=
      ((Service.evolves_signClaimJti rt validated).bind fun _ =>
        (evolves_claimOnceScopes rt plan.onceScopes plan.custom.notAfter).bind fun _ =>
          service.evolves_signIssue rt plan requestId) w₂
    exact hgranted.later (hrest.consultations.trans haudit.consultations)
  | error abort w₂ =>
    have hstorage : ((TokenRequest.sign req).after rt service requestUrl requestId w).storage =
        w.storage := by
      rw [htry, run_bind_of_error hplan] at haudit
      have hplanned := (service.waits_signPlan rt req csr validated).of_error hplan
      exact haudit.storage.trans (hplanned.storage.trans hwaits.storage)
    obtain ⟨w', hclaim⟩ | hchanged := hacts
    · rw [TokenRequest.claim, run_bind_of_ok hvalid, run_bind_of_error hplan] at hclaim
      cases hclaim
    · exact absurd hstorage hchanged

/-- A token that names the serial number that a request to revoke is for. -/
def NamesSerial (crates : ServerCrates) (req : RevokeRequest) (validated : ValidatedToken) : Prop :=
  ∃ serial, normalizeSerial crates req.serialNumber = .ok serial ∧
    normalizeSerial crates validated.claims.sub = .ok serial

end

/-! ## Revoking consults no hook -/

/-- No hook was consulted between `w` and `w'`. -/
def World.Silent (w w' : World) : Prop := w'.consultations = w.consultations

instance : Std.Refl World.Silent := ⟨fun _ => rfl⟩

instance : IsTrans World World.Silent := ⟨fun _ _ _ h h' => Eq.trans h' h⟩

theorem silent_tick (rt : Runtime) (w : World) : w.Silent (w.tick rt) := rfl

theorem silent_onStorage {α : Type} (rt : Runtime) (f : Storage → Outcome α × Storage) :
    Within World.Silent (onStorage rt f) := by
  intro w
  rw [final_onStorage]
  rfl

theorem silent_claimOnce (rt : Runtime) (key msg : String) (expiresAt : SystemTime) :
    Within World.Silent (claimOnce rt key expiresAt msg) := by
  refine Within.bind (silent_tick rt) fun _ => (within_ofOutcome _).bind fun _ => ?_
  have hclaim : Within World.Silent (claimToken rt key (max expiresAt ‹SystemTime›)) :=
    Within.bind (silent_tick rt) fun _ => silent_onStorage rt _
  exact (within_attempt hclaim).bind fun _ => within_ofResult _

theorem silent_eventNow (rt : Runtime) (eventType outcome : String) :
    Within World.Silent (eventNow rt eventType outcome) :=
  Within.bind (silent_tick rt) fun _ => (within_ofOutcome _).bind fun _ => within_pure _

theorem silent_denial (rt : Runtime) (eventType : String) (requestId : Option String) (e : Error) :
    Within World.Silent (denial rt eventType requestId e) :=
  (silent_eventNow rt _ _).bind fun _ => within_pure _

theorem silent_emit (event : AuditEvent) : Within World.Silent (emit event) := fun _ => rfl

namespace Service

variable (rt : Runtime) (service : Service)

theorem silent_revokeAuthenticate (req : RevokeRequest) (dpop : Option String)
    (requestUrl serial : String) (now : SystemTime) :
    Within World.Silent (service.revokeAuthenticate rt req dpop requestUrl serial now) := by
  unfold revokeAuthenticate
  split
  · refine (service.authorizer.within_validate (silent_tick rt) _ _).bind fun _ => ?_
    exact (within_ofResult _).bind fun _ => (within_ofResult _).bind fun _ => within_pure _
  · refine (within_ofResult _).bind fun _ => (within_ofResult _).bind fun _ => ?_
    refine (within_ofResult _).bind fun _ => (within_ofOutcome _).bind fun _ => within_pure _
  · exact within_throw _

theorem silent_revokeClaimJti (auth : RevokeAuth) :
    Within World.Silent (revokeClaimJti rt auth) := by
  cases auth with
  | token validated => exact (within_ofOutcome _).bind fun _ => silent_claimOnce rt _ _ _
  | proof verified => exact (within_ofOutcome _).bind fun _ => silent_claimOnce rt _ _ _

theorem silent_tryRevoke (req : RevokeRequest) (dpop : Option String) (requestUrl : String)
    (requestId : Option String) :
    Within World.Silent (service.tryRevoke rt req dpop requestUrl requestId) := by
  refine (within_ofResult _).bind fun serial => Within.bind (silent_tick rt) fun now => ?_
  refine (service.silent_revokeAuthenticate rt req dpop _ _ now).bind fun auth => ?_
  refine (silent_revokeClaimJti rt auth).bind fun _ => (within_ofOutcome _).bind fun _ => ?_
  refine (silent_onStorage rt _).bind fun _ => ?_
  exact (silent_eventNow rt _ _).bind fun _ => within_pure _

theorem silent_revoke (req : RevokeRequest) (dpop : Option String) (requestUrl : String)
    (requestId : Option String) :
    Within World.Silent (service.revoke rt req dpop requestUrl requestId) := by
  refine (within_attempt (service.silent_tryRevoke rt req dpop _ _)).bind fun outcome => ?_
  cases outcome with
  | ok served => exact (silent_emit _).bind fun _ => within_pure _
  | error e =>
    refine (silent_denial rt _ _ _).bind fun _ => ?_
    exact (silent_emit _).bind fun _ => within_throw _

end Service

section

variable {rt : Runtime} {service : Service} {requestUrl : String} {requestId : Option String}
  {validated : ValidatedToken} {w w₁ : World} {req : RevokeRequest} {token : String}
  {dpop : Option String}

/-- How a request to revoke goes on from its validated token. -/
theorem revoke_authenticated
    (hvalid : ((TokenRequest.revoke req token dpop).authenticate rt service requestUrl).run w =
      .ok validated w₁) :
    ∃ serial, normalizeSerial rt.crates req.serialNumber = .ok serial ∧
      ((NamesSerial rt.crates req validated ∧
        (service.revokeAuthenticate rt { req with token := some token } dpop requestUrl serial
          (w.tick rt).clock).run (w.tick rt) = .ok (.token validated) w₁) ∨
      (¬NamesSerial rt.crates req validated ∧
        ∃ abort, (service.revokeAuthenticate rt { req with token := some token } dpop requestUrl
          serial (w.tick rt).clock).run (w.tick rt) = .error abort w₁)) := by
  obtain ⟨serial, w', hread, hnext⟩ := run_bind_eq_ok.mp hvalid
  obtain ⟨hserial, hw⟩ := run_ofResult_eq_ok.mp hread
  rw [hw, run_bind_of_ok (run_systemTimeNow rt w)] at hnext
  refine ⟨serial, hserial, ?_⟩
  simp only [Service.revokeAuthenticate, run_bind_of_ok hnext, NamesSerial, hserial]
  cases hsub : normalizeSerial rt.crates validated.claims.sub with
  | error e => exact .inr ⟨by simp, .error e, rfl⟩
  | ok tokenSerial =>
    by_cases hsame : tokenSerial = serial
    · refine .inl ⟨⟨serial, rfl, congrArg Except.ok hsame⟩, ?_⟩
      rw [run_bind_of_ok (run_ofResult_of_ok rfl _),
        run_bind_of_ok (run_ofResult_of_ok (ensure_eq_ok (u := ()) |>.mpr hsame) _)]
      rfl
    · right
      refine ⟨by simpa [eq_comm] using hsame,
        .error (.forbidden "token does not authorize this serial number"), ?_⟩
      rw [run_bind_of_ok (run_ofResult_of_ok rfl _), ensure, if_neg hsame]
      rfl

/-- A request to revoke acts exactly when its token names the serial number and can be claimed. -/
theorem revoke_acts_iff
    (hvalid : ((TokenRequest.revoke req token dpop).authenticate rt service requestUrl).run w =
      .ok validated w₁) :
    (TokenRequest.revoke req token dpop).Acts rt service requestUrl requestId w ↔
      NamesSerial rt.crates req validated ∧ CanClaimToken rt w₁ validated := by
  obtain ⟨serial, hserial, hcases⟩ := revoke_authenticated hvalid
  have hread := run_ofResult_of_ok hserial w
  have hclaim : ((TokenRequest.revoke req token dpop).claim rt service requestUrl).run w = _ :=
    (run_bind_of_ok hread _).trans (run_bind_of_ok (run_systemTimeNow rt w) _)
  have htry : (service.tryRevoke rt { req with token := some token } dpop requestUrl requestId).run w =
      _ := (run_bind_of_ok hread _).trans (run_bind_of_ok (run_systemTimeNow rt w) _)
  have haudit := waits_of_audited rt "certificate.revoked" requestId
    (service.tryRevoke rt { req with token := some token } dpop requestUrl requestId) w
  -- a request that fails before anything is stored does not act
  have hidle : ∀ abort w₂, (service.tryRevoke rt { req with token := some token } dpop requestUrl
      requestId).run w = .error abort w₂ → w₂.storage = w.storage →
      ((TokenRequest.revoke req token dpop).after rt service requestUrl requestId w).storage =
        w.storage := by
    intro abort w₂ hrun hsame
    rw [hrun] at haudit
    exact haudit.storage.trans hsame
  have hvalidated := ((TokenRequest.waits_authenticate rt service requestUrl _).of_ok hvalid).storage
  obtain ⟨hnames, hauth⟩ | ⟨hnot, abort, hauth⟩ := hcases
  · rw [run_bind_of_ok hauth] at hclaim htry
    obtain ⟨hcan, w₂, hjti⟩ | ⟨hcannot, abort, w₂, hjti, hwaits⟩ :=
      signClaimJti_cases rt w₁ validated
    · exact ⟨fun _ => ⟨hnames, hcan⟩, fun _ => .inl ⟨w₂, hclaim.trans hjti⟩⟩
    · constructor
      · rintro (⟨w', hok⟩ | hchanged)
        · rw [hclaim.trans hjti] at hok
          cases hok
        · have hfail := htry.trans (run_bind_of_error hjti _)
          exact absurd (hidle _ _ hfail (hwaits.storage.trans hvalidated)) hchanged
      · rintro ⟨-, hcan⟩
        exact absurd hcan hcannot
  · constructor
    · rintro (⟨w', hok⟩ | hchanged)
      · rw [hclaim.trans (run_bind_of_error hauth _)] at hok
        cases hok
      · have hfail := htry.trans (run_bind_of_error hauth _)
        exact absurd (hidle _ _ hfail hvalidated) hchanged
    · rintro ⟨hnames, -⟩
      exact absurd hnames hnot

end

/-- A request whose token is validated by an unauthorized provisioner acts only with a hook's
grant, unless it is to revoke the serial number its token names and its token can be claimed. -/
theorem unauthorized_acts_iff (rt : Runtime) (service : Service) (requestUrl : String)
    (requestId : Option String) (request : TokenRequest) (w w₁ : World)
    (validated : ValidatedToken)
    (hvalid : (request.authenticate rt service requestUrl).run w = .ok validated w₁)
    (hauth : validated.authorized = false) :
    (request.Acts rt service requestUrl requestId w → Granted service.hooks validated.provisioner w
        (request.after rt service requestUrl requestId w)) ↔
      ∀ req token dpop, request = .revoke req token dpop →
        ¬(NamesSerial rt.crates req validated ∧ CanClaimToken rt w₁ validated) := by
  cases request with
  | sign req =>
    obtain ⟨⟨csr, v⟩, w', hsign, hpure⟩ := run_bind_eq_ok.mp hvalid
    cases hpure
    constructor
    · rintro - _ _ _ ⟨⟩
    · intro _ hacts
      exact sign_granted hsign hauth hacts
  | revoke req token dpop =>
    have hrun := service.silent_revoke rt { req with token := some token } dpop requestUrl requestId w
    have hsilent : ¬Granted service.hooks validated.provisioner w
        ((TokenRequest.revoke req token dpop).after rt service requestUrl requestId w) :=
      not_granted_of_eq hrun
    rw [revoke_acts_iff hvalid]
    constructor
    · rintro h _ _ _ ⟨⟩ hacts
      exact hsilent (h hacts)
    · intro h hacts
      exact absurd hacts (h req token dpop rfl)

/-! ## A revocation that no hook has granted -/

/-- A hook that denies whatever it is asked. -/
def gate : HookProvider where
  name := "gate"
  provisioners := []
  call _ _ := .ok { allow := some false }

/-- The provisioner of this service is not authorized, and the gate applies to it. -/
def gatedService : Service := Testca.service false [gate]

def gatedRuntime : Runtime :=
  Testca.still (Testca.serverCrates [] [] [([1], Testca.ottClaims "7" "t-1" 1000 1300)])

def gatedWorld : World := Testca.world Testca.sqlite (Testca.instant 1000)

/-- Revoke the serial number 7, with a token for it. -/
def tokenRevocation : TokenRequest :=
  .revoke { serialNumber := "7", reason := none, reasonCode := none, token := none,
            certificate := none }
    (Testca.token "o" 1 [9]) none

/-- The revocation is recorded, and the gate has not been asked. -/
theorem tokenRevocation_ungranted :
    ∃ validated w₁ record,
      (tokenRevocation.authenticate gatedRuntime gatedService "ca").run gatedWorld =
        .ok validated w₁ ∧
      validated.authorized = false ∧
      tokenRevocation.Acts gatedRuntime gatedService "ca" none gatedWorld ∧
      (tokenRevocation.after gatedRuntime gatedService "ca" none gatedWorld).storage.getRevocation "7" =
        .ok (some record) ∧
      ¬Granted gatedService.hooks validated.provisioner gatedWorld
        (tokenRevocation.after gatedRuntime gatedService "ca" none gatedWorld) :=
  ⟨_, _, _, rfl, rfl, .inl ⟨_, rfl⟩, rfl, not_granted_of_eq rfl⟩

theorem unauthorized_acts_iff_tokenRevocation :
    ∃ validated w₁, validated.authorized = false ∧
      ((tokenRevocation.Acts gatedRuntime gatedService "ca" none gatedWorld →
        Granted gatedService.hooks validated.provisioner gatedWorld
          (tokenRevocation.after gatedRuntime gatedService "ca" none gatedWorld)) ↔
      ∀ req token dpop, tokenRevocation = .revoke req token dpop →
        ¬(NamesSerial gatedRuntime.crates req validated ∧
          CanClaimToken gatedRuntime w₁ validated)) :=
  ⟨_, _, rfl, unauthorized_acts_iff gatedRuntime gatedService "ca" none tokenRevocation gatedWorld _ _
    rfl rfl⟩

end Ayane
