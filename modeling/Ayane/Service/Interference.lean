import Ayane.Service.Rejections
import Ayane.Service.Visibility
import Ayane.Testca.Server

/-!
# Provisioners that share the anti-replay store

Instances that share one storage serve requests of any kind, whose steps interleave. A
token may carry any id, and the key under which the id is claimed does not say which
provisioner authenticated the token. So a request of one provisioner can take the key of a
request of another. When the keys and the serial numbers of the requests of one are apart from those of
the other, the requests of the other can be left out of any run, and nothing changes for the one.
-/

namespace Ayane.Interference

open Ayane.Action Effect Interleave Thread Storage

/-! ## Requests and what they use -/

/-- A request at the instance that serves it, with what it has for itself when it arrives. -/
structure Call where
  rt : Runtime
  service : Service
  request : Request
  requestUrl : String
  requestId : Option String
  arrival : Own

namespace Call

def prog (call : Call) : Prog Storage (EStateM.Result Abort Own Response) :=
  call.request.thread call.rt call.service call.requestUrl call.requestId call.arrival

/-- The request up to its claims, when it is one to sign. -/
def planSign (call : Call) (req : SignRequest) :
    Prog Storage (EStateM.Result Abort Own (ValidatedToken × Service.SignPlan)) :=
  call.service.planSign call.rt req call.requestUrl call.arrival

def planReissue (call : Call) (request : ReissueRequest) (dpop : Option String) :
    Prog Storage (EStateM.Result Abort Own (Service.ReissueAuth × Service.ReissuePlan)) :=
  call.service.planReissue call.rt request.certificate request.newCsr dpop call.requestUrl call.arrival

def planRevoke (call : Call) (req : RevokeRequest) (dpop : Option String) :
    Prog Storage (EStateM.Result Abort Own (String × SystemTime × Service.RevokeAuth)) :=
  call.service.planRevoke call.rt req dpop call.requestUrl call.arrival

/-- The token that the request is authenticated by, with the request that carries it. -/
def token? (call : Call) : Option (String × TokenRequest) :=
  match call.request with
  | .sign req => some (req.token, .sign req)
  | .revoke req dpop => req.token.map fun token => (token, .revoke req token dpop)
  | _ => none

/-- The token of the request is routed to `p`, which verifies it. -/
def AuthenticatedBy (call : Call) (p : Provisioner) : Prop :=
  ∃ token request s validated w, call.token? = some (token, request) ∧
    call.service.authorizer.provisioners.find?
      (fun q => q.verifier.claimsToken call.rt.crates token) = some p ∧
    (request.authenticate call.rt call.service call.requestUrl).run (call.arrival.over s) =
      .ok validated w

/-- The keys that the request claims for its token, once it is about to commit. -/
def Claims (call : Call) (key : String) : Prop :=
  match call.request with
  | .sign req => ∃ validated plan o, (call.planSign req).Ends (.ok (validated, plan) o) ∧
      (key = jtiKey "ott" validated.replayId ∨ ∃ scope ∈ plan.onceScopes, key = scope.key)
  | .revoke req dpop => ∃ serial now validated o,
      (call.planRevoke req dpop).Ends (.ok (serial, now, .token validated) o) ∧
        key = jtiKey "ott" validated.replayId
  | _ => False

/-- The serial number that the request draws, once everything has been claimed. -/
def Draws (call : Call) (serial : String) : Prop :=
  match call.request with
  | .sign req => ∃ validated plan o o' issued, (call.planSign req).Ends (.ok (validated, plan) o) ∧
      (Service.claimSign call.rt validated plan o).Ends (.ok () o') ∧
      call.service.ca.issue call.rt.crates o'.interactions (call.rt.entropy o'.interactions)
        plan.issueParams = .ok issued ∧ serial = issued.serialDecimal
  | .reissue request dpop => ∃ auth plan o o' issued,
      (call.planReissue request dpop).Ends (.ok (auth, plan) o) ∧
      (Service.claimReissue call.rt auth plan o).Ends (.ok () o') ∧
      call.service.ca.reissue call.rt.crates o'.interactions (call.rt.entropy o'.interactions)
        plan.reissueParams = .ok issued ∧ serial = issued.serialDecimal
  | _ => False

end Call

/-! ## Requests that show nothing -/

section

variable {keys serials : Set String} {call : Call}

theorem silent_planSign (call : Call) (req : SignRequest) :
    (call.planSign req).Silent (AgreeOn keys serials) := by
  refine silent_bind (silent_waits (call.service.waits_signAuthenticate call.rt _ _)) ?_
  rintro ⟨csr, validated⟩ o -
  refine silent_bind (silent_waits (call.service.waits_signPlan call.rt _ _ _)) fun _ _ _ => ?_
  exact trivial

theorem silent_sign {req : SignRequest} (hrequest : call.request = .sign req)
    (hkeys : ∀ key, call.Claims key → key ∉ keys)
    (hserials : ∀ serial, call.Draws serial → serial ∉ serials) :
    (call.service.signThread call.rt req call.requestUrl call.requestId call.arrival).Silent
      (AgreeOn keys serials) := by
  simp only [Call.Claims, Call.Draws, hrequest] at hkeys hserials
  refine silent_audited (silent_bind (silent_planSign call req) ?_)
  rintro ⟨validated, plan⟩ o hplan
  refine silent_bind (silent_bind ?_ fun _ o₁ _ => ?_) fun _ o' hclaimed => ?_
  · exact silent_of_unseen (Service.unseen_signClaimJti (hkeys _ ⟨_, _, _, hplan, .inl rfl⟩))
  · exact silent_claimOnceScopes (fun scope hscope =>
      hkeys _ ⟨_, _, _, hplan, .inr ⟨scope, hscope, rfl⟩⟩) _
  · refine Service.silent_issueRecorded fun issued starts issuedAt hissued => ?_
    exact hserials _ ⟨_, _, _, _, issued, hplan, hclaimed, hissued, rfl⟩

/-- Without hooks, a request to renew or rekey claims no scopes. -/
theorem onceClaims_of_planReissue (hhooks : call.service.hooks = []) {request : ReissueRequest}
    {dpop : Option String} {auth : Service.ReissueAuth} {plan : Service.ReissuePlan} {o : Own}
    (h : (call.planReissue request dpop).Ends (.ok (auth, plan) o)) : plan.custom.onceClaims = [] := by
  obtain ⟨_, o₁, -, h⟩ := ends_bind.mp h
  obtain ⟨_, o₂, ⟨s, hrun⟩, hpure⟩ := ends_bind.mp h
  cases hpure
  obtain ⟨w, hplan, -⟩ := ownResult_eq_ok.mp hrun
  obtain ⟨_, _, _, _, custom, -, -, -, -, hcustom, -, -, -, hclamped, -⟩ := Service.of_reissuePlan hplan
  rw [hhooks, Hook.run] at hcustom
  obtain ⟨_, _, -, hbaseline⟩ := run_bind_eq_ok.mp hcustom
  cases hbaseline
  rw [hclamped, Customization.clampTo_eq]
  rfl

theorem silent_reissue (hhooks : call.service.hooks = []) {request : ReissueRequest}
    {dpop : Option String} (hrequest : call.request = .reissue request dpop)
    (hproofs : ∀ jti, jtiKey "dpop" jti ∉ keys)
    (hserials : ∀ serial, call.Draws serial → serial ∉ serials) :
    (call.service.reissueThread call.rt request.certificate request.newCsr dpop call.requestUrl
      call.requestId call.arrival).Silent (AgreeOn keys serials) := by
  simp only [Call.Draws, hrequest] at hserials
  refine silent_audited (silent_bind ?_ ?_)
  · refine silent_bind (silent_waits (call.service.waits_reissueAuthenticate call.rt _ _ _)) ?_
    intro auth o _
    refine silent_bind (silent_waits (call.service.waits_reissuePlan call.rt _ _)) fun _ _ _ => ?_
    exact trivial
  · rintro ⟨auth, plan⟩ o hplan
    have hscopes := onceClaims_of_planReissue hhooks hplan
    refine silent_bind (silent_bind ?_ fun _ o₁ _ => ?_) fun _ o' hclaimed => ?_
    · exact silent_of_unseen ((within_ofOutcome _).bind fun _ => unseen_claimOnce (hproofs _) _ _)
    · exact silent_claimOnceScopes (by simp [hscopes]) _
    · refine Service.silent_issueRecorded fun issued starts issuedAt hissued => ?_
      exact hserials _ ⟨_, _, _, _, issued, hplan, hclaimed, hissued, rfl⟩

theorem silent_revoke {req : RevokeRequest} {dpop : Option String}
    (hrequest : call.request = .revoke req dpop) (hkeys : ∀ key, call.Claims key → key ∉ keys)
    (hproofs : ∀ jti, jtiKey "dpop" jti ∉ keys) :
    (call.service.revokeThread call.rt req dpop call.requestUrl call.requestId call.arrival).Silent
      (AgreeOn keys serials) := by
  simp only [Call.Claims, hrequest] at hkeys
  refine silent_audited (silent_bind ?_ ?_)
  · refine silent_bind (silent_waits (within_ofResult _)) fun serial _ _ => ?_
    refine silent_bind (silent_waits (waits_systemTimeNow _)) fun now _ _ => ?_
    refine silent_bind (silent_waits ?_) fun _ _ _ => trivial
    exact call.service.waits_revokeAuthenticate call.rt _ _ _ _ _
  · rintro ⟨serial, now, auth⟩ o hplan
    refine silent_bind (silent_of_unseen ?_) fun _ o' _ => silent_of_unseen ?_
    · cases auth with
      | token validated =>
        exact Service.unseen_signClaimJti (hkeys _ ⟨serial, now, validated, o, hplan, rfl⟩)
      | proof proof => exact (within_ofOutcome _).bind fun _ => unseen_claimOnce (hproofs _) _ _
    · refine (within_ofOutcome _).bind fun _ => Within.bind ?_ fun _ => ?_
      · exact unseen_onStorage call.rt fun s => agreeOn_revoke _ s
      · exact (unseen_of_waits (waits_eventNow _ _ _)).bind fun _ => within_pure _

theorem silent_signedRoots (rt : Runtime) (service : Service) (o : Own) :
    (service.signedRootsThread rt o).Silent (AgreeOn keys serials) := by
  have hfresh : ∀ contentDigest now cacheKey (respond : CachedRootsSig → Service.SignedRoots) o,
      (((do
        let fresh ← atomic (service.signRoots rt contentDigest now)
        let expiresAt ← atomic (ofOutcome (now.plus service.rootsSignatureTtl))
        atomic (Service.cacheSet rt cacheKey fresh expiresAt)
        return respond fresh) : Thread Service.SignedRoots) o).Silent (AgreeOn keys serials) := by
    intro contentDigest now cacheKey respond o
    refine silent_bind (silent_waits ?_) fun fresh _ _ => ?_
    · exact (waits_withKey rt _).bind fun _ => within_pure _
    refine silent_bind (silent_waits (within_ofOutcome _)) fun expiresAt _ _ => ?_
    refine silent_bind (silent_of_unseen ?_) fun _ _ _ => trivial
    refine (within_ofResult _).bind fun _ => ?_
    exact unseen_onStorage rt fun s => agreeOn_setCache _ _ _ s
  refine silent_bind (silent_waits (within_ofResult _)) fun body _ _ => ?_
  refine silent_bind (silent_waits (waits_systemTimeNow rt)) fun now _ _ => ?_
  refine silent_bind (silent_of_unseen ?_) fun cached _ _ => ?_
  · refine Within.bind ?_ fun cached => ?_
    · exact (unseen_of_waits (waits_systemTimeNow rt)).bind fun _ =>
        unseen_onStorage rt fun s => agreeOn_getCache _ _ s
    · cases cached with
      | none => exact within_pure _
      | some bytes => exact (within_ofResult _).bind fun _ => within_pure _
  · cases cached with
    | none => exact hfresh _ _ _ _ _
    | some cached =>
      dsimp only
      split
      · exact trivial
      · exact hfresh _ _ _ _ _

/-- A request that uses nothing of what is watched shows nothing. -/
theorem silent_prog (hhooks : call.service.hooks = [])
    (hkeys : ∀ key, call.Claims key → key ∉ keys) (hproofs : ∀ jti, jtiKey "dpop" jti ∉ keys)
    (hserials : ∀ serial, call.Draws serial → serial ∉ serials) :
    call.prog.Silent (AgreeOn keys serials) := by
  unfold Call.prog
  cases hrequest : call.request with
  | sign req => exact silent_bind (silent_sign hrequest hkeys hserials) fun _ _ _ => trivial
  | reissue request dpop =>
    exact silent_bind (silent_reissue hhooks hrequest hproofs hserials) fun _ _ _ => trivial
  | revoke req dpop =>
    exact silent_bind (silent_revoke hrequest hkeys hproofs) fun _ _ _ => trivial
  | signedRoots => exact silent_bind (silent_signedRoots _ _ _) fun _ _ _ => trivial

end

/-! ## Requests that see nothing else -/

section

variable {keys serials : Set String} {call : Call}

theorem faithful_sign (hhooks : call.service.hooks = []) {req : SignRequest}
    (hrequest : call.request = .sign req) (hkeys : ∀ key, call.Claims key → key ∈ keys)
    (hserials : ∀ serial, call.Draws serial → serial ∈ serials) :
    (call.service.signThread call.rt req call.requestUrl call.requestId call.arrival).Faithful
      (AgreeOn keys serials) := by
  simp only [Call.Claims, Call.Draws, hrequest] at hkeys hserials
  refine faithful_audited (faithful_bind ?_ ?_)
  · refine faithful_bind (faithful_atomic (Service.respects_signAuthenticate _ _)) ?_
    rintro ⟨csr, validated⟩ o -
    refine faithful_bind (faithful_atomic (Service.respects_signPlan hhooks _ _ _)) fun _ _ _ => ?_
    exact trivial
  · rintro ⟨validated, plan⟩ o hplan
    refine faithful_bind (faithful_bind ?_ fun _ o₁ _ => ?_) fun _ o' hclaimed => ?_
    · exact faithful_atomic (Service.respects_signClaimJti (hkeys _ ⟨_, _, _, hplan, .inl rfl⟩))
    · exact faithful_claimOnceScopes (fun scope hscope =>
        hkeys _ ⟨_, _, _, hplan, .inr ⟨scope, hscope, rfl⟩⟩) _
    · refine Service.faithful_issueRecorded fun issued starts issuedAt hissued => ?_
      exact hserials _ ⟨_, _, _, _, issued, hplan, hclaimed, hissued, rfl⟩

/-- With a token, a request to revoke is authorized without a look at the storage. -/
theorem respects_revokeAuthenticate {R : Storage → Storage → Prop} {rt : Runtime} {service : Service}
    {req : RevokeRequest} {token : String} (htoken : req.token = some token) (dpop : Option String)
    (requestUrl serial : String) (now : SystemTime) (o : Own) :
    Respects R (service.revokeAuthenticate rt req dpop requestUrl serial now) o := by
  unfold Service.revokeAuthenticate
  rw [htoken]
  refine respects_bind (respects_validate _ _ _) fun _ _ _ => ?_
  refine respects_bind (respects_ofResult _) fun _ _ _ => ?_
  exact respects_bind (respects_ofResult _) fun _ _ _ => respects_pure _

theorem token_of_revokeAuthenticate {rt : Runtime} {service : Service} {req : RevokeRequest}
    {token : String} (htoken : req.token = some token) {dpop : Option String}
    {requestUrl serial : String} {now : SystemTime} {auth : Service.RevokeAuth} {w w' : World}
    (h : (service.revokeAuthenticate rt req dpop requestUrl serial now).run w = .ok auth w') :
    ∃ validated, auth = .token validated := by
  unfold Service.revokeAuthenticate at h
  rw [htoken] at h
  simp only [run_bind_eq_ok] at h
  obtain ⟨validated, _, -, _, _, -, _, _, -, hpure⟩ := h
  cases hpure
  exact ⟨validated, rfl⟩

theorem faithful_revoke {req : RevokeRequest} {dpop : Option String} {token : String}
    (hrequest : call.request = .revoke req dpop) (htoken : req.token = some token)
    (hkeys : ∀ key, call.Claims key → key ∈ keys) :
    (call.service.revokeThread call.rt req dpop call.requestUrl call.requestId call.arrival).Faithful
      (AgreeOn keys serials) := by
  simp only [Call.Claims, hrequest] at hkeys
  refine faithful_audited (faithful_bind ?_ ?_)
  · refine faithful_bind (faithful_atomic (respects_ofResult _)) fun serial _ _ => ?_
    refine faithful_bind (faithful_atomic (respects_systemTimeNow _)) fun now _ _ => ?_
    refine faithful_bind (faithful_atomic ?_) fun _ _ _ => trivial
    exact respects_revokeAuthenticate htoken _ _ _ _ _
  · rintro ⟨serial, now, auth⟩ o hplan
    have hauth : ∃ validated, auth = .token validated := by
      obtain ⟨_, _, -, h⟩ := ends_bind.mp hplan
      obtain ⟨_, _, -, h⟩ := ends_bind.mp h
      obtain ⟨_, _, ⟨s, hrun⟩, hpure⟩ := ends_bind.mp h
      cases hpure
      obtain ⟨w, hrun, -⟩ := ownResult_eq_ok.mp hrun
      exact token_of_revokeAuthenticate htoken hrun
    obtain ⟨validated, rfl⟩ := hauth
    refine faithful_bind (faithful_atomic ?_) fun _ o' _ => faithful_atomic ?_
    · exact Service.respects_signClaimJti (hkeys _ ⟨serial, now, validated, o, hplan, rfl⟩)
    · refine respects_bind (respects_ofOutcome _) fun _ _ _ => respects_bind ?_ fun _ _ _ => ?_
      · exact respects_onStorage call.rt fun _ _ hs => ⟨rfl, hs.revoke _⟩
      · exact respects_bind (respects_eventNow _ _) fun _ _ _ => respects_pure _

/-- A request with a token sees nothing but the keys it claims and the serial number it draws. -/
theorem faithful_prog (hhooks : call.service.hooks = []) (htoken : call.token?.isSome)
    (hkeys : ∀ key, call.Claims key → key ∈ keys)
    (hserials : ∀ serial, call.Draws serial → serial ∈ serials) :
    call.prog.Faithful (AgreeOn keys serials) := by
  unfold Call.prog
  cases hrequest : call.request with
  | sign req =>
    exact faithful_bind (faithful_sign hhooks hrequest hkeys hserials) fun _ _ _ => trivial
  | revoke req dpop =>
    have hsome : ∃ token, req.token = some token := by
      simpa [Call.token?, hrequest, Option.isSome_iff_exists] using htoken
    obtain ⟨token, htoken⟩ := hsome
    exact faithful_bind (faithful_revoke hrequest htoken hkeys) fun _ _ _ => trivial
  | reissue request dpop => simp [Call.token?, hrequest] at htoken
  | signedRoots => simp [Call.token?, hrequest] at htoken

end

/-! ## Runs -/

/-- What is done to the storage besides requests. -/
inductive Upkeep where
  | reapExpired (now : SystemTime)
  | sweep (chosen : String × String → Bool) (now : ℕ)

def Upkeep.act : Upkeep → Storage → Storage
  | .reapExpired now, s => (s.reapExpired now).2
  | .sweep chosen now, s => s.sweep chosen now

section

variable {ι : Type} [DecidableEq ι] {calls : ι → Call}

omit [DecidableEq ι] in
/-- No request has begun. -/
def start (calls : ι → Call) (s : Storage) : System ι Storage (EStateM.Result Abort Own Response) where
  progs i := (calls i).prog
  state := s

/-- What a request returns. -/
def returned : EStateM.Result Abort Own Response → Outcome Response
  | .ok response _ => .ok response
  | .error abort _ => .error abort

/-- What a request has returned after a run, if it has ended. -/
def outcome (calls : ι → Call) (s : Storage) (turns : List (Turn ι Upkeep)) (i : ι) :
    Option (Outcome Response) :=
  (((start calls s).after Upkeep.act turns).progs i).result.map returned

omit [DecidableEq ι] in
/-- The requests of `b`, perhaps with requests of others but none of `a`, have the keys they claim
and the serial numbers they draw for themselves. -/
structure Separates (calls : ι → Call) (a b : Provisioner) (group : Set ι) : Prop where
  mem : ∀ i, (calls i).AuthenticatedBy b → i ∈ group
  notMem : ∀ i, (calls i).AuthenticatedBy a → i ∉ group
  token : ∀ i ∈ group, (calls i).token?.isSome
  keys : ∀ i ∈ group, ∀ j ∉ group, ∀ key, (calls i).Claims key → ¬(calls j).Claims key
  serials : ∀ i ∈ group, ∀ j ∉ group, ∀ serial, (calls i).Draws serial → ¬(calls j).Draws serial

omit [DecidableEq ι] in
/-- No key that is claimed for a token is one that is claimed for a proof. -/
theorem ne_proofKey_of_claims {call : Call} {key : String} (h : call.Claims key) (jti : String) :
    key ≠ jtiKey "dpop" jti := by
  have hott : ∀ replayId, jtiKey "ott" replayId ≠ jtiKey "dpop" jti := by
    intro replayId heq
    have hfirst := congrArg (fun s => s.toList.head?) heq
    simp [jtiKey] at hfirst
  unfold Call.Claims at h
  split at h
  · obtain ⟨validated, plan, o, -, rfl | ⟨scope, -, rfl⟩⟩ := h
    · exact hott _
    · exact scopeKey_ne_jtiKey (.inr rfl) scope jti
  · obtain ⟨serial, now, validated, o, -, rfl⟩ := h
    exact hott _
  · exact h.elim

/-- As long as the requests of `b` share no key and no serial number with those of `a`, not even
through requests of others, the requests of `b` end in every run as they do without those of `a`. -/
theorem provisioners_apart (hhooks : ∀ i, (calls i).service.hooks = []) {a b : Provisioner}
    {group : Set ι} (h : Separates calls a b group) (s : Storage) (turns : List (Turn ι Upkeep))
    {i : ι} (hi : (calls i).AuthenticatedBy b) :
    outcome calls s (without {j | (calls j).AuthenticatedBy a} turns) i = outcome calls s turns i := by
  let keys : Set String := {key | ∃ j ∈ group, (calls j).Claims key}
  let serials : Set String := {serial | ∃ j ∈ group, (calls j).Draws serial}
  have hact : ∀ e s s', AgreeOn keys serials s s' →
      AgreeOn keys serials (Upkeep.act e s) (Upkeep.act e s') := by
    rintro (now | ⟨chosen, now⟩) s s' hs
    · exact hs.reapExpired now
    · exact hs.sweep chosen now
  have hstart : (start calls s).Related (AgreeOn keys serials) group (start calls s) := by
    refine ⟨.refl s, fun _ _ => rfl, fun j hj => ?_, fun j hj => ?_⟩
    · exact faithful_prog (hhooks j) (h.token j hj) (fun key hkey => ⟨j, hj, hkey⟩)
        fun serial hserial => ⟨j, hj, hserial⟩
    · have hsilent : (calls j).prog.Silent (AgreeOn keys serials) := by
        refine silent_prog (hhooks j) ?_ ?_ ?_
        · rintro key hkey ⟨k, hk, hclaims⟩
          exact h.keys k hk j hj key hclaims hkey
        · rintro jti ⟨k, -, hclaims⟩
          exact ne_proofKey_of_claims hclaims jti rfl
        · rintro serial hserial ⟨k, hk, hdraws⟩
          exact h.serials k hk j hj serial hdraws hserial
      exact ⟨hsilent, hsilent⟩
  have hhidden : ∀ j ∈ {j | (calls j).AuthenticatedBy a}, j ∉ group := fun j hj => h.notMem j hj
  have hrelated := hstart.after_without agreeOn_equivalence hact hhidden turns
  exact congrArg (fun p => (Prog.result p).map returned) (hrelated.same i (h.mem i hi)).symm

end

/-! ## Two provisioners -/

/-- The key that a revocation claims for its token can be read off on any storage. -/
theorem eq_of_claims_revoke {call : Call} {req : RevokeRequest} {dpop : Option String}
    {token key serial : String} {validated : ValidatedToken} {s : Storage} {w : World}
    (hrequest : call.request = .revoke req dpop) (htoken : req.token = some token)
    (hserial : normalizeSerial call.rt.crates req.serialNumber = .ok serial)
    (hauth : (call.service.revokeAuthenticate call.rt req dpop call.requestUrl serial
      ((call.arrival.over s).tick call.rt).clock).run ((call.arrival.over s).tick call.rt) =
        .ok (.token validated) w)
    (h : call.Claims key) : key = jtiKey "ott" validated.replayId := by
  simp only [Call.Claims, hrequest] at h
  obtain ⟨serial', now, validated', o, hplan, rfl⟩ := h
  obtain ⟨_, o₁, h₁, hplan⟩ := ends_bind.mp hplan
  obtain ⟨s₁, h₁⟩ := ends_atomic.mp h₁
  rw [run_ofResult_of_ok hserial] at h₁
  cases h₁
  obtain ⟨_, o₂, h₂, hplan⟩ := ends_bind.mp hplan
  obtain ⟨s₂, h₂⟩ := ends_atomic.mp h₂
  rw [run_systemTimeNow] at h₂
  cases h₂
  obtain ⟨_, o₃, h₃, hpure⟩ := ends_bind.mp hplan
  obtain ⟨s₃, h₃⟩ := ends_atomic.mp h₃
  cases hpure
  have hrespects : Respects (fun _ _ => True) (call.service.revokeAuthenticate call.rt req dpop
      call.requestUrl serial ((call.arrival.over s).tick call.rt).clock)
      ((call.arrival.over s).tick call.rt).own := respects_revokeAuthenticate htoken _ _ _ _ _
  have hsame := (hrespects s s₃ trivial).1
  cases (congrArg ownResult hauth).symm.trans (hsame.trans h₃)
  rfl

def ci : Provisioner := Testca.provisioner true

def deploy : Provisioner where
  name := "deploy"
  template := none
  authorized := true
  verifier := .jwk "deploy" [] { decodingKey := [8], algorithm := .ES256 }

theorem ci_ne_deploy : ci ≠ deploy :=
  fun h => absurd (congrArg Provisioner.name h) (by decide)

def sharedService : Service :=
  { Testca.service true [] with authorizer := { provisioners := [ci, deploy] } }

/-- The claims of a token of `deploy`. -/
def deployClaims (jti : String) : Json :=
  .obj [("iss", .str "deploy"), ("aud", .str "ca"), ("sub", .str "8"), ("iat", .int 1000),
    ("nbf", .int 1000), ("exp", .int 1300), ("jti", .str jti)]

def sharedRuntime : Runtime :=
  Testca.still (Testca.serverCrates [] [] [([1], Testca.ottClaims "7" "t-1" 1000 1300),
    ([2], deployClaims "t-1"), ([3], deployClaims "t-2")])

def revokeRequest (serial : String) (payload : UInt8) (signer : Bytes) : RevokeRequest where
  serialNumber := serial
  reason := none
  reasonCode := none
  token := some (Testca.token "o" payload signer)
  certificate := none

/-- A request to revoke, at second 1000. -/
def revocation (serial : String) (payload : UInt8) (signer : Bytes) : Call where
  rt := sharedRuntime
  service := sharedService
  request := .revoke (revokeRequest serial payload signer) none
  requestUrl := "ca"
  requestId := none
  arrival := { clock := Testca.instant 1000, interactions := 0, consultations := [], audit := [] }

/-- A revocation for each provisioner, and the token of `deploy` has the payload. -/
def revocations (payload : UInt8) : Bool → Call
  | false => revocation "7" 1 [9]
  | true => revocation "8" payload [8]

/-- One after the other. -/
def inTurn : List (Turn Bool Upkeep) :=
  List.replicate 6 (.prog false) ++ List.replicate 7 (.prog true)

/-- A token that has been validated. -/
def validatedToken (provisioner sub jti : String) : ValidatedToken where
  provisioner
  claims := {
    iss := provisioner, aud := "ca", sub, sans := [], iat := 1000, nbf := 1000, exp := 1300
    jti := some jti, renew := true, cnf := none, once := none }
  template := none
  authorized := true
  replayId := jti

/-- A token is routed to the provisioner that authenticates the request. -/
theorem eq_of_authenticatedBy {serial : String} {payload : UInt8} {signer : Bytes}
    {p q : Provisioner} (h : (revocation serial payload signer).AuthenticatedBy p)
    (hroute : sharedService.authorizer.provisioners.find? (fun r =>
      r.verifier.claimsToken sharedRuntime.crates (Testca.token "o" payload signer)) = some q) :
    q = p := by
  obtain ⟨token, request, s, validated, w, htoken, hrouted, -⟩ := h
  have hsame : Testca.token "o" payload signer = token := congrArg Prod.fst (Option.some.inj htoken)
  rw [hsame] at hroute
  exact Option.some.inj (hroute.symm.trans hrouted)

theorem claims_ci {key : String} (h : (revocation "7" 1 [9]).Claims key) : key = "ott#t-1" := by
  have hauth : ∃ w, (sharedService.revokeAuthenticate sharedRuntime (revokeRequest "7" 1 [9]) none "ca"
      "7" (((revocation "7" 1 [9]).arrival.over Testca.sqlite).tick sharedRuntime).clock).run
        (((revocation "7" 1 [9]).arrival.over Testca.sqlite).tick sharedRuntime) =
        .ok (.token (validatedToken "ci" "7" "t-1")) w := ⟨_, rfl⟩
  obtain ⟨w, hauth⟩ := hauth
  exact @eq_of_claims_revoke (revocation "7" 1 [9]) (revokeRequest "7" 1 [9]) none _ _ "7" _
    Testca.sqlite w rfl rfl rfl hauth h

theorem claims_deploy {key : String} (h : (revocation "8" 3 [8]).Claims key) : key = "ott#t-2" := by
  have hauth : ∃ w, (sharedService.revokeAuthenticate sharedRuntime (revokeRequest "8" 3 [8]) none "ca"
      "8" (((revocation "8" 3 [8]).arrival.over Testca.sqlite).tick sharedRuntime).clock).run
        (((revocation "8" 3 [8]).arrival.over Testca.sqlite).tick sharedRuntime) =
        .ok (.token (validatedToken "deploy" "8" "t-2")) w := ⟨_, rfl⟩
  obtain ⟨w, hauth⟩ := hauth
  exact @eq_of_claims_revoke (revocation "8" 3 [8]) (revokeRequest "8" 3 [8]) none _ _ "8" _
    Testca.sqlite w rfl rfl rfl hauth h

/-- A revocation whose token is routed and validated is authenticated. -/
theorem authenticatedBy_of_validate {serial : String} {payload : UInt8} {signer : Bytes}
    {p : Provisioner} {validated : ValidatedToken} {w : World}
    (hserial : normalizeSerial sharedRuntime.crates serial = .ok serial)
    (hroute : sharedService.authorizer.provisioners.find? (fun r =>
      r.verifier.claimsToken sharedRuntime.crates (Testca.token "o" payload signer)) = some p)
    (h : (sharedService.authorizer.validate sharedRuntime (Testca.token "o" payload signer) "ca").run
      (((revocation serial payload signer).arrival.over Testca.sqlite).tick sharedRuntime) =
        .ok validated w) : (revocation serial payload signer).AuthenticatedBy p := by
  refine ⟨Testca.token "o" payload signer, _, Testca.sqlite, validated, w, rfl, hroute, ?_⟩
  refine (run_bind_of_ok (run_ofResult_of_ok hserial _) _).trans ?_
  exact (run_bind_of_ok (run_systemTimeNow sharedRuntime _) _).trans h

theorem authenticatedBy_ci : (revocation "7" 1 [9]).AuthenticatedBy ci := by
  have h : ∃ w, (sharedService.authorizer.validate sharedRuntime (Testca.token "o" 1 [9]) "ca").run
      (((revocation "7" 1 [9]).arrival.over Testca.sqlite).tick sharedRuntime) =
        .ok (validatedToken "ci" "7" "t-1") w := ⟨_, rfl⟩
  obtain ⟨w, h⟩ := h
  exact authenticatedBy_of_validate rfl rfl h

theorem authenticatedBy_deploy : (revocation "8" 3 [8]).AuthenticatedBy deploy := by
  have h : ∃ w, (sharedService.authorizer.validate sharedRuntime (Testca.token "o" 3 [8]) "ca").run
      (((revocation "8" 3 [8]).arrival.over Testca.sqlite).tick sharedRuntime) =
        .ok (validatedToken "deploy" "8" "t-2") w := ⟨_, rfl⟩
  obtain ⟨w, h⟩ := h
  exact authenticatedBy_of_validate rfl rfl h

/-- With ids of their own, the two revocations are apart. -/
theorem separates_revocations : Separates (revocations 3) ci deploy {true} := by
  refine ⟨?_, ?_, ?_, ?_, ?_⟩
  · rintro (_ | _) h
    · have hci : ci = deploy := eq_of_authenticatedBy h rfl
      exact absurd hci ci_ne_deploy
    · rfl
  · rintro _ h rfl
    have hdeploy : deploy = ci := eq_of_authenticatedBy h rfl
    exact absurd hdeploy ci_ne_deploy.symm
  · rintro _ rfl
    rfl
  · rintro _ rfl (_ | _) hj key hdeploy hci
    · have hkeys : "ott#t-2" = "ott#t-1" := (claims_deploy hdeploy).symm.trans (claims_ci hci)
      exact absurd hkeys (by decide)
    · exact hj rfl
  · rintro _ rfl _ - serial hdraws
    exact hdraws.elim

theorem provisioners_apart_revocations :
    outcome (revocations 3) Testca.sqlite
        (without {j | (revocations 3 j).AuthenticatedBy ci} inTurn) true =
      outcome (revocations 3) Testca.sqlite inTurn true := by
  have hhooks : ∀ i, (revocations 3 i).service.hooks = [] := by
    rintro (_ | _) <;> rfl
  exact provisioners_apart hhooks separates_revocations Testca.sqlite inTurn authenticatedBy_deploy

/-- Requests of two provisioners share no more than the id of their tokens, and the second is
refused because of the first. -/
theorem not_provisioners_apart :
    ¬∀ (ι : Type) [DecidableEq ι] (calls : ι → Call) (a b : Provisioner), a.name ≠ b.name →
      (∀ i, (calls i).service.hooks = []) → ∀ (s : Storage) (turns : List (Turn ι Upkeep)) (i : ι),
        (calls i).AuthenticatedBy b →
          outcome calls s (without {j | (calls j).AuthenticatedBy a} turns) i =
            outcome calls s turns i := by
  intro hclaim
  have hdeploy : (revocation "8" 2 [8]).AuthenticatedBy deploy := by
    have h : ∃ w, (sharedService.authorizer.validate sharedRuntime (Testca.token "o" 2 [8]) "ca").run
        (((revocation "8" 2 [8]).arrival.over Testca.sqlite).tick sharedRuntime) =
          .ok (validatedToken "deploy" "8" "t-1") w := ⟨_, rfl⟩
    obtain ⟨w, h⟩ := h
    exact authenticatedBy_of_validate rfl rfl h
  have hhooks : ∀ i, (revocations 2 i).service.hooks = [] := by
    rintro (_ | _) <;> rfl
  have hsame := hclaim Bool (revocations 2) ci deploy (by decide) hhooks Testca.sqlite inTurn true hdeploy
  -- only the request of the first provisioner is left out
  have hfirst : false ∈ {j | (revocations 2 j).AuthenticatedBy ci} := authenticatedBy_ci
  have hsecond : true ∉ {j | (revocations 2 j).AuthenticatedBy ci} := by
    intro h
    have hdeploy : deploy = ci := eq_of_authenticatedBy h rfl
    exact absurd hdeploy ci_ne_deploy.symm
  have hleft : without {j | (revocations 2 j).AuthenticatedBy ci} inTurn =
      List.replicate 7 (.prog true) := by
    simp [inTurn, List.replicate, without_of_mem hfirst, without_of_notMem hsecond]
  rw [hleft] at hsame
  have haccepted : outcome (revocations 2) Testca.sqlite (List.replicate 7 (.prog true)) true =
      some (.ok (.revoked { status := "revoked" })) := rfl
  have hrefused : outcome (revocations 2) Testca.sqlite inTurn true =
      some (.error (.error (.unauthorized "token or proof has already been used"))) := rfl
  cases haccepted.symm.trans (hsame.trans hrefused)

end Ayane.Interference
