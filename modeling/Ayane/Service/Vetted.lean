import Ayane.Hook.Gate
import Ayane.Hook.Wire
import Ayane.Service.Accounted

/-!
# Vetted certificates

What stands behind every certificate that is recorded: each hook that applies answered one and the same
request, none of them denied it, and the answers decide the subject, the names and whether the
certificate can be renewed. A provisioner that is named in the record is authorized, unless an answer
grants the request; where none is named, a certificate of the CA is reissued.
-/

namespace Ayane

open Ayane.Action Effect Interleave Thread Override

/-! ## Hooks that were asked -/

namespace Hook

/-- The hooks of `asked` replied to a request, each in its turn, and none of them denied it. -/
structure Vetted {H : Type} (Replies : H → ℕ → HookRequest → HookResponse → Prop) (asked : List H)
    (request : HookRequest) (replies : List (H × HookResponse)) : Prop where
  asked : replies.map Prod.fst = asked
  replied : ∀ reply ∈ replies, ∃ n, Replies reply.1 n request reply.2
  undenied : ∀ reply ∈ replies, reply.2.allow ≠ some false

/-- Hooks that are known by others, one for one, have replied as these did. -/
theorem Vetted.known_by {H K : Type} {Replies : H → ℕ → HookRequest → HookResponse → Prop}
    {Replies' : K → ℕ → HookRequest → HookResponse → Prop} {Known : K → H → Prop} {asked : List H}
    {known : List K} {request : HookRequest} {replies : List (H × HookResponse)}
    (h : Vetted Replies asked request replies) (hknown : List.Forall₂ Known known asked)
    (hreplies : ∀ k hook, Known k hook → ∀ n response, Replies hook n request response →
      Replies' k n request response) :
    ∃ replies', Vetted Replies' known request replies' ∧ replies'.map Prod.snd = replies.map Prod.snd := by
  induction hknown generalizing replies with
  | nil =>
    obtain rfl := List.map_eq_nil_iff.mp h.asked
    exact ⟨[], ⟨rfl, by simp, by simp⟩, rfl⟩
  | cons hfirst _ ih =>
    obtain ⟨⟨hook, response⟩, rest, rfl, rfl, hrest⟩ := List.map_eq_cons_iff.mp h.asked
    obtain ⟨⟨n, hreply⟩, hreplied⟩ := List.forall_mem_cons.mp h.replied
    obtain ⟨hallow, hundenied⟩ := List.forall_mem_cons.mp h.undenied
    obtain ⟨replies', hvetted, hresponses⟩ := ih ⟨hrest, hreplied, hundenied⟩
    refine ⟨(_, response) :: replies', ⟨congrArg (_ :: ·) hvetted.asked, ?_, ?_⟩,
      congrArg (response :: ·) hresponses⟩
    · exact List.forall_mem_cons.mpr ⟨⟨n, hreplies _ _ hfirst n response hreply⟩, hvetted.replied⟩
    · exact List.forall_mem_cons.mpr ⟨hallow, hvetted.undenied⟩

/-- A hook that is called. -/
def Calls (hook : HookProvider) (n : ℕ) (request : HookRequest) (response : HookResponse) : Prop :=
  hook.call n request = .ok response

/-- What the request says is what the hooks are to be asked about. -/
structure Puts (ctx : Context) (request : HookRequest) : Prop where
  operation : request.operation = ctx.operation
  provisioner : request.provisioner = ctx.provisioner
  subject : request.subject = ctx.subject
  sans : request.sans = ctx.sans
  previousCertificateDer : request.previousCertificateDer = ctx.previousCertificateDer
  renew : request.renew = ctx.renewable

/-- The properties that replies leave of a request. -/
structure Leaves (request : HookRequest) (responses : List HookResponse) (custom : Customization) :
    Prop where
  subjectCommonName : custom.subjectCommonName = last HookResponse.subjectCommonName responses
  sans : custom.sans = responses.foldl
    (fun sans response => response.additionalSans.foldl pushSan (response.sans.getD sans)) request.sans
  renewable : custom.renewable = (request.renew && responses.all fun r => r.renew != some false)

variable {rt : Runtime} {ctx : Context} {hooks : List HookProvider} {w w' : World}

theorem puts_of_requestFrom {request : HookRequest} (h : requestFrom rt ctx w = .ok request) :
    Puts ctx request := by
  simp only [requestFrom, except_bind_eq_ok] at h
  obtain ⟨_, -, _, -, _, -, h⟩ := h
  cases h
  exact ⟨rfl, rfl, rfl, rfl, rfl, rfl⟩

/-- Some request can be put, if only to no hook at all. -/
theorem exists_puts (ctx : Context) : ∃ request, Puts ctx request := by
  let request : HookRequest := {
    timestamp := ctx.notBefore
    operation := ctx.operation
    provisioner := ctx.provisioner
    subject := ctx.subject
    sans := ctx.sans
    csrDer := ctx.csrDer
    previousCertificateDer := ctx.previousCertificateDer
    notBefore := ctx.notBefore
    notAfter := ctx.notAfter
    renew := ctx.renewable }
  exact ⟨request, ⟨rfl, rfl, rfl, rfl, rfl, rfl⟩⟩

theorem map_fst_answers (provisioner : Option String) (request : HookRequest) (n : ℕ) :
    (answers provisioner request n hooks).map Prod.fst = hooks.filter (·.appliesTo provisioner) := by
  induction hooks generalizing n with
  | nil => rfl
  | cons hook hooks ih =>
    unfold answers
    cases happlies : hook.appliesTo provisioner with
    | false => simpa [happlies] using ih n
    | true => simpa [happlies] using ih (n + 1)

/-- The replies of a consultation are those of the hooks that apply, to one request. -/
theorem replies_of_answersFrom (hasked : Askable rt hooks ctx w)
    {replies : List (HookProvider × HookResponse)}
    (h : answersFrom rt hooks ctx w = replies.map (Prod.map id Except.ok)) :
    ∃ request, Puts ctx request ∧ replies.map Prod.fst = hooks.filter (·.appliesTo ctx.provisioner) ∧
      ∀ reply ∈ replies, ∃ n, reply.1.call n request = .ok reply.2 := by
  obtain rfl | ⟨request, hrequest⟩ := hasked
  · obtain ⟨request, hputs⟩ := exists_puts ctx
    rw [answersFrom_nil] at h
    obtain rfl := List.map_eq_nil_iff.mp h.symm
    exact ⟨request, hputs, rfl, by simp⟩
  · refine ⟨request, puts_of_requestFrom hrequest, ?_, fun reply hreply => ?_⟩
    · have hfst := congrArg (List.map Prod.fst) h
      rw [answersFrom, hrequest, map_fst_answers, List.map_map] at hfst
      exact hfst.symm
    · have hanswer : (reply.1, Except.ok reply.2) ∈ answersFrom rt hooks ctx w := by
        rw [h]
        exact List.mem_map_of_mem hreply
      rw [answersFrom, hrequest] at hanswer
      exact (of_mem_answers hanswer).2

/-- What a consultation that returned says of the hooks and of the properties. -/
theorem vetted_of_run {custom : Customization} (h : (run rt hooks ctx).run w = .ok custom w') :
    ∃ request replies, Puts ctx request ∧
      Vetted Calls (hooks.filter (·.appliesTo request.provisioner)) request replies ∧
      Leaves request (replies.map Prod.snd) custom ∧
      (ctx.authorized = true ∨ ∃ reply ∈ replies, reply.2.allow = some true) := by
  obtain ⟨hasked, hpasses⟩ := exists_run_iff.mp ⟨custom, w', h⟩
  obtain ⟨replies, hanswers, -⟩ := of_run h
  obtain ⟨request, hputs, hfst, hreplied⟩ := replies_of_answersFrom hasked hanswers
  have hfolds := folds_of_run h
  obtain ⟨-, hsans, -⟩ := contents_of_run h
  have hresponses := responsesFrom_of_answers hanswers
  refine ⟨request, replies, hputs, ⟨?_, hreplied, fun reply hreply => ?_⟩, ⟨?_, ?_, ?_⟩, ?_⟩
  · rw [hputs.provisioner]
    exact hfst
  · have hanswer : (reply.1, Except.ok reply.2) ∈ answersFrom rt hooks ctx w := by
      rw [hanswers]
      exact List.mem_map_of_mem hreply
    exact hpasses.undenied _ hanswer _ rfl
  · rw [← hresponses]
    exact hfolds.subjectCommonName
  · rw [← hresponses, hputs.sans]
    exact hsans
  · rw [← hresponses, hputs.renew]
    exact hfolds.renewable
  · refine hpasses.granted.imp_right ?_
    rintro ⟨answer, hanswer, response, hresponse, hallow⟩
    rw [hanswers] at hanswer
    obtain ⟨reply, hreply, rfl⟩ := List.mem_map.mp hanswer
    cases hresponse
    exact ⟨reply, hreply, hallow⟩

end Hook

theorem Customization.leaves_clampTo {request : HookRequest} {responses : List HookResponse}
    {custom : Customization} (h : Hook.Leaves request responses custom) (ceiling : Option SystemTime) :
    Hook.Leaves request responses (custom.clampTo ceiling) := by
  rw [clampTo_eq]
  exact ⟨h.subjectCommonName, h.sans, h.renewable⟩

/-! ## What is recorded -/

/-- The record says what the replies make of the request. -/
structure CertificateRecord.Vetted (record : CertificateRecord) (request : HookRequest)
    (responses : List HookResponse) : Prop where
  operation : record.operation = request.operation.toString
  provisioner : record.provisioner = request.provisioner
  subject : record.subject = (last HookResponse.subjectCommonName responses).getD request.subject
  sans : record.sans = (responses.foldl
    (fun sans response => response.additionalSans.foldl pushSan (response.sans.getD sans))
      request.sans).map San.toString
  renewable : record.renewable = (request.renew && responses.all fun r => r.renew != some false)

namespace Service

/-- Who answers for a request: its provisioner or a reply, or the CA that has issued before. -/
def Authorizes (rt : Runtime) (service : Service) (request : HookRequest)
    (responses : List HookResponse) : Prop :=
  match request.provisioner with
  | some name => ∃ p ∈ service.authorizer.provisioners, p.name = name ∧
      (p.authorized = true ∨ ∃ response ∈ responses, response.allow = some true)
  | none => ∃ cert der, service.ca.verifyIssued rt.crates cert = .ok () ∧
      rt.crates.der.certificateToDer cert = .ok der ∧ request.previousCertificateDer = some der

/-- What stands behind a record. -/
structure Vets (rt : Runtime) (service : Service) (record : CertificateRecord) : Prop where
  vetted : ∃ request replies, Hook.Vetted Hook.Calls
      (service.hooks.filter (·.appliesTo request.provisioner)) request replies ∧
    record.Vetted request (replies.map Prod.snd) ∧
    service.Authorizes rt request (replies.map Prod.snd)

variable {rt : Runtime} {service : Service} {w w' : World}

theorem vets_signPlan {req : SignRequest} {requestUrl : String} {csr : ParsedCsr}
    {validated : ValidatedToken} {plan : SignPlan} {v v' : World}
    (hauth : (service.signAuthenticate rt req requestUrl).run v = .ok (csr, validated) v')
    (hplan : (service.signPlan rt req csr validated).run w = .ok plan w')
    (issued : IssuedCertificate) (starts issuedAt : String) :
    service.Vets rt (plan.record issued starts issuedAt) := by
  obtain ⟨_, _, -, _, _, -, validated', v₁, hvalidate, hpure⟩ := by
    simpa only [signAuthenticate, run_bind_eq_ok] using hauth
  cases hpure
  obtain ⟨p, verified, hfind, -, rfl⟩ := ProvisionerAuthorizer.of_validate hvalidate
  obtain ⟨sans, notBefore, notAfter, custom, ceiling, -, hvalidated, -, -, hrun, -, hcustom, -⟩ :=
    of_signPlan hplan
  obtain ⟨request, replies, hputs, hvetted, hleaves, hgranted⟩ := Hook.vetted_of_run hrun
  have hclamped := Customization.leaves_clampTo hleaves ceiling
  rw [← hcustom] at hclamped
  refine ⟨request, replies, hvetted, ⟨?_, ?_, ?_, ?_, hclamped.renewable⟩, ?_⟩
  · rw [hputs.operation]
    rfl
  · rw [hputs.provisioner]
    exact congrArg (fun v => some v.provisioner) hvalidated
  · rw [hputs.subject, ← hclamped.subjectCommonName]
    exact congrArg (fun v : ValidatedToken => plan.custom.subjectCommonName.getD v.claims.sub) hvalidated
  · exact congrArg (List.map San.toString) hclamped.sans
  · unfold Authorizes
    rw [hputs.provisioner]
    refine ⟨p, List.mem_of_find?_eq_some hfind, rfl, hgranted.imp_right ?_⟩
    rintro ⟨reply, hreply, hallow⟩
    exact ⟨reply.2, List.mem_map_of_mem hreply, hallow⟩

theorem vets_reissuePlan {certificatePem : String} {newCsrPem dpop : Option String}
    {requestUrl : String} {auth : ReissueAuth} {plan : ReissuePlan} {v v' : World}
    (hauth : (service.reissueAuthenticate rt certificatePem dpop requestUrl).run v = .ok auth v')
    (hplan : (service.reissuePlan rt auth newCsrPem).run w = .ok plan w')
    (issued : IssuedCertificate) (starts issuedAt : String) :
    service.Vets rt (plan.record issued starts issuedAt) := by
  obtain ⟨-, hissued, -⟩ := of_reissueAuthenticate hauth
  obtain ⟨csrDer, sans, notAfter, certDer, custom, -, -, -, hctx, hrun, -, hisRekey, -, hcustom, -⟩ :=
    of_reissuePlan hplan
  obtain ⟨request, replies, hputs, hvetted, hleaves, -⟩ := Hook.vetted_of_run hrun
  have hclamped := Customization.leaves_clampTo hleaves (some notAfter)
  rw [← hcustom] at hclamped
  refine ⟨request, replies, hvetted, ⟨?_, ?_, ?_, ?_, hclamped.renewable⟩, ?_⟩
  · rw [hputs.operation]
    change (if plan.isRekey then "rekey" else "renew") =
      (if newCsrPem.isSome then Operation.rekey else .renew).toString
    rw [hisRekey]
    split <;> rfl
  · rw [hputs.provisioner]
    rfl
  · rw [hputs.subject, ← hclamped.subjectCommonName]
    rfl
  · exact congrArg (List.map San.toString) hclamped.sans
  · obtain ⟨_, -, _, -, _, -, der, hder, hsame⟩ := by
      simpa only [reissueContextFor, except_bind_eq_ok] using hctx
    unfold Authorizes
    rw [hputs.provisioner]
    refine ⟨auth.cert, der, hissued, (mapErr_eq_ok _ _ _).mp hder, ?_⟩
    rw [hputs.previousCertificateDer, ← congrArg Context.previousCertificateDer (Except.ok.inj hsame)]
    rfl

/-- Whatever is recorded was vetted. -/
theorem plans_vets (rt : Runtime) (service : Service) : service.Plans rt (service.Vets rt) where
  sign := by
    intro req requestUrl o validated plan o' h
    obtain ⟨⟨csr, validated'⟩, _, ⟨s, hauth⟩, h⟩ := ends_bind.mp h
    obtain ⟨plan', _, ⟨s', hplan⟩, hpure⟩ := ends_bind.mp h
    cases hpure
    obtain ⟨_, hauth, -⟩ := ownResult_eq_ok.mp hauth
    obtain ⟨_, hplan, -⟩ := ownResult_eq_ok.mp hplan
    exact vets_signPlan hauth hplan
  reissue := by
    intro certificatePem newCsrPem dpop requestUrl o auth plan o' h
    obtain ⟨auth', _, ⟨s, hauth⟩, h⟩ := ends_bind.mp h
    obtain ⟨plan', _, ⟨s', hplan⟩, hpure⟩ := ends_bind.mp h
    cases hpure
    obtain ⟨_, hauth, -⟩ := ownResult_eq_ok.mp hauth
    obtain ⟨_, hplan, -⟩ := ownResult_eq_ok.mp hplan
    exact vets_reissuePlan hauth hplan

end Service

end Ayane
