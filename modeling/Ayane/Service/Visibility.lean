import Ayane.Service.Threads
import Ayane.Storage.Agree

/-!
# What requests see and show

Some keys of the anti-replay store and some serial numbers are watched. A request that
claims none of the keys and draws none of the serial numbers shows nothing to those that
watch them. A request that carries a token and uses nothing else of the storage sees
nothing but what is watched.
-/

namespace Ayane

open Ayane.Action Effect Interleave Thread Storage

variable {keys serials : Set String} {rt : Runtime} {o : Own}

/-- Nothing of what is watched is changed from `w` to `w'`. -/
def World.Unseen (keys serials : Set String) (w w' : World) : Prop :=
  AgreeOn keys serials w.storage w'.storage

instance : Std.Refl (World.Unseen keys serials) := ⟨fun w => .refl w.storage⟩

instance : IsTrans World (World.Unseen keys serials) := ⟨fun _ _ _ h h' => AgreeOn.trans h h'⟩

theorem World.Waits.unseen {w w' : World} (h : w.Waits w') : w.Unseen keys serials w' := by
  rw [World.Unseen, h.storage]
  exact .refl _

theorem unseen_of_waits {α : Type} {x : Action α} (h : Within World.Waits x) :
    Within (World.Unseen keys serials) x :=
  h.mono fun _ _ => World.Waits.unseen

theorem unseen_onStorage {α : Type} (rt : Runtime) {f : Storage → Outcome α × Storage}
    (h : ∀ s, AgreeOn keys serials s (f s).2) : Within (World.Unseen keys serials) (onStorage rt f) := by
  intro w
  rw [final_onStorage]
  exact h w.storage

theorem silent_of_unseen {α : Type} {x : Action α} (h : Within (World.Unseen keys serials) x) :
    (atomic x o).Silent (AgreeOn keys serials) :=
  silent_atomic fun s => h (o.over s)

theorem silent_waits {α : Type} {x : Action α} (h : Within World.Waits x) :
    (atomic x o).Silent (AgreeOn keys serials) :=
  silent_of_unseen (unseen_of_waits h)

/-! ## Claims -/

theorem unseen_claimToken {key : String} (h : key ∉ keys) (expiresAt : SystemTime) :
    Within (World.Unseen keys serials) (claimToken rt key expiresAt) :=
  (unseen_of_waits (waits_systemTimeNow rt)).bind fun _ =>
    unseen_onStorage rt fun s => agreeOn_claimToken h s

theorem unseen_claimOnce {key : String} (h : key ∉ keys) (expiresAt : SystemTime) (msg : String) :
    Within (World.Unseen keys serials) (claimOnce rt key expiresAt msg) := by
  refine (unseen_of_waits (waits_systemTimeNow rt)).bind fun _ => (within_ofOutcome _).bind fun _ => ?_
  exact (within_attempt (unseen_claimToken h _)).bind fun _ => within_ofResult _

theorem respects_claimToken {key : String} (h : key ∈ keys) (expiresAt : SystemTime) :
    Respects (AgreeOn keys serials) (claimToken rt key expiresAt) o :=
  respects_bind (respects_systemTimeNow rt) fun now _ _ =>
    respects_onStorage rt fun _ _ hs => hs.claimToken h expiresAt now

theorem respects_claimOnce {key : String} (h : key ∈ keys) (expiresAt : SystemTime) (msg : String) :
    Respects (AgreeOn keys serials) (claimOnce rt key expiresAt msg) o := by
  refine respects_bind (respects_systemTimeNow rt) fun _ _ _ => ?_
  refine respects_bind (respects_ofOutcome _) fun _ _ _ => ?_
  refine respects_bind (respects_attempt (respects_claimToken h _)) fun _ _ _ => ?_
  exact respects_ofResult _

theorem silent_claimOnceScopes {scopes : List OnceClaim}
    (h : ∀ scope ∈ scopes, scope.key ∉ keys) (defaultExpiry : SystemTime) :
    (claimOnceScopesThread rt scopes defaultExpiry o).Silent (AgreeOn keys serials) :=
  silent_forM fun scope hscope _ => silent_of_unseen (unseen_claimOnce (h scope hscope) _ _)

theorem faithful_claimOnceScopes {scopes : List OnceClaim}
    (h : ∀ scope ∈ scopes, scope.key ∈ keys) (defaultExpiry : SystemTime) :
    (claimOnceScopesThread rt scopes defaultExpiry o).Faithful (AgreeOn keys serials) :=
  faithful_forM fun scope hscope _ => faithful_atomic (respects_claimOnce (h scope hscope) _ _)

/-! ## Reports -/

theorem respects_eventNow {R : Storage → Storage → Prop} (eventType outcome : String) :
    Respects R (eventNow rt eventType outcome) o := by
  refine respects_bind (respects_systemTimeNow rt) fun _ _ _ => ?_
  exact respects_bind (respects_ofOutcome _) fun _ _ _ => respects_pure _

section

variable {α : Type} {eventType : String} {requestId : Option String}
  {request : Thread (α × AuditEvent)}

theorem silent_audited (h : (request o).Silent (AgreeOn keys serials)) :
    (auditedThread rt eventType requestId request o).Silent (AgreeOn keys serials) := by
  refine silent_bind (silent_attempt h) fun outcome _ _ => ?_
  cases outcome with
  | ok served => exact silent_bind (silent_waits (waits_emit _)) fun _ _ _ => trivial
  | error e =>
    refine silent_bind (silent_waits (waits_denial rt _ _ _)) fun _ _ _ => ?_
    refine silent_bind (silent_waits (waits_emit _)) fun _ _ _ => ?_
    exact silent_waits (within_throw _)

theorem faithful_audited (h : (request o).Faithful (AgreeOn keys serials)) :
    (auditedThread rt eventType requestId request o).Faithful (AgreeOn keys serials) := by
  refine faithful_bind (faithful_attempt h) fun outcome _ _ => ?_
  cases outcome with
  | ok served => exact faithful_bind (faithful_atomic (respects_emit _)) fun _ _ _ => trivial
  | error e =>
    refine faithful_bind (faithful_atomic ?_) fun _ _ _ => ?_
    · exact respects_bind (respects_eventNow _ _) fun _ _ _ => respects_pure _
    · refine faithful_bind (faithful_atomic (respects_emit _)) fun _ _ _ => ?_
      exact faithful_atomic (respects_throw _)

end

/-! ## Tokens -/

theorem respects_verify {R : Storage → Storage → Prop} (verifier : TokenVerifier)
    (token audience : String) : Respects R (verifier.verify rt token audience) o := by
  cases verifier with
  | jwk issuer audiences key =>
    exact respects_bind (respects_systemTimeNow rt) fun _ _ _ => respects_ofOutcome _
  | jwks issuer audiences resolve =>
    refine respects_bind (respects_ofResult _) fun _ _ _ => ?_
    refine respects_bind (respects_interact rt) fun _ _ _ => ?_
    refine respects_bind (respects_ofResult _) fun _ _ _ => ?_
    exact respects_bind (respects_systemTimeNow rt) fun _ _ _ => respects_ofOutcome _

/-- Validating a token does not look at the storage. -/
theorem respects_validate {R : Storage → Storage → Prop} (authorizer : ProvisionerAuthorizer)
    (token audience : String) : Respects R (authorizer.validate rt token audience) o := by
  unfold ProvisionerAuthorizer.validate
  split
  · exact respects_throw _
  · exact respects_bind (respects_verify _ token audience) fun _ _ _ => respects_pure _

/-! ## Sign -/

namespace Service

variable {service : Service}

theorem respects_signAuthenticate {R : Storage → Storage → Prop} (req : SignRequest)
    (requestUrl : String) : Respects R (service.signAuthenticate rt req requestUrl) o := by
  refine respects_bind (respects_ofResult _) fun _ _ _ => ?_
  refine respects_bind (respects_ofResult _) fun _ _ _ => ?_
  exact respects_bind (respects_validate _ _ _) fun _ _ _ => respects_pure _

/-- Without hooks, planning does not look at the storage either. -/
theorem respects_signPlan {R : Storage → Storage → Prop} (hhooks : service.hooks = [])
    (req : SignRequest) (csr : ParsedCsr) (validated : ValidatedToken) :
    Respects R (service.signPlan rt req csr validated) o := by
  unfold signPlan
  rw [hhooks]
  refine respects_bind (respects_ofResult _) fun _ _ _ => ?_
  refine respects_bind (respects_ofResult _) fun _ _ _ => ?_
  refine respects_bind (respects_ofResult _) fun _ _ _ => ?_
  refine respects_bind (respects_ofResult _) fun _ _ _ => ?_
  refine respects_bind (respects_systemTimeNow rt) fun _ _ _ => ?_
  refine respects_bind (respects_ofResult _) fun _ _ _ => ?_
  refine respects_bind (respects_ofResult _) fun _ _ _ => ?_
  refine respects_bind (respects_ofOutcome _) fun _ _ _ => ?_
  refine respects_bind ?_ fun _ _ _ => ?_
  · exact respects_bind (respects_ofResult _) fun _ _ _ => respects_pure _
  · refine respects_bind (respects_ofOutcome _) fun _ _ _ => ?_
    exact respects_bind (respects_ofResult _) fun _ _ _ => respects_pure _

theorem unseen_signClaimJti {validated : ValidatedToken}
    (h : jtiKey "ott" validated.replayId ∉ keys) :
    Within (World.Unseen keys serials) (signClaimJti rt validated) :=
  (within_ofOutcome _).bind fun _ => unseen_claimOnce h _ _

theorem respects_signClaimJti {validated : ValidatedToken}
    (h : jtiKey "ott" validated.replayId ∈ keys) :
    Respects (AgreeOn keys serials) (signClaimJti rt validated) o :=
  respects_bind (respects_ofOutcome _) fun _ _ _ => respects_claimOnce h _ _

section

variable {issue : ℕ → Digest 19 → Outcome IssuedCertificate} {notBefore now : SystemTime}
  {record : IssuedCertificate → String → String → CertificateRecord} {eventType : String}
  {describe : IssuedCertificate → AuditEvent → AuditEvent}

/-- Issuing records a certificate under the serial number that is drawn. -/
theorem silent_issueRecorded
    (h : ∀ issued starts issuedAt, issue o.interactions (rt.entropy o.interactions) = .ok issued →
      (record issued starts issuedAt).serialNumber ∉ serials) :
    (atomic (service.issueRecorded rt issue notBefore now record eventType describe) o).Silent
      (AgreeOn keys serials) := by
  refine silent_atomic fun s => ?_
  unfold issueRecorded
  cases hkey : (withKey rt issue).run (o.over s) with
  | error abort w =>
    rw [run_bind_of_error hkey]
    exact ((waits_withKey rt issue).of_error hkey).unseen
  | ok issued w =>
    rw [run_bind_of_ok hkey]
    obtain ⟨hissued, rfl⟩ := of_withKey hkey
    have hrest : Within (World.Unseen keys serials) (do
        let starts ← ofOutcome (rt.crates.times.formatRfc3339 notBefore)
        let issuedAt ← ofOutcome (rt.crates.times.formatRfc3339 now)
        recordCertificate rt (record issued starts issuedAt)
        let event ← eventNow rt eventType "success"
        return (service.certificateResponse issued, describe issued event) :
          Action (CertificateResponse × AuditEvent)) := by
      refine (within_ofOutcome _).bind fun starts => (within_ofOutcome _).bind fun issuedAt => ?_
      refine (unseen_onStorage rt fun s => ?_).bind fun _ => ?_
      · exact agreeOn_recordCertificate (h issued starts issuedAt hissued) s
      · exact (unseen_of_waits (waits_eventNow rt _ _)).bind fun _ => within_pure _
    exact hrest ((o.over s).tick rt)

theorem faithful_issueRecorded
    (h : ∀ issued starts issuedAt, issue o.interactions (rt.entropy o.interactions) = .ok issued →
      (record issued starts issuedAt).serialNumber ∈ serials) :
    (atomic (service.issueRecorded rt issue notBefore now record eventType describe) o).Faithful
      (AgreeOn keys serials) := by
  refine faithful_atomic (respects_bind (respects_withKey rt issue) fun issued _ hends => ?_)
  refine respects_bind (respects_ofOutcome _) fun starts _ _ => ?_
  refine respects_bind (respects_ofOutcome _) fun issuedAt _ _ => ?_
  refine respects_bind (respects_onStorage rt fun s s' hs => ?_) fun _ _ _ => ?_
  · obtain ⟨s₀, hrun⟩ := hends
    obtain ⟨w, hkey, -⟩ := ownResult_eq_ok.mp hrun
    obtain ⟨houtcome, hagree⟩ := hs.recordCertificate (h issued starts issuedAt (of_withKey hkey).1)
    exact ⟨congrArg Result.orAbort houtcome, hagree⟩
  · exact respects_bind (respects_eventNow _ _) fun _ _ _ => respects_pure _

end

end Service

end Ayane
