import Ayane.Hook.Answers
import Ayane.Lib.Override
import Ayane.Testca.Server

/-!
# The gate of the hooks

When the hooks let a request pass, and what they then make of it. Nothing else decides: the
request passes when every hook that applies answers, none denies, every extension can be
built, and somebody authorizes it. The request is put together before the first hook is
asked, also when none applies, and that panics at instants that are out of range of the
crate for dates.
-/

namespace Ayane.Hook

open Ayane.Action Effect Override

/-- The request can be put together, where there are hooks. -/
def Askable (rt : Runtime) (hooks : List HookProvider) (ctx : Context) (w : World) : Prop :=
  hooks = [] ∨ ∃ request, requestFrom rt ctx w = .ok request

/-- The extension of an answer can be built: its identifier can be read and its value fits. -/
def Builds (crates : ServerCrates) (raw : RawExtension) : Prop :=
  (∃ oid, crates.serverDer.oidFromStr raw.oid = .ok oid) ∧
    ∃ value, crates.serverDer.octetString raw.value = .ok value

/-- What the answers of the hooks that apply must be for a request to pass. -/
structure Passes (crates : ServerCrates) (authorized : Bool)
    (answers : List (HookProvider × Result HookResponse)) : Prop where
  answered : ∀ answer ∈ answers, ∃ response, answer.2 = .ok response
  undenied : ∀ answer ∈ answers, ∀ response, answer.2 = .ok response → response.allow ≠ some false
  builds : ∀ answer ∈ answers, ∀ response, answer.2 = .ok response →
    ∀ raw ∈ response.additionalExtensions, Builds crates raw
  granted : authorized = true ∨
    ∃ answer ∈ answers, ∃ response, answer.2 = .ok response ∧ response.allow = some true

/-- What the answers make of the baseline. -/
structure Folds (rt : Runtime) (hooks : List HookProvider) (ctx : Context) (w : World)
    (custom : Customization) : Prop where
  subjectCommonName : custom.subjectCommonName =
    last HookResponse.subjectCommonName (responsesFrom rt hooks ctx w)
  notBefore : custom.notBefore =
    (last HookResponse.notBefore (responsesFrom rt hooks ctx w)).getD ctx.notBefore
  notAfter : custom.notAfter =
    (last HookResponse.notAfter (responsesFrom rt hooks ctx w)).getD ctx.notAfter
  keyUsage : custom.keyUsage = last HookResponse.keyUsage (responsesFrom rt hooks ctx w)
  extendedKeyUsage : custom.extendedKeyUsage =
    last HookResponse.extendedKeyUsage (responsesFrom rt hooks ctx w)
  additionalExtensions : ((responsesFrom rt hooks ctx w).flatMap
    HookResponse.additionalExtensions).mapM (RawExtension.toExtension rt.crates) =
      .ok custom.additionalExtensions
  onceClaims : custom.onceClaims = onceClaimsFrom rt hooks ctx w
  renewable : custom.renewable =
    (ctx.renewable && (responsesFrom rt hooks ctx w).all fun response => response.renew != some false)

/-! ## The loop over the hooks -/

section

variable {rt : Runtime} {ctx : Context} {hooks : List HookProvider} {request : HookRequest}
  {w w' : World} {acc acc' : Customization × Bool}

theorem builds_iff {crates : ServerCrates} {raw : RawExtension} :
    Builds crates raw ↔ ∃ ext, raw.toExtension crates = .ok ext := by
  simp only [Builds, RawExtension.toExtension, except_bind_eq_ok, mapErr_eq_ok, Except.ok.injEq]
  constructor
  · rintro ⟨⟨oid, hoid⟩, value, hvalue⟩
    exact ⟨_, oid, hoid, value, hvalue, rfl⟩
  · rintro ⟨_, oid, hoid, value, hvalue, -⟩
    exact ⟨⟨oid, hoid⟩, value, hvalue⟩

/-- Layering an answer fails only at its extensions. -/
theorem exists_layer {crates : ServerCrates} {c : Customization} {answer : HookProvider × HookResponse} :
    (∃ c', layer crates c answer = .ok c') ↔
      ∀ raw ∈ answer.2.additionalExtensions, Builds crates raw := by
  simp only [builds_iff]
  constructor
  · rintro ⟨c', h⟩ raw hraw
    obtain ⟨exts, hexts, -⟩ := of_applyResponse h
    exact exists_of_mapM hexts hraw
  · intro h
    obtain ⟨exts, hexts⟩ := exists_mapM h
    exact ⟨_, except_bind_eq_ok.mpr ⟨exts, hexts, rfl⟩⟩

/-- Hooks that do not apply are skipped. -/
theorem foldlM_consult_filter (acc : Customization × Bool) :
    (hooks.filter (·.appliesTo ctx.provisioner)).foldlM (consult rt ctx request) acc =
      hooks.foldlM (consult rt ctx request) acc := by
  rw [List.foldlM_filter]
  congr 1
  funext acc hook
  cases happlies : hook.appliesTo ctx.provisioner <;> simp [consult, happlies]

/-- An answer that lets the loop go on. -/
def Clears (crates : ServerCrates) (answer : Result HookResponse) : Prop :=
  ∃ response, answer = .ok response ∧ response.allow ≠ some false ∧
    ∀ raw ∈ response.additionalExtensions, Builds crates raw

/-- An answer that authorizes the request by itself. -/
def grants (answer : Result HookResponse) : Bool :=
  match answer with
  | .ok response => response.allow = some true
  | .error _ => false

theorem exists_consult (acc : Customization × Bool) {hook : HookProvider}
    (happlies : hook.appliesTo ctx.provisioner = true)
    (h : Clears rt.crates (hook.call w.interactions request)) :
    ∃ c w', (consult rt ctx request acc hook).run w =
      .ok (c, acc.2 || grants (hook.call w.interactions request)) w' ∧
        w'.interactions = w.interactions + 1 := by
  obtain ⟨response, hcall, hallow, hbuilds⟩ := h
  obtain ⟨c, hc⟩ := (@exists_layer rt.crates acc.1 (hook, response)).mpr hbuilds
  let answered : World := { w.tick rt with
    consultations := ⟨hook, ctx.provisioner, response.allow⟩ :: w.consultations }
  have hasked : (callHook rt hook ctx.provisioner request).run w = .ok response answered := by
    unfold callHook
    rw [run_bind_of_ok (run_interact rt w), run_bind_of_ok (run_ofResult_of_ok hcall _)]
    rfl
  refine ⟨c, answered, ?_, rfl⟩
  unfold consult
  rw [if_neg (by simp [happlies]), run_bind_of_ok hasked, if_neg hallow]
  refine (run_bind_of_ok (run_ofResult_of_ok hc answered) _).trans ?_
  rw [hcall]
  rfl

theorem of_consult {hook : HookProvider} (happlies : hook.appliesTo ctx.provisioner = true)
    (h : (consult rt ctx request acc hook).run w = .ok acc' w') :
    Clears rt.crates (hook.call w.interactions request) ∧
      acc'.2 = (acc.2 || grants (hook.call w.interactions request)) ∧
      w'.interactions = w.interactions + 1 := by
  unfold consult at h
  rw [if_neg (by simp [happlies])] at h
  obtain ⟨response, w₁, hcall, h⟩ := run_bind_eq_ok.mp h
  obtain ⟨hanswer, hinteractions⟩ := of_callHook hcall
  split_ifs at h with hallow
  · cases h
  · obtain ⟨c, w₂, hc, hpure⟩ := run_bind_eq_ok.mp h
    obtain ⟨hlayer, rfl⟩ := run_ofResult_eq_ok.mp hc
    cases hpure
    refine ⟨⟨response, hanswer, hallow, ?_⟩, by rw [hanswer]; rfl, hinteractions⟩
    exact (@exists_layer rt.crates acc.1 (hook, response)).mp ⟨c, hlayer⟩

theorem of_loop (h : (hooks.foldlM (consult rt ctx request) acc).run w = .ok acc' w') :
    (∀ answer ∈ answers ctx.provisioner request w.interactions hooks, Clears rt.crates answer.2) ∧
      acc'.2 = (acc.2 ||
        (answers ctx.provisioner request w.interactions hooks).any fun answer => grants answer.2) := by
  induction hooks generalizing acc w with
  | nil =>
    cases h
    simp [answers]
  | cons hook hooks ih =>
    rw [List.foldlM_cons, run_bind_eq_ok] at h
    obtain ⟨acc₁, w₁, hfirst, hrest⟩ := h
    cases happlies : hook.appliesTo ctx.provisioner with
    | false =>
      rw [consult, happlies] at hfirst
      cases hfirst
      simpa [answers, happlies] using ih hrest
    | true =>
      obtain ⟨hclears, hgrants, hinteractions⟩ := of_consult happlies hfirst
      obtain ⟨hall, hany⟩ := ih hrest
      rw [hinteractions] at hall hany
      simp only [answers, happlies, if_true, List.forall_mem_cons, List.any_cons]
      refine ⟨⟨hclears, hall⟩, ?_⟩
      rw [hany, hgrants, Bool.or_assoc]

theorem exists_loop
    (h : ∀ answer ∈ answers ctx.provisioner request w.interactions hooks, Clears rt.crates answer.2) :
    ∃ acc' w', (hooks.foldlM (consult rt ctx request) acc).run w = .ok acc' w' := by
  induction hooks generalizing acc w with
  | nil => exact ⟨acc, w, rfl⟩
  | cons hook hooks ih =>
    simp only [answers] at h
    rw [List.foldlM_cons]
    cases happlies : hook.appliesTo ctx.provisioner with
    | false =>
      simp only [happlies, Bool.false_eq_true, if_false] at h
      have hskip : (consult rt ctx request acc hook).run w = .ok acc w := by
        simp [consult, happlies, EStateM.run, pure, EStateM.pure]
      rw [run_bind_of_ok hskip]
      exact ih h
    | true =>
      simp only [happlies, if_true, List.forall_mem_cons] at h
      obtain ⟨c, w₁, hfirst, hinteractions⟩ := exists_consult acc happlies h.1
      rw [run_bind_of_ok hfirst]
      exact ih (by rw [hinteractions]; exact h.2)

end

/-! ## The whole run -/

theorem grants_eq_true {answer : Result HookResponse} :
    grants answer = true ↔ ∃ response, answer = .ok response ∧ response.allow = some true := by
  cases answer <;> simp [grants]

theorem passes_iff {crates : ServerCrates} {authorized : Bool}
    {answers : List (HookProvider × Result HookResponse)} :
    Passes crates authorized answers ↔ (∀ answer ∈ answers, Clears crates answer.2) ∧
      (authorized || answers.any fun answer => grants answer.2) = true := by
  constructor
  · intro h
    refine ⟨fun answer hmem => ?_, ?_⟩
    · obtain ⟨response, hanswer⟩ := h.answered answer hmem
      exact ⟨response, hanswer, h.undenied answer hmem response hanswer,
        h.builds answer hmem response hanswer⟩
    · simpa [grants_eq_true] using h.granted
  · rintro ⟨hclears, hgranted⟩
    constructor
    · intro answer hmem
      obtain ⟨response, hanswer, -⟩ := hclears answer hmem
      exact ⟨response, hanswer⟩
    · intro answer hmem response hanswer
      obtain ⟨response', hanswer', hallow, -⟩ := hclears answer hmem
      cases hanswer.symm.trans hanswer'
      exact hallow
    · intro answer hmem response hanswer
      obtain ⟨response', hanswer', -, hbuilds⟩ := hclears answer hmem
      cases hanswer.symm.trans hanswer'
      exact hbuilds
    · simpa [grants_eq_true] using hgranted

section

variable {rt : Runtime} {ctx : Context} {hooks : List HookProvider} {w w' : World}

theorem run_request {request : HookRequest} (h : requestFrom rt ctx w = .ok request) :
    (Hook.request rt ctx).run w = .ok request (w.tick rt) := by
  simp only [requestFrom, except_bind_eq_ok] at h
  obtain ⟨t, ht, nb, hnb, na, hna, hrequest⟩ := h
  unfold Hook.request
  rw [run_bind_of_ok (run_systemTimeNow rt w), ht, run_bind_of_ok (run_ofOutcome_ok t _), hnb,
    run_bind_of_ok (run_ofOutcome_ok nb _), hna, run_bind_of_ok (run_ofOutcome_ok na _)]
  cases hrequest
  rfl

theorem unauthorizedGuard_eq_ok {authorized allowed : Bool} {u : Unit} :
    unauthorizedGuard authorized allowed = .ok u ↔ (authorized || allowed) = true := by
  unfold unauthorizedGuard
  split_ifs with h <;> simp [h]

/-- With hooks, the run is the loop between the request and the guard. -/
theorem run_of_ne_nil (hne : hooks ≠ []) {request : HookRequest}
    (h : requestFrom rt ctx w = .ok request) :
    (run rt hooks ctx).run w =
      (hooks.foldlM (consult rt ctx request) (.baseline ctx, false) >>= fun acc =>
        ofResult (unauthorizedGuard ctx.authorized acc.2) >>= fun _ =>
          (pure acc.1 : Action Customization)).run (w.tick rt) := by
  unfold run
  rw [if_neg (by simpa using hne), run_bind_of_ok (run_request h)]

theorem answersFrom_nil : answersFrom rt [] ctx w = [] := by
  unfold answersFrom
  split <;> rfl

/-- No hook vouches for the request, so the authorizers have to. -/
theorem exists_run_nil :
    (∃ custom w', (run rt [] ctx).run w = .ok custom w') ↔ ctx.authorized = true := by
  simp only [run, List.isEmpty_nil, if_true, run_bind_eq_ok, run_ofResult_eq_ok,
    unauthorizedGuard_eq_ok, Bool.or_false]
  constructor
  · rintro ⟨_, _, _, _, ⟨h, -⟩, -⟩
    exact h
  · intro h
    exact ⟨_, _, (), w, ⟨h, rfl⟩, rfl⟩

theorem exists_request_of_run {custom : Customization} {w' : World} (hne : hooks ≠ [])
    (h : (run rt hooks ctx).run w = .ok custom w') : ∃ request, requestFrom rt ctx w = .ok request := by
  unfold run at h
  rw [if_neg (by simpa using hne)] at h
  obtain ⟨request, w₁, hrequest, -⟩ := run_bind_eq_ok.mp h
  exact ⟨request, (of_request hrequest).1⟩

theorem exists_run_iff : (∃ custom w', (run rt hooks ctx).run w = .ok custom w') ↔
    Askable rt hooks ctx w ∧ Passes rt.crates ctx.authorized (answersFrom rt hooks ctx w) := by
  by_cases hne : hooks = []
  · subst hne
    rw [exists_run_nil, answersFrom_nil, passes_iff]
    simp [Askable]
  · constructor
    · rintro ⟨custom, w', h⟩
      obtain ⟨request, hrequest⟩ := exists_request_of_run hne h
      rw [run_of_ne_nil hne hrequest] at h
      obtain ⟨⟨c, allowed⟩, w₂, hloop, h⟩ := run_bind_eq_ok.mp h
      obtain ⟨_, _, hguard, -⟩ := run_bind_eq_ok.mp h
      obtain ⟨hguard, -⟩ := run_ofResult_eq_ok.mp hguard
      obtain ⟨hclears, rfl⟩ := of_loop hloop
      rw [unauthorizedGuard_eq_ok, Bool.false_or] at hguard
      refine ⟨.inr ⟨request, hrequest⟩, passes_iff.mpr ?_⟩
      rw [answersFrom, hrequest]
      exact ⟨hclears, hguard⟩
    · rintro ⟨hasked, hpasses⟩
      obtain ⟨request, hrequest⟩ := hasked.resolve_left hne
      rw [answersFrom, hrequest] at hpasses
      obtain ⟨hclears, hgranted⟩ := passes_iff.mp hpasses
      obtain ⟨⟨c, allowed⟩, w₂, hloop⟩ := @exists_loop rt ctx hooks request (w.tick rt)
        (.baseline ctx, false) hclears
      obtain ⟨-, rfl⟩ := of_loop hloop
      have hguard : unauthorizedGuard ctx.authorized (false || (answers ctx.provisioner request
          (w.tick rt).interactions hooks).any fun answer => grants answer.2) = .ok () := by
        rw [unauthorizedGuard_eq_ok, Bool.false_or]
        exact hgranted
      refine ⟨c, w₂, ?_⟩
      rw [run_of_ne_nil hne hrequest, run_bind_of_ok hloop]
      exact run_bind_of_ok (run_ofResult_of_ok hguard w₂) _

/-! ## What is made of the answers -/

/-- What the answers set is what the last of them sets. -/
theorem settings_of_layers {crates : ServerCrates} {responses : List (HookProvider × HookResponse)}
    {c c' : Customization} (h : responses.foldlM (layer crates) c = .ok c') :
    c'.notBefore = (last HookResponse.notBefore (responses.map Prod.snd)).getD c.notBefore ∧
      c'.notAfter = (last HookResponse.notAfter (responses.map Prod.snd)).getD c.notAfter ∧
      c'.keyUsage = (last HookResponse.keyUsage (responses.map Prod.snd)).or c.keyUsage ∧
      c'.extendedKeyUsage =
        (last HookResponse.extendedKeyUsage (responses.map Prod.snd)).or c.extendedKeyUsage := by
  refine foldlM_relates (fun _ => ⟨rfl, rfl, rfl, rfl⟩)
    (fun answer responses c c₁ c' hlayer ih => ?_) h
  obtain ⟨_, -, rfl⟩ := of_applyResponse hlayer
  obtain ⟨hnotBefore, hnotAfter, hkeyUsage, hextendedKeyUsage⟩ := ih
  simp only [List.map_cons, last_cons]
  refine ⟨?_, ?_, ?_, ?_⟩
  · rw [hnotBefore]
    cases last HookResponse.notBefore (responses.map Prod.snd) <;> rfl
  · rw [hnotAfter]
    cases last HookResponse.notAfter (responses.map Prod.snd) <;> rfl
  · rw [hkeyUsage, Option.or_assoc]
  · rw [hextendedKeyUsage, Option.or_assoc]

theorem folds_of_run {custom : Customization} (h : (run rt hooks ctx).run w = .ok custom w') :
    Folds rt hooks ctx w custom := by
  obtain ⟨responses, hanswers, hlayers⟩ := of_run h
  obtain ⟨hnotBefore, hnotAfter, hkeyUsage, hextendedKeyUsage⟩ := settings_of_layers hlayers
  obtain ⟨hname, -, hadditional⟩ := contents_of_run h
  rw [← responsesFrom_of_answers hanswers] at hnotBefore hnotAfter hkeyUsage hextendedKeyUsage
  constructor
  · rw [hname, commonNameFrom, foldl_or, Option.or_none]
  · exact hnotBefore
  · exact hnotAfter
  · exact hkeyUsage.trans Option.or_none
  · exact hextendedKeyUsage.trans Option.or_none
  · exact hadditional
  · exact onceClaims_of_run h
  · have hoff := renewable_of_layers hlayers
    have hall : ((responsesFrom rt hooks ctx w).all fun response => response.renew != some false) =
        false ↔ ∃ answer ∈ responses, answer.2.renew = some false := by
      rw [responsesFrom_of_answers hanswers]
      simp
    cases hrenewable : custom.renewable <;> grind [Customization.baseline]

/-! ## Hooks that do not apply -/

/-- How a run ends, without its world. -/
def ending {α : Type} : EStateM.Result Abort World α → Outcome α
  | .ok a _ => .ok a
  | .error e _ => .error e

/-- When no hook applies, the guard alone decides, and the baseline is kept. -/
theorem ending_run_of_none (hnone : hooks.filter (·.appliesTo ctx.provisioner) = [])
    (hasked : Askable rt hooks ctx w) :
    ending ((run rt hooks ctx).run w) =
      (unauthorizedGuard ctx.authorized false).orAbort.map fun _ => Customization.baseline ctx := by
  by_cases hne : hooks = []
  · subst hne
    unfold run
    cases unauthorizedGuard ctx.authorized false <;> rfl
  · obtain ⟨request, hrequest⟩ := hasked.resolve_left hne
    rw [run_of_ne_nil hne hrequest, ← foldlM_consult_filter, hnone, List.foldlM_nil, pure_bind]
    cases unauthorizedGuard ctx.authorized false <;> rfl

/-- Only the hooks that apply decide how the run ends, once the request can be put together. -/
theorem ending_run_congr {hooks' : List HookProvider}
    (hsame : hooks'.filter (·.appliesTo ctx.provisioner) = hooks.filter (·.appliesTo ctx.provisioner))
    (hasked : Askable rt hooks ctx w) (hasked' : Askable rt hooks' ctx w) :
    ending ((run rt hooks' ctx).run w) = ending ((run rt hooks ctx).run w) := by
  by_cases hnone : hooks.filter (·.appliesTo ctx.provisioner) = []
  · rw [ending_run_of_none hnone hasked, ending_run_of_none (hsame.trans hnone) hasked']
  · have hne : hooks ≠ [] := by
      rintro rfl
      exact hnone rfl
    have hne' : hooks' ≠ [] := by
      rintro rfl
      exact hnone hsame.symm
    obtain ⟨request, hrequest⟩ := hasked.resolve_left hne
    rw [run_of_ne_nil hne hrequest, run_of_ne_nil hne' hrequest, ← foldlM_consult_filter,
      ← @foldlM_consult_filter _ _ hooks, hsame]

end

/-- The run returns exactly when every hook that applies lets the request pass and one of them or
the credential authorizes it; what it returns is what the answers make of the baseline; and hooks
that do not apply change nothing. -/
theorem run_gate_and_fold (rt : Runtime) (hooks : List HookProvider) (ctx : Context) (w : World) :
    ((∃ custom w', (run rt hooks ctx).run w = .ok custom w') ↔
        Askable rt hooks ctx w ∧ Passes rt.crates ctx.authorized (answersFrom rt hooks ctx w)) ∧
      (∀ custom w', (run rt hooks ctx).run w = .ok custom w' → Folds rt hooks ctx w custom) ∧
      ∀ hooks' : List HookProvider,
        hooks'.filter (·.appliesTo ctx.provisioner) = hooks.filter (·.appliesTo ctx.provisioner) →
        Askable rt hooks ctx w → Askable rt hooks' ctx w →
          ending ((run rt hooks' ctx).run w) = ending ((run rt hooks ctx).run w) :=
  ⟨exists_run_iff, fun _ _ h => folds_of_run h,
    fun _ hsame hasked hasked' => ending_run_congr hsame hasked hasked'⟩

/-! ## A window that no request can carry -/

/-- `chrono::DateTime::<Utc>::from`, over the years the crate can write. -/
def chronoUtc (t : SystemTime) : Outcome SystemTime :=
  if -8334601228800 * 1000000000 ≤ t.nanos ∧ t.nanos < 8210266876800 * 1000000000 then .ok t
  else .error (.panic "No such local time")

def chronoRuntime : Runtime :=
  let crates := Testca.serverCrates [] [] []
  Testca.still { crates with times := { crates.times with dateTimeUtc := chronoUtc } }

/-- An authorized request whose window ends past those years. -/
def farContext : Context where
  operation := .sign
  authorized := true
  provisioner := some "ci"
  subject := "web"
  sans := []
  notBefore := Testca.instant 1000
  notAfter := Testca.instant 8210266876800
  csrDer := none
  previousCertificateDer := none
  renewable := true

/-- A hook of another provisioner. -/
def idleHook : HookProvider where
  name := "idle"
  provisioners := ["other"]
  call _ _ := .ok {}

/-- The hook does not apply, and yet the request panics with it and passes without it. -/
theorem run_of_farContext :
    idleHook.appliesTo farContext.provisioner = false ∧
      ending ((run chronoRuntime [] farContext).run
        (Testca.world Testca.sqlite (Testca.instant 1000))) = .ok (.baseline farContext) ∧
      ending ((run chronoRuntime [idleHook] farContext).run
        (Testca.world Testca.sqlite (Testca.instant 1000))) = .error (.panic "No such local time") :=
  ⟨by decide, rfl, rfl⟩

end Ayane.Hook
