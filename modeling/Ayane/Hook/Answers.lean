import Ayane.Hook.Run
import Ayane.World.Run

/-!
# What hooks answer

The hooks that apply to a request are asked one after the other, each at an interaction
of its own, so what they answer is known from the state the request is made in. The
properties of the certificate are what the answers, layered in order, make of the
baseline.
-/

namespace Ayane.Hook

open Ayane.Action Effect

/-- The answers to `request` of the hooks that apply, the first of them asked at the interaction
`n`. -/
def answers (provisioner : Option String) (request : HookRequest) :
    ℕ → List HookProvider → List (HookProvider × Result HookResponse)
  | _, [] => []
  | n, hook :: hooks =>
    if hook.appliesTo provisioner then
      (hook, hook.call n request) :: answers provisioner request (n + 1) hooks
    else answers provisioner request n hooks

/-- The request that hooks are sent from `w`. -/
def requestFrom (rt : Runtime) (ctx : Context) (w : World) : Outcome HookRequest := do
  let timestamp ← rt.crates.times.dateTimeUtc (w.tick rt).clock
  let notBefore ← rt.crates.times.dateTimeUtc ctx.notBefore
  let notAfter ← rt.crates.times.dateTimeUtc ctx.notAfter
  .ok {
    timestamp
    operation := ctx.operation
    provisioner := ctx.provisioner
    subject := ctx.subject
    sans := ctx.sans
    csrDer := ctx.csrDer
    previousCertificateDer := ctx.previousCertificateDer
    notBefore
    notAfter
    renew := ctx.renewable }

/-- The answers to a request that is made in `w`. -/
def answersFrom (rt : Runtime) (hooks : List HookProvider) (ctx : Context) (w : World) :
    List (HookProvider × Result HookResponse) :=
  match requestFrom rt ctx w with
  | .ok request => answers ctx.provisioner request (w.interactions + 1) hooks
  | .error _ => []

/-- One answer on top of the properties so far. -/
def layer (crates : ServerCrates) (c : Customization) (answer : HookProvider × HookResponse) :
    Result Customization :=
  applyResponse crates
    { c with onceClaims := c.onceClaims ++ onceClaimsOf answer.1 answer.2 } answer.2

section

variable {rt : Runtime} {ctx : Context} {hooks : List HookProvider} {w w' : World}

theorem of_request {request : HookRequest} (h : (Hook.request rt ctx).run w = .ok request w') :
    requestFrom rt ctx w = .ok request ∧ w' = w.tick rt := by
  simp only [Hook.request, run_bind_eq_ok, run_ofOutcome_eq_ok] at h
  obtain ⟨now, w₁, hnow, t, _, ⟨ht, rfl⟩, nb, _, ⟨hnb, rfl⟩, na, _, ⟨hna, rfl⟩, hpure⟩ := h
  cases hnow
  cases hpure
  refine ⟨?_, rfl⟩
  simp only [requestFrom, ht, hnb, hna]
  rfl

theorem of_callHook {hook : HookProvider} {provisioner : Option String} {request : HookRequest}
    {response : HookResponse} (h : (callHook rt hook provisioner request).run w = .ok response w') :
    hook.call w.interactions request = .ok response ∧ w'.interactions = w.interactions + 1 := by
  obtain ⟨n, w₁, hn, h⟩ := run_bind_eq_ok.mp h
  cases hn
  obtain ⟨answer, w₂, hanswer, h⟩ := run_bind_eq_ok.mp h
  obtain ⟨hcall, rfl⟩ := run_ofResult_eq_ok.mp hanswer
  cases h
  exact ⟨hcall, rfl⟩

/-- The applicable hooks answered, none of them with a denial, and their answers were layered. -/
theorem of_consults {request : HookRequest} {acc acc' : Customization × Bool}
    (h : (hooks.foldlM (consult rt ctx request) acc).run w = .ok acc' w') :
    ∃ responses : List (HookProvider × HookResponse),
      answers ctx.provisioner request w.interactions hooks = responses.map (Prod.map id Except.ok) ∧
        responses.foldlM (layer rt.crates) acc.1 = .ok acc'.1 := by
  induction hooks generalizing acc w with
  | nil =>
    cases h
    exact ⟨[], rfl, rfl⟩
  | cons hook hooks ih =>
    rw [List.foldlM_cons, run_bind_eq_ok] at h
    obtain ⟨acc₁, w₁, hfirst, hrest⟩ := h
    unfold consult at hfirst
    cases happlies : hook.appliesTo ctx.provisioner with
    | false =>
      rw [happlies] at hfirst
      cases hfirst
      obtain ⟨responses, hanswers, hlayers⟩ := ih hrest
      exact ⟨responses, by simpa [answers, happlies] using hanswers, hlayers⟩
    | true =>
      rw [happlies] at hfirst
      obtain ⟨response, w₂, hcall, hfirst⟩ := run_bind_eq_ok.mp hfirst
      obtain ⟨hanswer, hinteractions⟩ := of_callHook hcall
      split at hfirst
      · cases hfirst
      · obtain ⟨c, w₃, hc, hpure⟩ := run_bind_eq_ok.mp hfirst
        obtain ⟨hlayer, hw⟩ := run_ofResult_eq_ok.mp hc
        cases hpure
        subst hw
        obtain ⟨responses, hanswers, hlayers⟩ := ih hrest
        refine ⟨(hook, response) :: responses, ?_, ?_⟩
        · rw [hinteractions] at hanswers
          simp [answers, happlies, hanswer, hanswers]
        · rw [List.foldlM_cons, except_bind_eq_ok]
          exact ⟨c, hlayer, hlayers⟩

/-- What a successful consultation returns is what the answers make of the baseline. -/
theorem of_run {custom : Customization} (h : (run rt hooks ctx).run w = .ok custom w') :
    ∃ responses : List (HookProvider × HookResponse),
      answersFrom rt hooks ctx w = responses.map (Prod.map id Except.ok) ∧
        responses.foldlM (layer rt.crates) (.baseline ctx) = .ok custom := by
  unfold run at h
  cases hooks with
  | nil =>
    obtain ⟨_, _, _, hpure⟩ := run_bind_eq_ok.mp h
    cases hpure
    refine ⟨[], ?_, rfl⟩
    unfold answersFrom
    split <;> rfl
  | cons hook hooks =>
    obtain ⟨request, w₁, hrequest, h⟩ := run_bind_eq_ok.mp h
    obtain ⟨hfrom, rfl⟩ := of_request hrequest
    obtain ⟨⟨c, allowed⟩, w₂, hfold, h⟩ := run_bind_eq_ok.mp h
    obtain ⟨_, _, _, hpure⟩ := run_bind_eq_ok.mp h
    cases hpure
    obtain ⟨responses, hanswers, hlayers⟩ := of_consults hfold
    exact ⟨responses, by rw [answersFrom, hfrom]; exact hanswers, hlayers⟩

/-- Without a hook that applies the properties are the baseline. -/
theorem answersFrom_of_none (h : ∀ hook ∈ hooks, hook.appliesTo ctx.provisioner = false) :
    answersFrom rt hooks ctx w = [] := by
  have hnone : ∀ request n, answers ctx.provisioner request n hooks = [] := by
    intro request n
    induction hooks with
    | nil => rfl
    | cons hook hooks ih =>
      have hfirst := h hook List.mem_cons_self
      have hrest := ih fun hook' hmem => h hook' (List.mem_cons_of_mem _ hmem)
      simp [answers, hfirst, hrest]
  unfold answersFrom
  split
  · exact hnone _ _
  · rfl

/-- An answer is that of one of the hooks, on some interaction. -/
theorem of_mem_answers {provisioner : Option String} {request : HookRequest} {n : ℕ}
    {answer : HookProvider × Result HookResponse} (h : answer ∈ answers provisioner request n hooks) :
    answer.1 ∈ hooks ∧ ∃ m, answer.1.call m request = answer.2 := by
  induction hooks generalizing n with
  | nil => cases h
  | cons hook hooks ih =>
    unfold answers at h
    split at h
    · obtain rfl | h := List.mem_cons.mp h
      · exact ⟨List.mem_cons_self, n, rfl⟩
      · exact (ih h).imp_left (List.mem_cons_of_mem _)
    · exact (ih h).imp_left (List.mem_cons_of_mem _)

theorem mem_of_answersFrom {answer : HookProvider × Result HookResponse}
    (h : answer ∈ answersFrom rt hooks ctx w) : answer.1 ∈ hooks := by
  unfold answersFrom at h
  split at h
  · exact (of_mem_answers h).1
  · cases h

end

/-! ## What the answers decide -/

/-- Some hook that is asked in `w` turns renewals off. -/
def Disables (rt : Runtime) (hooks : List HookProvider) (ctx : Context) (w : World) : Prop :=
  ∃ hook response, (hook, .ok response) ∈ answersFrom rt hooks ctx w ∧ response.renew = some false

theorem of_applyResponse {crates : ServerCrates} {c c' : Customization} {response : HookResponse}
    (h : applyResponse crates c response = .ok c') :
    ∃ extensions, response.additionalExtensions.mapM (RawExtension.toExtension crates) = .ok extensions ∧
      c' = { c with
        renewable := if response.renew = some false then false else c.renewable
        subjectCommonName := response.subjectCommonName.or c.subjectCommonName
        sans := response.additionalSans.foldl pushSan (response.sans.getD c.sans)
        notBefore := response.notBefore.getD c.notBefore
        notAfter := response.notAfter.getD c.notAfter
        keyUsage := response.keyUsage.or c.keyUsage
        extendedKeyUsage := response.extendedKeyUsage.or c.extendedKeyUsage
        additionalExtensions := c.additionalExtensions ++ extensions } := by
  obtain ⟨extensions, hextensions, h⟩ := except_bind_eq_ok.mp h
  cases h
  exact ⟨extensions, hextensions, rfl⟩

/-- What answers leave of a bound of the window that each of them may override. -/
def overridden (bound : HookResponse → Option SystemTime) (t : SystemTime)
    (answers : List (HookProvider × Result HookResponse)) : SystemTime :=
  answers.foldl (fun t answer => (answer.2.toOption.bind bound).getD t) t

/-- The start of the window after the answers to a request that is made in `w`. -/
def notBeforeFrom (rt : Runtime) (hooks : List HookProvider) (ctx : Context) (w : World) :
    SystemTime :=
  overridden HookResponse.notBefore ctx.notBefore (answersFrom rt hooks ctx w)

/-- The end of the window after the answers, before it is clamped. -/
def notAfterFrom (rt : Runtime) (hooks : List HookProvider) (ctx : Context) (w : World) :
    SystemTime :=
  overridden HookResponse.notAfter ctx.notAfter (answersFrom rt hooks ctx w)

theorem window_of_layers {crates : ServerCrates} {responses : List (HookProvider × HookResponse)}
    {c c' : Customization} (h : responses.foldlM (layer crates) c = .ok c') :
    c'.notBefore =
        overridden HookResponse.notBefore c.notBefore (responses.map (Prod.map id Except.ok)) ∧
      c'.notAfter =
        overridden HookResponse.notAfter c.notAfter (responses.map (Prod.map id Except.ok)) := by
  refine foldlM_relates (fun _ => ⟨rfl, rfl⟩) (fun answer responses c c₁ c' hlayer ih => ?_) h
  obtain ⟨_, -, rfl⟩ := of_applyResponse hlayer
  exact ih

theorem window_of_run {rt : Runtime} {hooks : List HookProvider} {ctx : Context}
    {custom : Customization} {w w' : World} (h : (run rt hooks ctx).run w = .ok custom w') :
    custom.notBefore = notBeforeFrom rt hooks ctx w ∧
      custom.notAfter = notAfterFrom rt hooks ctx w := by
  obtain ⟨responses, hanswers, hlayers⟩ := of_run h
  unfold notBeforeFrom notAfterFrom
  rw [hanswers]
  exact window_of_layers hlayers

/-- The answers that came. -/
def responsesFrom (rt : Runtime) (hooks : List HookProvider) (ctx : Context) (w : World) :
    List HookResponse :=
  (answersFrom rt hooks ctx w).filterMap fun answer => answer.2.toOption

/-- When every hook answered, these are its answers. -/
theorem responsesFrom_of_answers {rt : Runtime} {hooks : List HookProvider} {ctx : Context} {w : World}
    {responses : List (HookProvider × HookResponse)}
    (h : answersFrom rt hooks ctx w = responses.map (Prod.map id Except.ok)) :
    responsesFrom rt hooks ctx w = responses.map Prod.snd := by
  rw [responsesFrom, h, List.filterMap_map]
  exact congrFun List.filterMap_eq_map responses

/-- The common name after the answers, if one of them gives one. -/
def commonNameFrom (rt : Runtime) (hooks : List HookProvider) (ctx : Context) (w : World) :
    Option String :=
  (responsesFrom rt hooks ctx w).foldl (fun cn response => response.subjectCommonName.or cn) none

/-- The names after the answers. -/
def sansFrom (rt : Runtime) (hooks : List HookProvider) (ctx : Context) (w : World) : List San :=
  (responsesFrom rt hooks ctx w).foldl
    (fun sans response => response.additionalSans.foldl pushSan (response.sans.getD sans)) ctx.sans

/-- The extensions that the answers add, in order. -/
def extensionsFrom (rt : Runtime) (hooks : List HookProvider) (ctx : Context) (w : World) :
    List RawExtension :=
  (responsesFrom rt hooks ctx w).flatMap HookResponse.additionalExtensions

theorem contents_of_layers {crates : ServerCrates} {responses : List (HookProvider × HookResponse)}
    {c c' : Customization} (h : responses.foldlM (layer crates) c = .ok c') :
    c'.subjectCommonName = (responses.map Prod.snd).foldl
        (fun cn response => response.subjectCommonName.or cn) c.subjectCommonName ∧
      c'.sans = (responses.map Prod.snd).foldl
        (fun sans response => response.additionalSans.foldl pushSan (response.sans.getD sans)) c.sans ∧
      ∃ exts, ((responses.map Prod.snd).flatMap HookResponse.additionalExtensions).mapM
          (RawExtension.toExtension crates) = .ok exts ∧
        c'.additionalExtensions = c.additionalExtensions ++ exts := by
  refine foldlM_relates (fun c => ⟨rfl, rfl, [], rfl, (List.append_nil _).symm⟩)
    (fun answer responses c c₁ c' hlayer ih => ?_) h
  obtain ⟨exts, hexts, rfl⟩ := of_applyResponse hlayer
  obtain ⟨hname, hsans, exts', hexts', hadditional⟩ := ih
  refine ⟨hname, hsans, exts ++ exts', ?_, ?_⟩
  · rw [List.map_cons, List.flatMap_cons]
    exact mapM_append_eq_ok.mpr ⟨exts, exts', hexts, hexts', rfl⟩
  · rw [hadditional]
    exact List.append_assoc ..

theorem contents_of_run {rt : Runtime} {hooks : List HookProvider} {ctx : Context}
    {custom : Customization} {w w' : World} (h : (run rt hooks ctx).run w = .ok custom w') :
    custom.subjectCommonName = commonNameFrom rt hooks ctx w ∧
      custom.sans = sansFrom rt hooks ctx w ∧
      (extensionsFrom rt hooks ctx w).mapM (RawExtension.toExtension rt.crates) =
        .ok custom.additionalExtensions := by
  obtain ⟨responses, hanswers, hlayers⟩ := of_run h
  obtain ⟨hname, hsans, exts, hexts, hadditional⟩ := contents_of_layers hlayers
  unfold commonNameFrom sansFrom extensionsFrom
  rw [responsesFrom_of_answers hanswers]
  refine ⟨hname, hsans, ?_⟩
  rw [hexts, hadditional]
  rfl

/-- The scopes that the answers assert, in order. -/
def onceClaimsFrom (rt : Runtime) (hooks : List HookProvider) (ctx : Context) (w : World) :
    List OnceClaim :=
  (answersFrom rt hooks ctx w).flatMap fun answer =>
    answer.2.toOption.elim [] (onceClaimsOf answer.1)

theorem onceClaims_of_layers {crates : ServerCrates} {responses : List (HookProvider × HookResponse)}
    {c c' : Customization} (h : responses.foldlM (layer crates) c = .ok c') :
    c'.onceClaims = c.onceClaims ++ responses.flatMap fun answer => onceClaimsOf answer.1 answer.2 := by
  refine foldlM_relates (fun c => (List.append_nil _).symm)
    (fun answer responses c c₁ c' hlayer ih => ?_) h
  obtain ⟨_, -, rfl⟩ := of_applyResponse hlayer
  rw [ih, List.flatMap_cons]
  exact List.append_assoc ..

theorem onceClaims_of_run {rt : Runtime} {hooks : List HookProvider} {ctx : Context}
    {custom : Customization} {w w' : World} (h : (run rt hooks ctx).run w = .ok custom w') :
    custom.onceClaims = onceClaimsFrom rt hooks ctx w := by
  obtain ⟨responses, hanswers, hlayers⟩ := of_run h
  rw [onceClaimsFrom, hanswers, List.flatMap_map, onceClaims_of_layers hlayers]
  rfl

/-- Renewals are off after the answers when they were off before or an answer turned them off. -/
theorem renewable_of_layers {crates : ServerCrates} {responses : List (HookProvider × HookResponse)}
    {c c' : Customization} (h : responses.foldlM (layer crates) c = .ok c') :
    c'.renewable = false ↔
      c.renewable = false ∨ ∃ answer ∈ responses, answer.2.renew = some false := by
  refine foldlM_relates (fun c => by simp) (fun answer responses c c₁ c' hlayer ih => ?_) h
  obtain ⟨_, -, rfl⟩ := of_applyResponse hlayer
  rw [ih]
  by_cases hoff : answer.2.renew = some false <;> simp [hoff]

theorem renewable_of_run {rt : Runtime} {hooks : List HookProvider} {ctx : Context}
    {custom : Customization} {w w' : World} (h : (run rt hooks ctx).run w = .ok custom w') :
    custom.renewable = false ↔ ctx.renewable = false ∨ Disables rt hooks ctx w := by
  obtain ⟨responses, hanswers, hlayers⟩ := of_run h
  rw [renewable_of_layers hlayers]
  refine or_congr Iff.rfl ?_
  unfold Disables
  rw [hanswers]
  constructor
  · rintro ⟨⟨hook, response⟩, hmem, hoff⟩
    exact ⟨hook, response, List.mem_map_of_mem hmem, hoff⟩
  · rintro ⟨hook, response, hmem, hoff⟩
    obtain ⟨answer, hanswer, heq⟩ := List.mem_map.mp hmem
    cases heq
    exact ⟨answer, hanswer, hoff⟩

end Ayane.Hook
