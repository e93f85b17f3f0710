import Ayane.Lib.Scoped
import Ayane.Service.Issuance
import Ayane.Testca.Server

/-!
# The keys of the anti-replay store

Every key that a request claims is the name of a source, the separator `#` and a value
that somebody else chose. The kinds of credentials and scopes have names of their own. The
names of provisioners and hooks are taken from the configuration as they are, so the keys
tell them apart only when no two of them overlap.
-/

namespace Ayane

open Ayane.Action Effect

/-- Where the values come from that are claimed once: for scopes, the place of the provisioner or
hook in the configuration. -/
inductive ReplaySource (service : Service) where
  | ott
  | dpop
  | token (provisioner : Fin service.authorizer.provisioners.length)
  | hook (hook : Fin service.hooks.length)
  deriving DecidableEq

namespace ReplaySource

variable {service : Service}

/-- The key of a value from a source, as it is built where the source is claimed. -/
def key (source : ReplaySource service) (value : String) : String :=
  match source with
  | ott => jtiKey "ott" value
  | dpop => jtiKey "dpop" value
  | token p => OnceClaim.key
      { nspace := "prov:" ++ (service.authorizer.provisioners.get p).name, value, expiresAt := none }
  | hook h => OnceClaim.key
      { nspace := "hook:" ++ (service.hooks.get h).name, value, expiresAt := none }

def name : ReplaySource service → String
  | ott => "ott"
  | dpop => "dpop"
  | token p => "scope#prov:" ++ (service.authorizer.provisioners.get p).name
  | hook h => "scope#hook:" ++ (service.hooks.get h).name

theorem toList_key (source : ReplaySource service) (value : String) :
    (source.key value).toList =
      Scoped.key '#' (fun s : ReplaySource service => s.name.toList) (source, value.toList) := by
  cases source <;> simp [key, name, jtiKey, OnceClaim.key, Scoped.key, Scoped.under]

/-- Only sources of one kind can have overlapping names: two provisioners or two hooks. -/
theorem kind_of_overlap {a b : ReplaySource service}
    (h : Scoped.Overlap '#' a.name.toList b.name.toList) (hab : a ≠ b) :
    (∃ p q, a = token p ∧ b = token q) ∨ ∃ p q, a = hook p ∧ b = hook q := by
  cases a <;> cases b <;> simp_all [Scoped.Overlap, name]

theorem overlap_token {p q : Fin service.authorizer.provisioners.length} :
    Scoped.Overlap '#' (token p).name.toList (token q).name.toList ↔
      Scoped.Overlap '#' (service.authorizer.provisioners.get p).name.toList
        (service.authorizer.provisioners.get q).name.toList := by
  simp only [name, String.toList_append]
  exact Scoped.overlap_append_left

theorem overlap_hook {p q : Fin service.hooks.length} :
    Scoped.Overlap '#' (hook p).name.toList (hook q).name.toList ↔
      Scoped.Overlap '#' (service.hooks.get p).name.toList (service.hooks.get q).name.toList := by
  simp only [name, String.toList_append]
  exact Scoped.overlap_append_left

end ReplaySource

/-! ## The keys of requests -/

section

variable {rt : Runtime} {service : Service} {w w' : World}

theorem provisioner_of_validate {token audience : String} {validated : ValidatedToken}
    (h : (service.authorizer.validate rt token audience).run w = .ok validated w') :
    ∃ p, (service.authorizer.provisioners.get p).name = validated.provisioner := by
  obtain ⟨provisioner, _, hfind, -, rfl⟩ := ProvisionerAuthorizer.of_validate h
  obtain ⟨p, hp⟩ := List.get_of_mem (List.mem_of_find?_eq_some hfind)
  exact ⟨p, congrArg Provisioner.name hp⟩

/-- Every scope that the hooks assert has the key of its hook and value. -/
theorem source_of_hook {hooks : List HookProvider} (hhooks : service.hooks = hooks) {ctx : Context}
    {custom : Customization} (h : (Hook.run rt hooks ctx).run w = .ok custom w') {scope : OnceClaim}
    (hscope : scope ∈ custom.onceClaims) :
    ∃ source : ReplaySource service, scope.key = source.key scope.value := by
  rw [Hook.onceClaims_of_run h] at hscope
  obtain ⟨⟨hook, answer⟩, hanswer, hmem⟩ := List.mem_flatMap.mp hscope
  cases answer with
  | error e => cases hmem
  | ok response =>
    obtain ⟨once, -, rfl⟩ := List.mem_map.mp hmem
    have hhook : hook ∈ service.hooks := hhooks ▸ Hook.mem_of_answersFrom hanswer
    obtain ⟨p, rfl⟩ := List.get_of_mem hhook
    exact ⟨.hook p, rfl⟩

/-- The keys that a request to sign claims are those of the id of its token and of scopes of the
token's provisioner and of hooks. -/
theorem source_of_signPlan {req : SignRequest} {requestUrl : String} {csr : ParsedCsr}
    {validated : ValidatedToken} {plan : Service.SignPlan} {w₁ : World}
    (hauth : (service.signAuthenticate rt req requestUrl).run w = .ok (csr, validated) w₁)
    (hplan : (service.signPlan rt req csr validated).run w₁ = .ok plan w') {scope : OnceClaim}
    (hscope : scope ∈ plan.onceScopes) :
    ∃ source : ReplaySource service, scope.key = source.key scope.value := by
  obtain ⟨sans, notBefore, notAfter, custom, ceiling, -, -, -, -, hhooks, -, hcustom, -, honce⟩ :=
    Service.of_signPlan hplan
  have hclaims : plan.custom.onceClaims = custom.onceClaims := by
    rw [hcustom, Customization.clampTo_eq]
  rw [honce, hclaims] at hscope
  rcases List.mem_append.mp hscope with hasserted | hcarried
  · exact source_of_hook rfl hhooks hasserted
  · unfold Service.signAuthenticate at hauth
    obtain ⟨_, _, -, hauth⟩ := run_bind_eq_ok.mp hauth
    obtain ⟨_, _, -, hauth⟩ := run_bind_eq_ok.mp hauth
    obtain ⟨_, _, hvalidate, hauth⟩ := run_bind_eq_ok.mp hauth
    cases hauth
    obtain ⟨p, hp⟩ := provisioner_of_validate hvalidate
    obtain ⟨once, -, rfl⟩ := Option.map_eq_some_iff.mp (Option.mem_toList.mp hcarried)
    refine ⟨.token p, ?_⟩
    rw [ReplaySource.key, hp]
    rfl

end

/-! ## When keys are told apart -/

/-- No two names are equal, and none is another followed by `#` and more. -/
def NamesApart (names : List String) : Prop :=
  names.Pairwise fun a b => ¬ Scoped.Overlap '#' a.toList b.toList

theorem namesApart_iff {α : Type} {name : α → String} {xs : List α} :
    NamesApart (xs.map name) ↔ ∀ i j : Fin xs.length, i ≠ j →
      ¬ Scoped.Overlap '#' (name (xs.get i)).toList (name (xs.get j)).toList := by
  unfold NamesApart
  rw [List.pairwise_map, List.pairwise_iff_get]
  constructor
  · intro h i j hij hoverlap
    rcases Nat.lt_or_gt_of_ne (Fin.val_ne_of_ne hij) with hlt | hgt
    · exact h i j hlt hoverlap
    · exact h j i hgt hoverlap.symm
  · intro h i j hlt
    exact h i j (Fin.ne_of_lt hlt)

/-- The keys tell kind, configured source and value exactly when the names of the provisioners and
those of the hooks are apart. -/
theorem replayKeys_injective_iff (service : Service) :
    Function.Injective (fun e : ReplaySource service × String => e.1.key e.2) ↔
      NamesApart (service.authorizer.provisioners.map Provisioner.name) ∧
        NamesApart (service.hooks.map HookProvider.name) := by
  have hlists : Function.Injective (fun e : ReplaySource service × String => e.1.key e.2) ↔
      Function.Injective (Scoped.key '#' fun s : ReplaySource service => s.name.toList) := by
    constructor
    · rintro h ⟨a, v⟩ ⟨b, u⟩ heq
      have hkey : a.key (String.ofList v) = b.key (String.ofList u) := by
        rw [← String.toList_inj, ReplaySource.toList_key, ReplaySource.toList_key]
        simpa using heq
      have hpair := @h (a, String.ofList v) (b, String.ofList u) hkey
      simpa [String.ofList_inj] using hpair
    · rintro h ⟨a, v⟩ ⟨b, u⟩ heq
      have hkey := congrArg String.toList heq
      simp only [ReplaySource.toList_key] at hkey
      simpa [String.toList_inj] using h hkey
  rw [hlists, Scoped.key_injective_iff, namesApart_iff, namesApart_iff]
  constructor
  · intro h
    constructor
    · intro p q hpq hoverlap
      exact h (.token p) (.token q) (by simpa using hpq) (ReplaySource.overlap_token.mpr hoverlap)
    · intro p q hpq hoverlap
      exact h (.hook p) (.hook q) (by simpa using hpq) (ReplaySource.overlap_hook.mpr hoverlap)
  · rintro ⟨htokens, hhooks⟩ a b hab hoverlap
    rcases ReplaySource.kind_of_overlap hoverlap hab with ⟨p, q, rfl, rfl⟩ | ⟨p, q, rfl, rfl⟩
    · exact htokens p q (by simpa using hab) (ReplaySource.overlap_token.mp hoverlap)
    · exact hhooks p q (by simpa using hab) (ReplaySource.overlap_hook.mp hoverlap)

/-- A service with the provisioners `a` and `a#b`. -/
def overlappingService : Service :=
  { Testca.service true [] with
    authorizer := { provisioners := ["a", "a#b"].map fun name =>
      { Testca.provisioner true with name, verifier := .jwk name [] ⟨[9], .ES256⟩ } } }

/-- The scope `b#c` of the one has the key of the scope `c` of the other. -/
theorem replayKeys_of_overlap :
    ¬ Function.Injective (fun e : ReplaySource overlappingService × String => e.1.key e.2) := by
  intro h
  let first : ReplaySource overlappingService := .token ⟨0, by decide⟩
  let second : ReplaySource overlappingService := .token ⟨1, by decide⟩
  have hkeys : first.key "b#c" = second.key "c" := by decide
  have hpair : (first, "b#c") = (second, "c") := h hkeys
  exact absurd (congrArg Prod.snd hpair) (by decide)

end Ayane
