import Ayane.Hook.Gate

/-!
# The names that hooks add

Hooks may replace the names of the certificate and add to them. The names that one of them
adds are lost when a later one replaces the names, unless they are named again.
-/

namespace Ayane.Hook

open Override

/-- The names that answers add. -/
def addedSans (responses : List HookResponse) : List San :=
  responses.flatMap HookResponse.additionalSans

/-- The names before anything is added: the last that an answer sets, or the baseline. -/
def baseSans (baseline : List San) (responses : List HookResponse) : List San :=
  (last HookResponse.sans responses).getD baseline

/-- Additions pile up over all answers, each of them once. -/
structure Accumulates (baseline : List San) (responses : List HookResponse) (sans : List San) :
    Prop where
  contains : ∀ san ∈ addedSans responses, san ∈ sans
  exactly : ∀ san, san ∈ sans ↔ san ∈ baseSans baseline responses ∨ san ∈ addedSans responses
  once : ∀ san ∈ addedSans responses, sans.count san ≤ 1

/-- Nothing is added before the names are replaced that is not in what replaces them or added
again, and nothing is added that is twice in them. -/
structure Keeps (baseline : List San) (responses : List HookResponse) : Prop where
  again : ∀ san ∈ addedSans responses, san ∈ baseSans baseline responses ∨
    san ∈ addedSans (since HookResponse.sans responses)
  single : ∀ san ∈ addedSans responses, (baseSans baseline responses).count san ≤ 1

section

variable {baseline : List San} {responses : List HookResponse}

theorem addedSans_since_subset : addedSans (since HookResponse.sans responses) ⊆ addedSans responses := by
  intro san hsan
  obtain ⟨response, hresponse, hsan⟩ := List.mem_flatMap.mp hsan
  exact List.mem_flatMap.mpr ⟨response, since_subset _ _ hresponse, hsan⟩

theorem accumulates_iff :
    Accumulates baseline responses
        ((addedSans (since HookResponse.sans responses)).foldl pushSan (baseSans baseline responses)) ↔
      Keeps baseline responses := by
  have hmem : ∀ san, san ∈ (addedSans (since HookResponse.sans responses)).foldl pushSan
      (baseSans baseline responses) ↔ san ∈ baseSans baseline responses ∨
        san ∈ addedSans (since HookResponse.sans responses) := fun _ => mem_foldl_adjoin
  have hcount : ∀ san, ((addedSans (since HookResponse.sans responses)).foldl pushSan
      (baseSans baseline responses)).count san = max ((baseSans baseline responses).count san)
        (if san ∈ addedSans (since HookResponse.sans responses) then 1 else 0) :=
    fun _ => count_foldl_adjoin
  constructor
  · intro h
    refine ⟨fun san hsan => (hmem san).mp (h.contains san hsan), fun san hsan => ?_⟩
    have hle := h.once san hsan
    rw [hcount] at hle
    exact (le_max_left _ _).trans hle
  · intro h
    refine ⟨fun san hsan => (hmem san).mpr (h.again san hsan), fun san => ?_, fun san hsan => ?_⟩
    · rw [hmem]
      constructor
      · exact Or.imp_right fun hsan => addedSans_since_subset hsan
      · rintro (hsan | hsan)
        · exact .inl hsan
        · exact h.again san hsan
    · rw [hcount]
      refine max_le (h.single san hsan) ?_
      split_ifs <;> simp

end

/-- In a run that passes, additions pile up exactly when none is lost to a later replacement. -/
theorem accumulates_of_run_iff {rt : Runtime} {hooks : List HookProvider} {ctx : Context}
    {custom : Customization} {w w' : World} (h : (run rt hooks ctx).run w = .ok custom w') :
    Accumulates ctx.sans (responsesFrom rt hooks ctx w) custom.sans ↔
      Keeps ctx.sans (responsesFrom rt hooks ctx w) := by
  obtain ⟨-, hsans, -⟩ := contents_of_run h
  have hnames : custom.sans = (addedSans (since HookResponse.sans (responsesFrom rt hooks ctx w))).foldl
      pushSan (baseSans ctx.sans (responsesFrom rt hooks ctx w)) :=
    hsans.trans (foldl_replace_adjoin ..)
  rw [hnames, accumulates_iff]

/-! ## A hook that replaces what another added -/

/-- Adds a name. -/
def addingHook : HookProvider where
  name := "adding"
  provisioners := []
  call _ _ := .ok { additionalSans := [.dns "a.example.com"] }

/-- Replaces the names. -/
def replacingHook : HookProvider where
  name := "replacing"
  provisioners := []
  call _ _ := .ok { sans := some [.dns "b.example.com"] }

def nearContext : Context :=
  { farContext with notAfter := Testca.instant 9000 }

def nearWorld : World := Testca.world Testca.sqlite (Testca.instant 1000)

/-- A run that passes, in the other order of the hooks. -/
theorem accumulates_of_nearContext_iff :
    ∃ custom w', (run chronoRuntime [replacingHook, addingHook] nearContext).run nearWorld =
        .ok custom w' ∧
      (Accumulates nearContext.sans
          (responsesFrom chronoRuntime [replacingHook, addingHook] nearContext nearWorld) custom.sans ↔
        Keeps nearContext.sans
          (responsesFrom chronoRuntime [replacingHook, addingHook] nearContext nearWorld)) :=
  ⟨_, _, rfl, accumulates_of_run_iff rfl⟩

/-- What the first hook adds is lost. -/
theorem not_accumulates_of_replacingHook :
    ∃ custom w', (run chronoRuntime [addingHook, replacingHook] nearContext).run nearWorld =
        .ok custom w' ∧
      custom.sans = [.dns "b.example.com"] ∧
      ¬ Accumulates nearContext.sans
        (responsesFrom chronoRuntime [addingHook, replacingHook] nearContext nearWorld) custom.sans := by
  refine ⟨_, _, rfl, rfl, fun h => ?_⟩
  have hadded : San.dns "a.example.com" ∈ [San.dns "b.example.com"] :=
    h.contains _ (List.mem_cons_self ..)
  exact absurd hadded (by decide)

end Ayane.Hook
