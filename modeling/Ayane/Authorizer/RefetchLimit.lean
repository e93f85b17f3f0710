import Ayane.Authorizer.JwksRuns

/-!
# How often keys are fetched

`refresh` spaces fetches by looking at the set that was fetched last, so a fetch that succeeded
keeps the next one away for `min_refetch`. A fetch that failed, or whose caller went away,
leaves no trace there, and the next call in turn fetches at once. Fetches are spaced in the
runs in which nobody gets the turn so soon after such a fetch.
-/

namespace Ayane.Jwks

def Event.start? : Event → Option ℕ
  | .started t => some t
  | _ => none

/-- When fetches started, the latest first. -/
def starts (log : List Event) : List ℕ := log.filterMap Event.start?

/-- No two fetches started within `min_refetch` of each other. -/
def Spaced (source : JwksSource) (log : List Event) : Prop :=
  (starts log).Pairwise fun later earlier => earlier + source.minRefetch ≤ later

/-- Every fetch that failed or was abandoned started at least `min_refetch` ago. -/
def PastFailures (source : JwksSource) (s : State) : Prop :=
  ∀ t, .gaveUp t ∈ s.log → t + source.minRefetch ≤ s.now

/-- The call has its turn to refresh. -/
def Phase.InTurn : Phase → Prop
  | .entered _ | .fetching _ _ => True
  | .idle | .waiting _ => False

/-- Fetches are spaced. Each of them goes on, failed, or put a set into the cache no earlier than it
started; and the call in turn has seen the failures go by. -/
structure Paced (source : JwksSource) (s : State) : Prop where
  spaced : Spaced source s.log
  turn : ∀ id, (s.phases id).InTurn → s.flight = some id
  begun : ∀ id kid t, s.phases id = .fetching kid t → t ≤ s.now
  entered : ∀ id kid, s.phases id = .entered kid → PastFailures source s
  ended : ∀ t ∈ starts s.log, (∃ id kid, s.phases id = .fetching kid t) ∨ .gaveUp t ∈ s.log ∨
    ∃ cached, s.memo = some cached ∧ t ≤ cached.fetchedAt
  memo : ∀ cached, s.memo = some cached → cached.fetchedAt ≤ s.now

section

variable {crates : JwksCrates} {source : JwksSource} {s s' : State} {id : ℕ} {kid : Option String}

theorem Paced.turn_unique (h : Paced source s) {id' : ℕ} (hid : (s.phases id).InTurn)
    (hid' : (s.phases id').InTurn) : id = id' :=
  Option.some.inj ((h.turn id hid).symm.trans (h.turn id' hid'))

/-- A call that neither has the turn nor takes it moves on. -/
theorem Paced.move (h : Paced source s) {phase : Phase} (hbefore : ¬ (s.phases id).InTurn)
    (hafter : ¬ phase.InTurn) : Paced source (s.move id phase) := by
  have hsame : ∀ id', ((s.move id phase).phases id').InTurn →
      (s.move id phase).phases id' = s.phases id' := by
    intro id' hturn
    by_cases hid : id' = id
    · subst hid
      simp only [State.move, Function.update_self] at hturn
      exact absurd hturn hafter
    · exact Function.update_of_ne hid ..
  constructor
  · exact h.spaced
  · intro id' hturn
    exact h.turn id' (hsame id' hturn ▸ hturn)
  · intro id' kid t hphase
    exact h.begun id' kid t ((hsame id' (by rw [hphase]; trivial)).symm.trans hphase)
  · intro id' kid hphase
    exact h.entered id' kid ((hsame id' (by rw [hphase]; trivial)).symm.trans hphase)
  · intro t ht
    rcases h.ended t ht with ⟨id', kid, hphase⟩ | hended
    · refine .inl ⟨id', kid, ?_⟩
      by_cases hid : id' = id
      · subst hid
        rw [hphase] at hbefore
        exact absurd trivial hbefore
      · exact (Function.update_of_ne hid ..).trans hphase
    · exact .inr hended
  · exact h.memo

/-- What is resolved is no fetch. -/
theorem Paced.resolved (h : Paced source s) (result : Result SigningKey) (t : ℕ) :
    Paced source (s.record (.resolved kid result t)) := by
  have hfailures : ∀ t', .gaveUp t' ∈ (s.record (.resolved kid result t)).log ↔ .gaveUp t' ∈ s.log := by
    intro t'
    simp [State.record]
  constructor
  · exact h.spaced
  · exact h.turn
  · exact h.begun
  · intro id kid hphase t' hgaveUp
    exact h.entered id kid hphase t' ((hfailures t').mp hgaveUp)
  · intro t' ht'
    rcases h.ended t' ht' with hphase | hgaveUp | hmemo
    · exact .inl hphase
    · exact .inr (.inl ((hfailures t').mpr hgaveUp))
    · exact .inr (.inr hmemo)
  · exact h.memo

/-- The call in turn ends. Its fetch, if it made one, gave up or put a set into the cache. -/
theorem Paced.leave (h : Paced source s) (hturn : (s.phases id).InTurn)
    (hphases : s'.phases = (s.leave id).phases) (hstarts : starts s'.log = starts s.log)
    (hlog : s.log ⊆ s'.log) (hmemo : ∀ cached, s'.memo = some cached → cached.fetchedAt ≤ s'.now)
    (hkept : ∀ cached, s.memo = some cached →
      ∃ cached', s'.memo = some cached' ∧ cached.fetchedAt ≤ cached'.fetchedAt)
    (hended : ∀ kid t, s.phases id = .fetching kid t →
      .gaveUp t ∈ s'.log ∨ ∃ cached, s'.memo = some cached ∧ t ≤ cached.fetchedAt) :
    Paced source s' := by
  have hnobody : ∀ id', ¬ (s'.phases id').InTurn := by
    intro id' hturn'
    rw [hphases] at hturn'
    by_cases hid : id' = id
    · subst hid
      simp [State.leave, State.move, Phase.InTurn] at hturn'
    · simp only [State.leave, State.move, Function.update_of_ne hid] at hturn'
      exact hid (h.turn_unique hturn' hturn)
  constructor
  · rw [Spaced, hstarts]
    exact h.spaced
  · intro id' hturn'
    exact absurd hturn' (hnobody id')
  · intro id' kid t hphase
    exact absurd (by rw [hphase]; trivial) (hnobody id')
  · intro id' kid hphase
    exact absurd (by rw [hphase]; trivial) (hnobody id')
  · intro t ht
    right
    rcases h.ended t (hstarts ▸ ht) with ⟨id', kid, hphase⟩ | hgaveUp | ⟨cached, hcached, hle⟩
    · obtain rfl : id' = id := h.turn_unique (by rw [hphase]; trivial) hturn
      exact hended kid t hphase
    · exact .inl (hlog hgaveUp)
    · obtain ⟨cached', hcached', hlater⟩ := hkept cached hcached
      exact .inr ⟨cached', hcached', hle.trans hlater⟩
  · exact hmemo

/-- A call that has not started a fetch gives up its turn. -/
theorem Paced.leave_entered (h : Paced source s) (hentered : s.phases id = .entered kid) :
    Paced source (s.leave id) := by
  refine h.leave (by rw [hentered]; trivial) rfl rfl (List.Subset.refl _) h.memo ?_ ?_
  · intro cached hcached
    exact ⟨cached, hcached, le_rfl⟩
  · intro kid' t hphase
    cases hentered.symm.trans hphase

/-- A call that has started a fetch gives up its turn without an answer. -/
theorem Paced.leave_fetching (h : Paced source s) {startedAt : ℕ}
    (hfetching : s.phases id = .fetching kid startedAt) :
    Paced source ((s.leave id).record (.gaveUp startedAt)) := by
  refine h.leave (by rw [hfetching]; trivial) rfl rfl (List.subset_cons_self _ _) h.memo ?_ ?_
  · intro cached hcached
    exact ⟨cached, hcached, le_rfl⟩
  · intro kid' t hphase
    obtain ⟨-, rfl⟩ := Phase.fetching.inj (hfetching.symm.trans hphase)
    exact .inl List.mem_cons_self

/-- A fetch starts late enough after all those before it: the call in turn has seen the failures go by,
and the cache has seen the others. -/
theorem Paced.late_enough (h : Paced source s) (hentered : s.phases id = .entered kid)
    (hlimited : source.rateLimited s.memo s.now = false) {t : ℕ} (ht : t ∈ starts s.log) :
    t + source.minRefetch ≤ s.now := by
  rcases h.ended t ht with ⟨id', kid', hphase⟩ | hgaveUp | ⟨cached, hcached, hle⟩
  · have hid : id = id' := h.turn_unique (by rw [hentered]; trivial) (by rw [hphase]; trivial)
    subst hid
    cases hentered.symm.trans hphase
  · exact h.entered id kid hentered t hgaveUp
  · rw [hcached] at hlimited
    have helapsed : ¬ s.now - cached.fetchedAt < source.minRefetch := of_decide_eq_false hlimited
    have hpast := h.memo cached hcached
    omega

theorem Paced.started (h : Paced source s) (hentered : s.phases id = .entered kid)
    (hlimited : source.rateLimited s.memo s.now = false) :
    Paced source ((s.move id (.fetching kid s.now)).record (.started s.now)) := by
  have hinTurn : (s.phases id).InTurn := by rw [hentered]; trivial
  have hother : ∀ id' ≠ id, ((s.move id (.fetching kid s.now)).phases id') = s.phases id' :=
    fun id' hid => Function.update_of_ne hid ..
  constructor
  · exact List.pairwise_cons.mpr ⟨fun t ht => h.late_enough hentered hlimited ht, h.spaced⟩
  · intro id' hturn
    by_cases hid : id' = id
    · subst hid
      exact h.turn id' hinTurn
    · exact h.turn id' (hother id' hid ▸ hturn)
  · intro id' kid' t hphase
    by_cases hid : id' = id
    · subst hid
      have hself : Phase.fetching kid s.now = .fetching kid' t :=
        (Function.update_self ..).symm.trans hphase
      exact (Phase.fetching.inj hself).2.ge
    · exact h.begun id' kid' t ((hother id' hid).symm.trans hphase)
  · intro id' kid' hphase
    by_cases hid : id' = id
    · subst hid
      cases (Function.update_self ..).symm.trans hphase
    · have hphase' : s.phases id' = .entered kid' := (hother id' hid).symm.trans hphase
      exact absurd (h.turn_unique (by rw [hphase']; trivial) hinTurn) hid
  · intro t ht
    rcases List.mem_cons.mp ht with rfl | ht
    · exact .inl ⟨id, kid, Function.update_self ..⟩
    · rcases h.ended t ht with ⟨id', kid', hphase⟩ | hgaveUp | hmemo
      · obtain rfl : id' = id := h.turn_unique (by rw [hphase]; trivial) hinTurn
        cases hentered.symm.trans hphase
      · exact .inr (.inl (List.mem_cons_of_mem _ hgaveUp))
      · exact .inr (.inr hmemo)
  · exact h.memo

/-- A call gets the turn that nobody has. -/
theorem Paced.enter (h : Paced source s) (hfree : s.flight = none) (hadmitted : PastFailures source s) :
    Paced source { s.move id (.entered kid) with flight := some id } := by
  have hnobody : ∀ id', ¬ (s.phases id').InTurn := by
    intro id' hturn
    cases hfree.symm.trans (h.turn id' hturn)
  have hother : ∀ id' ≠ id, (s.move id (.entered kid)).phases id' = s.phases id' :=
    fun id' hid => Function.update_of_ne hid ..
  constructor
  · exact h.spaced
  · intro id' hturn
    by_cases hid : id' = id
    · subst hid
      rfl
    · exact absurd (hother id' hid ▸ hturn) (hnobody id')
  · intro id' kid' t hphase
    by_cases hid : id' = id
    · subst hid
      cases (Function.update_self ..).symm.trans hphase
    · exact h.begun id' kid' t ((hother id' hid).symm.trans hphase)
  · intro _ _ _
    exact hadmitted
  · intro t ht
    rcases h.ended t ht with ⟨id', kid', hphase⟩ | hended
    · exact absurd (by rw [hphase]; trivial) (hnobody id')
    · exact .inr hended
  · exact h.memo

/-- The clock goes on. -/
theorem Paced.pass (h : Paced source s) {t : ℕ} (hle : s.now ≤ t) : Paced source { s with now := t } := by
  constructor
  · exact h.spaced
  · exact h.turn
  · intro id kid startedAt hphase
    exact (h.begun id kid startedAt hphase).trans hle
  · intro id kid hphase startedAt hgaveUp
    exact (h.entered id kid hphase startedAt hgaveUp).trans hle
  · exact h.ended
  · intro cached hcached
    exact (h.memo cached hcached).trans hle

theorem Paced.step (hstep : Step crates source (PastFailures source) s s') (h : Paced source s) :
    Paced source s' := by
  cases hstep with
  | pass hle => exact h.pass hle
  | hit hidle hcached => exact h.resolved _ _
  | miss hidle hcached => exact h.move (by rw [hidle]; exact False.elim) False.elim
  | enter hwaiting hfree hadmitted => exact h.enter hfree hadmitted
  | skip hentered hlimited => exact (h.leave_entered hentered).resolved _ _
  | start hentered hlimited => exact h.started hentered hlimited
  | fail hfetching hfetch => exact (h.leave_fetching hfetching).resolved _ _
  | @succeed id kid startedAt answers keys ttl hfetching hfetch =>
    have hleft : Paced source (({ s.leave id with memo := some ⟨keys, s.now, ttl⟩ } : State).record
        (.fetched ⟨keys, s.now, ttl⟩)) := by
      refine h.leave (by rw [hfetching]; trivial) rfl rfl (List.subset_cons_self _ _) ?_ ?_ ?_
      · intro cached hcached
        cases hcached
        exact le_rfl
      · intro cached hcached
        exact ⟨_, rfl, h.memo cached hcached⟩
      · intro kid' t hphase
        exact .inr ⟨_, rfl, h.begun id kid' t hphase⟩
    exact hleft.resolved _ _
  | cancelWaiting hwaiting => exact h.move (by rw [hwaiting]; exact False.elim) False.elim
  | cancelEntered hentered => exact h.leave_entered hentered
  | cancelFetching hfetching => exact h.leave_fetching hfetching

theorem paced_start (now : ℕ) : Paced source (State.start now) where
  spaced := .nil
  turn := nofun
  begun := nofun
  entered := nofun
  ended := nofun
  memo := nofun

end

/-- Fetches are spaced in every run in which a call gets its turn only when the fetches that failed or
were abandoned are long past. -/
theorem fetches_spaced {crates : JwksCrates} {source : JwksSource} {now : ℕ} {s : State}
    (hrun : Runs.Run (Step crates source (PastFailures source)) (.start now) s) :
    Spaced source s.log :=
  (Runs.invariant hrun (paced_start now) fun _ _ hstep h => h.step hstep).spaced

/-! ## A fetch after one that failed -/

def refused : HttpAnswers where
  discovery := .error "not asked"
  keys := .error "connection refused"

/-- The state in which a call that found no key fetches. -/
def State.fetching (s : State) (id : ℕ) (kid : Option String) : State :=
  (({ (s.move id (.waiting kid)).move id (.entered kid) with flight := some id } : State).move id
    (.fetching kid s.now)).record (.started s.now)

theorem run_fetching_of_miss {crates : JwksCrates} {source : JwksSource} {Admitted : State → Prop}
    {s : State} {id : ℕ} {kid : Option String} (hidle : s.phases id = .idle) (hfree : s.flight = none)
    (hmemo : s.memo = none) (hadmitted : Admitted (s.move id (.waiting kid))) :
    Runs.Run (Step crates source Admitted) s (s.fetching id kid) := by
  have hmiss : source.resolveCached crates.toServerCrates s.memo s.now kid = none := by rw [hmemo]; rfl
  have hlimited : source.rateLimited s.memo s.now = false := by rw [hmemo]; rfl
  have hwaiting := Relation.ReflTransGen.single (@Step.miss crates source Admitted s id kid hidle hmiss)
  have hentered := hwaiting.tail (.enter (Function.update_self ..) hfree hadmitted)
  exact hentered.tail (.start (Function.update_self ..) hlimited)

/-- A call has its turn at 1000 and its fetch fails, and another one has its turn at `t`. -/
theorem run_refused {Admitted : State → Prop} {t : ℕ} (hle : 1000 ≤ t)
    (hfirst : ∀ s : State, s.log = [] → Admitted s)
    (hagain : ∀ s : State, s.now = t → (∀ t', .gaveUp t' ∈ s.log → t' = 1000) → Admitted s) :
    ∃ s, Runs.Run (Step oneKeyCrates directSource Admitted) (.start 1000) s ∧
      starts s.log = [t, 1000] := by
  have hfetch : directSource.fetch oneKeyCrates refused =
      .error (.internal "fetch JWKS https://idp.example/keys: connection refused") := by decide
  have hstarted : Runs.Run (Step oneKeyCrates directSource Admitted) (.start 1000)
      ((State.start 1000).fetching 0 (some "k2")) :=
    run_fetching_of_miss rfl rfl rfl (hfirst _ rfl)
  have hfailed := hstarted.tail (@Step.fail _ _ _ _ 0 (some "k2") 1000 _ _ rfl hfetch)
  have hlater := hfailed.tail (.pass hle)
  have hagain := hlater.trans (@run_fetching_of_miss oneKeyCrates directSource Admitted _ 1 (some "k2")
    rfl rfl rfl (hagain _ rfl (by simp [State.move, State.leave, State.record, State.start,
      State.fetching])))
  exact ⟨_, hagain, rfl⟩

theorem fetches_spaced_refused : Spaced directSource
    [.started (1000 + directSource.minRefetch), .started 1000] := by
  obtain ⟨s, hrun, hstarts⟩ := @run_refused (PastFailures directSource)
    (1000 + directSource.minRefetch) (Nat.le_add_right ..)
    (by
      intro s hlog t ht
      rw [hlog] at ht
      cases ht)
    (by
      intro s hnow hgaveUp t ht
      rw [hgaveUp t ht, hnow])
  have hspaced := fetches_spaced hrun
  rw [Spaced, hstarts] at hspaced
  exact hspaced

/-- Nothing keeps the next call from fetching at once when a fetch failed. -/
theorem not_fetches_spaced :
    ∃ s, Runs.Run (Step oneKeyCrates directSource fun _ => True) (.start 1000) s ∧
      ¬ Spaced directSource s.log := by
  obtain ⟨s, hrun, hstarts⟩ := @run_refused (fun _ => True) 1001 (by decide)
    (fun _ _ => trivial) (fun _ _ _ => trivial)
  refine ⟨s, hrun, ?_⟩
  rw [Spaced, hstarts]
  intro hspaced
  have hnear : 1000 + 60 * 1000000000 ≤ 1001 := List.rel_of_pairwise_cons hspaced List.mem_cons_self
  omega

end Ayane.Jwks
