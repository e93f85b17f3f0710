import Ayane.Authorizer.Jwks
import Ayane.Lib.Run
import Ayane.Testca.Server
import Mathlib.Logic.Function.Basic

/-!
# Resolving keys concurrently

Many calls of `resolve` share one key set. A call that the cache does not answer waits for its
turn to refresh, looks at the cache again, and fetches unless a set was fetched a moment ago.
Any call can go away at any time. A call's last look at the clock and its read of the key
set are one step.
-/

namespace Ayane.Jwks

/-- Where a call is. -/
inductive Phase where
  | idle
  | waiting (kid : Option String)
  /-- Its turn has come, and it has not looked at the cache again. -/
  | entered (kid : Option String)
  | fetching (kid : Option String) (startedAt : ℕ)

inductive Event where
  | started (t : ℕ)
  /-- A fetch failed, or the call it was made for went away. -/
  | gaveUp (startedAt : ℕ)
  | fetched (keyset : CachedKeyset)
  | resolved (kid : Option String) (result : Result SigningKey) (t : ℕ)

structure State where
  /-- The monotonic clock, in nanoseconds. -/
  now : ℕ
  memo : Option CachedKeyset
  /-- The call whose turn it is to refresh. -/
  flight : Option ℕ
  phases : ℕ → Phase
  /-- What has happened, the latest first. -/
  log : List Event

namespace State

def start (now : ℕ) : State where
  now
  memo := none
  flight := none
  phases _ := .idle
  log := []

def move (s : State) (id : ℕ) (phase : Phase) : State :=
  { s with phases := Function.update s.phases id phase }

/-- The turn of a call ends, and so does the call. -/
def leave (s : State) (id : ℕ) : State := { s.move id .idle with flight := none }

def record (s : State) (e : Event) : State := { s with log := e :: s.log }

end State

/-- One step of the calls or of the clock. A call gets its turn only in states that are `Admitted`. -/
inductive Step (crates : JwksCrates) (source : JwksSource) (Admitted : State → Prop) :
    State → State → Prop where
  | pass {s : State} {t : ℕ} (h : s.now ≤ t) : Step crates source Admitted s { s with now := t }
  | hit {s : State} {id : ℕ} {kid : Option String} {result : Result SigningKey}
      (hidle : s.phases id = .idle)
      (h : source.resolveCached crates.toServerCrates s.memo s.now kid = some result) :
      Step crates source Admitted s (s.record (.resolved kid result s.now))
  | miss {s : State} {id : ℕ} {kid : Option String} (hidle : s.phases id = .idle)
      (h : source.resolveCached crates.toServerCrates s.memo s.now kid = none) :
      Step crates source Admitted s (s.move id (.waiting kid))
  | enter {s : State} {id : ℕ} {kid : Option String} (hwaiting : s.phases id = .waiting kid)
      (hfree : s.flight = none) (hadmitted : Admitted s) :
      Step crates source Admitted s { s.move id (.entered kid) with flight := some id }
  | skip {s : State} {id : ℕ} {kid : Option String} (hentered : s.phases id = .entered kid)
      (h : source.rateLimited s.memo s.now = true) :
      Step crates source Admitted s ((s.leave id).record
        (.resolved kid (source.resolveRefreshed crates.toServerCrates s.memo kid) s.now))
  | start {s : State} {id : ℕ} {kid : Option String} (hentered : s.phases id = .entered kid)
      (h : source.rateLimited s.memo s.now = false) :
      Step crates source Admitted s ((s.move id (.fetching kid s.now)).record (.started s.now))
  | fail {s : State} {id : ℕ} {kid : Option String} {startedAt : ℕ} {answers : HttpAnswers}
      {e : Error} (hfetching : s.phases id = .fetching kid startedAt)
      (h : source.fetch crates answers = .error e) :
      Step crates source Admitted s
        (((s.leave id).record (.gaveUp startedAt)).record (.resolved kid (.error e) s.now))
  | succeed {s : State} {id : ℕ} {kid : Option String} {startedAt : ℕ} {answers : HttpAnswers}
      {keys : List Jwk} {ttl : Duration} (hfetching : s.phases id = .fetching kid startedAt)
      (h : source.fetch crates answers = .ok (keys, ttl)) :
      Step crates source Admitted s
        ((({ s.leave id with memo := some ⟨keys, s.now, ttl⟩ } : State).record
          (.fetched ⟨keys, s.now, ttl⟩)).record (.resolved kid
            (source.resolveRefreshed crates.toServerCrates (some ⟨keys, s.now, ttl⟩) kid) s.now))
  | cancelWaiting {s : State} {id : ℕ} {kid : Option String} (hwaiting : s.phases id = .waiting kid) :
      Step crates source Admitted s (s.move id .idle)
  | cancelEntered {s : State} {id : ℕ} {kid : Option String} (hentered : s.phases id = .entered kid) :
      Step crates source Admitted s (s.leave id)
  | cancelFetching {s : State} {id : ℕ} {kid : Option String} {startedAt : ℕ}
      (hfetching : s.phases id = .fetching kid startedAt) :
      Step crates source Admitted s ((s.leave id).record (.gaveUp startedAt))

/-! ## The keys that are resolved -/

def Event.keyset? : Event → Option CachedKeyset
  | .fetched keyset => some keyset
  | _ => none

/-- The sets that were fetched, the latest first. -/
def fetchedSets (log : List Event) : List CachedKeyset := log.filterMap Event.keyset?

/-- A key is that which `selectKey` picks from the latest set, and the set has not reached its
lifetime. -/
structure Current (crates : ServerCrates) (source : JwksSource) (before : List Event)
    (kid : Option String) (key : SigningKey) (t : ℕ) (keyset : CachedKeyset) (jwk : Jwk) :
    Prop where
  latest : (fetchedSets before).head? = some keyset
  selected : selectKey keyset.keys kid = some jwk
  key : source.toSigningKey crates jwk = .ok key
  fetched : keyset.fetchedAt ≤ t
  young : t < keyset.fetchedAt + keyset.ttl

/-- A key that is resolved is current. -/
def Explains (crates : ServerCrates) (source : JwksSource) (e : Event) (before : List Event) : Prop :=
  ∀ kid key t, e = .resolved kid (.ok key) t →
    ∃ keyset jwk, Current crates source before kid key t keyset jwk

/-- The cache holds the set that was fetched last, and every key that was resolved was current. -/
structure Consistent (crates : ServerCrates) (source : JwksSource) (s : State) : Prop where
  memo : s.memo = (fetchedSets s.log).head?
  past : ∀ keyset ∈ fetchedSets s.log, keyset.fetchedAt ≤ s.now
  bounds : ∀ keyset ∈ fetchedSets s.log, minTtl ≤ keyset.ttl ∧ keyset.ttl ≤ maxTtl
  ordered : (fetchedSets s.log).Pairwise fun later earlier => earlier.fetchedAt ≤ later.fetchedAt
  explained : Runs.Explained (Explains crates source) s.log

section

variable {crates : JwksCrates} {source : JwksSource} {Admitted : State → Prop} {s s' : State}
  {kid : Option String} {key : SigningKey} {t : ℕ}

theorem current_of_cached {before : List Event} {memo : Option CachedKeyset}
    (hmemo : memo = (fetchedSets before).head?) (hpast : ∀ keyset ∈ fetchedSets before, keyset.fetchedAt ≤ t)
    (h : source.resolveCached crates.toServerCrates memo t kid = some (.ok key)) :
    ∃ keyset jwk, Current crates.toServerCrates source before kid key t keyset jwk := by
  cases memo with
  | none => cases h
  | some cached =>
    simp only [JwksSource.resolveCached] at h
    split at h
    · rename_i hfresh
      obtain ⟨jwk, hjwk, hkey⟩ := Option.map_eq_some_iff.mp h
      have hmem : cached ∈ fetchedSets before := List.mem_of_head? hmemo.symm
      have hfetched := hpast cached hmem
      have helapsed : t - cached.fetchedAt < cached.ttl := of_decide_eq_true hfresh
      exact ⟨cached, jwk, hmemo.symm, hjwk, hkey, hfetched, by omega⟩
    · cases h

/-- What is resolved after a refresh is current when the set is young enough. -/
theorem current_of_refreshed {before : List Event} {cached : CachedKeyset}
    (hlatest : (fetchedSets before).head? = some cached) (hfetched : cached.fetchedAt ≤ t)
    (hyoung : t < cached.fetchedAt + cached.ttl)
    (h : source.resolveRefreshed crates.toServerCrates (some cached) kid = .ok key) :
    ∃ keyset jwk, Current crates.toServerCrates source before kid key t keyset jwk := by
  simp only [JwksSource.resolveRefreshed, Effect.except_bind_eq_ok, okOr_eq_ok] at h
  obtain ⟨_, ⟨⟩, jwk, hjwk, hkey⟩ := h
  exact ⟨cached, jwk, hlatest, hjwk, hkey, hfetched, hyoung⟩

/-- Events other than fetches and resolved keys change nothing that is said of the log. -/
theorem Consistent.record (h : Consistent crates.toServerCrates source s) {e : Event}
    (hkeyset : e.keyset? = none) (hexplains : Explains crates.toServerCrates source e s.log) :
    Consistent crates.toServerCrates source (s.record e) := by
  have hsets : fetchedSets (e :: s.log) = fetchedSets s.log := List.filterMap_cons_none hkeyset
  constructor
  · exact h.memo.trans (congrArg List.head? hsets.symm)
  · intro keyset hmem
    exact h.past keyset (hsets ▸ hmem)
  · intro keyset hmem
    exact h.bounds keyset (hsets ▸ hmem)
  · exact hsets.symm ▸ h.ordered
  · exact ⟨hexplains, h.explained⟩

/-- A step that touches neither the cache nor the log. -/
theorem Consistent.congr (h : Consistent crates.toServerCrates source s) (hmemo : s'.memo = s.memo)
    (hlog : s'.log = s.log) (hnow : s.now ≤ s'.now) : Consistent crates.toServerCrates source s' := by
  constructor
  · rw [hmemo, hlog]
    exact h.memo
  · rw [hlog]
    intro keyset hmem
    exact (h.past keyset hmem).trans hnow
  · rw [hlog]
    exact h.bounds
  · rw [hlog]
    exact h.ordered
  · rw [hlog]
    exact h.explained

theorem head_mem_of_memo (h : Consistent crates.toServerCrates source s) {cached : CachedKeyset}
    (hmemo : s.memo = some cached) :
    (fetchedSets s.log).head? = some cached ∧ cached ∈ fetchedSets s.log := by
  have hhead := h.memo.symm.trans hmemo
  exact ⟨hhead, List.mem_of_head? hhead⟩

/-- A set that is too young to be fetched again has not reached its lifetime, because `min_refetch` is
shorter than every lifetime. -/
theorem explains_skip (hrefetch : source.minRefetch < minTtl)
    (h : Consistent crates.toServerCrates source s) (hlimited : source.rateLimited s.memo s.now = true) :
    Explains crates.toServerCrates source
      (.resolved kid (source.resolveRefreshed crates.toServerCrates s.memo kid) s.now) s.log := by
  intro kid' key t heq
  obtain ⟨rfl, hkey, rfl⟩ := Event.resolved.inj heq
  cases hmemo : s.memo with
  | none =>
    rw [hmemo] at hlimited
    cases hlimited
  | some cached =>
    rw [hmemo] at hlimited hkey
    obtain ⟨hlatest, hmem⟩ := head_mem_of_memo h hmemo
    have hpast := h.past cached hmem
    have hlifetime := (h.bounds cached hmem).1
    have helapsed : s.now - cached.fetchedAt < source.minRefetch := of_decide_eq_true hlimited
    have hyoung : s.now - cached.fetchedAt < cached.ttl :=
      helapsed.trans (hrefetch.trans_le hlifetime)
    exact current_of_refreshed hlatest hpast (by omega) hkey

/-- After a fetch the cache holds its set, and what is resolved from it is current. -/
theorem Consistent.fetched (h : Consistent crates.toServerCrates source s) {id : ℕ} {keys : List Jwk}
    {ttl : Duration} (hbounds : minTtl ≤ ttl ∧ ttl ≤ maxTtl) :
    Consistent crates.toServerCrates source
      (({ s.leave id with memo := some ⟨keys, s.now, ttl⟩ } : State).record
        (.fetched ⟨keys, s.now, ttl⟩)) := by
  have hsets : fetchedSets (.fetched ⟨keys, s.now, ttl⟩ :: s.log) =
      ⟨keys, s.now, ttl⟩ :: fetchedSets s.log := rfl
  constructor
  · rfl
  · intro keyset hmem
    rcases List.mem_cons.mp hmem with rfl | hmem
    · exact le_rfl
    · exact h.past keyset hmem
  · intro keyset hmem
    rcases List.mem_cons.mp hmem with rfl | hmem
    · exact hbounds
    · exact h.bounds keyset hmem
  · exact List.pairwise_cons.mpr ⟨h.past, h.ordered⟩
  · exact ⟨fun _ _ _ => nofun, h.explained⟩

theorem Consistent.step (hrefetch : source.minRefetch < minTtl)
    (hstep : Step crates source Admitted s s') (h : Consistent crates.toServerCrates source s) :
    Consistent crates.toServerCrates source s' := by
  cases hstep with
  | pass hle => exact h.congr rfl rfl hle
  | hit hidle hcached =>
    refine h.record rfl ?_
    intro kid' key t heq
    obtain ⟨rfl, rfl, rfl⟩ := Event.resolved.inj heq
    exact current_of_cached h.memo h.past hcached
  | miss hidle hcached => exact h.congr rfl rfl le_rfl
  | enter hwaiting hfree hadmitted => exact h.congr rfl rfl le_rfl
  | @skip id kid hentered hlimited =>
    have hleft : Consistent crates.toServerCrates source (s.leave id) := h.congr rfl rfl le_rfl
    exact hleft.record rfl (explains_skip hrefetch h hlimited)
  | @start id kid hentered hlimited =>
    have hmoved : Consistent crates.toServerCrates source (s.move id (.fetching kid s.now)) :=
      h.congr rfl rfl le_rfl
    exact hmoved.record rfl fun _ _ _ => nofun
  | @fail id kid startedAt answers e hfetching hfetch =>
    have hleft : Consistent crates.toServerCrates source (s.leave id) := h.congr rfl rfl le_rfl
    have hgaveUp : Consistent crates.toServerCrates source ((s.leave id).record (.gaveUp startedAt)) :=
      hleft.record rfl fun _ _ _ => nofun
    refine hgaveUp.record rfl ?_
    intro kid' key t heq
    cases (Event.resolved.inj heq).2.1
  | @succeed id kid startedAt answers keys ttl hfetching hfetch =>
    have hbounds := ttl_of_fetch hfetch
    refine (h.fetched hbounds).record rfl ?_
    intro kid' key t heq
    obtain ⟨rfl, hkey, rfl⟩ := Event.resolved.inj heq
    have hpositive : 0 < minTtl := Nat.mul_pos (by decide) (by decide)
    refine current_of_refreshed rfl le_rfl ?_ hkey
    exact Nat.lt_add_of_pos_right (hpositive.trans_le hbounds.1)
  | cancelWaiting hwaiting => exact h.congr rfl rfl le_rfl
  | cancelEntered hentered => exact h.congr rfl rfl le_rfl
  | @cancelFetching id kid startedAt hfetching =>
    have hleft : Consistent crates.toServerCrates source (s.leave id) := h.congr rfl rfl le_rfl
    exact hleft.record rfl fun _ _ _ => nofun

theorem consistent_start (now : ℕ) : Consistent crates.toServerCrates source (State.start now) where
  memo := rfl
  past := nofun
  bounds := nofun
  ordered := .nil
  explained := trivial

theorem consistent_of_run (hrefetch : source.minRefetch < minTtl) {now : ℕ}
    (hrun : Runs.Run (Step crates source Admitted) (.start now) s) :
    Consistent crates.toServerCrates source s :=
  Runs.invariant hrun (consistent_start now) fun _ _ hstep h => h.step hrefetch hstep

/-- A key that no set fetched from `T` on contains was in one fetched before `T`, so it is resolved less
than a day after the last fetch before `T`. -/
theorem Current.within_day {before : List Event} {keyset : CachedKeyset} {jwk : Jwk}
    (h : Current crates.toServerCrates source before kid key t keyset jwk)
    (hbounds : ∀ keyset ∈ fetchedSets before, minTtl ≤ keyset.ttl ∧ keyset.ttl ≤ maxTtl)
    {T : ℕ} (habsent : ∀ fetched ∈ fetchedSets before, T ≤ fetched.fetchedAt → jwk ∉ fetched.keys) :
    keyset.fetchedAt < T ∧ ∀ last ∈ fetchedSets before,
      (∀ fetched ∈ fetchedSets before, fetched.fetchedAt < T → fetched.fetchedAt ≤ last.fetchedAt) →
        t < last.fetchedAt + maxTtl := by
  have hmem : keyset ∈ fetchedSets before := List.mem_of_head? h.latest
  have hbefore : keyset.fetchedAt < T := by
    by_contra hlate
    exact habsent keyset hmem (not_lt.mp hlate) (mem_of_selectKey h.selected)
  refine ⟨hbefore, fun last hlast hlatest => ?_⟩
  have hle := hlatest keyset hmem hbefore
  have hday := (hbounds keyset hmem).2
  exact h.young.trans_le (Nat.add_le_add hle hday)

end

/-- In every run a key that is resolved is picked from the set fetched last, which is younger than its
lifetime; and a key that no fetch since `T` brought is resolved within a day of the last fetch before
`T`. -/
theorem resolved_current {crates : JwksCrates} {issuer name : String} {config : JwksConfig}
    {source : JwksSource} (hnew : JwksSource.new issuer config name = .ok source) {now : ℕ} {s : State}
    (hrun : Runs.Run (Step crates source fun _ => True) (.start now) s) :
    ∀ kid key t after before, s.log = after ++ .resolved kid (.ok key) t :: before →
      ∃ keyset jwk, Current crates.toServerCrates source before kid key t keyset jwk ∧
        keyset.ttl ≤ maxTtl ∧
        ∀ T, (∀ fetched ∈ fetchedSets before, T ≤ fetched.fetchedAt → jwk ∉ fetched.keys) →
          keyset.fetchedAt < T ∧ ∀ last ∈ fetchedSets before,
            (∀ fetched ∈ fetchedSets before, fetched.fetchedAt < T →
              fetched.fetchedAt ≤ last.fetchedAt) → t < last.fetchedAt + maxTtl := by
  intro kid key t after before hlog
  have hrefetch : source.minRefetch < minTtl := by
    rw [JwksSource.minRefetch_of_new hnew]
    exact Nat.mul_lt_mul_of_pos_right (by decide) (by decide)
  have hconsistent := consistent_of_run hrefetch hrun
  have hexplained := hconsistent.explained
  rw [hlog] at hexplained
  obtain ⟨keyset, jwk, hcurrent⟩ := hexplained.of_append kid key t rfl
  have hbounds : ∀ keyset ∈ fetchedSets before, minTtl ≤ keyset.ttl ∧ keyset.ttl ≤ maxTtl := by
    intro keyset hmem
    refine hconsistent.bounds keyset ?_
    rw [hlog]
    exact List.mem_filterMap.mpr (by
      obtain ⟨e, he, hkeyset⟩ := List.mem_filterMap.mp hmem
      exact ⟨e, List.mem_append_right _ (List.mem_cons_of_mem _ he), hkeyset⟩)
  exact ⟨keyset, jwk, hcurrent, (hbounds keyset (List.mem_of_head? hcurrent.latest)).2,
    fun T habsent => hcurrent.within_day hbounds habsent⟩

/-! ## A key that is fetched -/

/-- Every body is read as a set with one key, of that name. -/
def oneKeyCrates : JwksCrates :=
  { Testca.serverCrates [] [] [] with
    jwkSetFromSlice := fun b => .ok [⟨.ellipticCurve .p256 b, none, some "k1"⟩] }

def directConfig : JwksConfig := ⟨some "https://idp.example/keys", none, some "idp"⟩

def directSource : JwksSource := ⟨"idp", .direct "https://idp.example/keys", fromSecs 60⟩

theorem new_directSource : JwksSource.new "idp" directConfig "gh" = .ok directSource := by
  decide

/-- An answer with the key `9` for ten minutes. -/
def keyAnswer : HttpAnswers where
  discovery := .error "not asked"
  keys := .ok ⟨200, "200 OK", some "public, max-age=600", .ok [9]⟩

def nine : CachedKeyset := ⟨[⟨.ellipticCurve .p256 [9], none, some "k1"⟩], 1000, fromSecs 600⟩

theorem fetch_keyAnswer :
    directSource.fetch oneKeyCrates keyAnswer = .ok (nine.keys, nine.ttl) := by
  decide +kernel

/-- One call misses, fetches and is answered from the set it fetched. -/
theorem run_fetching : ∃ s, Runs.Run (Step oneKeyCrates directSource fun _ => True) (.start 1000) s ∧
    s.log = [] ++ .resolved (some "k1") (.ok ⟨[9], .ES256⟩) 1000 :: [.fetched nine, .started 1000] := by
  let waiting : State := (State.start 1000).move 0 (.waiting (some "k1"))
  let entered : State := { waiting.move 0 (.entered (some "k1")) with flight := some 0 }
  let fetching : State := (entered.move 0 (.fetching (some "k1") 1000)).record (.started 1000)
  have hmiss : Step oneKeyCrates directSource (fun _ => True) (.start 1000) waiting :=
    .miss rfl rfl
  have henter : Step oneKeyCrates directSource (fun _ => True) waiting entered :=
    .enter rfl rfl trivial
  have hstart : Step oneKeyCrates directSource (fun _ => True) entered fetching :=
    .start rfl rfl
  have hsucceed := @Step.succeed oneKeyCrates directSource (fun _ => True) fetching 0 (some "k1") 1000
    keyAnswer nine.keys nine.ttl rfl fetch_keyAnswer
  exact ⟨_, ((Relation.ReflTransGen.single hmiss).tail henter).tail hstart |>.tail hsucceed, rfl⟩

theorem resolved_current_fetching :
    ∃ keyset jwk, Current oneKeyCrates.toServerCrates directSource [.fetched nine, .started 1000]
        (some "k1") ⟨[9], .ES256⟩ 1000 keyset jwk ∧ keyset.ttl ≤ maxTtl := by
  obtain ⟨s, hrun, hlog⟩ := run_fetching
  obtain ⟨keyset, jwk, hcurrent, hday, -⟩ :=
    resolved_current new_directSource hrun (some "k1") ⟨[9], .ES256⟩ 1000 _ _ hlog
  exact ⟨keyset, jwk, hcurrent, hday⟩

end Ayane.Jwks
