import Ayane.Cli.RenewPace
import Mathlib.Algebra.Order.Group.Int
import Mathlib.Order.Lattice

/-!
# Files that are replaced while the loop waits

A nap is capped by `--max-sleep`, but after a nap the loop looks at the clock only, and renews
with what it loaded before. So a replacement is noticed in time where the renewal is due within
`--max-sleep` anyway, or where the loop backs off, after which it reads the files again.
-/

namespace Ayane.Cli

namespace RenewLoop

/-- What is held was read from a generation of a file. -/
def Held.Presents (loop : RenewLoop) (held : Held) (path : String) (generation : ℕ) : Prop :=
  (path = loop.certPath ∧ held.certGeneration = generation) ∨
    (path = loop.keyPath ∧ held.keyGeneration = generation)

/-- No request that presents a replaced file is sent later than `--max-sleep` after the replacement. -/
def Noticed (loop : RenewLoop) (log : List Event) : Prop :=
  ∀ path generation t, .replaced path generation t ∈ log → ∀ held now mono,
    .requested held now mono ∈ log → held.Presents loop path generation → mono ≤ t + loop.cfg.maxSleep

/-- The time on the monotonic clock at which the system clock shows `renewAt`. -/
def State.monoAt (s : State) (renewAt : SystemTime) : ℤ := renewAt.nanos - s.now.nanos + s.mono

/-- What an iteration has loaded, with the latest time at which it requests the renewal. -/
def State.latest (s : State) : Option (Held × ℤ) :=
  match s.phase with
  | .starting held _ wake => some (held, wake)
  | .due held renewAt => some (held, max s.mono (s.monoAt renewAt))
  | .napping held renewAt _ => some (held, s.monoAt renewAt)
  | .idle | .requesting _ | .backingOff _ | .ended => none

/-- The time at which the loop goes on by itself. -/
def State.deadline (s : State) : Option ℕ :=
  match s.phase with
  | .starting _ _ wake | .napping _ _ wake => some wake
  | .due .. => some s.mono
  | .idle | .requesting _ | .backingOff _ | .ended => none

/-- The clocks run alike and sleeps end on time. -/
def OnTime (s : State) (d : ℕ) (now : SystemTime) : Prop :=
  now.nanos = s.now.nanos + d ∧ ∀ deadline, s.deadline = some deadline → s.mono + d ≤ deadline

/-- The renewal that the loop waits for, if it waits for one, is due within `--max-sleep`. -/
def DueSoon (loop : RenewLoop) (s : State) : Prop :=
  match s.phase with
  | .due _ renewAt | .napping _ renewAt _ => renewAt.nanos ≤ s.now.nanos + loop.cfg.maxSleep
  | .starting .. | .idle | .requesting _ | .backingOff _ | .ended => True

/-- Any signal is sent at any time, and files are replaced when it is `Admitted`. -/
def timely (Admitted : State → Prop) : Environment where
  Passes := OnTime
  Replaces s _ := Admitted s
  HangsUp := True

/-- A request of what is held at `latest` is in time for every replacement. -/
def InTime (loop : RenewLoop) (log : List Event) (held : Held) (latest : ℤ) : Prop :=
  ∀ path generation (t : ℕ), .replaced path generation t ∈ log →
    held.Presents loop path generation → latest ≤ t + (loop.cfg.maxSleep : ℕ)

/-- What is loaded is requested in time after every replacement since. -/
structure Prompt (loop : RenewLoop) (s : State) : Prop where
  replaced : ∀ path generation t, .replaced path generation t ∈ s.log →
    generation < s.generations path ∧ t ≤ s.mono
  requested : ∀ held now mono, .requested held now mono ∈ s.log → mono ≤ s.mono
  noticed : Noticed loop s.log
  latest : ∀ held latest, s.latest = some (held, latest) →
    s.mono ≤ latest ∧ InTime loop s.log held latest
  starting : ∀ held renewAt wake, s.phase = .starting held renewAt wake →
    renewAt ≤ s.now ∧ s.mono ≤ wake ∧ wake ≤ s.mono + loop.cfg.maxSleep
  napping : ∀ held renewAt wake, s.phase = .napping held renewAt wake →
    s.mono ≤ wake ∧ wake ≤ s.monoAt renewAt

section

variable {crates : RenewCrates} {loop : RenewLoop} {s s' : State}

theorem generations_write_self (s : State) (path : String) (text : Except String String) :
    (s.write path text).generations path = s.generations path + 1 := Function.update_self ..

theorem le_generations_write (s : State) (path path' : String) (text : Except String String) :
    s.generations path' ≤ (s.write path text).generations path' := by
  by_cases hpath : path' = path
  · subst hpath
    rw [generations_write_self]
    exact Nat.le_succ _
  · exact (Function.update_of_ne hpath ..).ge

/-- A step of the loop that only goes to another phase. -/
theorem Prompt.goto (h : Prompt loop s) (hlog : s'.log = s.log) (hgenerations : s'.generations = s.generations)
    (hmono : s'.mono = s.mono)
    (hlatest : ∀ held latest, s'.latest = some (held, latest) →
      s.mono ≤ latest ∧ InTime loop s.log held latest)
    (hstarting : ∀ held renewAt wake, s'.phase = .starting held renewAt wake →
      renewAt ≤ s'.now ∧ s'.mono ≤ wake ∧ wake ≤ s'.mono + loop.cfg.maxSleep)
    (hnapping : ∀ held renewAt wake, s'.phase = .napping held renewAt wake →
      s'.mono ≤ wake ∧ wake ≤ s'.monoAt renewAt) : Prompt loop s' := by
  constructor
  · rw [hlog, hgenerations, hmono]
    exact h.replaced
  · rw [hlog, hmono]
    exact h.requested
  · rw [hlog]
    exact h.noticed
  · rw [hlog, hmono]
    exact hlatest
  · exact hstarting
  · exact hnapping

/-- What has just been loaded is of no generation that was replaced. -/
theorem Prompt.not_presents_hold (h : Prompt loop s) (loaded : Loaded) {path : String} {generation t : ℕ}
    (hreplaced : .replaced path generation t ∈ s.log) :
    ¬ (s.hold loop loaded).Presents loop path generation := by
  have hlt := (h.replaced path generation t hreplaced).1
  rintro (⟨rfl, hsame⟩ | ⟨rfl, hsame⟩)
  · exact hlt.ne hsame.symm
  · exact hlt.ne hsame.symm

theorem Prompt.inTime_hold (h : Prompt loop s) (loaded : Loaded) (latest : ℤ) :
    InTime loop s.log (s.hold loop loaded) latest :=
  fun _ _ _ hreplaced hpresents => absurd hpresents (h.not_presents_hold loaded hreplaced)

theorem InTime.mono {log : List Event} {held : Held} {latest latest' : ℤ}
    (h : InTime loop log held latest) (hle : latest' ≤ latest) : InTime loop log held latest' :=
  fun path generation t hreplaced hpresents => hle.trans (h path generation t hreplaced hpresents)

/-- A phase in which nothing is held. -/
theorem Prompt.leave (h : Prompt loop s) (hlog : s'.log = s.log)
    (hgenerations : s'.generations = s.generations) (hmono : s'.mono = s.mono)
    (hphase : s'.latest = none) : Prompt loop s' := by
  refine h.goto hlog hgenerations hmono ?_ ?_ ?_
  · intro held latest hlatest
    cases hphase.symm.trans hlatest
  · intro held renewAt wake hstarting
    simp [State.latest, hstarting] at hphase
  · intro held renewAt wake hnapping
    simp [State.latest, hnapping] at hphase

/-- The loop is about to compare the clock with the renewal time. -/
theorem Prompt.due (h : Prompt loop s) {held : Held} {renewAt : SystemTime} (hlog : s'.log = s.log)
    (hgenerations : s'.generations = s.generations) (hmono : s'.mono = s.mono) (hnow : s'.now = s.now)
    (hphase : s'.phase = .due held renewAt)
    (hintime : InTime loop s.log held (max s.mono (s.monoAt renewAt))) : Prompt loop s' := by
  have hsame : s'.latest = some (held, max (s.mono : ℤ) (s.monoAt renewAt)) := by
    simp only [State.latest, hphase, State.monoAt, hnow, hmono]
  refine h.goto hlog hgenerations hmono ?_ ?_ ?_
  · intro held' latest hlatest
    obtain ⟨rfl, rfl⟩ := Prod.mk.inj (Option.some.inj (hsame.symm.trans hlatest))
    exact ⟨le_max_left _ _, hintime⟩
  · intro held' renewAt' wake hstarting
    cases hphase.symm.trans hstarting
  · intro held' renewAt' wake hnapping
    cases hphase.symm.trans hnapping

/-- While time passes, the renewal is requested as late as it was. -/
theorem Prompt.pass (h : Prompt loop s) {d : ℕ} (hpasses : OnTime s d s'.now) (hlog : s'.log = s.log)
    (hgenerations : s'.generations = s.generations) (hmono : s'.mono = s.mono + d)
    (hphase : s'.phase = s.phase) : Prompt loop s' := by
  obtain ⟨hnow, hdeadline⟩ := hpasses
  have hmonoAt (renewAt : SystemTime) : s'.monoAt renewAt = s.monoAt renewAt := by
    simp only [State.monoAt, hnow, hmono]
    push_cast
    omega
  constructor
  · rw [hlog, hgenerations]
    intro path generation t hmem
    have hpast := h.replaced path generation t hmem
    exact ⟨hpast.1, by omega⟩
  · rw [hlog]
    intro held at' mono hmem
    have hpast := h.requested held at' mono hmem
    omega
  · rw [hlog]
    exact h.noticed
  · rw [hlog]
    intro held latest hlatest
    unfold State.latest at hlatest
    rw [hphase] at hlatest
    cases hwaits : s.phase with
    | starting held' renewAt wake =>
      simp only [hwaits, Option.some.injEq, Prod.mk.injEq] at hlatest
      obtain ⟨rfl, rfl⟩ := hlatest
      have hwake := hdeadline wake (by rw [State.deadline, hwaits])
      exact ⟨by omega, (h.latest held' wake (by rw [State.latest, hwaits])).2⟩
    | due held' renewAt =>
      simp only [hwaits, Option.some.injEq, Prod.mk.injEq] at hlatest
      obtain ⟨rfl, rfl⟩ := hlatest
      have hstays := hdeadline s.mono (by rw [State.deadline, hwaits])
      obtain rfl : d = 0 := by omega
      rw [hmonoAt, hmono]
      exact h.latest held' _ (by rw [State.latest, hwaits]; rfl)
    | napping held' renewAt wake =>
      simp only [hwaits, Option.some.injEq, Prod.mk.injEq] at hlatest
      obtain ⟨rfl, rfl⟩ := hlatest
      have hwake := hdeadline wake (by rw [State.deadline, hwaits])
      have hrenewAt := (h.napping held' renewAt wake hwaits).2
      rw [hmonoAt]
      exact ⟨by omega, (h.latest held' _ (by rw [State.latest, hwaits])).2⟩
    | _ =>
      rw [hwaits] at hlatest
      cases hlatest
  · intro held renewAt wake hwaits
    rw [hphase] at hwaits
    obtain ⟨hdue, hpast, hwake⟩ := h.starting held renewAt wake hwaits
    have hle := hdeadline wake (by rw [State.deadline, hwaits])
    rw [SystemTime.le_def] at hdue ⊢
    exact ⟨by omega, by omega, by omega⟩
  · intro held renewAt wake hwaits
    rw [hphase] at hwaits
    obtain ⟨hpast, hwake⟩ := h.napping held renewAt wake hwaits
    have hle := hdeadline wake (by rw [State.deadline, hwaits])
    rw [hmonoAt]
    exact ⟨by omega, hwake⟩

/-- A request at a time that is not too late. -/
theorem Prompt.request (h : Prompt loop s) {held : Held} {latest : ℤ}
    (hlatest : s.latest = some (held, latest)) : Prompt loop (s.request held) := by
  obtain ⟨hmono, hbound⟩ := h.latest held latest hlatest
  have hreplaced : ∀ path generation t, .replaced path generation t ∈ (s.request held).log →
      .replaced path generation t ∈ s.log := by
    intro path generation t hmem
    rcases List.mem_cons.mp hmem with heq | hmem
    · cases heq
    · exact hmem
  constructor
  · intro path generation t hmem
    exact h.replaced path generation t (hreplaced _ _ _ hmem)
  · intro held' now mono hmem
    rcases List.mem_cons.mp hmem with heq | hmem
    · obtain ⟨-, -, rfl⟩ := Event.requested.inj heq
      exact le_rfl
    · exact h.requested held' now mono hmem
  · intro path generation t hmem held' now mono hrequested hpresents
    rcases List.mem_cons.mp hrequested with heq | hrequested
    · obtain ⟨rfl, -, rfl⟩ := Event.requested.inj heq
      have hlate := hbound path generation t (hreplaced _ _ _ hmem) hpresents
      exact_mod_cast hmono.trans hlate
    · exact h.noticed path generation t (hreplaced _ _ _ hmem) held' now mono hrequested hpresents
  · intro held' latest' hlatest'
    cases hlatest'
  · intro held' renewAt wake hphase
    cases hphase
  · intro held' renewAt wake hphase
    cases hphase

/-- What the loop waits for when a file is replaced is requested in time, if it is due soon. -/
theorem Prompt.latest_le (h : Prompt loop s) (hsoon : DueSoon loop s) {held : Held} {latest : ℤ}
    (hlatest : s.latest = some (held, latest)) : latest ≤ s.mono + (loop.cfg.maxSleep : ℕ) := by
  cases hphase : s.phase with
  | starting held' renewAt wake =>
    obtain ⟨-, rfl⟩ : held' = held ∧ (wake : ℤ) = latest := by
      simpa [State.latest, hphase] using hlatest
    exact_mod_cast (h.starting held' renewAt wake hphase).2.2
  | due held' renewAt =>
    obtain ⟨-, rfl⟩ : held' = held ∧ max (s.mono : ℤ) (s.monoAt renewAt) = latest := by
      simpa [State.latest, hphase] using hlatest
    rw [DueSoon, hphase] at hsoon
    unfold State.monoAt
    dsimp only at hsoon
    omega
  | napping held' renewAt wake =>
    obtain ⟨-, rfl⟩ : held' = held ∧ s.monoAt renewAt = latest := by
      simpa [State.latest, hphase] using hlatest
    rw [DueSoon, hphase] at hsoon
    unfold State.monoAt
    dsimp only at hsoon
    omega
  | _ => simp [State.latest, hphase] at hlatest

theorem Prompt.replace (h : Prompt loop s) (hsoon : DueSoon loop s) (path : String)
    (text : Except String String) : Prompt loop (s.replace path text) := by
  have hreplaced : ∀ path' generation t, .replaced path' generation t ∈ (s.replace path text).log →
      (path' = path ∧ generation = s.generations path ∧ t = s.mono) ∨
        .replaced path' generation t ∈ s.log := by
    intro path' generation t hmem
    unfold State.replace at hmem
    split at hmem
    · rcases List.mem_cons.mp hmem with heq | hmem
      · exact .inl (Event.replaced.inj heq)
      · exact .inr hmem
    · exact .inr hmem
  have hrequested : ∀ held now mono, .requested held now mono ∈ (s.replace path text).log →
      .requested held now mono ∈ s.log := by
    intro held now mono hmem
    unfold State.replace at hmem
    split at hmem
    · rcases List.mem_cons.mp hmem with heq | hmem
      · cases heq
      · exact hmem
    · exact hmem
  constructor
  · intro path' generation t hmem
    rcases hreplaced _ _ _ hmem with ⟨rfl, rfl, rfl⟩ | hmem
    · exact ⟨(Nat.lt_succ_self _).trans_eq (generations_write_self s path' text).symm, le_rfl⟩
    · have hpast := h.replaced path' generation t hmem
      exact ⟨hpast.1.trans_le (le_generations_write s path path' text), hpast.2⟩
  · intro held now mono hmem
    exact h.requested held now mono (hrequested _ _ _ hmem)
  · intro path' generation t hmem held now mono hreq hpresents
    have hpast := h.requested held now mono (hrequested _ _ _ hreq)
    rcases hreplaced _ _ _ hmem with ⟨-, -, rfl⟩ | hmem
    · exact hpast.trans (Nat.le_add_right _ _)
    · exact h.noticed path' generation t hmem held now mono (hrequested _ _ _ hreq) hpresents
  · intro held latest hlatest
    have hsame : s.latest = some (held, latest) := hlatest
    obtain ⟨hmono, hintime⟩ := h.latest held latest hsame
    refine ⟨hmono, fun path' generation t hmem hpresents => ?_⟩
    rcases hreplaced _ _ _ hmem with ⟨-, -, rfl⟩ | hmem
    · exact h.latest_le hsoon hsame
    · exact hintime path' generation t hmem hpresents
  · exact h.starting
  · exact h.napping

/-- What was renewed is written, and nothing is held. -/
theorem Prompt.renewed (h : Prompt loop s) (resp : CertificateResponse) :
    Prompt loop (s.renewed loop resp) := by
  constructor
  · intro path generation t hmem
    rcases List.mem_cons.mp hmem with heq | hmem
    · cases heq
    · have hpast := h.replaced path generation t hmem
      exact ⟨hpast.1.trans_le (le_generations_write s loop.cfg.out path (.ok (fullchain resp))), hpast.2⟩
  · intro held now mono hmem
    rcases List.mem_cons.mp hmem with heq | hmem
    · cases heq
    · exact h.requested held now mono hmem
  · intro path generation t hmem held now mono hrequested
    rcases List.mem_cons.mp hmem with heq | hmem
    · cases heq
    · rcases List.mem_cons.mp hrequested with heq | hrequested
      · cases heq
      · exact h.noticed path generation t hmem held now mono hrequested
  · intro held latest hlatest
    cases hlatest
  · intro held renewAt wake hphase
    cases hphase
  · intro held renewAt wake hphase
    cases hphase

/-- The first iteration sleeps no longer than `--max-sleep` before a renewal that is due. -/
theorem Prompt.startup (h : Prompt loop s) {loaded : Loaded} {renewAt : SystemTime} {startup : ℕ}
    (hdue : renewAt ≤ s.now) (hstartup : Drawn (min loop.cfg.jitter loop.cfg.maxSleep) startup) :
    Prompt loop (s.goto (.starting (s.hold loop loaded) renewAt (s.mono + fromSecs startup))) := by
  have hsleep : startup * 1000000000 ≤ loop.cfg.maxSleep := by
    have hdrawn : startup ≤ min loop.cfg.jitter loop.cfg.maxSleep / 1000000000 := hstartup
    have hcap : min loop.cfg.jitter loop.cfg.maxSleep ≤ loop.cfg.maxSleep := min_le_right _ _
    omega
  refine h.goto rfl rfl rfl ?_ ?_ ?_
  · intro held latest hlatest
    obtain ⟨rfl, rfl⟩ := Prod.mk.inj (Option.some.inj hlatest)
    exact ⟨by exact_mod_cast Nat.le_add_right _ _, h.inTime_hold loaded _⟩
  · intro held renewAt' wake hphase
    obtain ⟨rfl, rfl, rfl⟩ := Phase.starting.inj hphase
    exact ⟨hdue, Nat.le_add_right _ _, Nat.add_le_add_left hsleep _⟩
  · intro held renewAt' wake hphase
    cases hphase

/-- A nap ends no later than the renewal is due. -/
theorem Prompt.nap (h : Prompt loop s) {held : Held} {renewAt : SystemTime} {wait : Duration}
    (hphase : s.phase = .due held renewAt) (hwait : renewAt.durationSince s.now = some wait) :
    Prompt loop (s.goto (.napping held renewAt (s.mono + min wait loop.cfg.maxSleep))) := by
  have hrenewAt : (s.mono : ℤ) + wait = s.monoAt renewAt := by
    unfold SystemTime.durationSince at hwait
    split at hwait
    · rename_i hle
      rw [SystemTime.le_def] at hle
      have hnanos : (renewAt.nanos - s.now.nanos).toNat = (wait : ℕ) := Option.some.inj hwait
      unfold State.monoAt
      omega
    · cases hwait
  have hnap : min wait loop.cfg.maxSleep ≤ wait := min_le_left _ _
  refine h.goto rfl rfl rfl ?_ ?_ ?_
  · intro held' latest hlatest
    obtain ⟨rfl, rfl⟩ := Prod.mk.inj (Option.some.inj hlatest)
    have hbound := h.latest held _ (by rw [State.latest, hphase])
    have hmax : max (s.mono : ℤ) (s.monoAt renewAt) = s.monoAt renewAt := by
      rw [← hrenewAt]
      exact max_eq_right (by omega)
    rw [hmax] at hbound
    exact hbound
  · intro held' renewAt' wake hnapping
    cases hnapping
  · intro held' renewAt' wake hnapping
    obtain ⟨rfl, rfl, rfl⟩ := Phase.napping.inj hnapping
    refine ⟨Nat.le_add_right _ _, ?_⟩
    change _ ≤ s.monoAt renewAt
    rw [← hrenewAt]
    exact_mod_cast Nat.add_le_add_left hnap s.mono

theorem Prompt.step (hstep : Step crates loop (timely (DueSoon loop)) s s') (h : Prompt loop s) :
    Prompt loop s' := by
  cases hstep with
  | pass hpasses => exact h.pass hpasses rfl rfl rfl rfl
  | @replace path text hsoon => exact h.replace hsoon path text
  | startup hphase hload hjitter hnext hfirst hdue hstartup hpositive => exact h.startup hdue hstartup
  | @schedule loaded jitter renewAt hphase hload hjitter hnext =>
    exact h.due rfl rfl rfl rfl rfl (h.inTime_hold loaded _)
  | @startupWake held renewAt wake hphase hwake =>
    obtain ⟨hdue, hmono, -⟩ := h.starting held renewAt wake hphase
    have hbound := h.latest held wake (by rw [State.latest, hphase])
    refine h.due rfl rfl rfl rfl rfl (hbound.2.mono (max_le hbound.1 ?_))
    rw [SystemTime.le_def] at hdue
    unfold State.monoAt
    omega
  | nap hphase hwait => exact h.nap hphase hwait
  | @napWake held renewAt wake hphase hwake =>
    have hbound := h.latest held _ (by rw [State.latest, hphase])
    exact h.due rfl rfl rfl rfl rfl (hbound.2.mono (max_le hbound.1 le_rfl))
  | request hphase => exact h.request (by rw [State.latest, hphase])
  | hangup hphase => exact h.request (by rw [State.latest, hphase])
  | @renewed held resp hphase => exact h.renewed resp
  | _ => exact h.leave rfl rfl rfl rfl

theorem prompt_start (now : SystemTime) (files : Files) : Prompt loop (.start now files) := by
  constructor
  · intro path generation t hmem
    cases hmem
  · intro held now mono hmem
    cases hmem
  · intro path generation t hmem
    cases hmem
  · intro held latest hlatest
    cases hlatest
  · intro held renewAt wake hphase
    cases hphase
  · intro held renewAt wake hphase
    cases hphase

end

/-- Where every replacement of a file falls within `--max-sleep` of the renewal that the loop waits for, no
request presents what was replaced later than that. -/
theorem replacements_noticed {crates : RenewCrates} {loop : RenewLoop} {now : SystemTime} {files : Files}
    {s : State} (hrun : Runs.Run (Step crates loop (timely (DueSoon loop))) (.start now files) s) :
    Noticed loop s.log :=
  (Runs.invariant hrun (prompt_start now files) fun _ _ hstep h => h.step hstep).noticed

/-! ## A certificate that is replaced long before its renewal -/

/-- A nap of the loop that nothing disturbs. -/
theorem run_nap {crates : RenewCrates} {loop : RenewLoop} {Admitted : State → Prop} {s : State}
    {held : Held} {renewAt t : SystemTime} {wait : Duration} (hphase : s.phase = .due held renewAt)
    (hwait : renewAt.durationSince s.now = some wait) (hpositive : 0 < wait)
    (ht : t.nanos = s.now.nanos + (min wait loop.cfg.maxSleep : ℕ)) :
    Runs.Run (Step crates loop (timely Admitted)) s
      { s with now := t, mono := s.mono + min wait loop.cfg.maxSleep, phase := .due held renewAt } := by
  have hnap := Relation.ReflTransGen.single
    (@Step.nap crates loop (timely Admitted) s held renewAt wait hphase hwait hpositive)
  have hsleep : OnTime (s.goto (.napping held renewAt (s.mono + min wait loop.cfg.maxSleep)))
      (min wait loop.cfg.maxSleep) t := by
    refine ⟨ht, fun deadline hdeadline => ?_⟩
    obtain rfl := Option.some.inj hdeadline
    exact le_rfl
  exact (hnap.tail (.pass hsleep)).tail (.napWake rfl le_rfl)

/-- What the loop has loaded when the certificate is replaced. -/
def oldHeld : Held := ⟨oldLoaded, 0, 0⟩

/-- The loop has started at `now` with the old certificate, which another process then replaces. -/
def replacedAt (now : SystemTime) : State :=
  ({ (State.start now pairFiles).goto (.due oldHeld (Testca.instant 8000)) with
    first := false } : State).replace "cert.pem" (.ok "new;")

theorem run_replacedAt {Admitted : State → Prop} {now : SystemTime}
    (hadmitted : ∀ s : State, s.now = now → s.phase = .due oldHeld (Testca.instant 8000) → Admitted s) :
    Runs.Run (Step pairCrates (pairLoop none) (timely Admitted)) (.start now pairFiles)
      (replacedAt now) := by
  have hscheduled := Relation.ReflTransGen.single (@Step.schedule pairCrates (pairLoop none)
    (timely Admitted) (.start now pairFiles) oldLoaded 0 (Testca.instant 8000) rfl (load_pair none)
    (Nat.zero_le _) rfl)
  exact hscheduled.tail (.replace (hadmitted _ rfl rfl))

theorem replacements_noticed_soon : ∃ now, Noticed (pairLoop none)
    [.requested oldHeld now (fromSecs 1000), .replaced "cert.pem" 0 0] := by
  have hreplaced := @run_replacedAt (DueSoon (pairLoop none)) (Testca.instant 7000) (by
    intro s hnow hphase
    rw [DueSoon, hphase, hnow]
    decide)
  have hslept := hreplaced.trans (@run_nap pairCrates (pairLoop none) _ _ oldHeld (Testca.instant 8000)
    (Testca.instant 8000) (fromSecs 1000) rfl rfl (by decide) rfl)
  have hrequested := hslept.tail (.request rfl le_rfl rfl)
  exact ⟨_, replacements_noticed hrequested⟩

/-- The old certificate is presented when its renewal is due, an hour and more after it was replaced. -/
theorem not_replacements_noticed : ∃ s,
    Runs.Run (Step pairCrates (pairLoop none) (timely fun _ => True))
      (.start (Testca.instant 1000) pairFiles) s ∧ ¬ Noticed (pairLoop none) s.log := by
  have hreplaced := @run_replacedAt (fun _ => True) (Testca.instant 1000) fun _ _ _ => trivial
  have hslept := hreplaced.trans (@run_nap pairCrates (pairLoop none) _ _ oldHeld (Testca.instant 8000)
    (Testca.instant 4600) (fromSecs 7000) rfl rfl (by decide) rfl)
  have hslept' := hslept.trans (@run_nap pairCrates (pairLoop none) _ _ oldHeld (Testca.instant 8000)
    (Testca.instant 8000) (fromSecs 3400) rfl rfl (by decide) rfl)
  have hrequested := hslept'.tail (.request rfl le_rfl rfl)
  refine ⟨_, hrequested, fun hnoticed => ?_⟩
  have hlate := hnoticed "cert.pem" 0 0 (List.mem_cons_of_mem _ List.mem_cons_self) oldHeld _ _
    List.mem_cons_self (.inl ⟨rfl, rfl⟩)
  exact absurd hlate (by decide)

end RenewLoop

end Ayane.Cli
