import Mathlib.Data.List.Count
import Ayane.Lib.Run
import Ayane.Storage

/-!
# Claims are exclusive

Any number of clients call `claim_token` on one storage. A call first reads the clock
and prepares its claim, and commits it later; between the two, other calls may begin,
commit or fail, the reaper and the backend may delete what has ended, and the clock
may advance. Whatever the order, a key is not handed out again before the expiry it
was claimed with, and of the calls for a free key exactly one gets it.
-/

namespace Ayane.Exclusive

/-- A call that has read the clock and not committed. -/
structure Call where
  expiresAt : SystemTime
  claim : PendingClaim

/-- A call that has ended, with what the clock showed then. -/
structure Finished where
  jti : String
  expiresAt : SystemTime
  instant : SystemTime
  outcome : Outcome Unit

structure Config where
  storage : Storage
  clock : SystemTime
  pending : List Call
  /-- The calls that have ended, the latest first. -/
  finished : List Finished

/-- Nobody has called yet. -/
def Config.start (s : Storage) (t : SystemTime) : Config := ⟨s, t, [], []⟩

inductive Step (c : Config) : Config → Prop where
  | tick {t : SystemTime} (h : c.clock ≤ t) : Step c { c with clock := t }
  /-- A call prepares its claim. -/
  | prepare {jti : String} {expiresAt : SystemTime} {claim : PendingClaim}
      (h : c.storage.prepareClaim jti expiresAt c.clock = .ok claim) :
      Step c { c with pending := ⟨expiresAt, claim⟩ :: c.pending }
  /-- A call ends before it has a claim to commit. -/
  | abort {jti : String} {expiresAt : SystemTime} {e : Abort}
      (h : c.storage.prepareClaim jti expiresAt c.clock = .error e) :
      Step c { c with finished := ⟨jti, expiresAt, c.clock, .error e⟩ :: c.finished }
  | commit {before after : List Call} {call : Call} (h : c.pending = before ++ call :: after) :
      Step c {
        storage := (c.storage.commitClaim call.claim).2
        clock := c.clock
        pending := before ++ after
        finished := ⟨call.claim.jti, call.expiresAt, c.clock,
          (c.storage.commitClaim call.claim).1.orAbort⟩ :: c.finished }
  | upkeep {s' : Storage} (h : c.storage.Upkeep c.clock s') : Step c { c with storage := s' }

abbrev Run : Config → Config → Prop := Runs.Run Step

theorem Step.clock_le {c c' : Config} (h : Step c c') : c.clock ≤ c'.clock := by
  cases h with
  | tick ht => exact ht
  | prepare _ => exact le_rfl
  | abort _ => exact le_rfl
  | commit _ => exact le_rfl
  | upkeep _ => exact le_rfl

theorem Step.finished_subset {c c' : Config} (h : Step c c') : c.finished ⊆ c'.finished := by
  cases h with
  | tick _ => exact List.Subset.refl _
  | prepare _ => exact List.Subset.refl _
  | abort _ => exact List.subset_cons_self ..
  | commit _ => exact List.subset_cons_self ..
  | upkeep _ => exact List.Subset.refl _

/-! ## No key is handed out twice -/

/-- A pending call has read a clock that is not ahead, and asks for no less than its caller did. -/
def Call.Timely (clock : SystemTime) (call : Call) : Prop :=
  call.claim.now ≤ unixSecs clock ∧ unixSecs call.expiresAt ≤ call.claim.expiresAt

theorem Call.Timely.mono {t t' : SystemTime} {call : Call} (h : call.Timely t) (ht : t ≤ t') :
    call.Timely t' :=
  ⟨h.1.trans (unixSecs_mono ht), h.2⟩

theorem timely_of_prepare {s : Storage} {jti : String} {expiresAt t : SystemTime}
    {claim : PendingClaim} (h : s.prepareClaim jti expiresAt t = .ok claim) :
    Call.Timely t ⟨expiresAt, claim⟩ := by
  obtain ⟨-, hnow, hexp⟩ := Storage.of_prepareClaim h
  exact ⟨hnow.le, hexp⟩

/-- The state of a run: the calls in it are timely, a claim that succeeded has not been cut
short, and no key was claimed twice before its expiry. -/
structure Inv (c : Config) : Prop where
  timely : ∀ call ∈ c.pending, call.Timely c.clock
  lasts : ∀ f ∈ c.finished, f.outcome = .ok () →
    Lease.Lasts c.storage.heldUntil (unixSecs c.clock : WithTop ℕ) f.jti (unixSecs f.expiresAt)
  exclusive : c.finished.Pairwise fun later earlier =>
    later.jti = earlier.jti → later.outcome = .ok () → earlier.outcome = .ok () →
      unixSecs earlier.expiresAt ≤ unixSecs later.instant

theorem inv_start (s : Storage) (t : SystemTime) : Inv (.start s t) :=
  ⟨by simp [Config.start], by simp [Config.start], by simp [Config.start]⟩

theorem commit_evolves {c : Config} {call : Call} (h : call.Timely c.clock) :
    c.storage.Evolves (c.storage.commitClaim call.claim).2 c.clock c.clock :=
  c.storage.evolves_commitClaim le_rfl h.1

theorem step_inv {c c' : Config} (hstep : Step c c') (h : Inv c) : Inv c' := by
  cases hstep with
  | tick ht =>
    refine ⟨fun call hcall => (h.timely call hcall).mono ht, fun f hf hok => ?_, h.exclusive⟩
    have hwait := Lease.Evolves.wait c.storage.heldUntil
      (WithTop.coe_le_coe.mpr (unixSecs_mono ht))
    exact hwait.lasts (h.lasts f hf hok)
  | prepare hclaim =>
    refine ⟨fun call hcall => ?_, h.lasts, h.exclusive⟩
    obtain rfl | hcall := List.mem_cons.mp hcall
    · exact timely_of_prepare hclaim
    · exact h.timely call hcall
  | abort hclaim =>
    refine ⟨h.timely, fun f hf hok => ?_, List.pairwise_cons.mpr ⟨?_, h.exclusive⟩⟩
    · obtain rfl | hf := List.mem_cons.mp hf
      · cases hok
      · exact h.lasts f hf hok
    · intro f _ _ hok
      cases hok
  | @commit before after call hsplit =>
    have hmem : call ∈ c.pending := by simp [hsplit]
    have hcall := h.timely call hmem
    refine ⟨fun d hd => h.timely d ?_, fun f hf hok => ?_, List.pairwise_cons.mpr ⟨?_, h.exclusive⟩⟩
    · rw [hsplit]
      exact List.mem_append.mpr ((List.mem_append.mp hd).imp_right (List.mem_cons_of_mem _))
    · obtain rfl | hf := List.mem_cons.mp hf
      · rw [Result.orAbort_eq_ok, Storage.commitClaim_eq_ok] at hok
        obtain ⟨s', hs', hheld⟩ := Storage.commitClaim_of_claimable hok
        rw [hs', hheld]
        exact Lease.lasts_update _ _ _ (WithTop.coe_le_coe.mpr hcall.2)
      · exact (commit_evolves hcall).lasts (h.lasts f hf hok)
    · intro f hf hjti hok hfok
      rw [Result.orAbort_eq_ok, Storage.commitClaim_eq_ok] at hok
      have hfree := hok.mono (WithTop.coe_le_coe.mpr hcall.1)
      exact WithTop.coe_le_coe.mp ((h.lasts f hf hfok).le_of_free (hjti ▸ hfree))
  | upkeep hup =>
    exact ⟨h.timely, fun f hf hok => (hup.evolves le_rfl).lasts (h.lasts f hf hok), h.exclusive⟩

/-! ## Of the calls for a free key one gets it -/

/-- Whether a call claimed `k`. -/
def Finished.Won (k : String) (f : Finished) : Bool := decide (f.jti = k ∧ f.outcome = .ok ())

theorem Finished.won_iff {k : String} {f : Finished} :
    f.Won k = true ↔ f.jti = k ∧ f.outcome = .ok () := by
  simp [Finished.Won]

/-- The calls for `k` that have ended asked for an expiry in the future, which the
storage can write. -/
structure Good (k : String) (c : Config) : Prop where
  future : ∀ f ∈ c.finished, f.jti = k → unixSecs c.clock < unixSecs f.expiresAt
  fits : ∀ f ∈ c.finished, f.jti = k → f.expiresAt.nanos + fromSecs 3600 < timeLimit

theorem good_of_step {k : String} {c c' : Config} (hstep : Step c c') (h : Good k c') :
    Good k c where
  future f hf hk := lt_of_le_of_lt (unixSecs_mono hstep.clock_le)
    (h.future f (hstep.finished_subset hf) hk)
  fits f hf := h.fits f (hstep.finished_subset hf)

/-- No call for `k` has ended, and the next one that commits gets it. -/
structure Open (k : String) (c : Config) : Prop where
  free : c.storage.Claimable (unixSecs c.clock) k
  pending : ∀ call ∈ c.pending, call.claim.jti = k → c.storage.Claimable call.claim.now k
  untried : ∀ f ∈ c.finished, f.jti ≠ k

/-- One call got `k`, and its claim has not been cut short. -/
structure Taken (k : String) (c : Config) : Prop where
  held : ∃ f ∈ c.finished, f.jti = k ∧
    Lease.Lasts c.storage.heldUntil (unixSecs c.clock : WithTop ℕ) k (unixSecs f.expiresAt)
  once : c.finished.countP (Finished.Won k) = 1

structure Race (k : String) (c : Config) : Prop where
  epoch : unixEpoch ≤ c.clock
  timely : ∀ call ∈ c.pending, call.claim.jti = k → call.Timely c.clock
  state : Open k c ∨ Taken k c

section

variable {k : String} {c : Config}

/-- A step that ends no call leaves the race as it is. -/
theorem Race.quiet {s' : Storage} {t : SystemTime} {pending : List Call} (h : Race k c)
    (ht : c.clock ≤ t) (hs : Lease.Expires c.storage.heldUntil s'.heldUntil (unixSecs t : WithTop ℕ))
    (hpending : ∀ call ∈ pending, call.claim.jti = k → call ∈ c.pending ∨
      call.Timely t ∧ call.claim.now = unixSecs c.clock) :
    Race k ⟨s', t, pending, c.finished⟩ where
  epoch := h.epoch.trans ht
  timely call hcall hk := by
    obtain hold | ⟨hnew, -⟩ := hpending call hcall hk
    · exact (h.timely call hold hk).mono ht
    · exact hnew
  state := by
    have hclock := WithTop.coe_le_coe.mpr (unixSecs_mono ht)
    refine h.state.imp (fun hopen => ⟨?_, fun call hcall hk => ?_, hopen.untried⟩) fun htaken => ?_
    · exact hs.free (hopen.free.mono hclock)
    · obtain hold | ⟨-, hnow⟩ := hpending call hcall hk
      · exact hs.free (hopen.pending call hold hk)
      · rw [hnow]
        exact hs.free hopen.free
    · obtain ⟨f, hf, hk, hlasts⟩ := htaken.held
      exact ⟨⟨f, hf, hk, (hs.evolves hclock).lasts hlasts⟩, htaken.once⟩

/-- A call for another key commits. -/
theorem Race.commit_other {before after : List Call} {call : Call} (h : Race k c)
    (hsplit : c.pending = before ++ call :: after) (hk : call.claim.jti ≠ k) :
    Race k ⟨(c.storage.commitClaim call.claim).2, c.clock, before ++ after,
      ⟨call.claim.jti, call.expiresAt, c.clock, (c.storage.commitClaim call.claim).1.orAbort⟩ ::
        c.finished⟩ := by
  have hsame : (c.storage.commitClaim call.claim).2.heldUntil k = c.storage.heldUntil k := by
    by_cases hfree : c.storage.Claimable call.claim.now call.claim.jti
    · obtain ⟨s', hs', hheld⟩ := Storage.commitClaim_of_claimable hfree
      rw [hs', hheld, Function.update_of_ne hk.symm]
    · rw [Storage.commitClaim_of_held hfree]
  have hmem : ∀ d ∈ before ++ after, d ∈ c.pending := by
    intro d hd
    rw [hsplit]
    exact List.mem_append.mpr ((List.mem_append.mp hd).imp_right (List.mem_cons_of_mem _))
  refine ⟨h.epoch, fun d hd => h.timely d (hmem d hd), h.state.imp ?_ ?_⟩
  · intro hopen
    refine ⟨fun u hu => hopen.free u (hsame ▸ hu), fun d hd hdk u hu => ?_, fun f hf => ?_⟩
    · exact hopen.pending d (hmem d hd) hdk u (hsame ▸ hu)
    · obtain rfl | hf := List.mem_cons.mp hf
      · exact hk
      · exact hopen.untried f hf
  · intro htaken
    obtain ⟨f, hf, hfk, hlasts⟩ := htaken.held
    refine ⟨⟨f, List.mem_cons_of_mem _ hf, hfk, ?_⟩, ?_⟩
    · obtain ⟨v, hv, huv⟩ | hend := hlasts
      · exact .inl ⟨v, hsame.trans hv, huv⟩
      · exact .inr hend
    · rw [List.countP_cons_of_neg, htaken.once]
      simp [Finished.Won, hk]

/-- A call for `k` commits: the first one gets it, and the others find it held. -/
theorem Race.commit_same {before after : List Call} {call : Call} (h : Race k c)
    (hsplit : c.pending = before ++ call :: after) (hk : call.claim.jti = k)
    (hgood : Good k ⟨(c.storage.commitClaim call.claim).2, c.clock, before ++ after,
      ⟨call.claim.jti, call.expiresAt, c.clock, (c.storage.commitClaim call.claim).1.orAbort⟩ ::
        c.finished⟩) :
    Race k ⟨(c.storage.commitClaim call.claim).2, c.clock, before ++ after,
      ⟨call.claim.jti, call.expiresAt, c.clock, (c.storage.commitClaim call.claim).1.orAbort⟩ ::
        c.finished⟩ := by
  subst hk
  have hmem : ∀ d ∈ before ++ after, d ∈ c.pending := by
    intro d hd
    rw [hsplit]
    exact List.mem_append.mpr ((List.mem_append.mp hd).imp_right (List.mem_cons_of_mem _))
  have hcall : call ∈ c.pending := by simp [hsplit]
  have htimely := h.timely call hcall rfl
  refine ⟨h.epoch, fun d hd => h.timely d (hmem d hd), .inr ?_⟩
  obtain hopen | htaken := h.state
  · obtain ⟨s', hs', hheld⟩ := Storage.commitClaim_of_claimable (hopen.pending call hcall rfl)
    refine ⟨⟨_, List.mem_cons_self, rfl, ?_⟩, ?_⟩
    · simp only [hs', hheld]
      exact Lease.lasts_update _ _ _ (WithTop.coe_le_coe.mpr htimely.2)
    · have hnone : c.finished.countP (Finished.Won call.claim.jti) = 0 := by
        refine List.countP_eq_zero.mpr fun f hf hwon => hopen.untried f hf ?_
        exact (Finished.won_iff.mp hwon).1
      rw [List.countP_cons_of_pos, hnone]
      simp [Finished.Won, hs', Result.orAbort]
  · obtain ⟨f, hf, hfk, hlasts⟩ := htaken.held
    have hheld : ¬c.storage.Claimable call.claim.now call.claim.jti := by
      intro hfree
      have hend := hlasts.le_of_free (hfree.mono (WithTop.coe_le_coe.mpr htimely.1))
      have hfuture := hgood.future f (List.mem_cons_of_mem _ hf) hfk
      exact absurd (WithTop.coe_le_coe.mp hend) (not_le.mpr hfuture)
    simp only [Storage.commitClaim_of_held hheld]
    refine ⟨⟨f, List.mem_cons_of_mem _ hf, hfk, hlasts⟩, ?_⟩
    rw [List.countP_cons_of_neg, htaken.once]
    simp [Finished.Won, Result.orAbort]

end

theorem step_race {k : String} {c c' : Config} (hstep : Step c c') (hgood : Good k c')
    (h : Race k c) : Race k c' := by
  cases hstep with
  | tick ht => exact h.quiet ht (.refl _ _) fun call hcall _ => .inl hcall
  | prepare hclaim =>
    refine h.quiet le_rfl (.refl _ _) fun call hcall hk => ?_
    obtain rfl | hcall := List.mem_cons.mp hcall
    · exact .inr ⟨timely_of_prepare hclaim, (Storage.of_prepareClaim hclaim).2.1⟩
    · exact .inl hcall
  | @abort jti expiresAt e hclaim =>
    have hk : jti ≠ k := by
      rintro rfl
      have hfuture := hgood.future _ List.mem_cons_self rfl
      have hepoch : unixEpoch ≤ expiresAt := by
        by_contra hbefore
        rw [unixSecs_of_not_le hbefore] at hfuture
        exact Nat.not_lt_zero _ hfuture
      obtain ⟨claim, hok⟩ := c.storage.exists_prepareClaim jti h.epoch hepoch
        (hgood.fits _ List.mem_cons_self rfl)
      rw [hok] at hclaim
      cases hclaim
    refine ⟨h.epoch, h.timely, h.state.imp (fun hopen => ?_) fun htaken => ?_⟩
    · refine ⟨hopen.free, hopen.pending, fun f hf => ?_⟩
      obtain rfl | hf := List.mem_cons.mp hf
      · exact hk
      · exact hopen.untried f hf
    · obtain ⟨f, hf, hfk, hlasts⟩ := htaken.held
      refine ⟨⟨f, List.mem_cons_of_mem _ hf, hfk, hlasts⟩, ?_⟩
      rw [List.countP_cons_of_neg, htaken.once]
      simp [Finished.Won]
  | @commit before after call hsplit =>
    by_cases hk : call.claim.jti = k
    · exact h.commit_same hsplit hk hgood
    · exact h.commit_other hsplit hk
  | upkeep hup => exact h.quiet le_rfl hup.expires fun call hcall _ => .inl hcall

/-- A call that fails, in conflict or otherwise, leaves the storage as it was. -/
theorem storage_eq_of_failure {c c' : Config} {f : Finished} (hstep : Step c c')
    (hf : c'.finished = f :: c.finished) (hfail : f.outcome ≠ .ok ()) : c'.storage = c.storage := by
  cases hstep with
  | tick _ => rfl
  | prepare _ => rfl
  | abort _ => rfl
  | @commit before after call hsplit =>
    obtain rfl := (List.cons.inj hf).1
    by_cases h : c.storage.Claimable call.claim.now call.claim.jti
    · exact absurd (Result.orAbort_eq_ok _ _ |>.mpr (Storage.commitClaim_eq_ok.mpr h)) hfail
    · exact congrArg Prod.snd (Storage.commitClaim_of_held h)
  | upkeep _ => exact absurd hf.symm (List.cons_ne_self _ _)

/-- Claims are exclusive. Of two calls that got one key, the later one committed at or past
the second the earlier one's claim expires; a call that fails changes no stored claim;
and of the calls for a free key that begin from then on, with an expiry that is ahead
until they end and that the storage can write, exactly one gets it, from the epoch on. -/
theorem claimToken_exclusive (s : Storage) (t : SystemTime) :
    (∀ c, Run (.start s t) c →
      c.finished.Pairwise (fun later earlier => later.jti = earlier.jti →
        later.outcome = .ok () → earlier.outcome = .ok () →
          unixSecs earlier.expiresAt ≤ unixSecs later.instant) ∧
      ∀ c' f, Step c c' → c'.finished = f :: c.finished → f.outcome ≠ .ok () →
        c'.storage = c.storage) ∧
    ∀ k pending c, unixEpoch ≤ t → s.Claimable (unixSecs t) k →
      (∀ call ∈ pending, call.claim.jti ≠ k) → Run ⟨s, t, pending, []⟩ c → Good k c →
        (∃ f ∈ c.finished, f.jti = k) → c.finished.countP (Finished.Won k) = 1 := by
  refine ⟨fun c hrun => ⟨?_, fun c' f => storage_eq_of_failure⟩, ?_⟩
  · have hinv : Inv c := Runs.invariant hrun (inv_start s t) fun _ _ => step_inv
    exact hinv.exclusive
  · intro k pending c hepoch hfree hpending hrun hgood htried
    have hrace : Race k ⟨s, t, pending, []⟩ :=
      ⟨hepoch, fun call hcall hk => absurd hk (hpending call hcall),
        .inl ⟨hfree, fun call hcall hk => absurd hk (hpending call hcall), by simp⟩⟩
    have hend : Race k c := Runs.invariant_of_good hrun hgood hrace (fun _ _ => good_of_step)
      fun _ _ => step_race
    obtain hopen | htaken := hend.state
    · obtain ⟨f, hf, hk⟩ := htried
      exact absurd hk (hopen.untried f hf)
    · exact htaken.once

/-- Before the epoch, and for an expiry less than the buffer before the end of time, a call for
a free key with an expiry ahead fails, so that nobody gets the key. -/
theorem claimToken_nobody :
    (∃ c, Run (.start (.sqlite {}) ⟨-1000000000, by decide⟩) c ∧
      (Storage.sqlite {}).heldUntil "k" = none ∧ (∀ f ∈ c.finished, f.jti = "k" ∧ c.clock < f.expiresAt) ∧
      c.finished.length = 1 ∧ c.finished.countP (Finished.Won "k") = 0) ∧
    ∃ c, Run (.start (.dynamodb {}) unixEpoch) c ∧
      (Storage.dynamodb {}).heldUntil "k" = none ∧ (∀ f ∈ c.finished, f.jti = "k" ∧ c.clock < f.expiresAt) ∧
      c.finished.length = 1 ∧ c.finished.countP (Finished.Won "k") = 0 := by
  have hsqlite : (Storage.sqlite {}).prepareClaim "k" ⟨5000000000, by decide⟩
      ⟨-1000000000, by decide⟩ = .error (.error (.internal
        "timestamp before epoch: second time provided was later than self")) := rfl
  have hdynamodb : (Storage.dynamodb {}).prepareClaim "k" ⟨timeLimit - 1, by decide⟩ unixEpoch =
      .error (.panic "overflow when adding duration to instant") := rfl
  constructor
  · refine ⟨_, .single (.abort hsqlite), rfl, ?_, rfl, by decide⟩
    intro f hf
    obtain rfl := List.mem_singleton.mp hf
    exact ⟨rfl, by rw [SystemTime.lt_def]; decide⟩
  · refine ⟨_, .single (.abort hdynamodb), rfl, ?_, rfl, by decide⟩
    intro f hf
    obtain rfl := List.mem_singleton.mp hf
    exact ⟨rfl, by rw [SystemTime.lt_def]; decide⟩

end Ayane.Exclusive
