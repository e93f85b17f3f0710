import Ayane.Cli.RenewPace

/-!
# The renewal instant in the validity window

The time to renew is counted back from the end of the window, or is a fraction of it, and the jitter
is taken off. It is never before the window. It is before the end of the window only if something is
left: a duration before the end that is not zero, a fraction that is not rounded up to the whole, or a
jitter that was drawn.
-/

namespace Ayane.Cli

open Effect RenewLoop Rounding

/-- What the schedule leaves of a window of `span` nanoseconds, without jitter. -/
def LoopConfig.LeavesTime (cfg : LoopConfig) (span : ℕ) : Prop :=
  match cfg.renewBefore with
  | some before => 0 < before
  | none =>
    1 < 2 * ((1 - cfg.fraction) * span) ∨ 2 * ((1 - cfg.fraction) * span) = 1 ∧ ¬Even span

/-- Arguments are accepted with a fraction between 0 and 1. -/
theorem RenewLoop.fraction_of_new {crates : RenewCrates} {args : RenewArgs} {loop : RenewLoop}
    (h : RenewLoop.new crates args = .ok loop) : 0 < loop.cfg.fraction ∧ loop.cfg.fraction < 1 := by
  simp only [new, except_bind_eq_ok, Except.ok.injEq] at h
  obtain ⟨f, -, q, hq, _, -, _, -, _, -, rfl⟩ := h
  unfold fractionInRange at hq
  split at hq
  · split_ifs at hq with hrange
    cases hq
    exact hrange
  · cases hq

section

variable {cfg : LoopConfig} {notBefore notAfter : SystemTime}

/-- A time that is counted back from another, and not before the window. -/
theorem nanos_countedBack (base : SystemTime) (d : Duration) :
    (max ((base.checkedSub d).getD notBefore) notBefore).nanos = max (base.nanos - d) notBefore.nanos := by
  have hmono : Monotone SystemTime.nanos := fun _ _ h => h
  have hlow := notBefore.inRange.1
  rw [hmono.map_max]
  unfold SystemTime.checkedSub
  split_ifs with h
  · rfl
  · simp only [Option.getD_none]
    omega

theorem durationSince_of_lt (hwindow : notBefore < notAfter) :
    notAfter.durationSince notBefore = some (notAfter.nanos - notBefore.nanos).toNat :=
  if_pos hwindow.le

/-- A fraction of the window ends within it. -/
theorem exists_fraction (hq : 0 < cfg.fraction ∧ cfg.fraction < 1)
    (hwindow : notBefore < notAfter) :
    ∃ base, notBefore.plus (mulF64 (notAfter.nanos - notBefore.nanos).toNat cfg.fraction) =
        .ok base ∧ base ≤ notAfter ∧
      (base < notAfter ↔
        let span := (notAfter.nanos - notBefore.nanos).toNat
        1 < 2 * ((1 - cfg.fraction) * span) ∨ 2 * ((1 - cfg.fraction) * span) = 1 ∧ ¬Even span) := by
  have hspan : ((notAfter.nanos - notBefore.nanos).toNat : ℤ) = notAfter.nanos - notBefore.nanos :=
    Int.toNat_of_nonneg (Int.sub_nonneg_of_le hwindow.le)
  generalize (notAfter.nanos - notBefore.nanos).toNat = span at hspan ⊢
  have hscaled := coe_mulF64 hq.1 span
  have hle : nearestEven (span * cfg.fraction) ≤ span :=
    nearestEven_le (by exact_mod_cast mul_le_of_le_one_right (Nat.cast_nonneg span) hq.2.le)
  have hlt := @nearestEven_lt_iff ℚ _ _ _ _ (span * cfg.fraction) span
  have hleft : 2 * (((span : ℤ) : ℚ) - span * cfg.fraction) = 2 * ((1 - cfg.fraction) * span) := by
    push_cast
    ring
  rw [hleft, Int.even_coe_nat] at hlt
  have hnanos : notBefore.nanos + mulF64 span cfg.fraction < timeLimit := by
    have := notAfter.inRange.2
    omega
  refine ⟨⟨notBefore.nanos + mulF64 span cfg.fraction, ?_, hnanos⟩, ?_, ?_, ?_⟩
  · have := notBefore.inRange.1
    omega
  · exact SystemTime.plus_eq_ok.mpr rfl
  · change notBefore.nanos + (mulF64 span cfg.fraction : ℤ) ≤ notAfter.nanos
    omega
  · rw [← hlt]
    change notBefore.nanos + (mulF64 span cfg.fraction : ℤ) < notAfter.nanos ↔ _
    omega

/-- The instant that the jitter is taken off is not after the window, and is before its end if the
schedule leaves time. -/
theorem exists_base (hq : 0 < cfg.fraction ∧ cfg.fraction < 1)
    (hwindow : notBefore < notAfter) :
    ∃ base : SystemTime, base ≤ notAfter ∧
      (base < notAfter ↔ cfg.LeavesTime (notAfter.nanos - notBefore.nanos).toNat) ∧
      ∀ jitterSecs, nextRenewal notBefore notAfter cfg jitterSecs =
        .ok (max ((base.checkedSub (fromSecs jitterSecs)).getD notBefore) notBefore) := by
  unfold LoopConfig.LeavesTime nextRenewal
  cases hbefore : cfg.renewBefore with
  | some before =>
    refine ⟨(notAfter.checkedSub before).getD notBefore, ?_, ?_, fun _ => rfl⟩
    · unfold SystemTime.checkedSub
      split_ifs with h
      · simp only [Option.getD_some, SystemTime.le_def]
        omega
      · exact hwindow.le
    · unfold SystemTime.checkedSub
      split_ifs with h
      · change notAfter.nanos - before < notAfter.nanos ↔ (0 : ℕ) < before
        omega
      · -- so far back that the clock does not reach
        have := notAfter.inRange.1
        have hpositive : (0 : ℕ) < before := by omega
        exact iff_of_true hwindow hpositive
  | none =>
    obtain ⟨base, hbase, hle, hlt⟩ := exists_fraction hq hwindow
    refine ⟨base, hle, hlt, fun _ => ?_⟩
    simp only [durationSince_of_lt hwindow, Option.getD_some, hbase]
    rfl

end

/-- The renewal instant is in the window, and is not put off by a larger jitter. -/
def RenewsInside (notBefore notAfter : SystemTime) (cfg : LoopConfig)
    (jitterSecs : ℕ) : Prop :=
  ∃ renewAt, nextRenewal notBefore notAfter cfg jitterSecs = .ok renewAt ∧
    notBefore ≤ renewAt ∧ renewAt < notAfter ∧
    ∀ jitterSecs' ≥ jitterSecs, ∃ renewAt' ≤ renewAt,
      nextRenewal notBefore notAfter cfg jitterSecs' = .ok renewAt'

/-- The renewal instant of an accepted schedule is in the window exactly when a jitter was drawn or the
schedule leaves time. -/
theorem renewsInside_iff {crates : RenewCrates} {args : RenewArgs} {loop : RenewLoop}
    (hnew : RenewLoop.new crates args = .ok loop) {notBefore notAfter : SystemTime}
    (hwindow : notBefore < notAfter) (jitterSecs : ℕ) :
    RenewsInside notBefore notAfter loop.cfg jitterSecs ↔
      0 < jitterSecs ∨ loop.cfg.LeavesTime (notAfter.nanos - notBefore.nanos).toNat := by
  obtain ⟨base, hle, hlt, hnext⟩ := exists_base (RenewLoop.fraction_of_new hnew) hwindow
  rw [← hlt]
  simp only [RenewsInside, hnext, Except.ok.injEq, exists_eq_left', SystemTime.le_def, SystemTime.lt_def,
    nanos_countedBack, fromSecs]
  rw [SystemTime.le_def] at hle
  rw [SystemTime.lt_def] at hwindow
  constructor
  · rintro ⟨-, hend, -⟩
    omega
  · intro hleft
    refine ⟨le_max_right _ _, by omega, fun jitterSecs' hjitter => ?_⟩
    refine ⟨_, ?_, rfl⟩
    rw [nanos_countedBack]
    omega

/-! ## The end of the window -/

/-- Arguments to renew some time before the end, without jitter. -/
def windowArgs (before : String) : RenewArgs := { pairArgs none with renewBefore := some before }

def windowLoop (before : Duration) : RenewLoop :=
  { pairLoop none with cfg := { (pairLoop none).cfg with renewBefore := some before } }

theorem new_windowLoop {before : String} {d : Duration}
    (h : pairCrates.parseDuration before = .ok d) :
    RenewLoop.new pairCrates (windowArgs before) = .ok (windowLoop d) := by
  have hfraction : fractionInRange (.finite defaultFraction) = .ok defaultFraction :=
    if_pos (by decide +kernel)
  have hbefore : (some before).mapM pairCrates.parseDuration = .ok (some d) := by
    rw [Option.mapM_some, h]
    rfl
  refine except_bind_eq_ok.mpr ⟨.finite defaultFraction, rfl, ?_⟩
  refine except_bind_eq_ok.mpr ⟨defaultFraction, hfraction, ?_⟩
  exact except_bind_eq_ok.mpr ⟨some d, hbefore, rfl⟩

/-- A loop that renews 1000 seconds before the end does so in the window. -/
theorem renewsInside_iff_window :
    RenewsInside (Testca.instant 1000) (Testca.instant 9000) (windowLoop (fromSecs 1000)).cfg 0 ↔
      0 < 0 ∨ (windowLoop (fromSecs 1000)).cfg.LeavesTime
        ((Testca.instant 9000).nanos - (Testca.instant 1000).nanos).toNat :=
  @renewsInside_iff pairCrates (windowArgs "1000s") (windowLoop (fromSecs 1000))
    (new_windowLoop rfl) (Testca.instant 1000) (Testca.instant 9000) (by decide) 0

/-- A loop that renews no time before the end does so when the certificate has expired. -/
theorem renewsAtEnd_window :
    RenewLoop.new pairCrates (windowArgs "0s") = .ok (windowLoop 0) ∧
      Testca.instant 1000 < Testca.instant 9000 ∧ Drawn (windowLoop 0).cfg.jitter 0 ∧
      nextRenewal (Testca.instant 1000) (Testca.instant 9000) (windowLoop 0).cfg 0 =
        .ok (Testca.instant 9000) ∧
      ¬RenewsInside (Testca.instant 1000) (Testca.instant 9000) (windowLoop 0).cfg 0 := by
  have hnext : nextRenewal (Testca.instant 1000) (Testca.instant 9000) (windowLoop 0).cfg 0 =
      .ok (Testca.instant 9000) := rfl
  refine ⟨new_windowLoop rfl, by decide, Nat.zero_le _, hnext, ?_⟩
  rintro ⟨renewAt, hok, -, hlt, -⟩
  cases hnext.symm.trans hok
  exact lt_irrefl _ hlt

end Ayane.Cli
