import Ayane.Service.Lifetime
import Ayane.Tls

/-!
# The pace of the renewer

A certificate that is issued now is renewed after its lifetime, less the time before its end and the
jitter. Only the first of these is compared with the lifetime when the settings are read. The renewer
keeps its pace when the largest jitter fits too and the time before the end is not zero; then it
issues at most as many certificates as gaps fit in the time that passes.
-/

namespace Ayane

open Effect Renewer

/-- The most that is taken off the end of a certificate. -/
def TlsConfig.mostBefore (tls : TlsConfig) : Duration :=
  tls.effectiveRenewBefore + fromMillis (jitterMillis tls.effectiveRenewJitter)

/-- Something is taken off, and never the whole lifetime. -/
def TlsConfig.KeepsPace (tls : TlsConfig) : Prop :=
  0 < tls.effectiveRenewBefore ∧ tls.mostBefore < tls.validity

instance (tls : TlsConfig) : Decidable tls.KeepsPace := inferInstanceAs (Decidable (_ ∧ _))

/-- Without jitter, the check of the settings leaves only a zero to be excluded. -/
theorem TlsConfig.keepsPace_iff_of_validate {tls : TlsConfig} (h : tls.validate = .ok ())
    (hjitter : tls.effectiveRenewJitter = 0) : tls.KeepsPace ↔ 0 < tls.effectiveRenewBefore := by
  have hmost : tls.mostBefore = tls.effectiveRenewBefore := by
    rw [mostBefore, hjitter]
    rfl
  rw [KeepsPace, hmost]
  exact and_iff_left (validate_eq_ok h)

/-! ## Delays -/

section

variable {renewJitter jitter renewBefore delay : Duration} {notAfter now : SystemTime}

theorem jitter_le (h : JitterDrawn renewJitter jitter) :
    jitter ≤ fromMillis (jitterMillis renewJitter) := by
  unfold JitterDrawn at h
  split_ifs at h
  · exact h ▸ Nat.zero_le _
  · obtain ⟨ms, hms, rfl⟩ := h
    exact Nat.mul_le_mul_right _ hms

theorem jitterDrawn_most (renewJitter : Duration) :
    JitterDrawn renewJitter (fromMillis (jitterMillis renewJitter)) := by
  unfold JitterDrawn
  split_ifs with hzero
  · rw [hzero]
    rfl
  · exact ⟨_, le_rfl, rfl⟩

theorem renewInstant_eq_ok {renewAt : SystemTime} :
    renewInstant notAfter renewBefore jitter = .ok renewAt ↔
      renewBefore + jitter < durationLimit ∧
        (notAfter.checkedSub (renewBefore + jitter)).getD unixEpoch = renewAt := by
  simp only [renewInstant, except_bind_eq_ok, addDurations_eq_ok, Except.ok.injEq]
  constructor
  · rintro ⟨_, ⟨hlt, rfl⟩, h⟩
    exact ⟨hlt, h⟩
  · rintro ⟨hlt, h⟩
    exact ⟨_, ⟨hlt, rfl⟩, h⟩

theorem renewDelay_eq_ok {delay : Duration} :
    renewDelay notAfter renewBefore jitter now = .ok delay ↔
      ∃ renewAt, renewInstant notAfter renewBefore jitter = .ok renewAt ∧
        (renewAt.nanos - now.nanos).toNat = delay := by
  simp only [renewDelay, except_bind_eq_ok, Except.ok.injEq]
  refine exists_congr fun renewAt => and_congr_right fun _ => ?_
  unfold SystemTime.durationSince
  split_ifs with h
  · rfl
  · rw [SystemTime.le_def] at h
    rw [Option.getD_none, Int.toNat_of_nonpos (by omega)]

/-- After a delay only the time before the end and the jitter are left. -/
theorem le_of_renewDelay {delay : Duration}
    (h : renewDelay notAfter renewBefore jitter now = .ok delay) :
    notAfter.nanos - (renewBefore + jitter : ℕ) ≤ now.nanos + delay := by
  obtain ⟨renewAt, hrenewAt, rfl⟩ := renewDelay_eq_ok.mp h
  obtain ⟨-, rfl⟩ := renewInstant_eq_ok.mp hrenewAt
  have hlow := now.inRange.1
  unfold SystemTime.checkedSub
  split_ifs with hrange
  · simp only [Option.getD_some]
    omega
  · omega

/-- The delay is positive when time is left, and the clock does not show a time before the epoch. -/
theorem renewDelay_pos_iff {delay : Duration} (hepoch : unixEpoch ≤ now)
    (h : renewDelay notAfter renewBefore jitter now = .ok delay) :
    0 < delay ↔ now.nanos + (renewBefore + jitter : ℕ) < notAfter.nanos := by
  obtain ⟨renewAt, hrenewAt, rfl⟩ := renewDelay_eq_ok.mp h
  obtain ⟨-, rfl⟩ := renewInstant_eq_ok.mp hrenewAt
  have h0 : 0 ≤ now.nanos := hepoch
  unfold SystemTime.checkedSub
  split_ifs with hrange
  · simp only [Option.getD_some, Int.lt_toNat, Nat.cast_zero]
    omega
  · have hlimit : (0 : ℤ) < timeLimit := by decide
    simp only [Option.getD_none, Int.lt_toNat, Nat.cast_zero, unixEpoch]
    omega

/-- A certificate is renewed before its end when something is taken off. -/
theorem renewInstant_lt {renewAt : SystemTime} (hepoch : unixEpoch < notAfter)
    (hpositive : 0 < renewBefore) (h : renewInstant notAfter renewBefore jitter = .ok renewAt) :
    renewAt < notAfter := by
  obtain ⟨-, rfl⟩ := renewInstant_eq_ok.mp h
  unfold SystemTime.checkedSub
  split_ifs with hrange
  · change notAfter.nanos - (renewBefore + jitter : ℕ) < notAfter.nanos
    have : (0 : ℕ) < renewBefore := hpositive
    omega
  · exact hepoch

end

/-! ## A fresh certificate -/

section

variable {crates : ServerCrates} {tlsCrates : TlsCrates} {issuer : SelfIssuer}

/-- A certificate that was issued ends its lifetime after the instant at which it was issued, which is
not before the epoch. -/
theorem SelfIssuer.of_issueServing (hdate : DateTimeTruncates crates) {n : ℕ} {entropy : Digest 19}
    {now : SystemTime} {serving : ServingCert}
    (h : issuer.issueServing crates tlsCrates n entropy now = .ok serving) :
    unixEpoch ≤ now ∧ serving.notAfter.nanos = now.nanos + issuer.validity := by
  simp only [issueServing, except_bind_eq_ok, Result.orAbort_eq_ok, SystemTime.plus_eq_ok,
    Except.ok.injEq] at h
  obtain ⟨_, -, _, -, notBefore, hnotBefore, notAfter, hnotAfter, issued, hissued, _, -, _, -, _, -,
    rfl⟩ := h
  obtain ⟨_, _, -, hbuild⟩ := of_issue hissued
  obtain ⟨validity, _, hvalidity, -⟩ := of_build hbuild
  simp only [X509.validity, X509.toX509Time, except_bind_eq_ok, mapErr_eq_ok] at hvalidity
  obtain ⟨_, ⟨d, hd, -⟩, -⟩ := hvalidity
  exact ⟨(hdate _ _ hd).1.trans (SystemTime.minus_le hnotBefore), hnotAfter⟩

/-- The certificate is renewed later than now and before its end, whatever jitter is drawn. -/
def SelfIssuer.RenewsInTime (issuer : SelfIssuer) (notAfter now : SystemTime) : Prop :=
  ∀ jitter, JitterDrawn issuer.renewJitter jitter →
    ∃ renewAt delay, renewInstant notAfter issuer.renewBefore jitter = .ok renewAt ∧
      renewDelay notAfter issuer.renewBefore jitter now = .ok delay ∧ 0 < delay ∧ renewAt < notAfter

/-- The issuer of some settings. -/
structure SelfIssuer.Configured (issuer : SelfIssuer) (tls : TlsConfig) : Prop where
  validity : issuer.validity = tls.validity
  renewBefore : issuer.renewBefore = tls.effectiveRenewBefore
  renewJitter : issuer.renewJitter = tls.effectiveRenewJitter

theorem SelfIssuer.configured_of_new {ca : CertificateAuthority} {tls : TlsConfig}
    {externalUrl : Option String} (h : SelfIssuer.new tlsCrates ca tls externalUrl = .ok issuer) :
    issuer.Configured tls := by
  obtain ⟨sans, -, h⟩ := except_bind_eq_ok.mp h
  cases h
  exact ⟨rfl, rfl, rfl⟩

variable {tls : TlsConfig} {notAfter now : SystemTime}

/-- A fresh certificate is renewed in time when the settings keep the pace. -/
theorem SelfIssuer.renewsInTime_of_keepsPace (hissuer : issuer.Configured tls) (hpace : tls.KeepsPace)
    (hepoch : unixEpoch ≤ now) (hnotAfter : notAfter.nanos = now.nanos + issuer.validity) :
    issuer.RenewsInTime notAfter now := by
  intro jitter hjitter
  have hbefore : issuer.renewBefore + jitter < issuer.validity := by
    have hmost := jitter_le hjitter
    have hfits := hpace.2
    rw [TlsConfig.mostBefore, ← hissuer.renewBefore, ← hissuer.renewJitter, ← hissuer.validity] at hfits
    exact (Nat.add_le_add_left hmost _).trans_lt hfits
  have hrange : issuer.renewBefore + jitter < durationLimit := by
    have h0 : 0 ≤ now.nanos := hepoch
    have hlimit := notAfter.inRange.2
    have hvalidity : (issuer.validity : ℤ) < durationLimit := by
      unfold timeLimit at hlimit
      unfold durationLimit
      omega
    exact hbefore.trans (Int.ofNat_lt.mp hvalidity)
  have hinstant : renewInstant notAfter issuer.renewBefore jitter =
      .ok ((notAfter.checkedSub (issuer.renewBefore + jitter)).getD unixEpoch) :=
    renewInstant_eq_ok.mpr ⟨hrange, rfl⟩
  have hdelay : renewDelay notAfter issuer.renewBefore jitter now = .ok _ :=
    renewDelay_eq_ok.mpr ⟨_, hinstant, rfl⟩
  have hpositive : 0 < issuer.renewBefore := hissuer.renewBefore ▸ hpace.1
  refine ⟨_, _, hinstant, hdelay, (renewDelay_pos_iff hepoch hdelay).mpr ?_, ?_⟩
  · rw [hnotAfter]
    exact Int.add_lt_add_left (Int.ofNat_lt.mpr hbefore) _
  · refine renewInstant_lt ?_ hpositive hinstant
    rw [SystemTime.lt_def]
    have h0 : unixEpoch.nanos ≤ now.nanos := hepoch
    have : (0 : ℕ) < issuer.validity := (Nat.zero_le _).trans_lt hbefore
    omega

/-- Only the settings that keep the pace renew a fresh certificate in time and pause after a failure. -/
theorem SelfIssuer.keepsPace_of_renewsInTime (hissuer : issuer.Configured tls) (hepoch : unixEpoch ≤ now)
    (hnotAfter : notAfter.nanos = now.nanos + issuer.validity) (hrenews : issuer.RenewsInTime notAfter now)
    (hbackoff : 0 < issuer.backoff) : tls.KeepsPace := by
  obtain ⟨renewAt, delay, -, hdelay, hpositive, -⟩ := hrenews _ (jitterDrawn_most issuer.renewJitter)
  rw [renewDelay_pos_iff hepoch hdelay, hnotAfter, Int.add_lt_add_iff_left, Int.ofNat_lt] at hpositive
  rw [hissuer.renewBefore, hissuer.renewJitter, hissuer.validity] at hpositive
  refine ⟨?_, hpositive⟩
  rw [← hissuer.renewBefore]
  exact hbackoff.trans_le (min_le_left _ _)

end

/-! ## Runs -/

namespace Renewer

variable {crates : ServerCrates} {tlsCrates : TlsCrates} {issuer : SelfIssuer} {tls : TlsConfig}

/-- The time that passes at least between two issuances. -/
def gap (issuer : SelfIssuer) (tls : TlsConfig) : ℕ :=
  min issuer.backoff (tls.validity - tls.mostBefore)

/-- The issuances since `start` were a gap apart, and so will be the next one: it waits for the clock, and
for the certificate that is served. -/
structure Paced (issuer : SelfIssuer) (tls : TlsConfig) (start : SystemTime) (s : State) : Prop where
  started : start ≤ s.now
  within : ∀ t ∈ s.issuances, start ≤ t ∧ t ≤ s.now
  spaced : s.issuances.Pairwise fun t t' => t'.nanos + (gap issuer tls : ℤ) ≤ t.nanos
  waits : ∀ t ∈ s.issuances,
    t.nanos + gap issuer tls ≤ max s.now.nanos (s.notAfter.nanos - tls.mostBefore)

/-- After the delay of a turn both have been waited for. -/
theorem le_of_slept (hissuer : issuer.Configured tls) {s : State} {jitter delay : Duration}
    {now : SystemTime} (hjitter : JitterDrawn issuer.renewJitter jitter)
    (hdelay : renewDelay s.notAfter issuer.renewBefore jitter s.now = .ok delay)
    (hslept : s.now.nanos + delay ≤ now.nanos) :
    max s.now.nanos (s.notAfter.nanos - tls.mostBefore) ≤ now.nanos := by
  have hleft := le_of_renewDelay hdelay
  have hmost : issuer.renewBefore + jitter ≤ tls.mostBefore := by
    rw [TlsConfig.mostBefore, ← hissuer.renewBefore, ← hissuer.renewJitter]
    exact Nat.add_le_add_left (jitter_le hjitter) _
  have hcast := Int.ofNat_le.mpr hmost
  refine max_le ?_ ?_
  · omega
  · omega

/-- One more issuance, after what was waited for. -/
theorem Paced.issue {start now later notAfter : SystemTime} {s : State} (h : Paced issuer tls start s)
    (hwaited : max s.now.nanos (s.notAfter.nanos - tls.mostBefore) ≤ now.nanos) (hlater : now ≤ later)
    (hnext : now.nanos + gap issuer tls ≤ max later.nanos (notAfter.nanos - tls.mostBefore)) :
    Paced issuer tls start ⟨later, notAfter, now :: s.issuances⟩ := by
  have hnow : s.now ≤ now := SystemTime.le_def.mpr ((le_max_left _ _).trans hwaited)
  have hgap : ∀ t ∈ s.issuances, t.nanos + gap issuer tls ≤ now.nanos :=
    fun t ht => (h.waits t ht).trans hwaited
  refine ⟨h.started.trans (hnow.trans hlater), ?_, List.pairwise_cons.mpr ⟨hgap, h.spaced⟩, ?_⟩
  · refine List.forall_mem_cons.mpr ⟨⟨h.started.trans hnow, hlater⟩, fun t ht => ?_⟩
    exact ⟨(h.within t ht).1, (h.within t ht).2.trans (hnow.trans hlater)⟩
  · refine List.forall_mem_cons.mpr ⟨hnext, fun t ht => ?_⟩
    exact (hgap t ht).trans ((SystemTime.le_def.mp hlater).trans (le_max_left _ _))

theorem Paced.step (hdate : DateTimeTruncates crates) (hissuer : issuer.Configured tls)
    {start : SystemTime} {s s' : State} (hstep : Step crates tlsCrates issuer s s')
    (h : Paced issuer tls start s) : Paced issuer tls start s' := by
  cases hstep with
  | @renewed jitter delay now later n entropy serving hjitter hdelay hslept hissued hlater =>
    refine h.issue (le_of_slept hissuer hjitter hdelay hslept) hlater ?_
    obtain ⟨-, hnotAfter⟩ := SelfIssuer.of_issueServing hdate hissued
    have hgap : (gap issuer tls : ℤ) ≤ (tls.validity - tls.mostBefore : ℕ) :=
      Int.ofNat_le.mpr (min_le_right _ _)
    rw [hnotAfter, hissuer.validity]
    rw [SystemTime.le_def] at hlater
    omega
  | @failed jitter delay now later n entropy e hjitter hdelay hslept hfailed hlater =>
    have hgap : gap issuer tls ≤ issuer.backoff := min_le_left _ _
    have hcast := Int.ofNat_le.mpr hgap
    refine h.issue (le_of_slept hissuer hjitter hdelay hslept) ?_ ?_
    · rw [SystemTime.le_def]
      omega
    · omega

theorem Paced.start {s : State} (h : s.issuances = []) : Paced issuer tls s.now s where
  started := le_rfl
  within := by simp [h]
  spaced := by simp [h]
  waits := by simp [h]

/-- In a run that begins with no issuance, these are as many as gaps fit in. -/
theorem length_issuances_le (hdate : DateTimeTruncates crates) (hissuer : issuer.Configured tls)
    {s s' : State} (hstart : s.issuances = []) (hrun : Runs.Run (Step crates tlsCrates issuer) s s') :
    (s'.issuances.length * gap issuer tls : ℤ) ≤ s'.now.nanos - s.now.nanos + gap issuer tls := by
  have hpaced : Paced issuer tls s.now s' :=
    Runs.invariant hrun (.start hstart) fun _ _ hstep h => h.step hdate hissuer hstep
  exact Runs.length_mul_le_of_spaced hpaced.spaced hpaced.within hpaced.started

theorem gap_pos (hissuer : issuer.Configured tls) (hpace : tls.KeepsPace) : 0 < gap issuer tls := by
  have hbackoff : 0 < issuer.backoff :=
    lt_min (hissuer.renewBefore ▸ hpace.1) (by decide)
  exact lt_min hbackoff (Nat.sub_pos_of_lt hpace.2)

end Renewer

/-- The renewer of a server neither spins nor lets the certificate lapse exactly when its settings keep the
pace: then every fresh certificate is renewed after a while and before its end, a failure is followed by a
pause, and in any time there are finitely many issuances. -/
theorem renewer_paced_iff {crates : ServerCrates} (hdate : DateTimeTruncates crates)
    {tlsCrates : TlsCrates} {ca : CertificateAuthority} {tls : TlsConfig} {externalUrl : Option String}
    {issuer : SelfIssuer} (hnew : SelfIssuer.new tlsCrates ca tls externalUrl = .ok issuer) {n : ℕ}
    {entropy : Digest 19} {now : SystemTime} {serving : ServingCert}
    (hissued : issuer.issueServing crates tlsCrates n entropy now = .ok serving) :
    (issuer.RenewsInTime serving.notAfter now ∧ 0 < issuer.backoff ∧
      ∀ time : ℕ, ∃ bound, ∀ s s', s.issuances = [] → Runs.Run (Step crates tlsCrates issuer) s s' →
        s'.now.nanos ≤ s.now.nanos + time → s'.issuances.length ≤ bound) ↔
    tls.KeepsPace := by
  have hissuer := SelfIssuer.configured_of_new hnew
  obtain ⟨hepoch, hnotAfter⟩ := SelfIssuer.of_issueServing hdate hissued
  constructor
  · rintro ⟨hrenews, hbackoff, -⟩
    exact SelfIssuer.keepsPace_of_renewsInTime hissuer hepoch hnotAfter hrenews hbackoff
  · intro hpace
    have hgap := gap_pos hissuer hpace
    refine ⟨SelfIssuer.renewsInTime_of_keepsPace hissuer hpace hepoch hnotAfter,
      hgap.trans_le (min_le_left _ _), fun time => ⟨(time + gap issuer tls) / gap issuer tls, ?_⟩⟩
    intro s s' hstart hrun htime
    have hlength := length_issuances_le hdate hissuer hstart hrun
    rw [Nat.le_div_iff_mul_le hgap]
    have hcast : ((s'.issuances.length * gap issuer tls : ℕ) : ℤ) ≤ (time + gap issuer tls : ℕ) := by
      push_cast
      omega
    exact Int.ofNat_le.mp hcast

/-! ## Settings that pass the check -/

/-- Crates in which every key that is drawn is the key `3`. -/
def servingCrates : TlsCrates where
  urlHost _ := none
  servingKey _ := { publicKeyDer := .ok [3], pkcs8Der := .ok [3] }
  spkiFromDer der := if der = [3] then .ok (Testca.spki 3) else .error "malformed"
  anyEcdsaType := .ok

def servingIssuer (tls : TlsConfig) : SelfIssuer where
  ca := Testca.authority
  sans := loopbackSans
  validity := tls.validity
  renewBefore := tls.effectiveRenewBefore
  renewJitter := tls.effectiveRenewJitter
  template := serverTemplate

def issuerCrates : ServerCrates := Testca.serverCrates [] [] []

theorem dateTimeTruncates_issuer : DateTimeTruncates issuerCrates :=
  fun t d h => dateTimeTruncates_closed [] [] [] t d h

/-- The certificate that is issued at second 1000 for the settings, when its lifetime is a day. -/
def IssuedForDay (tls : TlsConfig) (serving : ServingCert) : Prop :=
  (servingIssuer tls).issueServing issuerCrates servingCrates 0 Testca.zeroEntropy (Testca.instant 1000) =
      .ok serving ∧
    serving.notAfter = Testca.instant 87400

theorem issuedForDay_default : ∃ serving, IssuedForDay {} serving := ⟨_, rfl, rfl⟩

/-- Issuing does not look at the settings for renewing. -/
theorem issuedForDay (renewBefore renewJitter : Option Duration) :
    ∃ serving, IssuedForDay { renewBefore, renewJitter } serving := issuedForDay_default

/-- The default settings keep the pace. -/
theorem renewer_paced_iff_default :
    ∃ serving, IssuedForDay {} serving ∧ (({} : TlsConfig).KeepsPace ∧
      (((servingIssuer {}).RenewsInTime serving.notAfter (Testca.instant 1000) ∧
          0 < (servingIssuer {}).backoff ∧
          ∀ time : ℕ, ∃ bound, ∀ s s', s.issuances = [] →
            Runs.Run (Step issuerCrates servingCrates (servingIssuer {})) s s' →
            s'.now.nanos ≤ s.now.nanos + time → s'.issuances.length ≤ bound) ↔
        ({} : TlsConfig).KeepsPace)) := by
  obtain ⟨serving, hserving⟩ := issuedForDay_default
  have hpaced := @renewer_paced_iff issuerCrates dateTimeTruncates_issuer servingCrates
    Testca.authority {} none (servingIssuer {}) rfl 0 Testca.zeroEntropy (Testca.instant 1000) serving
    hserving.1
  exact ⟨serving, hserving, by decide, hpaced⟩

/-- A jitter of a whole day. -/
def dayOfJitter : TlsConfig where
  renewJitter := some (fromSecs 86400)

/-- Nothing is taken off the end. -/
def nothingBefore : TlsConfig where
  renewBefore := some 0
  renewJitter := some 0

/-- When the delay is over at once, certificates are issued one after the other. -/
theorem exists_run_of_spin {crates : ServerCrates} {tlsCrates : TlsCrates} {issuer : SelfIssuer}
    {jitter : Duration} (hjitter : JitterDrawn issuer.renewJitter jitter) {n : ℕ} {entropy : Digest 19}
    {now : SystemTime} {serving : ServingCert}
    (hissued : issuer.issueServing crates tlsCrates n entropy now = .ok serving)
    (hdelay : renewDelay serving.notAfter issuer.renewBefore jitter now = .ok 0) (count : ℕ) :
    ∃ issuances, issuances.length = count ∧
      Runs.Run (Step crates tlsCrates issuer) ⟨now, serving.notAfter, []⟩
        ⟨now, serving.notAfter, issuances⟩ := by
  induction count with
  | zero => exact ⟨[], rfl, .refl⟩
  | succ count ih =>
    obtain ⟨issuances, hlength, hrun⟩ := ih
    refine ⟨now :: issuances, by rw [List.length_cons, hlength], hrun.tail ?_⟩
    exact .renewed (s := ⟨now, serving.notAfter, issuances⟩) hjitter hdelay (by simp) hissued le_rfl

/-- With a jitter of a day certificates are issued without end at one instant; with nothing taken off
the end the certificate is renewed when it has expired, and a failure is followed by no pause. Both
settings pass the check. -/
theorem renewer_spins :
    (dayOfJitter.validate = .ok () ∧
      SelfIssuer.new servingCrates Testca.authority dayOfJitter none = .ok (servingIssuer dayOfJitter) ∧
      ∃ serving, IssuedForDay dayOfJitter serving ∧
        JitterDrawn (servingIssuer dayOfJitter).renewJitter (fromSecs 86400) ∧
        renewDelay serving.notAfter (servingIssuer dayOfJitter).renewBefore (fromSecs 86400)
          (Testca.instant 1000) = .ok 0 ∧
        ∀ count, ∃ issuances, issuances.length = count ∧
          Runs.Run (Step issuerCrates servingCrates (servingIssuer dayOfJitter))
            ⟨Testca.instant 1000, serving.notAfter, []⟩
            ⟨Testca.instant 1000, serving.notAfter, issuances⟩) ∧
    (nothingBefore.validate = .ok () ∧
      SelfIssuer.new servingCrates Testca.authority nothingBefore none = .ok (servingIssuer nothingBefore) ∧
      (servingIssuer nothingBefore).backoff = 0 ∧
      ∃ serving, IssuedForDay nothingBefore serving ∧
        JitterDrawn (servingIssuer nothingBefore).renewJitter 0 ∧
        renewInstant serving.notAfter (servingIssuer nothingBefore).renewBefore 0 =
          .ok serving.notAfter) := by
  obtain ⟨serving, hserving⟩ := issuedForDay none (some (fromSecs 86400))
  obtain ⟨serving', hserving'⟩ := issuedForDay (some 0) (some 0)
  have hjitter : JitterDrawn (servingIssuer dayOfJitter).renewJitter (fromSecs 86400) :=
    ⟨86400000, by decide, rfl⟩
  have hdelay : renewDelay serving.notAfter (servingIssuer dayOfJitter).renewBefore (fromSecs 86400)
      (Testca.instant 1000) = .ok 0 := by
    have hbefore : (servingIssuer dayOfJitter).renewBefore = fromSecs 28800 := by decide
    rw [hserving.2, hbefore]
    decide +kernel
  refine ⟨⟨rfl, rfl, serving, hserving, hjitter, hdelay, exists_run_of_spin hjitter hserving.1 hdelay⟩,
    rfl, rfl, rfl, serving', hserving', rfl, ?_⟩
  rw [hserving'.2]
  rfl

end Ayane
