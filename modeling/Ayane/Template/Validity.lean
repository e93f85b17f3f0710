import Ayane.Lib.Effect
import Ayane.Template

/-!
# The validity window of a template

The four durations of a template are independent of one another. The window keeps within the
longest span in every case, but within the shortest only where the one is not below the
other: no check of the configuration says so.
-/

namespace Ayane

open Effect

namespace CertificateTemplate

variable (template : CertificateTemplate)

/-- The longest span of a window. -/
def longest : Duration := template.maxValidity + template.backdate

/-- When the window starts. -/
def startOf (now : SystemTime) (requestedNotBefore : Option SystemTime) : SystemTime :=
  let base := requestedNotBefore.getD now
  (base.checkedSub template.backdate).getD base

/-- The span that is asked for, from `start` on. -/
def requestedSpan (start : SystemTime) : Option SystemTime → Duration
  | some notAfter => (notAfter.nanos - start.nanos).toNat
  | none => template.defaultValidity + template.backdate

@[simp] theorem requestedSpan_some (start notAfter : SystemTime) :
    template.requestedSpan start (some notAfter) = (notAfter.nanos - start.nanos).toNat := rfl

@[simp] theorem requestedSpan_none (start : SystemTime) :
    template.requestedSpan start none = template.defaultValidity + template.backdate := rfl

/-- A window that is within the range of the template. -/
structure Clamps (now : SystemTime) (requestedNotBefore requestedNotAfter : Option SystemTime)
    (notBefore notAfter : SystemTime) : Prop where
  backdated : ∀ start, (requestedNotBefore.getD now).checkedSub template.backdate = some start →
    notBefore = start
  unrepresentable : (requestedNotBefore.getD now).checkedSub template.backdate = none →
    notBefore = requestedNotBefore.getD now
  upper : notAfter.nanos - notBefore.nanos ≤ (template.maxValidity + template.backdate : ℕ)
  lower : template.minValidity ≤ template.maxValidity + template.backdate →
    (template.minValidity : ℤ) ≤ notAfter.nanos - notBefore.nanos
  requested : ∀ t, requestedNotAfter = some t → notAfter ≤ t
  unrequested : requestedNotAfter = none → notAfter.nanos - notBefore.nanos =
    (min template.defaultValidity template.maxValidity + template.backdate : ℕ)

/-- What a request must meet for a window: its end does not precede the start, and the span is not
too short; and no sum overflows. -/
structure Admits (now : SystemTime) (requestedNotBefore requestedNotAfter : Option SystemTime) :
    Prop where
  ordered : ∀ t, requestedNotAfter = some t → template.startOf now requestedNotBefore ≤ t
  long : template.minValidity ≤
    template.requestedSpan (template.startOf now requestedNotBefore) requestedNotAfter
  longestFits : template.longest < durationLimit
  defaultFits : requestedNotAfter = none →
    template.defaultValidity + template.backdate < durationLimit
  endFits : (template.startOf now requestedNotBefore).nanos +
    min (template.requestedSpan (template.startOf now requestedNotBefore) requestedNotAfter)
      template.longest < timeLimit

variable {template} {now notBefore notAfter : SystemTime}
  {requestedNotBefore requestedNotAfter : Option SystemTime}

theorem maxNotAfter_eq_ok {ceiling : Option SystemTime} :
    template.maxNotAfter notBefore = .ok ceiling ↔
      template.longest < durationLimit ∧ ceiling = notBefore.checkedAdd template.longest := by
  simp only [maxNotAfter, except_bind_eq_ok, addDurations_eq_ok, Except.ok.injEq]
  constructor
  · rintro ⟨_, ⟨hfits, rfl⟩, rfl⟩
    exact ⟨hfits, rfl⟩
  · rintro ⟨hfits, rfl⟩
    exact ⟨_, ⟨hfits, rfl⟩, rfl⟩

/-- The window of a span that is asked for. -/
def windowFrom (template : CertificateTemplate) (start : SystemTime) (requested : Duration) :
    Outcome (SystemTime × SystemTime) := do
  let max ← addDurations template.maxValidity template.backdate
  if requested < template.minValidity then
    .error (.error (.badRequest ("requested validity " ++ (asSecs requested).repr ++
      "s is below the minimum " ++ (asSecs template.minValidity).repr ++ "s")))
  else
    match start.checkedAdd (min requested max) with
    | some notAfter => .ok (start, notAfter)
    | none => .error (.error (.internal "validity overflow"))

theorem windowFrom_eq_ok {start : SystemTime} {requested : Duration} :
    windowFrom template start requested = .ok (notBefore, notAfter) ↔
      template.longest < durationLimit ∧ template.minValidity ≤ requested ∧
        start.nanos + min requested template.longest < timeLimit ∧ notBefore = start ∧
        notAfter.nanos = start.nanos + min requested template.longest := by
  unfold windowFrom
  simp only [except_bind_eq_ok, addDurations_eq_ok]
  constructor
  · rintro ⟨_, ⟨hlongest, rfl⟩, h⟩
    split_ifs at h with hshort
    split at h
    · rename_i na hend
      cases h
      have hnanos := SystemTime.checkedAdd_eq_some.mp hend
      have hin := notAfter.inRange.2
      exact ⟨hlongest, not_lt.mp hshort, hnanos ▸ hin, rfl, hnanos⟩
    · cases h
  · rintro ⟨hlongest, hlong, -, rfl, hend⟩
    refine ⟨_, ⟨hlongest, rfl⟩, ?_⟩
    have hadd : notBefore.checkedAdd (min requested (template.maxValidity + template.backdate)) =
        some notAfter := SystemTime.checkedAdd_eq_some.mpr hend
    rw [if_neg (not_lt.mpr hlong), hadd]

/-- The span that is asked for is known when the end does not precede the start. -/
theorem computeValidity_eq (template : CertificateTemplate) (now : SystemTime)
    (requestedNotBefore requestedNotAfter : Option SystemTime) :
    template.computeValidity now requestedNotBefore requestedNotAfter =
      let start := template.startOf now requestedNotBefore
      match requestedNotAfter with
      | some na =>
        if start ≤ na then windowFrom template start (na.nanos - start.nanos).toNat
        else .error (.error (.badRequest "notAfter precedes notBefore"))
      | none =>
        addDurations template.defaultValidity template.backdate >>= windowFrom template start := by
  cases requestedNotAfter with
  | none => rfl
  | some na =>
    dsimp only
    split_ifs with h
    · unfold computeValidity SystemTime.durationSince
      unfold startOf at h
      simp only [h, if_true]
      rfl
    · unfold computeValidity SystemTime.durationSince
      unfold startOf at h
      simp only [h, if_false]
      rfl

/-- What is computed, and when: from the start on, the span that is asked for up to the longest. -/
theorem computeValidity_eq_ok :
    template.computeValidity now requestedNotBefore requestedNotAfter = .ok (notBefore, notAfter) ↔
      template.Admits now requestedNotBefore requestedNotAfter ∧
        notBefore = template.startOf now requestedNotBefore ∧
        notAfter.nanos = notBefore.nanos +
          min (template.requestedSpan notBefore requestedNotAfter) template.longest := by
  have hadmits : template.Admits now requestedNotBefore requestedNotAfter ↔
      (∀ t, requestedNotAfter = some t → template.startOf now requestedNotBefore ≤ t) ∧
      template.minValidity ≤
        template.requestedSpan (template.startOf now requestedNotBefore) requestedNotAfter ∧
      template.longest < durationLimit ∧
      (requestedNotAfter = none → template.defaultValidity + template.backdate < durationLimit) ∧
      (template.startOf now requestedNotBefore).nanos +
        min (template.requestedSpan (template.startOf now requestedNotBefore) requestedNotAfter)
          template.longest < timeLimit :=
    ⟨fun h => ⟨h.1, h.2, h.3, h.4, h.5⟩, fun ⟨h₁, h₂, h₃, h₄, h₅⟩ => ⟨h₁, h₂, h₃, h₄, h₅⟩⟩
  rw [hadmits, computeValidity_eq]
  cases requestedNotAfter with
  | none =>
    change (addDurations _ _ >>= windowFrom template _) = _ ↔ _
    rw [except_bind_eq_ok]
    constructor
    · rintro ⟨_, hsum, h⟩
      obtain ⟨hdefault, rfl⟩ := addDurations_eq_ok.mp hsum
      obtain ⟨hlongest, hlong, hfits, rfl, hend⟩ := windowFrom_eq_ok.mp h
      exact ⟨⟨fun _ ht => (Option.some_ne_none _ ht.symm).elim, hlong, hlongest, fun _ => hdefault, hfits⟩,
        rfl, hend⟩
    · rintro ⟨⟨-, hlong, hlongest, hdefault, hfits⟩, rfl, hend⟩
      exact ⟨_, addDurations_eq_ok.mpr ⟨hdefault rfl, rfl⟩,
        windowFrom_eq_ok.mpr ⟨hlongest, hlong, hfits, rfl, hend⟩⟩
  | some na =>
    dsimp only
    constructor
    · intro h
      split_ifs at h with hordered
      obtain ⟨hlongest, hlong, hfits, rfl, hend⟩ := windowFrom_eq_ok.mp h
      exact ⟨⟨fun t ht => Option.some.inj ht ▸ hordered, hlong, hlongest, nofun, hfits⟩, rfl, hend⟩
    · rintro ⟨⟨hordered, hlong, hlongest, -, hfits⟩, rfl, hend⟩
      rw [if_pos (hordered na rfl)]
      exact windowFrom_eq_ok.mpr ⟨hlongest, hlong, hfits, rfl, hend⟩

/-- There is a window when the request is admitted. -/
theorem exists_computeValidity_iff :
    (∃ notBefore notAfter, template.computeValidity now requestedNotBefore requestedNotAfter =
        .ok (notBefore, notAfter)) ↔ template.Admits now requestedNotBefore requestedNotAfter := by
  constructor
  · rintro ⟨notBefore, notAfter, h⟩
    exact (computeValidity_eq_ok.mp h).1
  · intro h
    have hin := (template.startOf now requestedNotBefore).inRange.1
    exact ⟨_, ⟨_, by omega, h.endFits⟩, computeValidity_eq_ok.mpr ⟨h, rfl, rfl⟩⟩

theorem clamps_of_computeValidity
    (h : template.computeValidity now requestedNotBefore requestedNotAfter = .ok (notBefore, notAfter)) :
    template.Clamps now requestedNotBefore requestedNotAfter notBefore notAfter := by
  obtain ⟨hadmits, rfl, hend⟩ := computeValidity_eq_ok.mp h
  have hlong : (template.minValidity : ℤ) ≤ template.requestedSpan
      (template.startOf now requestedNotBefore) requestedNotAfter := Int.ofNat_le.mpr hadmits.long
  unfold longest at hend
  constructor
  · intro start hstart
    simp [startOf, hstart]
  · intro hnone
    simp [startOf, hnone]
  · omega
  · intro h
    have hrange : (template.minValidity : ℤ) ≤ (template.maxValidity + template.backdate : ℕ) :=
      Int.ofNat_le.mpr h
    omega
  · rintro t rfl
    have hordered := hadmits.ordered t rfl
    rw [SystemTime.le_def] at hordered ⊢
    simp only [requestedSpan_some] at hend
    omega
  · rintro rfl
    simp only [requestedSpan_none] at hend
    omega

/-- The window that is computed keeps within the range of the template, and there is one exactly when
the request is admitted. -/
theorem computeValidity_clamps (template : CertificateTemplate) (now : SystemTime)
    (requestedNotBefore requestedNotAfter : Option SystemTime) :
    (∀ notBefore notAfter, template.computeValidity now requestedNotBefore requestedNotAfter =
        .ok (notBefore, notAfter) →
      template.Clamps now requestedNotBefore requestedNotAfter notBefore notAfter) ∧
    ((∃ notBefore notAfter, template.computeValidity now requestedNotBefore requestedNotAfter =
        .ok (notBefore, notAfter)) ↔ template.Admits now requestedNotBefore requestedNotAfter) :=
  ⟨fun _ _ => clamps_of_computeValidity, exists_computeValidity_iff⟩

/-! ## A shortest span above the longest -/

/-- Its shortest span is an hour, and its longest a minute. -/
def crossed : CertificateTemplate :=
  { minValidity := fromSecs 3600, maxValidity := fromSecs 60, backdate := 0 }

/-- A window of a minute. -/
theorem computeValidity_crossed :
    crossed.computeValidity (systemTimeFromEpoch 1000) none none =
        .ok (systemTimeFromEpoch 1000, systemTimeFromEpoch 1060) ∧
      (systemTimeFromEpoch 1060).nanos - (systemTimeFromEpoch 1000).nanos < crossed.minValidity :=
  ⟨by decide, by decide⟩

end CertificateTemplate

end Ayane
