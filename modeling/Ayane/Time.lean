import Mathlib.Algebra.Group.Int.Defs
import Mathlib.Algebra.Group.Nat.Defs
import Mathlib.Order.Lattice
import Mathlib.Data.Int.Order.Basic
import Ayane.Error

/-!
# Instants and durations

A `SystemTime` counts nanoseconds from the Unix epoch, negative before it, and
lies in the range of the platform's clock: seconds in a signed 64-bit integer. A
duration is a natural number of nanoseconds. Adding a duration to an instant
panics when the sum leaves the range, and the clock stops at the end of it.
-/

namespace Ayane

/-- Nanoseconds of the first instant past the platform's range. -/
def timeLimit : Int := 2 ^ 63 * 1000000000

/-- An instant of `std::time::SystemTime`. -/
@[ext] structure SystemTime where
  nanos : Int
  inRange : -timeLimit ≤ nanos ∧ nanos < timeLimit
  deriving DecidableEq

instance : LinearOrder SystemTime :=
  LinearOrder.lift' SystemTime.nanos fun _ _ h => SystemTime.ext h

theorem SystemTime.le_def {s t : SystemTime} : s ≤ t ↔ s.nanos ≤ t.nanos := Iff.rfl

theorem SystemTime.lt_def {s t : SystemTime} : s < t ↔ s.nanos < t.nanos := by
  rw [← not_le, SystemTime.le_def, not_le]

def unixEpoch : SystemTime := ⟨0, by decide⟩

/-- A span of time in nanoseconds. -/
abbrev Duration := Nat

/-- `Duration::from_secs`. -/
def fromSecs (s : Nat) : Duration := s * 1000000000

theorem fromSecs_le {s s' : Nat} (h : s ≤ s') : fromSecs s ≤ fromSecs s' :=
  Nat.mul_le_mul_right _ h

/-- `Duration::as_secs`. -/
def asSecs (d : Duration) : Nat := d / 1000000000

/-- Nanoseconds of the first duration past the range: seconds in an unsigned 64-bit integer. -/
def durationLimit : Nat := 2 ^ 64 * 1000000000

/-- `Duration + Duration`. -/
def addDurations (a b : Duration) : Outcome Duration :=
  if a + b < durationLimit then .ok (a + b)
  else .error (.panic "overflow when adding durations")

theorem addDurations_eq_ok {a b d : Duration} :
    addDurations a b = .ok d ↔ a + b < durationLimit ∧ d = a + b := by
  unfold addDurations
  split_ifs with h <;> grind

namespace SystemTime

def checkedAdd (t : SystemTime) (d : Duration) : Option SystemTime :=
  if h : t.nanos + d < timeLimit then
    some ⟨t.nanos + d, by have := t.inRange; omega, h⟩
  else none

def checkedSub (t : SystemTime) (d : Duration) : Option SystemTime :=
  if h : -timeLimit ≤ t.nanos - d then
    some ⟨t.nanos - d, h, by have := t.inRange; omega⟩
  else none

/-- `SystemTime + Duration`. -/
def plus (t : SystemTime) (d : Duration) : Outcome SystemTime :=
  match t.checkedAdd d with
  | some t' => .ok t'
  | none => .error (.panic "overflow when adding duration to instant")

/-- The time from `earlier` to `t`, or `none` when `earlier` is the later one. -/
def durationSince (t earlier : SystemTime) : Option Duration :=
  if earlier ≤ t then some (t.nanos - earlier.nanos).toNat else none

/-- What the clock shows `d` after it showed `t`. -/
def later (t : SystemTime) (d : Duration) : SystemTime :=
  ⟨min (t.nanos + d) (timeLimit - 1), by have := t.inRange; omega⟩

theorem checkedAdd_eq_some {t t' : SystemTime} {d : Duration} :
    t.checkedAdd d = some t' ↔ t'.nanos = t.nanos + d := by
  unfold checkedAdd
  constructor
  · intro h
    split at h
    · cases h; rfl
    · cases h
  · intro h
    have hlt : t.nanos + d < timeLimit := h ▸ t'.inRange.2
    rw [dif_pos hlt]
    exact congrArg some (SystemTime.ext h.symm)

@[simp] theorem plus_eq_ok {t t' : SystemTime} {d : Duration} :
    t.plus d = .ok t' ↔ t'.nanos = t.nanos + d := by
  unfold plus
  rw [← checkedAdd_eq_some]
  cases t.checkedAdd d <;> simp

theorem panic_of_plus {t : SystemTime} {d : Duration} {abort : Abort} (h : t.plus d = .error abort) :
    ∃ message, abort = .panic message := by
  unfold plus at h
  split at h
  · cases h
  · cases h
    exact ⟨_, rfl⟩

theorem le_later (t : SystemTime) (d : Duration) : t ≤ t.later d := by
  have := t.inRange
  simp only [le_def, later]
  omega

end SystemTime

/-- Seconds since the epoch, with every instant before it read as `0`. -/
def unixSecs (t : SystemTime) : Nat :=
  match t.durationSince unixEpoch with
  | some d => asSecs d
  | none => 0

theorem unixSecs_eq (t : SystemTime) : unixSecs t = (t.nanos / 1000000000).toNat := by
  unfold unixSecs SystemTime.durationSince
  by_cases h : unixEpoch ≤ t
  · rw [if_pos h]
    have h0 : 0 ≤ t.nanos := h
    change asSecs (t.nanos - 0).toNat = _
    unfold asSecs
    omega
  · rw [if_neg h]
    have h0 : ¬ 0 ≤ t.nanos := h
    change 0 = _
    omega

theorem unixSecs_of_not_le {t : SystemTime} (h : ¬unixEpoch ≤ t) : unixSecs t = 0 := by
  simp [unixSecs, SystemTime.durationSince, h]

theorem unixSecs_mono {s t : SystemTime} (h : s ≤ t) : unixSecs s ≤ unixSecs t := by
  rw [unixSecs_eq, unixSecs_eq]
  rw [SystemTime.le_def] at h
  omega

theorem unixSecs_max (s t : SystemTime) : unixSecs (max s t) = max (unixSecs s) (unixSecs t) := by
  rcases le_total s t with h | h
  · rw [max_eq_right h, max_eq_right (unixSecs_mono h)]
  · rw [max_eq_left h, max_eq_left (unixSecs_mono h)]

theorem unixSecs_of_plus {t t' : SystemTime} {s : Nat} (h : unixEpoch ≤ t)
    (ht : t'.nanos = t.nanos + fromSecs s) : unixSecs t' = unixSecs t + s := by
  have h0 : 0 ≤ t.nanos := h
  rw [unixSecs_eq, unixSecs_eq, ht]
  unfold fromSecs
  omega

/-- Seconds of `t`, or `none` when it lies before the epoch. -/
def secsSinceEpoch (t : SystemTime) : Option Nat :=
  (t.durationSince unixEpoch).map asSecs

theorem secsSinceEpoch_eq_some {t : SystemTime} {n : Nat} :
    secsSinceEpoch t = some n ↔ unixEpoch ≤ t ∧ unixSecs t = n := by
  unfold secsSinceEpoch unixSecs SystemTime.durationSince
  by_cases h : unixEpoch ≤ t <;> simp [h]

/-- The instant of an epoch-seconds claim; negative claims are read as the epoch. -/
def systemTimeFromEpoch (epochSecs : Int64) : SystemTime :=
  ⟨fromSecs (max epochSecs.toInt 0).toNat, by
    have := epochSecs.toInt_lt
    unfold fromSecs timeLimit
    omega⟩

theorem unixEpoch_le_systemTimeFromEpoch (s : Int64) : unixEpoch ≤ systemTimeFromEpoch s := by
  rw [SystemTime.le_def]
  change (0 : Int) ≤ (fromSecs _ : Nat)
  omega

theorem unixSecs_systemTimeFromEpoch (s : Int64) :
    unixSecs (systemTimeFromEpoch s) = s.toInt.toNat := by
  rw [unixSecs_eq]
  change (((fromSecs (max s.toInt 0).toNat : Nat) : Int) / 1000000000).toNat = _
  unfold fromSecs
  omega

end Ayane
