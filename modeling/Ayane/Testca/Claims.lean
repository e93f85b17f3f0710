import Ayane.Jwt

/-!
# A stand-in for the validation of claims

The registered claims of a payload are read by their names and compared with a `Validation`. Dates are
integers; a claim that cannot be read is refused where it is validated.
-/

namespace Ayane.Testca

open Effect

/-- A numeric date: an unsigned 64-bit integer. -/
def numericDate : Json → Option ℕ
  | .int n => if 0 ≤ n ∧ n < 2 ^ 64 then some n.toNat else none
  | _ => none

/-- One string or several. -/
def strings : Json → Option (List String)
  | .str s => some [s]
  | .arr items => items.mapM Json.asStr?
  | _ => none

/-- Whether a claim that was read by its name can be read as what it is. -/
def readable (name : String) (v : Json) : Bool :=
  if name = "exp" ∨ name = "nbf" then (numericDate v).isSome
  else if name = "sub" then v.asStr?.isSome
  else (strings v).isSome

def present (claims : Json) (name : String) : Bool :=
  if name ∈ registeredClaims then (claims.get? name).any (readable name) else true

/-- The checks of a validation at the second `now`. -/
def checkAt (v : Validation) (claims : Json) (now : ℕ) : Except String Unit := do
  ensure (!v.validateExp || (claims.get? "exp").all fun exp =>
      (numericDate exp).any fun exp => decide (now ≤ exp + v.leeway))
    "ExpiredSignature"
  ensure (!v.validateNbf || (claims.get? "nbf").all fun nbf =>
      (numericDate nbf).any fun nbf => decide (nbf ≤ now + v.leeway))
    "ImmatureSignature"
  ensure (v.iss.all fun correct => (claims.get? "iss").all fun iss =>
      (strings iss).any fun iss => iss.any correct.contains)
    "InvalidIssuer"
  ensure (!v.validateAud || (claims.get? "aud").all fun aud =>
      v.aud.any fun correct => (strings aud).any fun aud => aud.any correct.contains)
    "InvalidAudience"

/-- A clock before the epoch panics, when it is read. -/
def currentTimestamp (v : Validation) (now : SystemTime) : Except (Option String) ℕ :=
  if v.readsClock then (secsSinceEpoch now).elim (.error none) .ok else .ok 0

def validate (v : Validation) (payload : Json) (now : SystemTime) : Except (Option String) Unit := do
  let claims := payload.named registeredClaims
  ensure (∀ name ∈ v.requiredSpecClaims, present claims name) (some "MissingRequiredClaim")
  let now ← currentTimestamp v now
  (checkAt v claims now).mapError some

section

variable {v : Validation} {claims payload : Json} {now : SystemTime}

theorem isSome_of_present {name : String} (h : present claims name = true)
    (hname : name ∈ registeredClaims) : (claims.get? name).isSome := by
  rw [present, if_pos hname] at h
  cases hget : claims.get? name with
  | none =>
    rw [hget] at h
    cases h
  | some v => rfl

theorem numericDate_int (n : ℤ) :
    numericDate (.int n) = if 0 ≤ n ∧ n < 2 ^ 64 then some n.toNat else none := rfl

theorem numericDate_eq_some {n : ℤ} {date : ℕ} (h : numericDate (.int n) = some date) : n = date := by
  rw [numericDate_int] at h
  split_ifs at h with hrange
  cases h
  omega

theorem numericDate_natCast {n : ℕ} (h : n < 2 ^ 64) : numericDate (.int n) = some n := by
  rw [numericDate_int, if_pos ⟨by omega, by exact_mod_cast h⟩, Int.toNat_natCast]

/-- A date that is there is compared as the number it is. -/
theorem all_date {name : String} {p : ℕ → Bool} (hdate : ∀ claim, claims.get? name = some claim →
    ∃ n : ℕ, claim = .int n ∧ n < 2 ^ 64) (hp : ∀ n : ℕ, claims.get? name = some (.int n) → p n = true) :
    ((claims.get? name).all fun claim => (numericDate claim).any p) = true := by
  cases hget : claims.get? name with
  | none => rfl
  | some claim =>
    obtain ⟨n, rfl, hn⟩ := hdate claim hget
    rw [Option.all_some, numericDate_natCast hn]
    exact hp n hget

theorem currentTimestamp_eq_ok (h : v.readsClock = true) {secs : ℕ} :
    currentTimestamp v now = .ok secs ↔ unixEpoch ≤ now ∧ unixSecs now = secs := by
  rw [← secsSinceEpoch_eq_some, currentTimestamp, if_pos h]
  cases secsSinceEpoch now <;> simp

theorem mapError_eq_ok {x : Except String Unit} : x.mapError some = .ok () ↔ x = .ok () := by
  cases x <;> simp [Except.mapError]

theorem admits_of_validate (h : validate v payload now = .ok ()) :
    v.Admits (payload.named registeredClaims) now ∧ (v.validateExp = true → unixEpoch ≤ now) := by
  simp only [validate, except_bind_eq_ok, ensure_eq_ok, mapError_eq_ok, checkAt] at h
  obtain ⟨_, hpresent, secs, hsecs, _, hexp, _, hnbf, _, hiss, haud⟩ := h
  have hclock : v.readsClock = true → unixEpoch ≤ now ∧ unixSecs now = secs :=
    fun hreads => (currentTimestamp_eq_ok hreads).mp hsecs
  have hreads : v.validateExp = true ∨ v.validateNbf = true → v.readsClock = true := by
    simp [Validation.readsClock]
  refine ⟨⟨fun name hname hregistered => isSome_of_present (hpresent name hname) hregistered, ?_, ?_, ?_, ?_⟩,
    fun hvalidates => (hclock (hreads (.inl hvalidates))).1⟩
  · intro hvalidates n hget
    obtain ⟨-, rfl⟩ := hclock (hreads (.inl hvalidates))
    simp only [hvalidates, Bool.not_true, Bool.false_or, hget, Option.all_some, Option.any_eq_true,
      decide_eq_true_eq] at hexp
    obtain ⟨date, hdate, hle⟩ := hexp
    obtain rfl := numericDate_eq_some hdate
    omega
  · intro hvalidates n hget
    obtain ⟨-, rfl⟩ := hclock (hreads (.inr hvalidates))
    simp only [hvalidates, Bool.not_true, Bool.false_or, hget, Option.all_some, Option.any_eq_true,
      decide_eq_true_eq] at hnbf
    obtain ⟨date, hdate, hle⟩ := hnbf
    obtain rfl := numericDate_eq_some hdate
    omega
  · intro correct hcorrect iss hget
    obtain hcorrect := Option.mem_def.mp hcorrect
    simpa [hcorrect, hget, strings] using hiss
  · intro hvalidates aud hget
    simpa [hvalidates, hget, strings, Option.any_eq_true] using haud

theorem readable_of_registers (h : payload.Registers) {name : String} (hname : name ∈ registeredClaims)
    {claim : Json} (hget : payload.get? name = some claim) : readable name claim = true := by
  have hdate : name ∈ ["exp", "nbf"] → (numericDate claim).isSome := by
    intro hname
    obtain ⟨n, rfl, hn⟩ := h.date name hname claim hget
    rw [numericDate_natCast hn]
    rfl
  have htext : name ∈ ["sub", "iss", "aud"] → ∃ s, claim = .str s := fun hname => h.text name hname claim hget
  simp only [registeredClaims, List.mem_cons, List.not_mem_nil, or_false] at hname
  obtain rfl | rfl | rfl | rfl | rfl := hname
  · exact hdate (by decide)
  · exact hdate (by decide)
  · obtain ⟨s, rfl⟩ := htext (by decide)
    rfl
  · obtain ⟨s, rfl⟩ := htext (by decide)
    rfl
  · obtain ⟨s, rfl⟩ := htext (by decide)
    rfl

theorem present_of_admits (h : payload.Registers) (hadmits : v.Admits payload now) {name : String}
    (hname : name ∈ v.requiredSpecClaims) : present payload name = true := by
  unfold present
  split_ifs with hregistered
  · obtain ⟨claim, hclaim⟩ := Option.isSome_iff_exists.mp (hadmits.required name hname hregistered)
    rw [hclaim]
    exact readable_of_registers h hregistered hclaim
  · rfl

theorem exists_currentTimestamp (hclock : v.readsClock = true → unixEpoch ≤ now) :
    ∃ secs, currentTimestamp v now = .ok secs ∧ (v.readsClock = true → secs = unixSecs now) := by
  by_cases hreads : v.readsClock = true
  · exact ⟨_, (currentTimestamp_eq_ok hreads).mpr ⟨hclock hreads, rfl⟩, fun _ => rfl⟩
  · exact ⟨0, by rw [currentTimestamp, if_neg hreads], fun h => absurd h hreads⟩

theorem checkAt_of_admits (h : payload.Registers) (hadmits : v.Admits payload now) {secs : ℕ}
    (hsecs : v.readsClock = true → secs = unixSecs now) : checkAt v payload secs = .ok () := by
  simp only [checkAt, except_bind_eq_ok, ensure_eq_ok]
  refine ⟨(), ?_, (), ?_, (), ?_, ?_⟩
  · cases hvalidates : v.validateExp with
    | false => rfl
    | true =>
      obtain rfl := hsecs (by simp [Validation.readsClock, hvalidates])
      refine all_date (h.date "exp" (by decide)) fun n hget => decide_eq_true ?_
      exact_mod_cast (hadmits.exp hvalidates n hget).2
  · cases hvalidates : v.validateNbf with
    | false => rfl
    | true =>
      obtain rfl := hsecs (by simp [Validation.readsClock, hvalidates])
      refine all_date (h.date "nbf" (by decide)) fun n hget => decide_eq_true ?_
      exact_mod_cast (hadmits.nbf hvalidates n hget).2
  · cases hissuers : v.iss with
    | none => rfl
    | some correct =>
      cases hget : payload.get? "iss" with
      | none => simp
      | some iss =>
        obtain ⟨s, rfl⟩ := h.text "iss" (by decide) iss hget
        simpa [strings] using hadmits.iss correct hissuers s hget
  · cases hvalidates : v.validateAud with
    | false => rfl
    | true =>
      cases hget : payload.get? "aud" with
      | none => simp
      | some aud =>
        obtain ⟨s, rfl⟩ := h.text "aud" (by decide) aud hget
        simpa [strings, Option.any_eq_true] using hadmits.aud hvalidates s hget

theorem validate_of_admits (h : payload.Registers) (hadmits : v.Admits payload now)
    (hclock : v.readsClock = true → unixEpoch ≤ now) : validate v payload now = .ok () := by
  obtain ⟨fields, rfl⟩ := h.object
  obtain ⟨secs, hsecs, htells⟩ := exists_currentTimestamp hclock
  simp only [validate, except_bind_eq_ok, ensure_eq_ok, mapError_eq_ok]
  exact ⟨(), fun _ hname => present_of_admits h hadmits hname, secs, hsecs,
    checkAt_of_admits h hadmits htells⟩

end

def claimsValidator : ClaimsValidator where
  validate
  Tells _ now := unixEpoch ≤ now
  epoch_of_tells := id
  tells_of_le h _ := h
  admits_of_validate := admits_of_validate
  validate_of_admits := validate_of_admits

end Ayane.Testca
