import Mathlib.Algebra.Order.Monoid.WithTop
import Mathlib.Algebra.Order.Ring.Nat
import Mathlib.Tactic.Tauto
import Ayane.Lib.Run
import Ayane.Storage

/-!
# The two backends on one history

The same calls of `claim_token` are made on a SQLite database and on a DynamoDB table,
both empty at first, while the reaper cleans the one and the service deletes from the
other. DynamoDB writes a claim with an hour added to its expiry and hands the key out
again only after that hour, so the backends part for a call that comes within it.
-/

namespace Ayane

/-- One database and one table that get the same calls. -/
structure Backends where
  sqlite : SqliteStorage := {}
  dynamodb : DynamoDbStorage := {}

namespace Backends

inductive Event where
  | claim (jti : String) (expiresAt now : SystemTime)
  | reap (now : SystemTime)
  | sweep (chosen : String × String → Bool) (now : SystemTime)

def Event.now : Event → SystemTime
  | .claim _ _ now | .reap now | .sweep _ now => now

/-- The expiry of a claim lies at or after the epoch. -/
def Event.FromEpoch : Event → Prop
  | .claim _ expiresAt _ => unixEpoch ≤ expiresAt
  | .reap _ | .sweep _ _ => True

def after (b : Backends) : Event → Backends
  | .claim jti expiresAt now => {
      sqlite := (b.sqlite.claimToken jti expiresAt now).2
      dynamodb := (b.dynamodb.claimToken jti expiresAt now).2 }
  | .reap now => { b with sqlite := (b.sqlite.reapExpired now).2 }
  | .sweep chosen now => { b with dynamodb := b.dynamodb.sweep chosen (unixSecs now) }

/-- A call returns `Ok` on one backend exactly when it does on the other. -/
def Agree (b : Backends) : Event → Prop
  | .claim jti expiresAt now =>
    (b.sqlite.claimToken jti expiresAt now).1 = .ok () ↔
      (b.dynamodb.claimToken jti expiresAt now).1 = .ok ()
  | .reap _ | .sweep _ _ => True

/-- The leases of the table, each with its hour. -/
def retained (b : Backends) : Lease.Held String (WithTop ℕ) := (Storage.dynamodb b.dynamodb).heldUntil

/-- A call does not come in the last hour for which the table retains its key; and a call for a
key that the table does not retain has a clock that SQLite can read exactly when it has an
expiry that DynamoDB can write. -/
def Settled (b : Backends) : Event → Prop
  | .claim jti expiresAt now =>
    (unixEpoch ≤ now → ∀ u, b.retained jti = some u →
      (unixSecs now : WithTop ℕ) < u → (unixSecs now + 3600 : WithTop ℕ) < u) ∧
    (Lease.Free b.retained (unixSecs now : WithTop ℕ) jti →
      (unixEpoch ≤ now ↔ expiresAt.nanos + DynamoDbStorage.ttlBuffer < timeLimit))
  | .reap _ | .sweep _ _ => True

/-- At the second `now`, the leases that last are on the same keys, an hour longer on DynamoDB. -/
def Mirrors (b : Backends) (now : ℕ) : Prop :=
  ∀ jti (u : WithTop ℕ), (now : WithTop ℕ) < u →
    ((Storage.sqlite b.sqlite).heldUntil jti = some u ↔ b.retained jti = some (u + 3600))

section

variable {b : Backends} {now : ℕ} {jti : String}

theorem Mirrors.mono (h : b.Mirrors now) {now' : ℕ} (hnow : now ≤ now') : b.Mirrors now' :=
  fun jti u hu => h jti u ((WithTop.coe_le_coe.mpr hnow).trans_lt hu)

/-- A key is free on SQLite as soon as only its hour is left on DynamoDB. -/
theorem Mirrors.free_iff (h : b.Mirrors now) :
    (Storage.sqlite b.sqlite).Claimable now jti ↔ Lease.Free b.retained (now + 3600 : WithTop ℕ) jti := by
  constructor
  · intro hfree u hu
    by_contra hlate
    -- what is retained beyond the hour is a lease of SQLite with its hour
    obtain ⟨v, rfl⟩ : ∃ v : WithTop ℕ, u = v + 3600 := by
      have hhour : (3600 : WithTop ℕ) ≤ u := le_add_self.trans (not_le.mp hlate).le
      exact ⟨_, (exists_add_of_le hhour).choose_spec.trans (add_comm _ _)⟩
    have hlast : (now : WithTop ℕ) < v := lt_of_add_lt_add_right (not_le.mp hlate)
    exact absurd (hfree v ((h jti v hlast).mpr hu)) (not_le.mpr hlast)
  · intro hfree u hu
    by_contra hlate
    have hretained := (h jti u (not_le.mp hlate)).mp hu
    exact hlate ((WithTop.add_le_add_iff_right (by decide)).mp (hfree _ hretained))

theorem sqlite_claims_iff {expiresAt now : SystemTime} (h : b.Mirrors (unixSecs now))
    (hepoch : unixEpoch ≤ expiresAt) :
    (b.sqlite.claimToken jti expiresAt now).1 = .ok () ↔
      unixEpoch ≤ now ∧ Lease.Free b.retained (unixSecs now + 3600 : WithTop ℕ) jti := by
  have hstorage : (b.sqlite.claimToken jti expiresAt now).1 =
      ((Storage.sqlite b.sqlite).claimToken jti expiresAt now).1 := by
    rw [Storage.claimToken_sqlite]
    rfl
  rw [hstorage, Storage.claimToken_eq_ok, ← h.free_iff]
  simp only [Storage.prepareClaim, Result.orAbort_eq_ok, SqliteStorage.prepareClaim_eq_ok]
  constructor
  · rintro ⟨claim, ⟨-, hnow, rfl⟩, hfree⟩
    exact ⟨hnow, hfree⟩
  · rintro ⟨hnow, hfree⟩
    exact ⟨_, ⟨hepoch, hnow, rfl⟩, hfree⟩

theorem dynamodb_claims_iff {expiresAt now : SystemTime} (hepoch : unixEpoch ≤ expiresAt) :
    (b.dynamodb.claimToken jti expiresAt now).1 = .ok () ↔
      expiresAt.nanos + DynamoDbStorage.ttlBuffer < timeLimit ∧
        Lease.Free b.retained (unixSecs now : WithTop ℕ) jti := by
  have hstorage : (b.dynamodb.claimToken jti expiresAt now).1 =
      ((Storage.dynamodb b.dynamodb).claimToken jti expiresAt now).1 := by
    rw [Storage.claimToken_dynamodb]
    rfl
  rw [hstorage, Storage.claimToken_eq_ok]
  simp only [Storage.prepareClaim, DynamoDbStorage.prepareClaim_eq_ok hepoch]
  constructor
  · rintro ⟨claim, ⟨hfits, rfl⟩, hfree⟩
    exact ⟨hfits, hfree⟩
  · rintro ⟨hfits, hfree⟩
    exact ⟨_, ⟨hfits, rfl⟩, hfree⟩

/-- While the backends mirror each other, a call is answered alike exactly when it is settled. -/
theorem agree_iff_settled {e : Event} (h : b.Mirrors (unixSecs e.now)) (hepoch : e.FromEpoch) :
    b.Agree e ↔ b.Settled e := by
  cases e with
  | claim jti expiresAt now =>
    replace h : b.Mirrors (unixSecs now) := h
    replace hepoch : unixEpoch ≤ expiresAt := hepoch
    have hhour : Lease.Free b.retained (unixSecs now : WithTop ℕ) jti →
        Lease.Free b.retained (unixSecs now + 3600 : WithTop ℕ) jti := fun hfree =>
      hfree.mono le_self_add
    have hlinger : (∀ u, b.retained jti = some u →
        (unixSecs now : WithTop ℕ) < u → (unixSecs now + 3600 : WithTop ℕ) < u) ↔
        (Lease.Free b.retained (unixSecs now + 3600 : WithTop ℕ) jti →
          Lease.Free b.retained (unixSecs now : WithTop ℕ) jti) := by
      constructor
      · intro hsettled hfree u hu
        by_contra hlate
        exact absurd (hsettled u hu (not_le.mp hlate)) (not_lt.mpr (hfree u hu))
      · intro hfree u hu hlate
        by_contra hended
        have := hfree fun v hv => (Option.some.inj (hv.symm.trans hu)) ▸ not_lt.mp hended
        exact absurd (this u hu) (not_le.mpr hlate)
    simp only [Agree, Settled, sqlite_claims_iff h hepoch, dynamodb_claims_iff hepoch, hlinger]
    tauto
  | reap now => exact Iff.rfl
  | sweep chosen now => exact Iff.rfl

theorem mirrors_start (now : ℕ) : Mirrors {} now := by
  intro jti u _
  constructor
  · intro hu
    cases hu
  · intro hu
    cases hu

/-- What the two claims of an agreed call leave behind. -/
theorem Mirrors.after_claim {expiresAt now : SystemTime} (h : b.Mirrors (unixSecs now))
    (hepoch : unixEpoch ≤ expiresAt) (hagree : b.Agree (.claim jti expiresAt now)) :
    (b.after (.claim jti expiresAt now)).Mirrors (unixSecs now) := by
  have hsqlite : Storage.sqlite (b.sqlite.claimToken jti expiresAt now).2 =
      ((Storage.sqlite b.sqlite).claimToken jti expiresAt now).2 := by
    rw [Storage.claimToken_sqlite]
    rfl
  have hdynamodb : Storage.dynamodb (b.dynamodb.claimToken jti expiresAt now).2 =
      ((Storage.dynamodb b.dynamodb).claimToken jti expiresAt now).2 := by
    rw [Storage.claimToken_dynamodb]
    rfl
  intro k u hu
  simp only [after, retained, hsqlite, hdynamodb]
  by_cases hok : (b.sqlite.claimToken jti expiresAt now).1 = .ok ()
  · have hok' := hagree.mp hok
    obtain ⟨hnow, hfree⟩ := (sqlite_claims_iff h hepoch).mp hok
    obtain ⟨hfits, hfree'⟩ := (dynamodb_claims_iff hepoch).mp hok'
    rw [← h.free_iff] at hfree
    have hclaim : (Storage.sqlite b.sqlite).prepareClaim jti expiresAt now = .ok _ :=
      (Result.orAbort_eq_ok _ _).mpr (SqliteStorage.prepareClaim_eq_ok.mpr ⟨hepoch, hnow, rfl⟩)
    have hclaim' : (Storage.dynamodb b.dynamodb).prepareClaim jti expiresAt now = .ok _ :=
      (DynamoDbStorage.prepareClaim_eq_ok hepoch).mpr ⟨hfits, rfl⟩
    rw [Storage.heldUntil_claimToken hclaim hfree, Storage.heldUntil_claimToken hclaim' hfree']
    by_cases hk : k = jti
    · subst hk
      have hhour : (3600 : WithTop ℕ) ≠ ⊤ := WithTop.natCast_ne_top 3600
      simp only [Function.update_self, Option.some.injEq]
      exact (WithTop.add_right_inj hhour).symm
    · simp only [Function.update_of_ne hk]
      exact h k u hu
  · have hok' := fun hd => hok (hagree.mpr hd)
    have hstay : ((Storage.sqlite b.sqlite).claimToken jti expiresAt now).2 = .sqlite b.sqlite := by
      refine Storage.claimToken_of_ne_ok fun hs => hok ?_
      rw [Storage.claimToken_sqlite] at hs
      exact hs
    have hstay' : ((Storage.dynamodb b.dynamodb).claimToken jti expiresAt now).2 =
        .dynamodb b.dynamodb := by
      refine Storage.claimToken_of_ne_ok fun hd => hok' ?_
      rw [Storage.claimToken_dynamodb] at hd
      exact hd
    rw [hstay, hstay']
    exact h k u hu

/-- An event that is answered alike leaves backends that mirror each other. -/
theorem Mirrors.after {e : Event} (h : b.Mirrors (unixSecs e.now)) (hepoch : e.FromEpoch)
    (hagree : b.Agree e) : (b.after e).Mirrors (unixSecs e.now) := by
  cases e with
  | claim jti expiresAt now => exact Mirrors.after_claim h hepoch hagree
  | reap now =>
    intro jti u hu
    have hreap := Storage.expires_reapExpired (.sqlite b.sqlite) (le_refl now)
    exact (hreap.held_iff (not_le.mpr hu)).trans (h jti u hu)
  | sweep chosen now =>
    intro jti u hu
    have hsweep := Storage.expires_sweep (.dynamodb b.dynamodb) chosen (unixSecs now)
    have hlate : (unixSecs now : WithTop ℕ) < u + 3600 := hu.trans_le le_self_add
    exact (h jti u hu).trans (hsweep.held_iff (not_le.mpr hlate)).symm

end

/-- Calls at times that do not decrease, with expiries from the epoch on, are answered alike by the
two backends exactly when each is settled. -/
theorem claims_agree_iff {history : List Event}
    (hsorted : history.Pairwise fun e e' => e.now ≤ e'.now) (hepoch : ∀ e ∈ history, e.FromEpoch) :
    Runs.Along after Agree {} history ↔ Runs.Along after Settled {} history := by
  let Inv (b : Backends) (es : List Event) : Prop :=
    es.Pairwise (fun e e' => e.now ≤ e'.now) ∧
      ∀ e ∈ es, e.FromEpoch ∧ b.Mirrors (unixSecs e.now)
  have hstart : Inv {} history := ⟨hsorted, fun e he => ⟨hepoch e he, mirrors_start _⟩⟩
  refine Runs.along_iff Inv hstart ?_ ?_
  · rintro b e es ⟨-, hall⟩
    obtain ⟨hfrom, hmirrors⟩ := hall e List.mem_cons_self
    exact agree_iff_settled hmirrors hfrom
  · rintro b e es ⟨hpairs, hall⟩ hagree
    obtain ⟨hfirst, hrest⟩ := List.pairwise_cons.mp hpairs
    obtain ⟨hfrom, hmirrors⟩ := hall e List.mem_cons_self
    have hafter := hmirrors.after hfrom hagree
    refine ⟨hrest, fun e' he' => ⟨(hall e' (List.mem_cons_of_mem _ he')).1, ?_⟩⟩
    exact hafter.mono (unixSecs_mono (hfirst e' he'))

/-- A key that is claimed until the second 1300 and asked for again a hundred seconds before. -/
theorem claims_agree_iff_held :
    Runs.Along after Agree {} [.claim "a" (systemTimeFromEpoch 1300) (systemTimeFromEpoch 1000),
        .claim "a" (systemTimeFromEpoch 1500) (systemTimeFromEpoch 1200)] ↔
      Runs.Along after Settled {} [.claim "a" (systemTimeFromEpoch 1300) (systemTimeFromEpoch 1000),
        .claim "a" (systemTimeFromEpoch 1500) (systemTimeFromEpoch 1200)] := by
  refine claims_agree_iff ?_ ?_
  · simp only [Event.now, List.pairwise_cons, List.mem_singleton, forall_eq, SystemTime.le_def,
      List.not_mem_nil, false_imp_iff, implies_true, List.Pairwise.nil, and_true]
    decide
  · intro e he
    simp only [List.mem_cons, List.not_mem_nil, or_false] at he
    obtain rfl | rfl := he <;> exact unixEpoch_le_systemTimeFromEpoch _

/-- A key that is claimed until the second 1300 and asked for again at the second 1400 is handed out
by SQLite only. -/
theorem claims_disagree :
    ¬Runs.Along after Agree {} [.claim "a" (systemTimeFromEpoch 1300) (systemTimeFromEpoch 1000),
      .claim "a" (systemTimeFromEpoch 1600) (systemTimeFromEpoch 1400)] := by
  rintro ⟨-, hagree, -⟩
  have hrefused := hagree.mp rfl
  cases hrefused

end Backends

end Ayane
