import Mathlib.Algebra.Order.Monoid.WithTop
import Mathlib.Algebra.Order.Ring.Nat
import Ayane.Lib.Effect
import Ayane.Lib.Lease
import Ayane.Storage.Sqlite
import Ayane.Storage.DynamoDb

/-!
# The storage behind the service

The trait `Storage` of `ayane/src/storage/mod.rs` over its two backends, and what an
operation can do to the claims a storage holds. A storage is read as a registry of
leases (`heldUntil`): the key of a claim is held until the second that the backend
wrote with it, and an item that carries no such second is held forever. A read is here
answered by a replica that has every write before it, which DynamoDB does not promise
(`consistentReads`): `Storage.Calls` says what becomes of the others.
-/

namespace Ayane

inductive Storage where
  | sqlite (db : SqliteStorage)
  | dynamodb (db : DynamoDbStorage)

namespace Storage

/-- Whether every read sees every write before it. A `GetItem` has to be asked for that. -/
def consistentReads : Storage → Bool
  | .sqlite _ => true
  | .dynamodb _ => false

def recordCertificate (record : CertificateRecord) : Storage → Result Unit × Storage
  | .sqlite db => (db.recordCertificate record).map id .sqlite
  | .dynamodb db => (db.recordCertificate record).map id .dynamodb

def getCertificate (serialNumber : String) : Storage → Result (Option CertificateRecord)
  | .sqlite db => .ok (db.getCertificate serialNumber)
  | .dynamodb db => db.getCertificate serialNumber

def revoke (record : RevocationRecord) : Storage → Storage
  | .sqlite db => .sqlite (db.revoke record)
  | .dynamodb db => .dynamodb (db.revoke record)

def getRevocation (serialNumber : String) : Storage → Result (Option RevocationRecord)
  | .sqlite db => .ok (db.getRevocation serialNumber)
  | .dynamodb db => db.getRevocation serialNumber

def listRevocations : Storage → Result (List RevocationRecord)
  | .sqlite db => .ok db.listRevocations
  | .dynamodb db => db.listRevocations

/-- What `claim_token` does before it touches the stored claims. -/
def prepareClaim (jti : String) (expiresAt now : SystemTime) : Storage → Outcome PendingClaim
  | .sqlite _ => (SqliteStorage.prepareClaim jti expiresAt now).orAbort
  | .dynamodb _ => DynamoDbStorage.prepareClaim jti expiresAt now

/-- The atomic step of `claim_token`. -/
def commitClaim (claim : PendingClaim) : Storage → Result Unit × Storage
  | .sqlite db => (db.commitClaim claim).map id .sqlite
  | .dynamodb db => (db.commitClaim claim).map id .dynamodb

def claimToken (jti : String) (expiresAt now : SystemTime) (s : Storage) :
    Outcome Unit × Storage :=
  match s.prepareClaim jti expiresAt now with
  | .error abort => (.error abort, s)
  | .ok claim => (s.commitClaim claim).map Result.orAbort id

def getCache (key : String) (now : SystemTime) : Storage → Result (Option Bytes) × Storage
  | .sqlite db => (db.getCache key now).map id .sqlite
  | .dynamodb db => (db.getCache key now, .dynamodb db)

def setCache (key : String) (value : Bytes) (expiresAt : SystemTime) :
    Storage → Result Unit × Storage
  | .sqlite db => (db.setCache key value expiresAt).map id .sqlite
  | .dynamodb db => (db.setCache key value expiresAt).map id .dynamodb

/-- DynamoDB deletes expired items itself, so there is nothing to do for it. -/
def reapExpired (now : SystemTime) : Storage → Result ℕ × Storage
  | .sqlite db => (db.reapExpired now).map id .sqlite
  | .dynamodb db => (.ok 0, .dynamodb db)

/-- The deletions that a backend makes by itself. -/
def sweep (chosen : String × String → Bool) (now : ℕ) : Storage → Storage
  | .sqlite db => .sqlite db
  | .dynamodb db => .dynamodb (db.sweep chosen now)

end Storage

/-! ## Claims as leases -/

/-- The second until which an item is kept. -/
def Item.leaseEnd (item : Item) : WithTop ℕ :=
  match item.ttl with
  | some ttl => ttl
  | none => ⊤

theorem Item.lapsed_iff (item : Item) (now : ℕ) :
    item.lapsed now = true ↔ item.leaseEnd ≤ (now : WithTop ℕ) := by
  unfold Item.lapsed Item.leaseEnd
  cases item.ttl with
  | none => simp
  | some ttl =>
    rw [decide_eq_true_iff]
    exact WithTop.coe_le_coe.symm

namespace DynamoDbStorage

theorem tokenKey_inj {jti jti' : String} : tokenKey jti = tokenKey jti' ↔ jti = jti' := by
  simp [tokenKey, tokenPk]

theorem tokenKey_ne_of_sk (jti pk : String) {sk : String} (h : tokenType ≠ sk) :
    tokenKey jti ≠ (pk, sk) :=
  key_ne_of_sk h

end DynamoDbStorage

namespace Storage

/-- The second until which the claim of `jti` is held. -/
def heldUntil : Storage → Lease.Held String (WithTop ℕ)
  | .sqlite db => fun jti => (db.tokens.lookup jti).map WithTop.some
  | .dynamodb db => fun jti => (db.items.lookup (DynamoDbStorage.tokenKey jti)).map Item.leaseEnd

/-- A claim of `jti` can be committed at the second `now`. -/
abbrev Claimable (s : Storage) (now : ℕ) (jti : String) : Prop :=
  Lease.Free s.heldUntil (now : WithTop ℕ) jti

/-- From `s` at the instant `t` to `s'` at the instant `t'`, every claim is kept to its end. -/
abbrev Evolves (s s' : Storage) (t t' : SystemTime) : Prop :=
  Lease.Evolves s.heldUntil s'.heldUntil (unixSecs t : WithTop ℕ) (unixSecs t' : WithTop ℕ)

theorem claimable_sqlite {db : SqliteStorage} {now : ℕ} {jti : String} :
    (Storage.sqlite db).Claimable now jti ↔
      ∀ expiresAt, db.tokens.lookup jti = some expiresAt → expiresAt ≤ now := by
  simp only [Claimable, Lease.Free, heldUntil, Option.map_eq_some_iff, forall_exists_index, and_imp]
  constructor
  · intro h expiresAt hrow
    exact WithTop.coe_le_coe.mp (h _ expiresAt hrow rfl)
  · rintro h _ expiresAt hrow rfl
    exact WithTop.coe_le_coe.mpr (h expiresAt hrow)

theorem claimable_dynamodb {db : DynamoDbStorage} {now : ℕ} {jti : String} :
    (Storage.dynamodb db).Claimable now jti ↔
      ∀ item, db.items.lookup (DynamoDbStorage.tokenKey jti) = some item →
        item.lapsed now = true := by
  simp only [Claimable, Lease.Free, heldUntil, Option.map_eq_some_iff, forall_exists_index, and_imp,
    Item.lapsed_iff]
  constructor
  · intro h item hitem
    exact h _ item hitem rfl
  · rintro h _ item hitem rfl
    exact h item hitem

/-- Committing a claim of a free key succeeds and holds the key, and nothing else changes hands. -/
theorem commitClaim_of_claimable {s : Storage} {claim : PendingClaim}
    (h : s.Claimable claim.now claim.jti) :
    ∃ s', s.commitClaim claim = (.ok (), s') ∧
      s'.heldUntil = Function.update s.heldUntil claim.jti (some ↑claim.expiresAt) := by
  cases s with
  | sqlite db =>
    have hok := SqliteStorage.commitClaim_of_none
      (SqliteStorage.lookup_reclaim_eq_none.mpr (claimable_sqlite.mp h))
    refine ⟨.sqlite _, congrArg (Prod.map id Storage.sqlite) hok, ?_⟩
    funext jti
    by_cases hjti : jti = claim.jti
    · subst hjti
      simp only [heldUntil, AList.lookup_insert, Function.update_self]
      rfl
    · simp only [heldUntil, AList.lookup_insert_ne hjti, Function.update_of_ne hjti,
        SqliteStorage.lookup_reclaim_of_ne _ _ hjti]
  | dynamodb db =>
    have hok : db.commitClaim claim = (.ok (), { db with
        items := db.items.insert (DynamoDbStorage.tokenKey claim.jti) (.token claim.expiresAt) }) := by
      unfold DynamoDbStorage.commitClaim
      cases hitem : db.items.lookup (DynamoDbStorage.tokenKey claim.jti) with
      | none => rfl
      | some item => exact if_pos (claimable_dynamodb.mp h item hitem)
    refine ⟨.dynamodb _, congrArg (Prod.map id Storage.dynamodb) hok, ?_⟩
    funext jti
    by_cases hjti : jti = claim.jti
    · subst hjti
      simp only [heldUntil, AList.lookup_insert, Function.update_self]
      rfl
    · have hkey : DynamoDbStorage.tokenKey jti ≠ DynamoDbStorage.tokenKey claim.jti :=
        fun heq => hjti (DynamoDbStorage.tokenKey_inj.mp heq)
      simp only [heldUntil, AList.lookup_insert_ne hkey, Function.update_of_ne hjti]

/-- Committing a claim of a held key fails and changes nothing. -/
theorem commitClaim_of_held {s : Storage} {claim : PendingClaim}
    (h : ¬s.Claimable claim.now claim.jti) :
    s.commitClaim claim = (.error (alreadyClaimed claim.jti), s) := by
  cases s with
  | sqlite db =>
    rw [claimable_sqlite, ← SqliteStorage.lookup_reclaim_eq_none] at h
    exact congrArg (Prod.map id Storage.sqlite) (SqliteStorage.commitClaim_of_ne_none h)
  | dynamodb db =>
    rw [claimable_dynamodb] at h
    push Not at h
    obtain ⟨item, hitem, hlapsed⟩ := h
    have herror : db.commitClaim claim = (.error (alreadyClaimed claim.jti), db) := by
      simp [DynamoDbStorage.commitClaim, hitem, hlapsed]
    exact congrArg (Prod.map id Storage.dynamodb) herror

theorem commitClaim_eq_ok {s : Storage} {claim : PendingClaim} :
    (s.commitClaim claim).1 = .ok () ↔ s.Claimable claim.now claim.jti := by
  by_cases h : s.Claimable claim.now claim.jti
  · obtain ⟨s', hs', -⟩ := commitClaim_of_claimable h
    simp [hs', h]
  · simp [commitClaim_of_held h, h]

/-! ## What the other operations leave alone -/

@[simp] theorem heldUntil_recordCertificate (record : CertificateRecord) (s : Storage) :
    (s.recordCertificate record).2.heldUntil = s.heldUntil := by
  cases s with
  | sqlite db =>
    simp only [recordCertificate, SqliteStorage.recordCertificate]
    split <;> rfl
  | dynamodb db =>
    funext jti
    exact congrArg (Option.map Item.leaseEnd)
      (db.lookup_recordCertificate record fun cn => (DynamoDbStorage.certificateSk_ne cn).1.symm)

@[simp] theorem heldUntil_revoke (record : RevocationRecord) (s : Storage) :
    (s.revoke record).heldUntil = s.heldUntil := by
  cases s with
  | sqlite db => rfl
  | dynamodb db =>
    funext jti
    exact congrArg (Option.map Item.leaseEnd)
      (db.lookup_revoke record (DynamoDbStorage.tokenKey_ne_of_sk jti _ (by decide)))

@[simp] theorem heldUntil_getCache (key : String) (now : SystemTime) (s : Storage) :
    (s.getCache key now).2.heldUntil = s.heldUntil := by
  cases s with
  | sqlite db =>
    simp only [getCache, SqliteStorage.getCache]
    split <;> rfl
  | dynamodb db => rfl

@[simp] theorem heldUntil_setCache (key : String) (value : Bytes) (expiresAt : SystemTime)
    (s : Storage) : (s.setCache key value expiresAt).2.heldUntil = s.heldUntil := by
  cases s with
  | sqlite db =>
    simp only [setCache, SqliteStorage.setCache]
    split <;> rfl
  | dynamodb db =>
    funext jti
    exact congrArg (Option.map Item.leaseEnd)
      (db.lookup_setCache value expiresAt (DynamoDbStorage.tokenKey_ne_of_sk jti _ (by decide)))

/-! ## How the operations evolve the claims -/

/-- The reaper deletes claims whose second has come. -/
theorem expires_reapExpired (s : Storage) {now t : SystemTime} (hnow : now ≤ t) :
    Lease.Expires s.heldUntil (s.reapExpired now).2.heldUntil (unixSecs t : WithTop ℕ) := by
  intro jti
  cases s with
  | sqlite db =>
    simp only [reapExpired, SqliteStorage.reapExpired, SqliteStorage.unixSecs]
    cases hsecs : secsSinceEpoch now with
    | none => exact .inl rfl
    | some n =>
      obtain ⟨-, rfl⟩ := secsSinceEpoch_eq_some.mp hsecs
      cases hrow : db.tokens.lookup jti with
      | none => exact .inl (by simp [heldUntil, hrow])
      | some expiresAt =>
        by_cases hend : expiresAt ≤ unixSecs now
        · refine .inr ⟨by simp [heldUntil, hrow, hend], ?_⟩
          refine (Lease.free_iff_of_some (by simp [heldUntil, hrow]; rfl)).mpr ?_
          exact WithTop.coe_le_coe.mpr (hend.trans (unixSecs_mono hnow))
        · exact .inl (by simp [heldUntil, hrow, not_le.mp hend])
  | dynamodb db => exact .inl rfl

/-- The service deletes items whose `ttl` has come. -/
theorem expires_sweep (s : Storage) (chosen : String × String → Bool) (now : ℕ) :
    Lease.Expires s.heldUntil (s.sweep chosen now).heldUntil (now : WithTop ℕ) := by
  intro jti
  cases s with
  | sqlite db => exact .inl rfl
  | dynamodb db =>
    simp only [sweep, DynamoDbStorage.sweep, heldUntil, Table.lookup_deleteWhere]
    cases hitem : db.items.lookup (DynamoDbStorage.tokenKey jti) with
    | none => exact .inl rfl
    | some item =>
      cases hdrop : chosen (DynamoDbStorage.tokenKey jti) && item.lapsed now with
      | true =>
        refine .inr ⟨by simpa using hdrop, ?_⟩
        refine (Lease.free_iff_of_some (by simp [hitem]; rfl)).mpr ?_
        exact (item.lapsed_iff now).mp (Bool.and_eq_true_iff.mp hdrop).2
      | false => exact .inl (by simpa [Bool.and_eq_false_iff] using Bool.and_eq_false_iff.mp hdrop)

/-- What happens to a storage at the instant `t` besides claims. An operation that reads the
clock may have read it earlier. -/
inductive Upkeep (t : SystemTime) (s : Storage) : Storage → Prop where
  | getCache (key : String) {now : SystemTime} (h : now ≤ t) : Upkeep t s (s.getCache key now).2
  | setCache (key : String) (value : Bytes) (expiresAt : SystemTime) :
      Upkeep t s (s.setCache key value expiresAt).2
  | reapExpired {now : SystemTime} (h : now ≤ t) : Upkeep t s (s.reapExpired now).2
  | sweep (chosen : String × String → Bool) : Upkeep t s (s.sweep chosen (unixSecs t))
  | recordCertificate (record : CertificateRecord) : Upkeep t s (s.recordCertificate record).2
  | revoke (record : RevocationRecord) : Upkeep t s (s.revoke record)

/-- Upkeep drops claims that have ended and does nothing else to them. -/
theorem Upkeep.expires {t : SystemTime} {s s' : Storage} (h : Upkeep t s s') :
    Lease.Expires s.heldUntil s'.heldUntil (unixSecs t : WithTop ℕ) := by
  cases h with
  | getCache key hnow =>
    rw [heldUntil_getCache]
    exact .refl _ _
  | setCache key value expiresAt =>
    rw [heldUntil_setCache]
    exact .refl _ _
  | reapExpired hnow => exact s.expires_reapExpired hnow
  | sweep chosen => exact s.expires_sweep chosen _
  | recordCertificate record =>
    rw [heldUntil_recordCertificate]
    exact .refl _ _
  | revoke record =>
    rw [heldUntil_revoke]
    exact .refl _ _

theorem Upkeep.evolves {s s' : Storage} {t t' : SystemTime} (h : Upkeep t' s s') (ht : t ≤ t') :
    s.Evolves s' t t' :=
  h.expires.evolves (WithTop.coe_le_coe.mpr (unixSecs_mono ht))

/-- A commit with a clock that was read at `now` or before. -/
theorem evolves_commitClaim (s : Storage) {claim : PendingClaim} {t t' : SystemTime} (ht : t ≤ t')
    (hnow : claim.now ≤ unixSecs t') : s.Evolves (s.commitClaim claim).2 t t' := by
  have hclock := WithTop.coe_le_coe.mpr (unixSecs_mono ht)
  by_cases h : s.Claimable claim.now claim.jti
  · obtain ⟨s', hs', hheld⟩ := commitClaim_of_claimable h
    rw [hs', Evolves, hheld]
    exact (h.mono (WithTop.coe_le_coe.mpr hnow)).evolves_update hclock _
  · rw [commitClaim_of_held h]
    exact .wait _ hclock

/-! ## Claiming a key -/

/-- A prepared claim is for the key that was asked for, at the clock that was read, and ends
no earlier than it was asked to. -/
theorem of_prepareClaim {s : Storage} {jti : String} {expiresAt now : SystemTime}
    {claim : PendingClaim} (h : s.prepareClaim jti expiresAt now = .ok claim) :
    claim.jti = jti ∧ claim.now = unixSecs now ∧ unixSecs expiresAt ≤ claim.expiresAt := by
  cases s with
  | sqlite db =>
    obtain ⟨-, -, rfl⟩ := SqliteStorage.prepareClaim_eq_ok.mp ((Result.orAbort_eq_ok _ _).mp h)
    exact ⟨rfl, rfl, le_rfl⟩
  | dynamodb db =>
    obtain ⟨padded, hpadded, h⟩ := Effect.except_bind_eq_ok.mp h
    have hle : expiresAt ≤ padded := by
      rw [SystemTime.le_def, SystemTime.plus_eq_ok.mp hpadded]
      omega
    cases hsecs : secsSinceEpoch padded with
    | none => simp [hsecs] at h
    | some ttl =>
      simp only [hsecs, Except.ok.injEq] at h
      subst h
      obtain ⟨-, rfl⟩ := secsSinceEpoch_eq_some.mp hsecs
      exact ⟨rfl, rfl, unixSecs_mono hle⟩

/-- Claims are prepared from the epoch on, when the expiry and its buffer fit an instant. -/
theorem exists_prepareClaim (s : Storage) (jti : String) {expiresAt now : SystemTime}
    (hnow : unixEpoch ≤ now) (hexp : unixEpoch ≤ expiresAt)
    (hfits : expiresAt.nanos + fromSecs 3600 < timeLimit) :
    ∃ claim, s.prepareClaim jti expiresAt now = .ok claim := by
  cases s with
  | sqlite db =>
    exact ⟨_, (Result.orAbort_eq_ok _ _).mpr (SqliteStorage.prepareClaim_eq_ok.mpr ⟨hexp, hnow, rfl⟩)⟩
  | dynamodb db => exact ⟨_, (DynamoDbStorage.prepareClaim_eq_ok hexp).mpr ⟨hfits, rfl⟩⟩

theorem heldUntil_commitClaim {s : Storage} {claim : PendingClaim}
    (h : s.Claimable claim.now claim.jti) :
    (s.commitClaim claim).2.heldUntil =
      Function.update s.heldUntil claim.jti (some ↑claim.expiresAt) := by
  obtain ⟨s', hs', hheld⟩ := commitClaim_of_claimable h
  rw [hs', hheld]

theorem claimToken_of_claimable {s : Storage} {jti : String} {expiresAt now : SystemTime}
    {claim : PendingClaim} (hclaim : s.prepareClaim jti expiresAt now = .ok claim)
    (h : s.Claimable claim.now jti) :
    s.claimToken jti expiresAt now = (.ok (), (s.commitClaim claim).2) := by
  obtain ⟨rfl, -, -⟩ := of_prepareClaim hclaim
  simp only [claimToken, hclaim]
  ext
  · simp [commitClaim_eq_ok.mpr h]
  · rfl

theorem heldUntil_claimToken {s : Storage} {jti : String} {expiresAt now : SystemTime}
    {claim : PendingClaim} (hclaim : s.prepareClaim jti expiresAt now = .ok claim)
    (h : s.Claimable claim.now jti) :
    (s.claimToken jti expiresAt now).2.heldUntil =
      Function.update s.heldUntil jti (some ↑claim.expiresAt) := by
  obtain ⟨rfl, -, -⟩ := of_prepareClaim hclaim
  rw [claimToken_of_claimable hclaim h]
  exact heldUntil_commitClaim h

theorem claimToken_of_held {s : Storage} {jti : String} {expiresAt now : SystemTime}
    {claim : PendingClaim} (hclaim : s.prepareClaim jti expiresAt now = .ok claim)
    (h : ¬s.Claimable claim.now jti) :
    s.claimToken jti expiresAt now = (.error (.error (alreadyClaimed jti)), s) := by
  obtain ⟨rfl, -, -⟩ := of_prepareClaim hclaim
  simp [claimToken, hclaim, commitClaim_of_held h, Result.orAbort]

theorem claimToken_of_unprepared {s : Storage} {jti : String} {expiresAt now : SystemTime}
    {abort : Abort} (h : s.prepareClaim jti expiresAt now = .error abort) :
    s.claimToken jti expiresAt now = (.error abort, s) := by
  simp only [claimToken, h]

theorem claimToken_eq_ok {s : Storage} {jti : String} {expiresAt now : SystemTime} :
    (s.claimToken jti expiresAt now).1 = .ok () ↔
      ∃ claim, s.prepareClaim jti expiresAt now = .ok claim ∧ s.Claimable claim.now jti := by
  cases hclaim : s.prepareClaim jti expiresAt now with
  | error abort => simp [claimToken_of_unprepared hclaim]
  | ok claim =>
    by_cases h : s.Claimable claim.now jti
    · simp [claimToken_of_claimable hclaim h, h]
    · simp [claimToken_of_held hclaim h, h]

/-- A claim that fails leaves the storage as it was. -/
theorem claimToken_of_ne_ok {s : Storage} {jti : String} {expiresAt now : SystemTime}
    (h : (s.claimToken jti expiresAt now).1 ≠ .ok ()) : (s.claimToken jti expiresAt now).2 = s := by
  cases hclaim : s.prepareClaim jti expiresAt now with
  | error abort => rw [claimToken_of_unprepared hclaim]
  | ok claim =>
    by_cases hfree : s.Claimable claim.now jti
    · exact absurd (claimToken_eq_ok.mpr ⟨claim, hclaim, hfree⟩) h
    · rw [claimToken_of_held hclaim hfree]

theorem claimToken_sqlite (db : SqliteStorage) (jti : String) (expiresAt now : SystemTime) :
    (Storage.sqlite db).claimToken jti expiresAt now =
      (db.claimToken jti expiresAt now).map id .sqlite := by
  simp only [claimToken, prepareClaim, SqliteStorage.claimToken]
  cases SqliteStorage.prepareClaim jti expiresAt now <;> rfl

theorem claimToken_dynamodb (db : DynamoDbStorage) (jti : String) (expiresAt now : SystemTime) :
    (Storage.dynamodb db).claimToken jti expiresAt now =
      (db.claimToken jti expiresAt now).map id .dynamodb := by
  simp only [claimToken, prepareClaim, DynamoDbStorage.claimToken]
  cases DynamoDbStorage.prepareClaim jti expiresAt now <;> rfl

theorem evolves_claimToken (s : Storage) (jti : String) (expiresAt : SystemTime)
    {now t t' : SystemTime} (ht : t ≤ t') (hnow : now ≤ t') :
    s.Evolves (s.claimToken jti expiresAt now).2 t t' := by
  unfold claimToken
  cases hclaim : s.prepareClaim jti expiresAt now with
  | error abort => exact Lease.Evolves.wait _ (WithTop.coe_le_coe.mpr (unixSecs_mono ht))
  | ok claim =>
    refine evolves_commitClaim s ht ?_
    rw [(of_prepareClaim hclaim).2.1]
    exact unixSecs_mono hnow

end Storage

end Ayane
