import Ayane.Lib.Expiring
import Ayane.Lib.Memo
import Ayane.Storage

/-!
# Cached values

The value that a storage keeps under a key of its cache, with the second it expires.
Reading, claiming and recording put no value there; an entry is written by setting it and
leaves once it has expired.
-/

namespace Ayane

def DynamoDbStorage.cacheKey (key : String) : String × String := (cachePk key, cacheType)

theorem DynamoDbStorage.cacheKey_inj {key key' : String} : cacheKey key = cacheKey key' ↔ key = key' := by
  simp [cacheKey, cachePk]

/-- The value and the expiry of an item of the cache. -/
def Item.row? : Item → Option (Bytes × ℕ)
  | .cache value exp _ => some (value, exp)
  | _ => none

namespace Storage

/-- The value under `key`. -/
def cacheEntry (s : Storage) (key : String) : Option Bytes :=
  match s with
  | .sqlite db => (db.cache.lookup key).map (·.1)
  | .dynamodb db =>
    match db.items.lookup (DynamoDbStorage.cacheKey key) with
    | some (.cache value _ _) => some value
    | _ => none

/-- The value under `key` with the second it expires. -/
def cacheRow (s : Storage) (key : String) : Option (Bytes × ℕ) :=
  match s with
  | .sqlite db => db.cache.lookup key
  | .dynamodb db => (db.items.lookup (DynamoDbStorage.cacheKey key)).bind Item.row?

/-- On DynamoDB the items of the cache have a `ttl` behind their expiry. -/
def CacheFormed : Storage → Prop
  | .sqlite _ => True
  | .dynamodb db => ∀ key item, db.items.lookup (DynamoDbStorage.cacheKey key) = some item →
      ∃ value exp ttl, item = .cache value exp ttl ∧ exp ≤ ttl

variable {s : Storage} {key : String}

theorem cacheEntry_eq (s : Storage) : s.cacheEntry = fun key => (s.cacheRow key).map Prod.fst := by
  funext key
  cases s with
  | sqlite db => rfl
  | dynamodb db =>
    simp only [cacheEntry, cacheRow]
    cases db.items.lookup (DynamoDbStorage.cacheKey key) with
    | none => rfl
    | some item => cases item <;> rfl

/-! ## Reading -/

/-- What is read is what has not expired. -/
theorem getCache_eq_read (h : s.CacheFormed) {now : SystemTime} (hepoch : unixEpoch ≤ now) :
    (s.getCache key now).1 = .ok (Expiring.read s.cacheRow key (unixSecs now)) := by
  cases s with
  | sqlite db =>
    have hsecs : SqliteStorage.unixSecs now = .ok (unixSecs now) :=
      SqliteStorage.unixSecs_eq_ok.mpr ⟨hepoch, rfl⟩
    simp only [getCache, SqliteStorage.getCache, hsecs, Prod.map, id, Expiring.read, cacheRow,
      Table.lookup_deleteWhere]
    cases db.cache.lookup key with
    | none => rfl
    | some row =>
      obtain ⟨value, exp⟩ := row
      by_cases hexpired : exp ≤ unixSecs now
      · simp [hexpired, not_lt.mpr hexpired]
      · simp [not_le.mp hexpired]
  | dynamodb db =>
    have hsecs : secsSinceEpoch now = some (unixSecs now) := secsSinceEpoch_eq_some.mpr ⟨hepoch, rfl⟩
    have hformed := h key
    simp only [getCache, DynamoDbStorage.getCache, Expiring.read, cacheRow, hsecs]
    unfold DynamoDbStorage.cacheKey at hformed ⊢
    cases hitem : db.items.lookup (DynamoDbStorage.cachePk key, DynamoDbStorage.cacheType) with
    | none => rfl
    | some item =>
      obtain ⟨value, exp, ttl, rfl, -⟩ := hformed item hitem
      by_cases hexpired : exp ≤ unixSecs now
      · simp [Item.row?, hexpired, not_lt.mpr hexpired]
      · simp [Item.row?, hexpired, not_le.mp hexpired]

theorem cacheEntry_of_getCache {now : SystemTime} {value : Bytes}
    (h : (s.getCache key now).1 = .ok (some value)) : s.cacheEntry key = some value := by
  cases s with
  | sqlite db =>
    simp only [getCache, SqliteStorage.getCache] at h
    split at h
    · cases h
    · simp only [Prod.map, id, Except.ok.injEq, Option.map_eq_some_iff, Table.lookup_deleteWhere,
        Option.filter_eq_some_iff] at h
      obtain ⟨row, ⟨hrow, -⟩, rfl⟩ := h
      simp [cacheEntry, hrow]
  | dynamodb db =>
    simp only [getCache, DynamoDbStorage.getCache] at h
    unfold cacheEntry DynamoDbStorage.cacheKey
    grind

/-- Rows that are deleted once they have expired. -/
theorem drops_deleteWhere {db : SqliteStorage} {p : String → Bytes × ℕ → Bool} {now : ℕ}
    (hp : ∀ key row, p key row = true → row.2 ≤ now) :
    Expiring.Drops now (Storage.sqlite db).cacheRow
      (Storage.sqlite { db with cache := db.cache.deleteWhere p }).cacheRow := by
  intro key
  simp only [cacheRow, Table.lookup_deleteWhere]
  cases hrow : db.cache.lookup key with
  | none => exact .inl rfl
  | some row =>
    cases hdel : p key row with
    | true =>
      refine .inr ⟨by simp [hdel], ?_⟩
      rintro b expires ⟨⟩
      exact hp key _ hdel
    | false => exact .inl (by simp [hdel])

/-- A read deletes the entry if it has expired. -/
theorem drops_getCache (key : String) (now : SystemTime) (s : Storage) :
    Expiring.Drops (unixSecs now) s.cacheRow (s.getCache key now).2.cacheRow := by
  cases s with
  | sqlite db =>
    simp only [getCache, SqliteStorage.getCache]
    split
    · exact .refl _ _
    · rename_i n hsecs
      obtain ⟨-, rfl⟩ := SqliteStorage.unixSecs_eq_ok.mp hsecs
      exact drops_deleteWhere fun k row hdel => (by simpa using hdel : _ ∧ _).2
  | dynamodb db => exact .refl _ _

theorem shrinks_of_drops {s s' : Storage} {now : ℕ} (h : Expiring.Drops now s.cacheRow s'.cacheRow) :
    Memo.Shrinks s.cacheEntry s'.cacheEntry := by
  intro key
  rw [cacheEntry_eq, cacheEntry_eq]
  rcases h key with hsame | ⟨hnone, -⟩
  · exact .inr (congrArg (Option.map Prod.fst) hsame)
  · exact .inl (by simp [hnone])

theorem shrinks_getCache (key : String) (now : SystemTime) (s : Storage) :
    Memo.Shrinks s.cacheEntry (s.getCache key now).2.cacheEntry :=
  shrinks_of_drops (drops_getCache key now s)

/-- The reaper deletes rows that have expired. -/
theorem drops_reapExpired (now : SystemTime) (s : Storage) :
    Expiring.Drops (unixSecs now) s.cacheRow (s.reapExpired now).2.cacheRow := by
  cases s with
  | sqlite db =>
    simp only [reapExpired, SqliteStorage.reapExpired]
    split
    · exact .refl _ _
    · rename_i n hsecs
      obtain ⟨-, rfl⟩ := SqliteStorage.unixSecs_eq_ok.mp hsecs
      exact drops_deleteWhere fun k row hdel => by simpa using hdel
  | dynamodb db => exact .refl _ _

/-- The service deletes an item when its `ttl` has come, which is behind its expiry. -/
theorem drops_sweep (h : s.CacheFormed) (chosen : String × String → Bool) (now : ℕ) :
    Expiring.Drops now s.cacheRow (s.sweep chosen now).cacheRow := by
  intro key
  cases s with
  | sqlite db => exact .inl rfl
  | dynamodb db =>
    simp only [sweep, DynamoDbStorage.sweep, cacheRow, Table.lookup_deleteWhere]
    cases hitem : db.items.lookup (DynamoDbStorage.cacheKey key) with
    | none => exact .inl rfl
    | some item =>
      obtain ⟨value, exp, ttl, rfl, hle⟩ := h key item hitem
      cases hlapsed : (Item.cache value exp ttl).lapsed now with
      | true =>
        have hcome : ttl ≤ now := by simpa [Item.lapsed, Item.ttl] using hlapsed
        cases hchosen : chosen (DynamoDbStorage.cacheKey key) with
        | true =>
          refine .inr ⟨by simp [Option.filter, hlapsed], ?_⟩
          rintro b expires ⟨⟩
          exact hle.trans hcome
        | false => exact .inl (by simp [Option.filter])
      | false => exact .inl (by simp [Option.filter, hlapsed])

/-! ## Writing -/

theorem setCache_of_ne_ok {value : Bytes} {expiresAt : SystemTime}
    (h : (s.setCache key value expiresAt).1 ≠ .ok ()) : (s.setCache key value expiresAt).2 = s := by
  cases s with
  | sqlite db =>
    simp only [setCache, SqliteStorage.setCache] at h ⊢
    split
    · rfl
    · simp_all
  | dynamodb db =>
    simp only [setCache, DynamoDbStorage.setCache] at h ⊢
    split
    · rfl
    · simp_all

/-- A value is written unless it expires before the epoch. -/
theorem setCache_eq_ok {value : Bytes} {expiresAt : SystemTime} :
    (s.setCache key value expiresAt).1 = .ok () ↔ unixEpoch ≤ expiresAt := by
  cases s with
  | sqlite db =>
    simp only [setCache, SqliteStorage.setCache]
    cases hsecs : SqliteStorage.unixSecs expiresAt with
    | ok n => simpa using (SqliteStorage.unixSecs_eq_ok.mp hsecs).1
    | error e =>
      refine iff_of_false (fun h => by cases h) fun h => ?_
      cases hsecs.symm.trans (SqliteStorage.unixSecs_eq_ok.mpr ⟨h, rfl⟩)
  | dynamodb db =>
    simp only [setCache, DynamoDbStorage.setCache]
    cases hsecs : secsSinceEpoch expiresAt with
    | some n => simpa using (secsSinceEpoch_eq_some.mp hsecs).1
    | none =>
      refine iff_of_false (fun h => by cases h) fun h => ?_
      cases hsecs.symm.trans (secsSinceEpoch_eq_some.mpr ⟨h, rfl⟩)

theorem cacheRow_setCache {value : Bytes} {expiresAt : SystemTime} (h : unixEpoch ≤ expiresAt) :
    (s.setCache key value expiresAt).2.cacheRow =
      Function.update s.cacheRow key (some (value, unixSecs expiresAt)) := by
  funext key'
  cases s with
  | sqlite db =>
    have hsecs : SqliteStorage.unixSecs expiresAt = .ok (unixSecs expiresAt) :=
      SqliteStorage.unixSecs_eq_ok.mpr ⟨h, rfl⟩
    simp only [setCache, SqliteStorage.setCache, hsecs, Prod.map, cacheRow, Function.update_apply,
      Table.lookup_insert_eq]
  | dynamodb db =>
    have hsecs : secsSinceEpoch expiresAt = some (unixSecs expiresAt) :=
      secsSinceEpoch_eq_some.mpr ⟨h, rfl⟩
    have hkey : (DynamoDbStorage.cachePk key, DynamoDbStorage.cacheType) =
      DynamoDbStorage.cacheKey key := rfl
    simp only [setCache, DynamoDbStorage.setCache, hsecs, Prod.map, cacheRow, Function.update_apply,
      Table.lookup_insert_eq, hkey, DynamoDbStorage.cacheKey_inj]
    split <;> rfl

theorem cacheEntry_setCache {value : Bytes} {expiresAt : SystemTime}
    (h : (s.setCache key value expiresAt).1 = .ok ()) :
    (s.setCache key value expiresAt).2.cacheEntry =
      Function.update s.cacheEntry key (some value) := by
  funext key'
  rw [cacheEntry_eq, cacheEntry_eq, cacheRow_setCache (setCache_eq_ok.mp h)]
  simp only [Function.update_apply]
  split <;> rfl

/-! ## What the other operations leave alone -/

/-- The row is read from the item of the cache. -/
theorem cacheRow_congr {db db' : DynamoDbStorage}
    (h : ∀ key, db'.items.lookup (DynamoDbStorage.cacheKey key) =
      db.items.lookup (DynamoDbStorage.cacheKey key)) :
    (Storage.dynamodb db').cacheRow = (Storage.dynamodb db).cacheRow := by
  funext key
  simp only [cacheRow, h]

theorem cacheRow_commitClaim (claim : PendingClaim) (s : Storage) :
    (s.commitClaim claim).2.cacheRow = s.cacheRow := by
  cases s with
  | sqlite db =>
    simp only [commitClaim, SqliteStorage.commitClaim]
    split <;> rfl
  | dynamodb db =>
    refine cacheRow_congr fun key => db.lookup_commitClaim claim ?_
    exact DynamoDbStorage.key_ne_of_sk (show DynamoDbStorage.cacheType ≠ DynamoDbStorage.tokenType by decide)

theorem cacheRow_recordCertificate (record : CertificateRecord) (s : Storage) :
    (s.recordCertificate record).2.cacheRow = s.cacheRow := by
  cases s with
  | sqlite db =>
    simp only [recordCertificate, SqliteStorage.recordCertificate]
    split <;> rfl
  | dynamodb db =>
    refine cacheRow_congr fun key => db.lookup_recordCertificate record ?_
    exact fun cn => (DynamoDbStorage.certificateSk_ne cn).2.2.symm

theorem cacheRow_revoke (record : RevocationRecord) (s : Storage) :
    (s.revoke record).cacheRow = s.cacheRow := by
  cases s with
  | sqlite db => rfl
  | dynamodb db =>
    refine cacheRow_congr fun key => db.lookup_revoke record ?_
    exact DynamoDbStorage.key_ne_of_sk
      (show DynamoDbStorage.cacheType ≠ DynamoDbStorage.revocationType by decide)

theorem cacheEntry_commitClaim (claim : PendingClaim) (s : Storage) :
    (s.commitClaim claim).2.cacheEntry = s.cacheEntry := by
  rw [cacheEntry_eq, cacheEntry_eq, cacheRow_commitClaim]

theorem cacheEntry_recordCertificate (record : CertificateRecord) (s : Storage) :
    (s.recordCertificate record).2.cacheEntry = s.cacheEntry := by
  rw [cacheEntry_eq, cacheEntry_eq, cacheRow_recordCertificate]

theorem cacheEntry_revoke (record : RevocationRecord) (s : Storage) :
    (s.revoke record).cacheEntry = s.cacheEntry := by
  rw [cacheEntry_eq, cacheEntry_eq, cacheRow_revoke]

end Storage

end Ayane
