import Ayane.Lib.Effect
import Ayane.Lib.Table
import Ayane.Storage.Record

/-!
# The SQLite backend

`ayane/src/storage/sqlite.rs`. Four tables with a primary key each; a row's expiry
is a whole second. The connection is behind a mutex, so an operation is one atomic
step on the database, after it has read the clock. A transaction that is dropped
before its commit leaves the database as it was.
-/

namespace Ayane

structure SqliteStorage where
  certificates : Table String CertificateRecord := ∅
  revocations : Table String RevocationRecord := ∅
  /-- Claimed ids, with the second their claim ends. -/
  tokens : Table String ℕ := ∅
  /-- Values, with the second they expire. -/
  cache : Table String (Bytes × ℕ) := ∅

namespace SqliteStorage

/-- `unix_secs`. Seconds of an instant fit the signed 64-bit integer of the source. -/
def unixSecs (t : SystemTime) : Result ℕ :=
  match secsSinceEpoch t with
  | some s => .ok s
  | none => .error (.internal ("timestamp before epoch: " ++ systemTimeError))

def recordCertificate (record : CertificateRecord) (db : SqliteStorage) :
    Result Unit × SqliteStorage :=
  match db.certificates.lookup record.serialNumber with
  | some _ => (.error (.internal ("sqlite record_certificate: " ++
      "UNIQUE constraint failed: certificates.serial_number")), db)
  | none => (.ok (), { db with
      certificates := db.certificates.insert record.serialNumber record })

def getCertificate (serialNumber : String) (db : SqliteStorage) : Option CertificateRecord :=
  db.certificates.lookup serialNumber

/-- Idempotent: a serial that is already revoked keeps its record. -/
def revoke (record : RevocationRecord) (db : SqliteStorage) : SqliteStorage :=
  { db with revocations := (db.revocations.insertOrIgnore record.serialNumber record).2 }

def getRevocation (serialNumber : String) (db : SqliteStorage) : Option RevocationRecord :=
  db.revocations.lookup serialNumber

/-- `ORDER BY serial_number`. -/
def listRevocations (db : SqliteStorage) : List RevocationRecord :=
  (db.revocations.entries.mergeSort fun r r' => decide (r.1 ≤ r'.1)).map (·.2)

/-- The part of `claim_token` before its transaction. -/
def prepareClaim (jti : String) (expiresAt now : SystemTime) : Result PendingClaim := do
  let expiresAt ← unixSecs expiresAt
  let now ← unixSecs now
  .ok { jti, expiresAt, now }

/-- `DELETE FROM tokens WHERE jti = ?1 AND expires_at <= ?2`. -/
def reclaim (jti : String) (now : ℕ) (tokens : Table String ℕ) : Table String ℕ :=
  tokens.deleteWhere fun jti' expiresAt => decide (jti' = jti) && decide (expiresAt ≤ now)

/-- The transaction of `claim_token`: reclaim an expired claim, then insert. -/
def commitClaim (claim : PendingClaim) (db : SqliteStorage) : Result Unit × SqliteStorage :=
  let reclaimed := reclaim claim.jti claim.now db.tokens
  let (inserted, tokens) := reclaimed.insertOrIgnore claim.jti claim.expiresAt
  if inserted = 0 then (.error (alreadyClaimed claim.jti), db)
  else (.ok (), { db with tokens })

/-- `claim_token`, when it reads the clock at `now`. -/
def claimToken (jti : String) (expiresAt now : SystemTime) (db : SqliteStorage) :
    Outcome Unit × SqliteStorage :=
  match prepareClaim jti expiresAt now with
  | .error e => (.error (.error e), db)
  | .ok claim => (db.commitClaim claim).map Result.orAbort id

/-- Drop the entry if it has expired, then read. -/
def getCache (key : String) (now : SystemTime) (db : SqliteStorage) :
    Result (Option Bytes) × SqliteStorage :=
  match unixSecs now with
  | .error e => (.error e, db)
  | .ok now =>
    let cache := db.cache.deleteWhere fun k row => decide (k = key) && decide (row.2 ≤ now)
    (.ok ((cache.lookup key).map (·.1)), { db with cache })

def setCache (key : String) (value : Bytes) (expiresAt : SystemTime) (db : SqliteStorage) :
    Result Unit × SqliteStorage :=
  match unixSecs expiresAt with
  | .error e => (.error e, db)
  | .ok expiresAt => (.ok (), { db with cache := db.cache.insert key (value, expiresAt) })

def reapExpired (now : SystemTime) (db : SqliteStorage) : Result ℕ × SqliteStorage :=
  match unixSecs now with
  | .error e => (.error e, db)
  | .ok now =>
    let expiredToken := fun (_ : String) (expiresAt : ℕ) => decide (expiresAt ≤ now)
    let expiredEntry := fun (_ : String) (row : Bytes × ℕ) => decide (row.2 ≤ now)
    (.ok (db.tokens.count expiredToken + db.cache.count expiredEntry),
      { db with
        tokens := db.tokens.deleteWhere expiredToken
        cache := db.cache.deleteWhere expiredEntry })

theorem unixSecs_eq_ok {t : SystemTime} {s : ℕ} :
    unixSecs t = .ok s ↔ unixEpoch ≤ t ∧ Ayane.unixSecs t = s := by
  rw [← secsSinceEpoch_eq_some]
  unfold unixSecs
  cases secsSinceEpoch t <;> simp

theorem internal_of_unixSecs {t : SystemTime} {e : Error} (h : unixSecs t = .error e) :
    ∃ message, e = .internal message := by
  unfold unixSecs at h
  split at h
  · cases h
  · cases h
    exact ⟨_, rfl⟩

theorem prepareClaim_eq_ok {jti : String} {expiresAt now : SystemTime} {claim : PendingClaim} :
    prepareClaim jti expiresAt now = .ok claim ↔
      unixEpoch ≤ expiresAt ∧ unixEpoch ≤ now ∧
        claim = ⟨jti, Ayane.unixSecs expiresAt, Ayane.unixSecs now⟩ := by
  simp only [prepareClaim, Effect.except_bind_eq_ok, unixSecs_eq_ok, Except.ok.injEq]
  constructor
  · rintro ⟨_, ⟨hexp, rfl⟩, _, ⟨hnow, rfl⟩, rfl⟩
    exact ⟨hexp, hnow, rfl⟩
  · rintro ⟨hexp, hnow, rfl⟩
    exact ⟨_, ⟨hexp, rfl⟩, _, ⟨hnow, rfl⟩, rfl⟩

theorem lookup_reclaim_of_ne {jti jti' : String} (now : ℕ) (tokens : Table String ℕ)
    (h : jti' ≠ jti) : (reclaim jti now tokens).lookup jti' = tokens.lookup jti' := by
  rw [reclaim, Table.lookup_deleteWhere]
  cases tokens.lookup jti' with
  | none => rfl
  | some expiresAt => simp [h]

theorem lookup_reclaim_eq_none {jti : String} {now : ℕ} {tokens : Table String ℕ} :
    (reclaim jti now tokens).lookup jti = none ↔
      ∀ expiresAt, tokens.lookup jti = some expiresAt → expiresAt ≤ now := by
  simp [reclaim, Option.filter_eq_none_iff]

theorem commitClaim_of_none {claim : PendingClaim} {db : SqliteStorage}
    (h : (reclaim claim.jti claim.now db.tokens).lookup claim.jti = none) :
    db.commitClaim claim = (.ok (), { db with
      tokens := (reclaim claim.jti claim.now db.tokens).insert claim.jti claim.expiresAt }) := by
  simp [commitClaim, Table.insertOrIgnore_of_none h]

theorem commitClaim_of_ne_none {claim : PendingClaim} {db : SqliteStorage}
    (h : (reclaim claim.jti claim.now db.tokens).lookup claim.jti ≠ none) :
    db.commitClaim claim = (.error (alreadyClaimed claim.jti), db) := by
  obtain ⟨expiresAt, hrow⟩ := Option.ne_none_iff_exists'.mp h
  simp [commitClaim, Table.insertOrIgnore_of_some hrow]

end SqliteStorage

end Ayane
