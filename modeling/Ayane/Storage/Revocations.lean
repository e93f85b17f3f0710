import Ayane.Storage

/-!
# Revocations in the storage

A revocation is final: once it is stored, every later read finds it, whatever else is done
to the storage.
-/

namespace Ayane.Storage

/-- The revocation of every serial number can be read. -/
def Readable (s : Storage) : Prop := ∀ serial, ∃ found, s.getRevocation serial = .ok found

def Revoked (s : Storage) (serial : String) : Prop :=
  ∃ record, s.getRevocation serial = .ok (some record)

/-- Revocations are kept: what a read finds changes at most from nothing to a revocation. -/
def Retains (s s' : Storage) : Prop :=
  ∀ serial, s'.getRevocation serial = s.getRevocation serial ∨
    s.getRevocation serial = .ok none ∧ s'.Revoked serial

variable {s s' : Storage} {serial : String}

theorem Retains.refl (s : Storage) : s.Retains s := fun _ => .inl rfl

theorem Retains.readable (h : s.Retains s') (hs : s.Readable) : s'.Readable := by
  intro serial
  obtain hsame | ⟨-, record, hrecord⟩ := h serial
  · rw [hsame]
    exact hs serial
  · exact ⟨some record, hrecord⟩

theorem Retains.revoked (h : s.Retains s') (hs : s.Revoked serial) : s'.Revoked serial := by
  obtain hsame | ⟨-, hrevoked⟩ := h serial
  · rw [Revoked, hsame]
    exact hs
  · exact hrevoked

/-- What is found is read from the item of the revocation. -/
theorem getRevocation_congr {db db' : DynamoDbStorage}
    (h : db'.items.lookup (DynamoDbStorage.revocationPk serial, DynamoDbStorage.revocationType) =
      db.items.lookup (DynamoDbStorage.revocationPk serial, DynamoDbStorage.revocationType)) :
    db'.getRevocation serial = db.getRevocation serial := by
  simp only [DynamoDbStorage.getRevocation, h]

theorem getRevocation_commitClaim (claim : PendingClaim) (s : Storage) :
    (s.commitClaim claim).2.getRevocation serial = s.getRevocation serial := by
  cases s with
  | sqlite db =>
    simp only [commitClaim, SqliteStorage.commitClaim]
    split <;> rfl
  | dynamodb db =>
    have hsk : DynamoDbStorage.revocationType ≠ DynamoDbStorage.tokenType := by decide
    exact getRevocation_congr (db.lookup_commitClaim claim (DynamoDbStorage.key_ne_of_sk hsk))

theorem getRevocation_recordCertificate (record : CertificateRecord) (s : Storage) :
    (s.recordCertificate record).2.getRevocation serial = s.getRevocation serial := by
  cases s with
  | sqlite db =>
    simp only [recordCertificate, SqliteStorage.recordCertificate]
    split <;> rfl
  | dynamodb db =>
    exact getRevocation_congr (db.lookup_recordCertificate record fun cn =>
      (DynamoDbStorage.certificateSk_ne cn).2.1.symm)

theorem getRevocation_getCache (key : String) (now : SystemTime) (s : Storage) :
    (s.getCache key now).2.getRevocation serial = s.getRevocation serial := by
  cases s with
  | sqlite db =>
    simp only [Storage.getCache, SqliteStorage.getCache]
    split <;> rfl
  | dynamodb db => rfl

theorem getRevocation_setCache (key : String) (value : Bytes) (expiresAt : SystemTime) (s : Storage) :
    (s.setCache key value expiresAt).2.getRevocation serial = s.getRevocation serial := by
  cases s with
  | sqlite db =>
    simp only [Storage.setCache, SqliteStorage.setCache]
    split <;> rfl
  | dynamodb db =>
    have hsk : DynamoDbStorage.revocationType ≠ DynamoDbStorage.cacheType := by decide
    exact getRevocation_congr (db.lookup_setCache value expiresAt (DynamoDbStorage.key_ne_of_sk hsk))

theorem getRevocation_reapExpired (now : SystemTime) (s : Storage) :
    (s.reapExpired now).2.getRevocation serial = s.getRevocation serial := by
  cases s with
  | sqlite db =>
    simp only [Storage.reapExpired, SqliteStorage.reapExpired]
    split <;> rfl
  | dynamodb db => rfl

/-- The service deletes no revocation, since it has no `ttl`. -/
theorem getRevocation_sweep (chosen : String × String → Bool) (now : ℕ) (hread : s.Readable) :
    (s.sweep chosen now).getRevocation serial = s.getRevocation serial := by
  cases s with
  | sqlite db => rfl
  | dynamodb db =>
    obtain ⟨found, hfound⟩ := hread serial
    have hfound : db.getRevocation serial = .ok found := hfound
    simp only [sweep, getRevocation, DynamoDbStorage.getRevocation, DynamoDbStorage.sweep,
      Table.lookup_deleteWhere] at hfound ⊢
    cases hitem : db.items.lookup (DynamoDbStorage.revocationPk serial,
        DynamoDbStorage.revocationType) with
    | none => rfl
    | some item =>
      rw [hitem] at hfound
      cases item <;> simp only [reduceCtorEq] at hfound
      simp [Item.lapsed, Item.ttl, Option.filter]

/-- The first revocation of a serial number is stored. -/
theorem getRevocation_revoke_self {record : RevocationRecord}
    (h : s.getRevocation record.serialNumber = .ok none) :
    (s.revoke record).getRevocation record.serialNumber = .ok (some record) := by
  cases s with
  | sqlite db =>
    have hrow : db.revocations.lookup record.serialNumber = none := Except.ok.inj h
    simp [revoke, SqliteStorage.revoke, getRevocation, SqliteStorage.getRevocation,
      Table.insertOrIgnore_of_none hrow]
  | dynamodb db =>
    have hnone : db.getRevocation record.serialNumber = .ok none := h
    have hitem : db.items.lookup (DynamoDbStorage.revocationPk record.serialNumber,
        DynamoDbStorage.revocationType) = none := by
      unfold DynamoDbStorage.getRevocation at hnone
      grind
    simp [revoke, DynamoDbStorage.revoke, getRevocation, DynamoDbStorage.getRevocation,
      Table.insertOrIgnore_of_none hitem]

/-- A revocation that is stored stays as it is. -/
theorem getRevocation_revoke_of_some {record old : RevocationRecord}
    (h : s.getRevocation serial = .ok (some old)) :
    (s.revoke record).getRevocation serial = .ok (some old) := by
  cases s with
  | sqlite db =>
    have hrow : db.revocations.lookup serial = some old := Except.ok.inj h
    refine congrArg Except.ok ?_
    simp only [SqliteStorage.revoke, SqliteStorage.getRevocation, Table.insertOrIgnore]
    grind [AList.lookup_insert_ne]
  | dynamodb db =>
    have hstored : db.getRevocation serial = .ok (some old) := h
    refine (getRevocation_congr ?_).trans hstored
    simp only [DynamoDbStorage.revoke, Table.insertOrIgnore, DynamoDbStorage.getRevocation] at hstored ⊢
    grind [AList.lookup_insert_ne]

theorem getRevocation_revoke_of_ne {record : RevocationRecord} (h : serial ≠ record.serialNumber) :
    (s.revoke record).getRevocation serial = s.getRevocation serial := by
  cases s with
  | sqlite db =>
    refine congrArg Except.ok ?_
    simp only [SqliteStorage.revoke, SqliteStorage.getRevocation, Table.insertOrIgnore]
    split
    · rfl
    · exact AList.lookup_insert_ne h
  | dynamodb db =>
    have hkey : (DynamoDbStorage.revocationPk serial, DynamoDbStorage.revocationType) ≠
        (DynamoDbStorage.revocationPk record.serialNumber, DynamoDbStorage.revocationType) := by
      simpa [DynamoDbStorage.revocationPk] using h
    exact getRevocation_congr (db.lookup_revoke record hkey)

theorem retains_commitClaim (claim : PendingClaim) (s : Storage) :
    s.Retains (s.commitClaim claim).2 := fun _ => .inl (getRevocation_commitClaim claim s)

theorem retains_recordCertificate (record : CertificateRecord) (s : Storage) :
    s.Retains (s.recordCertificate record).2 := fun _ => .inl (getRevocation_recordCertificate record s)

/-- A revocation is stored, unless there is one already. -/
theorem revoked_revoke (record : RevocationRecord) (hread : s.Readable) :
    s.Retains (s.revoke record) ∧ (s.revoke record).Revoked record.serialNumber := by
  have hself : (s.revoke record).Revoked record.serialNumber := by
    obtain ⟨found, hfound⟩ := hread record.serialNumber
    cases found with
    | none => exact ⟨record, getRevocation_revoke_self hfound⟩
    | some old => exact ⟨old, getRevocation_revoke_of_some hfound⟩
  refine ⟨fun serial => ?_, hself⟩
  by_cases hserial : serial = record.serialNumber
  · subst hserial
    obtain ⟨found, hfound⟩ := hread record.serialNumber
    cases found with
    | none => exact .inr ⟨hfound, hself⟩
    | some old => exact .inl ((getRevocation_revoke_of_some hfound).trans hfound.symm)
  · exact .inl (getRevocation_revoke_of_ne hserial)

theorem Upkeep.retains {t : SystemTime} (h : Upkeep t s s') (hread : s.Readable) : s.Retains s' := by
  cases h with
  | getCache key hnow => exact fun _ => .inl (getRevocation_getCache key _ s)
  | setCache key value expiresAt => exact fun _ => .inl (getRevocation_setCache key value expiresAt s)
  | reapExpired hnow => exact fun _ => .inl (getRevocation_reapExpired _ s)
  | sweep chosen => exact fun _ => .inl (getRevocation_sweep chosen _ hread)
  | recordCertificate record => exact retains_recordCertificate record s
  | revoke record => exact (revoked_revoke record hread).1

end Ayane.Storage
