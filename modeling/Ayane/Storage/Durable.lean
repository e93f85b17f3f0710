import Ayane.Storage.Calls
import Ayane.Storage.Inventory

/-!
# What the storage keeps for good

A record of a certificate and a revocation, once committed, are kept by every operation on the
storage: nothing overwrites or deletes them. What one operation keeps is kept by any number of them.
-/

namespace Ayane.Storage

/-- The storage holds the record. -/
def Records (record : CertificateRecord) : Storage → Prop
  | .sqlite db => db.certificates.lookup record.serialNumber = some record
  | .dynamodb db => db.items.lookup (DynamoDbStorage.certificatePk record.serialNumber,
      DynamoDbStorage.certificateSk record.subject) = some (.certificate record)

variable {s s' s'' : Storage} {record : CertificateRecord}

theorem records_recordCertificate (h : (s.recordCertificate record).1 = .ok ()) :
    Records record (s.recordCertificate record).2 := by
  cases s with
  | sqlite db =>
    simp only [recordCertificate, SqliteStorage.recordCertificate] at h ⊢
    split at h
    · cases h
    · exact AList.lookup_insert _
  | dynamodb db =>
    simp only [recordCertificate, DynamoDbStorage.recordCertificate] at h ⊢
    split at h
    · cases h
    · exact AList.lookup_insert _

/-- A second record of one certificate is refused, and one of another certificate has another key. -/
theorem Records.recordCertificate (h : Records record s) (r : CertificateRecord) :
    Records record (s.recordCertificate r).2 := by
  cases s with
  | sqlite db =>
    simp only [Storage.recordCertificate, SqliteStorage.recordCertificate]
    split
    · exact h
    · rename_i hnone
      refine (AList.lookup_insert_ne fun hserial => ?_).trans h
      rw [← hserial] at hnone
      cases hnone.symm.trans h
  | dynamodb db =>
    simp only [Storage.recordCertificate, DynamoDbStorage.recordCertificate]
    split
    · exact h
    · rename_i hnone
      refine (AList.lookup_insert_ne fun hkey => ?_).trans h
      rw [← hkey] at hnone
      cases hnone.symm.trans h

theorem Records.apply (h : Records record s) (op : Operation) : Records record (op.apply s) := by
  cases hop : op.record? with
  | some r =>
    obtain rfl := Operation.record?_eq_some.mp hop
    exact h.recordCertificate r
  | none =>
    cases s with
    | sqlite db =>
      obtain ⟨db', hdb', hsame⟩ := @Inventory.certificates_apply db op hop
      rw [hdb', Records, hsame]
      exact h
    | dynamodb db =>
      obtain ⟨db', hdb', hsame⟩ := @Inventory.items_apply db op hop
      rw [hdb']
      refine (hsame _ _ fun item hitem => ?_).trans h
      cases hitem.symm.trans h
      rfl

theorem retains_apply (hread : s.Readable) (op : Operation) : s.Retains (op.apply s) := by
  cases op with
  | recordCertificate r => exact retains_recordCertificate r s
  | revoke r => exact (revoked_revoke r hread).1
  | claimToken jti expiresAt now => exact fun _ => .inl (getRevocation_claimToken jti expiresAt now s)
  | getCache key now => exact fun _ => .inl (getRevocation_getCache key now s)
  | setCache key value expiresAt => exact fun _ => .inl (getRevocation_setCache key value expiresAt s)
  | reapExpired now => exact fun _ => .inl (getRevocation_reapExpired now s)
  | sweep chosen now => exact fun _ => .inl (getRevocation_sweep chosen now hread)

/-- Records and revocations in `s` are in `s'`. -/
structure Persists (s s' : Storage) : Prop where
  records : ∀ record, Records record s → Records record s'
  readable : s.Readable → s'.Readable
  revoked : s.Readable → ∀ serial, s.Revoked serial → s'.Revoked serial

instance : Std.Refl Persists := ⟨fun _ => ⟨fun _ h => h, fun h => h, fun _ _ h => h⟩⟩

instance : IsTrans Storage Persists :=
  ⟨fun _ _ _ h h' => ⟨fun _ hr => h'.records _ (h.records _ hr), fun hr => h'.readable (h.readable hr),
    fun hr _ hs => h'.revoked (h.readable hr) _ (h.revoked hr _ hs)⟩⟩

theorem persists_apply (s : Storage) (op : Operation) : s.Persists (op.apply s) where
  records _ h := h.apply op
  readable h := (retains_apply h op).readable h
  revoked h _ hrevoked := (retains_apply h op).revoked hrevoked

/-! ## What is new in the storage -/

/-- What the storage keeps for good. -/
inductive Entry where
  | certificate (record : CertificateRecord)
  | revocation (record : RevocationRecord)

/-- A certificate that fulfils `P`, or a revocation. -/
def Entry.Certifies (P : CertificateRecord → Prop) : Entry → Prop
  | .certificate record => P record
  | .revocation _ => True

/-- The storage holds the entry. -/
def Holds (s : Storage) : Entry → Prop
  | .certificate record => Records record s
  | .revocation record => s.getRevocation record.serialNumber = .ok (some record)

/-- The entry that an operation may add. -/
def Operation.entry? : Operation → Option Entry
  | .recordCertificate record => some (.certificate record)
  | .revoke record => some (.revocation record)
  | _ => none

section

variable {entry : Entry} {op : Operation}

/-- An operation that adds no entry leaves the items of entries, or deletes them. -/
theorem lookup_of_apply {db : DynamoDbStorage} (hop : op.entry? = none) {key : String × String}
    (htoken : key.2 ≠ DynamoDbStorage.tokenType) (hcache : key.2 ≠ DynamoDbStorage.cacheType) :
    ∃ db', op.apply (.dynamodb db) = .dynamodb db' ∧
      ∀ item, db'.items.lookup key = some item → db.items.lookup key = some item := by
  cases op with
  | recordCertificate record => cases hop
  | revoke record => cases hop
  | claimToken jti expiresAt now =>
    refine ⟨(db.claimToken jti expiresAt now).2, ?_, fun item hitem => ?_⟩
    · simp only [Operation.apply, claimToken_dynamodb, Prod.map_snd]
    · simp only [DynamoDbStorage.claimToken] at hitem
      split at hitem
      · exact hitem
      · exact (db.lookup_commitClaim _ (DynamoDbStorage.key_ne_of_sk htoken)).symm.trans hitem
  | getCache cacheKey now => exact ⟨_, rfl, fun _ hitem => hitem⟩
  | setCache cacheKey value expiresAt =>
    refine ⟨_, rfl, fun _ hitem => ?_⟩
    exact (db.lookup_setCache value expiresAt (DynamoDbStorage.key_ne_of_sk hcache)).symm.trans hitem
  | reapExpired now => exact ⟨_, rfl, fun _ hitem => hitem⟩
  | sweep chosen now =>
    refine ⟨db.sweep chosen now, rfl, fun item hitem => ?_⟩
    rw [DynamoDbStorage.sweep, Table.lookup_deleteWhere, Option.filter_eq_some_iff] at hitem
    exact hitem.1

theorem holds_of_idle (hop : op.entry? = none) (h : (op.apply s).Holds entry) : s.Holds entry := by
  cases s with
  | sqlite db =>
    cases entry with
    | certificate record =>
      obtain ⟨db', hdb', hsame⟩ := @Inventory.certificates_apply db op (by cases op <;> simp_all [
        Operation.entry?, Operation.record?])
      rw [hdb', Holds, Records, hsame] at h
      exact h
    | revocation record =>
      refine Eq.trans (Eq.symm ?_) h
      cases op with
      | recordCertificate record => cases hop
      | revoke record => cases hop
      | claimToken jti expiresAt now => exact getRevocation_claimToken jti expiresAt now _
      | getCache key now => exact getRevocation_getCache key now _
      | setCache key value expiresAt => exact getRevocation_setCache key value expiresAt _
      | reapExpired now => exact getRevocation_reapExpired now _
      | sweep chosen now => rfl
  | dynamodb db =>
    cases entry with
    | certificate record =>
      have hsk := DynamoDbStorage.certificateSk_ne record.subject
      obtain ⟨db', hdb', hitems⟩ := @lookup_of_apply op db hop (DynamoDbStorage.certificatePk
        record.serialNumber, DynamoDbStorage.certificateSk record.subject) hsk.1 hsk.2.2
      rw [hdb'] at h
      exact hitems _ h
    | revocation record =>
      obtain ⟨db', hdb', hitems⟩ := @lookup_of_apply op db hop (DynamoDbStorage.revocationPk
        record.serialNumber, DynamoDbStorage.revocationType)
        (by decide : DynamoDbStorage.revocationType ≠ DynamoDbStorage.tokenType)
        (by decide : DynamoDbStorage.revocationType ≠ DynamoDbStorage.cacheType)
      rw [hdb'] at h
      have hfound : db'.getRevocation record.serialNumber = .ok (some record) := h
      change db.getRevocation record.serialNumber = .ok (some record)
      unfold DynamoDbStorage.getRevocation at hfound ⊢
      split at hfound
      · cases hfound
      · rename_i hitem
        rw [hitems _ hitem]
        exact hfound
      · cases hfound

/-- A record that was refused changes nothing; otherwise it is the only entry that is new. -/
theorem holds_recordCertificate (h : (s.recordCertificate record).2.Holds entry) :
    s.Holds entry ∨ entry = .certificate record ∧ (s.recordCertificate record).1 = .ok () := by
  cases entry with
  | revocation r => exact .inl ((getRevocation_recordCertificate record s).symm.trans h)
  | certificate r =>
    cases s with
    | sqlite db =>
      simp only [Holds, Records, recordCertificate, SqliteStorage.recordCertificate] at h ⊢
      cases hrow : db.certificates.lookup record.serialNumber with
      | some row =>
        rw [hrow] at h
        exact .inl h
      | none =>
        rw [hrow] at h
        have h : (db.certificates.insert record.serialNumber record).lookup r.serialNumber = some r := h
        obtain hold | hnew := Table.lookup_of_insert h
        · exact .inl hold
        · cases hnew
          exact .inr ⟨rfl, rfl⟩
    | dynamodb db =>
      simp only [Holds, Records, recordCertificate, DynamoDbStorage.recordCertificate] at h ⊢
      cases hitem : db.items.lookup (DynamoDbStorage.certificatePk record.serialNumber,
          DynamoDbStorage.certificateSk record.subject) with
      | some item =>
        rw [hitem] at h
        exact .inl h
      | none =>
        rw [hitem] at h
        have h : (db.items.insert (DynamoDbStorage.certificatePk record.serialNumber,
            DynamoDbStorage.certificateSk record.subject) (.certificate record)).lookup
              (DynamoDbStorage.certificatePk r.serialNumber, DynamoDbStorage.certificateSk r.subject) =
            some (.certificate r) := h
        obtain hold | hnew := Table.lookup_of_insert h
        · exact .inl hold
        · cases hnew
          exact .inr ⟨rfl, rfl⟩

/-- An item that cannot be read as a revocation stays. -/
theorem getRevocation_revoke_of_error {record : RevocationRecord} {e : Error}
    (h : s.getRevocation record.serialNumber = .error e) (r : RevocationRecord) :
    (s.revoke record).getRevocation record.serialNumber ≠ .ok (some r) := by
  cases s with
  | sqlite db => cases h
  | dynamodb db =>
    change db.getRevocation record.serialNumber = .error e at h
    change (db.revoke record).getRevocation record.serialNumber ≠ .ok (some r)
    unfold DynamoDbStorage.getRevocation DynamoDbStorage.revoke Table.insertOrIgnore at *
    grind

theorem holds_revoke {record : RevocationRecord} (h : (s.revoke record).Holds entry) :
    s.Holds entry ∨ entry = .revocation record := by
  cases entry with
  | certificate r =>
    left
    cases s with
    | sqlite db => exact h
    | dynamodb db =>
      have hsk := (DynamoDbStorage.certificateSk_ne r.subject).2.1
      exact (db.lookup_revoke record (DynamoDbStorage.key_ne_of_sk hsk)).symm.trans h
  | revocation r =>
    by_cases hserial : r.serialNumber = record.serialNumber
    · have hfound : (s.revoke record).getRevocation record.serialNumber = .ok (some r) := hserial ▸ h
      change s.getRevocation r.serialNumber = .ok (some r) ∨ _
      rw [hserial]
      cases hold : s.getRevocation record.serialNumber with
      | error e => exact absurd hfound (getRevocation_revoke_of_error hold r)
      | ok old =>
        cases old with
        | none =>
          rw [getRevocation_revoke_self hold] at hfound
          cases hfound
          exact .inr rfl
        | some old =>
          rw [getRevocation_revoke_of_some hold] at hfound
          exact .inl hfound
    · exact .inl ((getRevocation_revoke_of_ne hserial).symm.trans h)

end

/-- What is kept is kept, and nothing is added to it. -/
structure Steady (s s' : Storage) : Prop where
  persists : s.Persists s'
  holds : ∀ entry, s'.Holds entry → s.Holds entry

instance : Std.Refl Steady := ⟨fun s => ⟨Std.Refl.refl s, fun _ h => h⟩⟩

instance : IsTrans Storage Steady :=
  ⟨fun _ _ _ h h' => ⟨trans_of Persists h.persists h'.persists, fun _ he => h.holds _ (h'.holds _ he)⟩⟩

theorem steady_apply (s : Storage) (op : Operation) (hop : op.entry? = none) : s.Steady (op.apply s) :=
  ⟨s.persists_apply op, fun _ h => holds_of_idle hop h⟩

/-! ## Operations one after the other -/

/-- From one storage to another by operations that fulfil `P`. -/
def Performs (P : Operation → Prop) : Storage → Storage → Prop :=
  Relation.ReflTransGen fun s s' => ∃ op, P op ∧ s' = op.apply s

section

variable {P P' : Operation → Prop} {R : Storage → Storage → Prop}

instance : Std.Refl (Performs P) := ⟨fun _ => .refl⟩

instance : IsTrans Storage (Performs P) := ⟨fun _ _ _ h h' => Relation.ReflTransGen.trans h h'⟩

theorem performs_apply {op : Operation} (h : P op) (s : Storage) : Performs P s (op.apply s) :=
  .single ⟨op, h, rfl⟩

/-- What every operation keeps is kept by all of them. -/
theorem Performs.keeps [Std.Refl R] [IsTrans Storage R] (h : Performs P s s')
    (hR : ∀ s op, P op → R s (op.apply s)) : R s s' := by
  induction h with
  | refl => exact Std.Refl.refl s
  | tail _ hstep ih =>
    obtain ⟨op, hop, rfl⟩ := hstep
    exact trans_of R ih (hR _ op hop)

theorem Performs.mono (h : Performs P s s') (hP : ∀ op, P op → P' op) : Performs P' s s' :=
  h.keeps fun s op hop => performs_apply (hP op hop) s

theorem Performs.persists (h : Performs P s s') : s.Persists s' :=
  h.keeps fun s op _ => s.persists_apply op

theorem Performs.steady (h : Performs P s s') (hP : ∀ op, P op → op.entry? = none) : s.Steady s' :=
  h.keeps fun s op hop => s.steady_apply op (hP op hop)

end

end Ayane.Storage
