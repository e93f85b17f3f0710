import Ayane.Storage.Certificates

/-!
# Storages that agree on some keys

Two storages of one kind agree on keys and serial numbers when they hold the same under
them. What a claim or a record of one of these does, and whether it succeeds, is the same
in both. A claim or a record of another, a revocation and the cache change nothing that
the storages agree on.
-/

namespace Ayane.Storage

/-- The storages hold the same claims of `keys`, and the same certificates of `serials`. -/
def AgreeOn (keys serials : Set String) : Storage → Storage → Prop
  | .sqlite db, .sqlite db' =>
    (∀ key ∈ keys, db.tokens.lookup key = db'.tokens.lookup key) ∧
      ∀ serial ∈ serials, db.certificates.lookup serial = db'.certificates.lookup serial
  | .dynamodb db, .dynamodb db' =>
    (∀ key ∈ keys, db.items.lookup (DynamoDbStorage.tokenKey key) =
        db'.items.lookup (DynamoDbStorage.tokenKey key)) ∧
      ∀ serial ∈ serials, ∀ cn,
        db.items.lookup (DynamoDbStorage.certificatePk serial, DynamoDbStorage.certificateSk cn) =
          db'.items.lookup (DynamoDbStorage.certificatePk serial, DynamoDbStorage.certificateSk cn)
  | _, _ => False

variable {keys serials : Set String} {s s' s'' : Storage}

theorem AgreeOn.refl (s : Storage) : AgreeOn keys serials s s := by
  cases s with
  | sqlite db => exact ⟨fun _ _ => rfl, fun _ _ => rfl⟩
  | dynamodb db => exact ⟨fun _ _ => rfl, fun _ _ _ => rfl⟩

theorem AgreeOn.symm (h : AgreeOn keys serials s s') : AgreeOn keys serials s' s := by
  cases s <;> cases s' <;> try exact h
  · exact ⟨fun key hkey => (h.1 key hkey).symm, fun serial hserial => (h.2 serial hserial).symm⟩
  · exact ⟨fun key hkey => (h.1 key hkey).symm, fun serial hserial cn => (h.2 serial hserial cn).symm⟩

theorem AgreeOn.trans (h : AgreeOn keys serials s s') (h' : AgreeOn keys serials s' s'') :
    AgreeOn keys serials s s'' := by
  cases s <;> cases s' <;> cases s'' <;> first | exact h.elim | exact h'.elim | skip
  · exact ⟨fun key hkey => (h.1 key hkey).trans (h'.1 key hkey),
      fun serial hserial => (h.2 serial hserial).trans (h'.2 serial hserial)⟩
  · exact ⟨fun key hkey => (h.1 key hkey).trans (h'.1 key hkey),
      fun serial hserial cn => (h.2 serial hserial cn).trans (h'.2 serial hserial cn)⟩

theorem agreeOn_equivalence : Equivalence (AgreeOn keys serials) :=
  ⟨.refl, .symm, .trans⟩

/-! ## What the storages agree on is left alone -/

theorem agreeOn_commitClaim {claim : PendingClaim} (h : claim.jti ∉ keys) (s : Storage) :
    AgreeOn keys serials s (s.commitClaim claim).2 := by
  have hne : ∀ key ∈ keys, key ≠ claim.jti := fun key hkey heq => h (heq ▸ hkey)
  cases s with
  | sqlite db =>
    by_cases hfree : (SqliteStorage.reclaim claim.jti claim.now db.tokens).lookup claim.jti = none
    · rw [show (Storage.sqlite db).commitClaim claim = _ from
        congrArg (Prod.map id Storage.sqlite) (SqliteStorage.commitClaim_of_none hfree)]
      refine ⟨fun key hkey => ?_, fun _ _ => rfl⟩
      rw [AList.lookup_insert_ne (hne key hkey)]
      exact (SqliteStorage.lookup_reclaim_of_ne claim.now db.tokens (hne key hkey)).symm
    · rw [show (Storage.sqlite db).commitClaim claim = _ from
        congrArg (Prod.map id Storage.sqlite) (SqliteStorage.commitClaim_of_ne_none hfree)]
      exact .refl _
  | dynamodb db =>
    constructor
    · intro key hkey
      refine (db.lookup_commitClaim claim fun heq => hne key hkey ?_).symm
      exact DynamoDbStorage.tokenKey_inj.mp heq
    · intro serial _ cn
      refine (db.lookup_commitClaim claim fun heq => ?_).symm
      exact (DynamoDbStorage.certificateSk_ne cn).1 (congrArg Prod.snd heq)

theorem agreeOn_claimToken {jti : String} {expiresAt now : SystemTime} (h : jti ∉ keys)
    (s : Storage) : AgreeOn keys serials s (s.claimToken jti expiresAt now).2 := by
  cases hclaim : s.prepareClaim jti expiresAt now with
  | error abort =>
    rw [claimToken_of_unprepared hclaim]
    exact .refl s
  | ok claim =>
    obtain ⟨rfl, -, -⟩ := of_prepareClaim hclaim
    simp only [claimToken, hclaim, Prod.map_snd]
    exact agreeOn_commitClaim h s

theorem agreeOn_recordCertificate {record : CertificateRecord} (h : record.serialNumber ∉ serials)
    (s : Storage) : AgreeOn keys serials s (s.recordCertificate record).2 := by
  have hne : ∀ serial ∈ serials, serial ≠ record.serialNumber := fun serial hserial heq => h (heq ▸ hserial)
  cases s with
  | sqlite db =>
    simp only [recordCertificate, SqliteStorage.recordCertificate, Prod.map_snd]
    split
    · exact .refl _
    · exact ⟨fun _ _ => rfl, fun serial hserial => (AList.lookup_insert_ne (hne serial hserial)).symm⟩
  | dynamodb db =>
    constructor
    · intro key _
      exact (db.lookup_recordCertificate record fun cn =>
        (DynamoDbStorage.certificateSk_ne cn).1.symm).symm
    · intro serial hserial cn
      change _ = (db.recordCertificate record).2.items.lookup _
      simp only [DynamoDbStorage.recordCertificate]
      split
      · rfl
      · refine (AList.lookup_insert_ne fun heq => hne serial hserial ?_).symm
        exact (DynamoDbStorage.certificateKey_inj.mp heq).1

theorem agreeOn_revoke (record : RevocationRecord) (s : Storage) :
    AgreeOn keys serials s (s.revoke record) := by
  cases s with
  | sqlite db => exact ⟨fun _ _ => rfl, fun _ _ => rfl⟩
  | dynamodb db =>
    constructor
    · intro key _
      exact (db.lookup_revoke record (DynamoDbStorage.tokenKey_ne_of_sk key _ (by decide))).symm
    · intro serial _ cn
      exact (db.lookup_revoke record
        (DynamoDbStorage.key_ne_of_sk (DynamoDbStorage.certificateSk_ne cn).2.1)).symm

theorem agreeOn_getCache (key : String) (now : SystemTime) (s : Storage) :
    AgreeOn keys serials s (s.getCache key now).2 := by
  cases s with
  | sqlite db =>
    simp only [getCache, SqliteStorage.getCache]
    split
    · exact .refl _
    · exact ⟨fun _ _ => rfl, fun _ _ => rfl⟩
  | dynamodb db => exact .refl _

theorem agreeOn_setCache (key : String) (value : Bytes) (expiresAt : SystemTime) (s : Storage) :
    AgreeOn keys serials s (s.setCache key value expiresAt).2 := by
  cases s with
  | sqlite db =>
    simp only [setCache, SqliteStorage.setCache]
    split
    · exact .refl _
    · exact ⟨fun _ _ => rfl, fun _ _ => rfl⟩
  | dynamodb db =>
    constructor
    · intro jti _
      exact (db.lookup_setCache value expiresAt
        (DynamoDbStorage.tokenKey_ne_of_sk jti _ (by decide))).symm
    · intro serial _ cn
      exact (db.lookup_setCache value expiresAt
        (DynamoDbStorage.key_ne_of_sk (DynamoDbStorage.certificateSk_ne cn).2.2)).symm

/-! ## What is done to both storages -/

theorem AgreeOn.prepareClaim (h : AgreeOn keys serials s s') (jti : String)
    (expiresAt now : SystemTime) : s.prepareClaim jti expiresAt now = s'.prepareClaim jti expiresAt now := by
  cases s <;> cases s' <;> first | rfl | exact h.elim

theorem AgreeOn.commitClaim (h : AgreeOn keys serials s s') {claim : PendingClaim}
    (hkey : claim.jti ∈ keys) : (s.commitClaim claim).1 = (s'.commitClaim claim).1 ∧
      AgreeOn keys serials (s.commitClaim claim).2 (s'.commitClaim claim).2 := by
  cases s <;> cases s' <;> first | exact h.elim | skip
  · rename_i db db'
    have hlookup : ∀ key ∈ keys, (SqliteStorage.reclaim claim.jti claim.now db.tokens).lookup key =
        (SqliteStorage.reclaim claim.jti claim.now db'.tokens).lookup key := by
      intro key hmem
      simp [SqliteStorage.reclaim, h.1 key hmem]
    by_cases hfree : (SqliteStorage.reclaim claim.jti claim.now db.tokens).lookup claim.jti = none
    · have hcommit := SqliteStorage.commitClaim_of_none hfree
      have hcommit' := SqliteStorage.commitClaim_of_none ((hlookup _ hkey).symm.trans hfree)
      simp only [Storage.commitClaim, hcommit, hcommit', Prod.map_fst, Prod.map_snd, true_and]
      refine ⟨fun key hmem => ?_, h.2⟩
      simp only [Table.lookup_insert_eq, hlookup key hmem]
    · have hcommit := SqliteStorage.commitClaim_of_ne_none hfree
      have hcommit' := SqliteStorage.commitClaim_of_ne_none ((hlookup _ hkey) ▸ hfree)
      simp only [Storage.commitClaim, hcommit, hcommit', Prod.map_fst, Prod.map_snd, true_and]
      exact h
  · rename_i db db'
    have hput : AgreeOn keys serials
        (.dynamodb { db with
          items := db.items.insert (DynamoDbStorage.tokenKey claim.jti) (.token claim.expiresAt) })
        (.dynamodb { db' with
          items := db'.items.insert (DynamoDbStorage.tokenKey claim.jti) (.token claim.expiresAt) }) := by
      constructor
      · intro key hmem
        simp only [Table.lookup_insert_eq, h.1 key hmem]
      · intro serial hmem cn
        simp only [Table.lookup_insert_eq, h.2 serial hmem cn]
    simp only [Storage.commitClaim, DynamoDbStorage.commitClaim, h.1 _ hkey]
    split
    · exact ⟨rfl, hput⟩
    · split
      · exact ⟨rfl, hput⟩
      · exact ⟨rfl, h⟩

theorem AgreeOn.claimToken (h : AgreeOn keys serials s s') {jti : String} (hkey : jti ∈ keys)
    (expiresAt now : SystemTime) :
    (s.claimToken jti expiresAt now).1 = (s'.claimToken jti expiresAt now).1 ∧
      AgreeOn keys serials (s.claimToken jti expiresAt now).2 (s'.claimToken jti expiresAt now).2 := by
  have hprepare := h.prepareClaim jti expiresAt now
  cases hclaim : s.prepareClaim jti expiresAt now with
  | error abort =>
    rw [claimToken_of_unprepared hclaim, claimToken_of_unprepared (hprepare.symm.trans hclaim)]
    exact ⟨rfl, h⟩
  | ok claim =>
    obtain ⟨rfl, -, -⟩ := of_prepareClaim hclaim
    obtain ⟨houtcome, hagree⟩ := h.commitClaim hkey
    simp only [Storage.claimToken, hclaim, hprepare.symm.trans hclaim]
    exact ⟨congrArg Result.orAbort houtcome, hagree⟩

theorem AgreeOn.recordCertificate (h : AgreeOn keys serials s s') {record : CertificateRecord}
    (hserial : record.serialNumber ∈ serials) :
    (s.recordCertificate record).1 = (s'.recordCertificate record).1 ∧
      AgreeOn keys serials (s.recordCertificate record).2 (s'.recordCertificate record).2 := by
  cases s <;> cases s' <;> first | exact h.elim | skip
  · rename_i db db'
    simp only [Storage.recordCertificate, SqliteStorage.recordCertificate, h.2 _ hserial]
    split
    · exact ⟨rfl, h⟩
    · refine ⟨rfl, h.1, fun serial hmem => ?_⟩
      simp only [Table.lookup_insert_eq, h.2 serial hmem]
  · rename_i db db'
    simp only [Storage.recordCertificate, DynamoDbStorage.recordCertificate, h.2 _ hserial]
    split
    · exact ⟨rfl, h⟩
    · refine ⟨rfl, fun key hmem => ?_, fun serial hmem cn => ?_⟩
      · simp only [Table.lookup_insert_eq, h.1 key hmem]
      · simp only [Table.lookup_insert_eq, h.2 serial hmem cn]

theorem AgreeOn.revoke (h : AgreeOn keys serials s s') (record : RevocationRecord) :
    AgreeOn keys serials (s.revoke record) (s'.revoke record) :=
  ((agreeOn_revoke record s).symm.trans h).trans (agreeOn_revoke record s')

/-- The reaper deletes the same in both. -/
theorem AgreeOn.reapExpired (h : AgreeOn keys serials s s') (now : SystemTime) :
    AgreeOn keys serials (s.reapExpired now).2 (s'.reapExpired now).2 := by
  cases s <;> cases s' <;> first | exact h.elim | skip
  · simp only [Storage.reapExpired, SqliteStorage.reapExpired]
    split
    · exact h
    · refine ⟨fun key hmem => ?_, h.2⟩
      simp only [Table.lookup_deleteWhere, h.1 key hmem]
  · exact h

theorem AgreeOn.sweep (h : AgreeOn keys serials s s') (chosen : String × String → Bool) (now : ℕ) :
    AgreeOn keys serials (s.sweep chosen now) (s'.sweep chosen now) := by
  cases s <;> cases s' <;> first | exact h.elim | skip
  · exact h
  · refine ⟨fun key hmem => ?_, fun serial hmem cn => ?_⟩
    · simp only [DynamoDbStorage.sweep, Table.lookup_deleteWhere, h.1 key hmem]
    · simp only [DynamoDbStorage.sweep, Table.lookup_deleteWhere, h.2 serial hmem cn]

end Ayane.Storage
