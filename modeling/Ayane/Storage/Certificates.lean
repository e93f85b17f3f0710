import Ayane.Storage

/-!
# Records of one certificate

The records that a storage holds for a serial number. Each record that is committed is one
more, and claims change none.
-/

namespace Ayane

/-- The record in an item of the partition of `serial`. -/
def DynamoDbStorage.certificateIn (serial : String) (row : Sigma fun _ : String × String => Item) :
    Option CertificateRecord :=
  match row with
  | ⟨(pk, _), .certificate record⟩ => if pk = certificatePk serial then some record else none
  | _ => none

namespace Storage

/-- The records of `serial`. -/
def certificatesOf (serial : String) : Storage → List CertificateRecord
  | .sqlite db => (db.certificates.lookup serial).toList
  | .dynamodb db => db.items.entries.filterMap (DynamoDbStorage.certificateIn serial)

variable {s : Storage} {serial : String}

theorem tokenPk_ne_certificatePk (jti serial : String) :
    DynamoDbStorage.tokenPk jti ≠ DynamoDbStorage.certificatePk serial := by
  intro h
  have hfirst := congrArg (fun pk => pk.toList.head?) h
  simp [DynamoDbStorage.tokenPk, DynamoDbStorage.certificatePk] at hfirst

theorem certificatesOf_commitClaim (claim : PendingClaim) (s : Storage) :
    (s.commitClaim claim).2.certificatesOf serial = s.certificatesOf serial := by
  cases s with
  | sqlite db =>
    simp only [commitClaim, SqliteStorage.commitClaim]
    split <;> rfl
  | dynamodb db =>
    have hnone : ∀ item, DynamoDbStorage.certificateIn serial
        ⟨DynamoDbStorage.tokenKey claim.jti, item⟩ = none := by
      intro item
      cases item <;> simp [DynamoDbStorage.certificateIn, DynamoDbStorage.tokenKey,
        tokenPk_ne_certificatePk]
    have hput : (Storage.dynamodb { db with
        items := db.items.insert (DynamoDbStorage.tokenKey claim.jti)
          (.token claim.expiresAt) }).certificatesOf serial =
        (Storage.dynamodb db).certificatesOf serial :=
      Table.filterMap_insert hnone (.token claim.expiresAt) db.items
    simp only [commitClaim, DynamoDbStorage.commitClaim]
    split
    · exact hput
    · split
      · exact hput
      · rfl

/-- A record that is committed is one more of its serial number. -/
theorem certificatesOf_recordCertificate {record : CertificateRecord}
    (h : (s.recordCertificate record).1 = .ok ()) :
    (s.recordCertificate record).2.certificatesOf record.serialNumber =
      record :: s.certificatesOf record.serialNumber := by
  cases s with
  | sqlite db =>
    simp only [recordCertificate, SqliteStorage.recordCertificate] at h ⊢
    split at h
    · cases h
    · rename_i hnone
      simp [certificatesOf, hnone]
  | dynamodb db =>
    simp only [recordCertificate, DynamoDbStorage.recordCertificate] at h ⊢
    split at h
    · cases h
    · rename_i hnone
      have hnew := AList.lookup_eq_none.mp hnone
      simp only [certificatesOf, AList.entries_insert_of_notMem hnew, Prod.map_snd]
      exact List.filterMap_cons_some (by simp [DynamoDbStorage.certificateIn])

end Storage

end Ayane
