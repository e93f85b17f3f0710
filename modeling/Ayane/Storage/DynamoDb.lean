import Ayane.Lib.Effect
import Ayane.Lib.Table
import Ayane.Storage.Record

/-!
# The DynamoDB backend

`ayane/src/storage/dynamodb.rs`. One table under a composite primary key `pk`, `sk`
holds every concern. A put with a condition is atomic, and its condition is
evaluated against the item with the same full key. Items with a `ttl` attribute may
be deleted by the service at any time once that second has come (`sweep`). No read asks
for `consistent_read`, so each is answered by some replica of the table, to which the
latest writes may not have come yet.
-/

namespace Ayane

/-- The attributes of an item besides its key. -/
inductive Item where
  | certificate (record : CertificateRecord)
  | revocation (record : RevocationRecord)
  | token (ttl : ℕ)
  | cache (value : Bytes) (exp ttl : ℕ)
  deriving DecidableEq

/-- The numeric `ttl` attribute. -/
def Item.ttl : Item → Option ℕ
  | .token ttl | .cache _ _ ttl => some ttl
  | .certificate _ | .revocation _ => none

/-- The item may be deleted or overwritten at the second `now`: it has a `ttl`, which has come. -/
def Item.lapsed (item : Item) (now : ℕ) : Bool :=
  match item.ttl with
  | some ttl => decide (ttl ≤ now)
  | none => false

structure DynamoDbStorage where
  items : Table (String × String) Item := ∅

namespace DynamoDbStorage

/-- Extra retention of the `ttl` attribute beyond the real expiry. -/
def ttlBuffer : Duration := fromSecs 3600

def certificateSkPrefix : String := "cn:"
def revocationType : String := "revocation"
def tokenType : String := "token"
def cacheType : String := "cache"

def certificatePk (serialNumber : String) : String := "certificate:" ++ serialNumber
def certificateSk (commonName : String) : String := certificateSkPrefix ++ commonName
def revocationPk (serialNumber : String) : String := "revocation:" ++ serialNumber
def tokenPk (jti : String) : String := "token:" ++ jti
def cachePk (key : String) : String := "cache:" ++ key

def tokenKey (jti : String) : String × String := (tokenPk jti, tokenType)

def recordCertificate (record : CertificateRecord) (db : DynamoDbStorage) :
    Result Unit × DynamoDbStorage :=
  let key := (certificatePk record.serialNumber, certificateSk record.subject)
  match db.items.lookup key with
  | some _ => (.error (.internal ("dynamodb PutItem(certificate " ++ record.serialNumber ++
      "): ConditionalCheckFailedException")), db)
  | none => (.ok (), { db with items := db.items.insert key (.certificate record) })

/-- The items of a partition whose sort key starts with `skPrefix`, in the order of their sort keys, as
a replica has them. -/
def query (pk skPrefix : String) (replica : DynamoDbStorage) : List Item :=
  let matching := replica.items.entries.filter fun item =>
    item.1.1 == pk && skPrefix.toList.isPrefixOf item.1.2.toList
  (matching.mergeSort fun i j => decide (i.1.2 ≤ j.1.2)).map (·.2)

/-- The `sk` of a certificate is not known here, so its partition is queried. -/
def getCertificate (serialNumber : String) (replica : DynamoDbStorage) :
    Result (Option CertificateRecord) :=
  match replica.query (certificatePk serialNumber) certificateSkPrefix with
  | [] => .ok none
  | .certificate record :: _ => .ok (some record)
  | _ :: _ => .error (.internal ("dynamodb deserialize certificate " ++ serialNumber ++
      ": missing field `serial_number`"))

/-- A failed condition is taken as success: an existing revocation keeps its record. -/
def revoke (record : RevocationRecord) (db : DynamoDbStorage) : DynamoDbStorage :=
  let key := (revocationPk record.serialNumber, revocationType)
  { db with items := (db.items.insertOrIgnore key (.revocation record)).2 }

/-- The `GetItem` of a revocation, as a replica answers it. -/
def getRevocation (serialNumber : String) (replica : DynamoDbStorage) :
    Result (Option RevocationRecord) :=
  match replica.items.lookup (revocationPk serialNumber, revocationType) with
  | none => .ok none
  | some (.revocation record) => .ok (some record)
  | some _ => .error (.internal ("dynamodb deserialize revocation " ++ serialNumber ++
      ": missing field `serial_number`"))

/-- All pages of the inverted index, whose partition key is `sk` and sort key `pk`. -/
def listRevocations (replica : DynamoDbStorage) : Result (List RevocationRecord) :=
  let matching := replica.items.entries.filter fun item => item.1.2 == revocationType
  (matching.mergeSort fun i j => decide (i.1.1 ≤ j.1.1)).mapM fun item =>
    match item.2 with
    | .revocation record => .ok record
    | _ => .error (.internal
        "dynamodb deserialize revocations: missing field `serial_number`")

/-- The part of `claim_token` before its put. The buffer is added to the instant, and a
clock before the epoch is read as the epoch. -/
def prepareClaim (jti : String) (expiresAt now : SystemTime) : Outcome PendingClaim := do
  let padded ← expiresAt.plus ttlBuffer
  match secsSinceEpoch padded with
  | none => .error (.error (.internal ("token " ++ jti ++ " expiry before epoch: " ++
      systemTimeError)))
  | some ttl => .ok { jti, expiresAt := ttl, now := unixSecs now }

/-- The put of `claim_token`, with the condition `attribute_not_exists(pk) OR #ttl <= :now`. -/
def commitClaim (claim : PendingClaim) (db : DynamoDbStorage) : Result Unit × DynamoDbStorage :=
  let put := { db with items := db.items.insert (tokenKey claim.jti) (.token claim.expiresAt) }
  match db.items.lookup (tokenKey claim.jti) with
  | none => (.ok (), put)
  | some item =>
    if item.lapsed claim.now then (.ok (), put)
    else (.error (alreadyClaimed claim.jti), db)

/-- `claim_token`, when it reads the clock at `now`. -/
def claimToken (jti : String) (expiresAt now : SystemTime) (db : DynamoDbStorage) :
    Outcome Unit × DynamoDbStorage :=
  match prepareClaim jti expiresAt now with
  | .error abort => (.error abort, db)
  | .ok claim => (db.commitClaim claim).map Result.orAbort id

/-- The `GetItem` of a cache entry, as a replica answers it, and what is made of it at `now`. -/
def getCache (key : String) (now : SystemTime) (replica : DynamoDbStorage) : Result (Option Bytes) :=
  match replica.items.lookup (cachePk key, cacheType) with
  | none => .ok none
  | some item =>
    match secsSinceEpoch now with
    | none => .error (.internal ("clock before epoch: " ++ systemTimeError))
    | some now =>
      match item with
      | .cache value exp _ => .ok (if exp ≤ now then none else some value)
      -- an item without an `exp` attribute counts as expired
      | _ => .ok none

def setCache (key : String) (value : Bytes) (expiresAt : SystemTime) (db : DynamoDbStorage) :
    Result Unit × DynamoDbStorage :=
  match secsSinceEpoch expiresAt with
  | none => (.error (.internal ("cache " ++ key ++ " expiry before epoch: " ++ systemTimeError)), db)
  | some exp => (.ok (), { db with
      items := db.items.insert (cachePk key, cacheType) (.cache value exp (exp + asSecs ttlBuffer)) })

/-- The deletions of the service at the second `now`: of the items whose `ttl` has come, those
it chooses. -/
def sweep (chosen : String × String → Bool) (now : ℕ) (db : DynamoDbStorage) : DynamoDbStorage :=
  { db with items := db.items.deleteWhere fun key item => chosen key && item.lapsed now }

/-- The sort keys of certificates are those of no other concern. -/
theorem certificateSk_ne (cn : String) :
    certificateSk cn ≠ tokenType ∧ certificateSk cn ≠ revocationType ∧ certificateSk cn ≠ cacheType := by
  have hsecond : (certificateSk cn).toList[1]? = some 'n' := by
    simp [certificateSk, certificateSkPrefix]
  refine ⟨?_, ?_, ?_⟩ <;>
    · intro h
      rw [h] at hsecond
      revert hsecond
      decide

theorem certificateKey_inj {serial cn serial' cn' : String} :
    (certificatePk serial, certificateSk cn) = (certificatePk serial', certificateSk cn') ↔
      serial = serial' ∧ cn = cn' := by
  simp [certificatePk, certificateSk]

theorem exists_certificateSk {sk : String} (h : certificateSkPrefix.toList <+: sk.toList) :
    ∃ cn, sk = certificateSk cn := by
  obtain ⟨rest, hrest⟩ := h
  refine ⟨String.ofList rest, String.toList_inj.mp ?_⟩
  simp [certificateSk, ← hrest]

/-! ## What a put leaves alone

The sort key of an item says which concern it belongs to, so a put of one concern never
touches the items of another. -/

section Put

variable {key : String × String}

theorem key_ne_of_sk {pk sk : String} (h : key.2 ≠ sk) : key ≠ (pk, sk) := by
  rintro rfl
  exact h rfl

theorem lookup_recordCertificate (record : CertificateRecord) (db : DynamoDbStorage)
    (h : ∀ cn, key.2 ≠ certificateSk cn) :
    (db.recordCertificate record).2.items.lookup key = db.items.lookup key := by
  simp only [recordCertificate]
  split
  · rfl
  · exact AList.lookup_insert_ne (key_ne_of_sk (h record.subject))

theorem lookup_revoke (record : RevocationRecord) (db : DynamoDbStorage)
    (h : key ≠ (revocationPk record.serialNumber, revocationType)) :
    (db.revoke record).items.lookup key = db.items.lookup key := by
  simp only [revoke, Table.insertOrIgnore]
  split
  · rfl
  · exact AList.lookup_insert_ne h

theorem lookup_commitClaim (claim : PendingClaim) (db : DynamoDbStorage)
    (h : key ≠ tokenKey claim.jti) :
    (db.commitClaim claim).2.items.lookup key = db.items.lookup key := by
  simp only [commitClaim]
  split
  · exact AList.lookup_insert_ne h
  · split
    · exact AList.lookup_insert_ne h
    · rfl

theorem lookup_setCache {cacheKey : String} (value : Bytes) (expiresAt : SystemTime)
    (db : DynamoDbStorage) (h : key ≠ (cachePk cacheKey, cacheType)) :
    (db.setCache cacheKey value expiresAt).2.items.lookup key = db.items.lookup key := by
  simp only [setCache]
  split
  · rfl
  · exact AList.lookup_insert_ne h

end Put

/-- A partition with one item under a prefix. -/
theorem query_eq_singleton {pk sk skPrefix : String} {item : Item} {db : DynamoDbStorage}
    (hitem : db.items.lookup (pk, sk) = some item) (hsk : skPrefix.toList <+: sk.toList)
    (honly : ∀ sk' item', db.items.lookup (pk, sk') = some item' → skPrefix.toList <+: sk'.toList →
      sk' = sk) : db.query pk skPrefix = [item] := by
  have hmatching : (db.items.entries.filter fun row =>
      row.1.1 == pk && skPrefix.toList.isPrefixOf row.1.2.toList) = [⟨(pk, sk), item⟩] := by
    rw [← List.perm_singleton]
    refine (List.perm_ext_iff_of_nodup ?_ (List.nodup_singleton _)).mpr ?_
    · exact (List.NodupKeys.nodup db.items.nodupKeys).filter _
    · rintro ⟨⟨pk', sk'⟩, item'⟩
      simp only [List.mem_filter, Table.mem_entries, List.mem_singleton, Bool.and_eq_true,
        beq_iff_eq, List.isPrefixOf_iff_prefix]
      constructor
      · rintro ⟨hrow, rfl, hprefix⟩
        obtain rfl := honly sk' item' hrow hprefix
        cases hitem.symm.trans hrow
        rfl
      · rintro ⟨⟩
        exact ⟨hitem, rfl, hsk⟩
  simp [query, hmatching]

/-- The expiry of a claim from the epoch on is written with the buffer, when the sum fits. -/
theorem prepareClaim_eq_ok {jti : String} {expiresAt now : SystemTime} {claim : PendingClaim}
    (hepoch : unixEpoch ≤ expiresAt) :
    prepareClaim jti expiresAt now = .ok claim ↔
      expiresAt.nanos + ttlBuffer < timeLimit ∧
        claim = ⟨jti, unixSecs expiresAt + 3600, unixSecs now⟩ := by
  unfold prepareClaim
  rw [Effect.except_bind_eq_ok]
  constructor
  · rintro ⟨padded, hpadded, h⟩
    have hnanos := SystemTime.plus_eq_ok.mp hpadded
    have hfits := hnanos ▸ padded.inRange.2
    have hsecs := unixSecs_of_plus hepoch hnanos
    have hle : unixEpoch ≤ padded := by
      rw [SystemTime.le_def] at hepoch ⊢
      omega
    rw [secsSinceEpoch_eq_some.mpr ⟨hle, hsecs⟩] at h
    cases h
    exact ⟨hfits, rfl⟩
  · rintro ⟨hfits, rfl⟩
    have hle : (0 : Int) ≤ expiresAt.nanos := hepoch
    have hmin : -timeLimit ≤ expiresAt.nanos + ttlBuffer := by
      have := expiresAt.inRange
      omega
    refine ⟨⟨_, hmin, hfits⟩, SystemTime.plus_eq_ok.mpr rfl, ?_⟩
    have hpadded : secsSinceEpoch ⟨_, hmin, hfits⟩ = some (unixSecs expiresAt + 3600) := by
      refine secsSinceEpoch_eq_some.mpr ⟨?_, unixSecs_of_plus hepoch rfl⟩
      rw [SystemTime.le_def]
      exact hle.trans (Int.le_add_of_nonneg_right (Int.natCast_nonneg _))
    rw [hpadded]

end DynamoDbStorage

end Ayane
