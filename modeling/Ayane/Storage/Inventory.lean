import Ayane.Lib.Run
import Ayane.Storage

/-!
# The inventory of certificates

Certificates are recorded one after another, with any other operations on the storage in
between. SQLite keeps one row for each serial number. On DynamoDB the sort key of an item
carries the common name, and the condition of a put sees only the item with the same full
key, so a serial number that comes back under another common name is recorded once more.
-/

namespace Ayane

/-- An operation on a storage. -/
inductive Storage.Operation where
  | recordCertificate (record : CertificateRecord)
  | revoke (record : RevocationRecord)
  | claimToken (jti : String) (expiresAt now : SystemTime)
  | getCache (key : String) (now : SystemTime)
  | setCache (key : String) (value : Bytes) (expiresAt : SystemTime)
  | reapExpired (now : SystemTime)
  | sweep (chosen : String × String → Bool) (now : ℕ)

def Storage.Operation.apply (s : Storage) : Storage.Operation → Storage
  | .recordCertificate record => (s.recordCertificate record).2
  | .revoke record => s.revoke record
  | .claimToken jti expiresAt now => (s.claimToken jti expiresAt now).2
  | .getCache key now => (s.getCache key now).2
  | .setCache key value expiresAt => (s.setCache key value expiresAt).2
  | .reapExpired now => (s.reapExpired now).2
  | .sweep chosen now => s.sweep chosen now

def Storage.Operation.record? : Storage.Operation → Option CertificateRecord
  | .recordCertificate record => some record
  | _ => none

theorem Storage.Operation.record?_eq_some {op : Storage.Operation} {r : CertificateRecord} :
    op.record? = some r ↔ op = .recordCertificate r := by
  cases op <;> simp [record?]

/-- A storage, with the calls of `record_certificate` so far and what they returned. -/
structure Inventory where
  storage : Storage
  calls : List (CertificateRecord × Result Unit) := []

namespace Inventory

def after (i : Inventory) (op : Storage.Operation) : Inventory where
  storage := op.apply i.storage
  calls := i.calls ++ op.record?.toList.map fun r => (r, (i.storage.recordCertificate r).1)

/-- The records of the calls that succeeded, the earliest first. -/
def recorded (i : Inventory) : List CertificateRecord :=
  (i.calls.filter fun call => call.2.isOk).map (·.1)

/-- A recorded serial number is found with its first record. -/
def Findable (i : Inventory) : Prop :=
  ∀ serial r, i.recorded.find? (fun r => r.serialNumber = serial) = some r →
    i.storage.getCertificate serial = .ok (some r)

/-- A call fails exactly when its serial number has been recorded, and then changes nothing;
afterwards every recorded serial number is found with its first record. -/
def Unique (i : Inventory) (op : Storage.Operation) : Prop :=
  (∀ r, op.record? = some r →
    ((i.storage.recordCertificate r).1.isOk = false ↔
      ∃ q ∈ i.recorded, q.serialNumber = r.serialNumber) ∧
    ((i.storage.recordCertificate r).1.isOk = false → (i.storage.recordCertificate r).2 = i.storage)) ∧
  (i.after op).Findable

section

variable {i : Inventory} {op : Storage.Operation} {r : CertificateRecord}

theorem recorded_after :
    (i.after op).recorded =
      i.recorded ++ op.record?.toList.filter fun r => (i.storage.recordCertificate r).1.isOk := by
  simp only [recorded, after, List.filter_append, List.map_append, List.filter_map, List.map_map]
  congr 1
  exact List.map_id _

theorem recorded_after_of_none (h : op.record? = none) : (i.after op).recorded = i.recorded := by
  simp [recorded_after, h]

/-- What is found after one more record, when its serial number is new. -/
theorem find?_append {serial : String} {rs : List CertificateRecord}
    (hnew : ∀ q ∈ rs, q.serialNumber ≠ r.serialNumber) :
    (rs ++ [r]).find? (fun q => q.serialNumber = serial) =
      if serial = r.serialNumber then some r else rs.find? fun q => q.serialNumber = serial := by
  rw [List.find?_append, List.find?_singleton]
  by_cases hserial : serial = r.serialNumber
  · subst hserial
    have hnone : rs.find? (fun q => q.serialNumber = r.serialNumber) = none :=
      List.find?_eq_none.mpr fun q hq => by simpa using hnew q hq
    simp [hnone]
  · simp [hserial, Ne.symm hserial]

end

/-! ## SQLite -/

/-- The rows of the table are the records, by serial number. -/
def Rows (i : Inventory) : Prop :=
  ∃ db, i.storage = .sqlite db ∧
    ∀ serial, db.certificates.lookup serial = i.recorded.find? fun r => r.serialNumber = serial

theorem Rows.findable {i : Inventory} (h : i.Rows) : i.Findable := by
  obtain ⟨db, hdb, hrows⟩ := h
  intro serial r hr
  rw [hdb, ← hr, ← hrows serial]
  rfl

theorem certificates_apply {db : SqliteStorage} {op : Storage.Operation} (h : op.record? = none) :
    ∃ db', op.apply (.sqlite db) = .sqlite db' ∧ db'.certificates = db.certificates := by
  cases op with
  | recordCertificate record => cases h
  | revoke record => exact ⟨_, rfl, rfl⟩
  | claimToken jti expiresAt now =>
    refine ⟨(db.claimToken jti expiresAt now).2, ?_, ?_⟩
    · simp only [Storage.Operation.apply, Storage.claimToken_sqlite, Prod.map_snd]
    · simp only [SqliteStorage.claimToken, SqliteStorage.commitClaim]
      split
      · rfl
      · simp only [Prod.map_snd]
        split <;> rfl
  | getCache key now =>
    refine ⟨(db.getCache key now).2, rfl, ?_⟩
    simp only [SqliteStorage.getCache]
    split <;> rfl
  | setCache key value expiresAt =>
    refine ⟨(db.setCache key value expiresAt).2, rfl, ?_⟩
    simp only [SqliteStorage.setCache]
    split <;> rfl
  | reapExpired now =>
    refine ⟨(db.reapExpired now).2, rfl, ?_⟩
    simp only [SqliteStorage.reapExpired]
    split <;> rfl
  | sweep chosen now => exact ⟨_, rfl, rfl⟩

theorem Rows.after {i : Inventory} (h : i.Rows) (op : Storage.Operation) : (i.after op).Rows := by
  obtain ⟨db, hdb, hrows⟩ := h
  cases hop : op.record? with
  | none =>
    obtain ⟨db', hdb', hsame⟩ := @certificates_apply db op hop
    refine ⟨db', by rw [← hdb', ← hdb]; rfl, fun serial => ?_⟩
    rw [recorded_after_of_none hop, hsame, hrows]
  | some r =>
    obtain rfl := Storage.Operation.record?_eq_some.mp hop
    cases hrow : db.certificates.lookup r.serialNumber with
    | some q =>
      obtain ⟨e, hstored⟩ : ∃ e, i.storage.recordCertificate r = (.error e, .sqlite db) := by
        simp only [hdb, Storage.recordCertificate, SqliteStorage.recordCertificate, hrow]
        exact ⟨_, rfl⟩
      refine ⟨db, congrArg Prod.snd hstored, fun serial => ?_⟩
      rw [recorded_after, hrows]
      simp [Storage.Operation.record?, hstored, Except.isOk, Except.toBool]
    | none =>
      have hstored : i.storage.recordCertificate r =
          (.ok (), .sqlite { db with certificates := db.certificates.insert r.serialNumber r }) := by
        simp only [hdb, Storage.recordCertificate, SqliteStorage.recordCertificate, hrow]
        rfl
      have hnew : ∀ q ∈ i.recorded, q.serialNumber ≠ r.serialNumber := by
        rw [hrows] at hrow
        simpa using List.find?_eq_none.mp hrow
      refine ⟨_, congrArg Prod.snd hstored, fun serial => ?_⟩
      rw [recorded_after, Table.lookup_insert_eq, hrows, ← find?_append hnew]
      simp [Storage.Operation.record?, hstored, Except.isOk, Except.toBool]

theorem Rows.unique {i : Inventory} (h : i.Rows) (op : Storage.Operation) : i.Unique op := by
  refine ⟨fun r hr => ?_, (h.after op).findable⟩
  obtain ⟨db, hdb, hrows⟩ := h
  simp only [hdb, Storage.recordCertificate, SqliteStorage.recordCertificate, hrows]
  cases hfind : i.recorded.find? (fun q => q.serialNumber = r.serialNumber) with
  | none =>
    have hnew := List.find?_eq_none.mp hfind
    simp only [decide_eq_true_eq] at hnew
    simpa [Except.isOk, Except.toBool] using hnew
  | some q =>
    have hq := List.mem_of_find?_eq_some hfind
    have hserial := List.find?_some hfind
    simp only [decide_eq_true_eq] at hserial
    simpa [Except.isOk, Except.toBool] using ⟨q, hq, hserial⟩

/-! ## DynamoDB -/

open DynamoDbStorage

/-- The certificate items are the records, each under its serial number and common name; no two
have one serial number, and a call that failed found its own. -/
structure Items (i : Inventory) (db : DynamoDbStorage) : Prop where
  storage : i.storage = .dynamodb db
  stored : ∀ r ∈ i.recorded,
    db.items.lookup (certificatePk r.serialNumber, certificateSk r.subject) = some (.certificate r)
  only : ∀ serial cn item, db.items.lookup (certificatePk serial, certificateSk cn) = some item →
    ∃ r ∈ i.recorded, r.serialNumber = serial ∧ r.subject = cn
  distinct : (i.recorded.map (·.serialNumber)).Nodup
  calls : ∀ call ∈ i.calls, ∃ r ∈ i.recorded,
    r.serialNumber = call.1.serialNumber ∧ r.subject = call.1.subject

section

variable {i : Inventory} {db : DynamoDbStorage} {op : Storage.Operation} {r : CertificateRecord}

theorem Items.start : Items { storage := .dynamodb {} } {} where
  storage := rfl
  stored _ hr := by cases hr
  only _ _ _ hitem := by cases hitem
  distinct := List.nodup_nil
  calls _ hcall := by cases hcall

theorem Items.eq_of_serial (h : Items i db) {r r' : CertificateRecord} (hr : r ∈ i.recorded)
    (hr' : r' ∈ i.recorded) (hserial : r.serialNumber = r'.serialNumber) : r = r' :=
  List.inj_on_of_nodup_map h.distinct hr hr' hserial

theorem Items.findable (h : Items i db) : i.Findable := by
  intro serial r hr
  have hmem := List.mem_of_find?_eq_some hr
  obtain rfl : r.serialNumber = serial := by simpa using List.find?_some hr
  have hquery := query_eq_singleton (h.stored r hmem)
    (show certificateSkPrefix.toList <+: (certificateSk r.subject).toList by simp [certificateSk])
    (fun sk' item' hitem hprefix => by
      obtain ⟨cn, rfl⟩ := exists_certificateSk hprefix
      obtain ⟨r', hr', hserial, rfl⟩ := h.only _ _ _ hitem
      rw [h.eq_of_serial hr' hmem hserial])
  simp [h.storage, Storage.getCertificate, DynamoDbStorage.getCertificate, hquery]

/-- The other operations leave the certificate items alone. -/
theorem items_apply (h : op.record? = none) :
    ∃ db', op.apply (.dynamodb db) = .dynamodb db' ∧ ∀ serial cn,
      (∀ item, db.items.lookup (certificatePk serial, certificateSk cn) = some item → item.ttl = none) →
      db'.items.lookup (certificatePk serial, certificateSk cn) =
        db.items.lookup (certificatePk serial, certificateSk cn) := by
  cases op with
  | recordCertificate record => cases h
  | revoke record =>
    exact ⟨_, rfl, fun serial cn _ => db.lookup_revoke record (key_ne_of_sk (certificateSk_ne cn).2.1)⟩
  | claimToken jti expiresAt now =>
    refine ⟨(db.claimToken jti expiresAt now).2, ?_, fun serial cn _ => ?_⟩
    · simp only [Storage.Operation.apply, Storage.claimToken_dynamodb, Prod.map_snd]
    · simp only [DynamoDbStorage.claimToken]
      cases DynamoDbStorage.prepareClaim jti expiresAt now with
      | error abort => rfl
      | ok claim => exact db.lookup_commitClaim claim (key_ne_of_sk (certificateSk_ne cn).1)
  | getCache key now => exact ⟨_, rfl, fun _ _ _ => rfl⟩
  | setCache key value expiresAt =>
    exact ⟨_, rfl, fun serial cn _ =>
      db.lookup_setCache value expiresAt (key_ne_of_sk (certificateSk_ne cn).2.2)⟩
  | reapExpired now => exact ⟨_, rfl, fun _ _ _ => rfl⟩
  | sweep chosen now =>
    refine ⟨db.sweep chosen now, rfl, fun serial cn hitem => ?_⟩
    simp only [DynamoDbStorage.sweep, Table.lookup_deleteWhere]
    cases hfound : db.items.lookup (certificatePk serial, certificateSk cn) with
    | none => rfl
    | some item => simp [Option.filter, Item.lapsed, hitem item hfound]

theorem Items.after_of_none (h : Items i db) (hop : op.record? = none) :
    ∃ db', Items (i.after op) db' := by
  obtain ⟨db', hdb', hsame⟩ := @items_apply db op hop
  replace hsame : ∀ serial cn, db'.items.lookup (certificatePk serial, certificateSk cn) =
      db.items.lookup (certificatePk serial, certificateSk cn) := by
    refine fun serial cn => hsame serial cn fun item hitem => ?_
    obtain ⟨r, hr, rfl, rfl⟩ := h.only _ _ _ hitem
    cases (h.stored r hr).symm.trans hitem
    rfl
  refine ⟨db', ?_, ?_, ?_, ?_, ?_⟩
  · rw [← hdb', ← h.storage]
    rfl
  · rw [recorded_after_of_none hop]
    exact fun r hr => (hsame _ _).trans (h.stored r hr)
  · rw [recorded_after_of_none hop]
    exact fun serial cn item hitem => h.only serial cn item ((hsame _ _).symm.trans hitem)
  · rw [recorded_after_of_none hop]
    exact h.distinct
  · rw [recorded_after_of_none hop]
    simpa [after, hop] using h.calls

/-- A record is refused exactly when one with its serial number and common name is there. -/
theorem Items.record_cases (h : Items i db) (r : CertificateRecord) :
    ((∃ e, i.storage.recordCertificate r = (.error e, .dynamodb db)) ∧
      ∃ q ∈ i.recorded, q.serialNumber = r.serialNumber ∧ q.subject = r.subject) ∨
    (i.storage.recordCertificate r = (.ok (), .dynamodb { db with
        items := db.items.insert (certificatePk r.serialNumber, certificateSk r.subject)
          (.certificate r) }) ∧
      ∀ q ∈ i.recorded, ¬(q.serialNumber = r.serialNumber ∧ q.subject = r.subject)) := by
  simp only [h.storage, Storage.recordCertificate, DynamoDbStorage.recordCertificate]
  cases hitem : db.items.lookup (certificatePk r.serialNumber, certificateSk r.subject) with
  | some item => exact .inl ⟨⟨_, rfl⟩, h.only _ _ _ hitem⟩
  | none =>
    refine .inr ⟨rfl, ?_⟩
    rintro q hq ⟨hserial, hsubject⟩
    have hstored := h.stored q hq
    rw [hserial, hsubject, hitem] at hstored
    cases hstored

/-- A record with a new serial number is kept like those before it. -/
theorem Items.after_record (h : Items i db)
    (hstored : i.storage.recordCertificate r = (.ok (), .dynamodb { db with
      items := db.items.insert (certificatePk r.serialNumber, certificateSk r.subject)
        (.certificate r) }))
    (hnew : ∀ q ∈ i.recorded, q.serialNumber ≠ r.serialNumber) :
    ∃ db', Items (i.after (.recordCertificate r)) db' := by
  have hrecorded : (i.after (.recordCertificate r)).recorded = i.recorded ++ [r] := by
    rw [recorded_after]
    simp [Storage.Operation.record?, hstored, Except.isOk, Except.toBool]
  refine ⟨_, congrArg Prod.snd hstored, ?_, ?_, ?_, ?_⟩
  · rw [hrecorded]
    intro q hq
    rw [Table.lookup_insert_eq]
    obtain hq | rfl : q ∈ i.recorded ∨ q = r := by simpa using hq
    · rw [if_neg fun heq => hnew q hq (certificateKey_inj.mp heq).1]
      exact h.stored q hq
    · exact if_pos rfl
  · rw [hrecorded]
    intro serial cn item hitem
    rw [Table.lookup_insert_eq] at hitem
    split at hitem
    · rename_i heq
      obtain ⟨rfl, rfl⟩ := certificateKey_inj.mp heq
      exact ⟨r, by simp, rfl, rfl⟩
    · obtain ⟨q, hq, hkey⟩ := h.only serial cn item hitem
      exact ⟨q, List.mem_append_left _ hq, hkey⟩
  · rw [hrecorded, List.map_append]
    refine h.distinct.append (List.nodup_singleton _) ?_
    simpa [List.disjoint_singleton] using hnew
  · rw [hrecorded]
    intro call hcall
    obtain hcall | rfl : call ∈ i.calls ∨ call = (r, (i.storage.recordCertificate r).1) := by
      simpa [after, Storage.Operation.record?] using hcall
    · obtain ⟨q, hq, hkey⟩ := h.calls call hcall
      exact ⟨q, List.mem_append_left _ hq, hkey⟩
    · exact ⟨r, by simp, rfl, rfl⟩

/-- A record that is refused is remembered as a call for a record that is there. -/
theorem Items.after_refused (h : Items i db) {e : Error}
    (hrefused : i.storage.recordCertificate r = (.error e, .dynamodb db))
    (hfound : ∃ q ∈ i.recorded, q.serialNumber = r.serialNumber ∧ q.subject = r.subject) :
    Items (i.after (.recordCertificate r)) db := by
  have hrecorded : (i.after (.recordCertificate r)).recorded = i.recorded := by
    rw [recorded_after]
    simp [Storage.Operation.record?, hrefused, Except.isOk, Except.toBool]
  refine ⟨congrArg Prod.snd hrefused, ?_, ?_, ?_, ?_⟩
  · rw [hrecorded]
    exact h.stored
  · rw [hrecorded]
    exact h.only
  · rw [hrecorded]
    exact h.distinct
  · rw [hrecorded]
    intro call hcall
    obtain hcall | rfl : call ∈ i.calls ∨ call = (r, (i.storage.recordCertificate r).1) := by
      simpa [after, Storage.Operation.record?] using hcall
    · exact h.calls call hcall
    · exact hfound

/-- A record has the common name of every earlier call with its serial number. -/
def Matching (i : Inventory) (op : Storage.Operation) : Prop :=
  ∀ r, op.record? = some r → ∀ call ∈ i.calls, call.1.serialNumber = r.serialNumber →
    call.1.subject = r.subject

theorem Items.unique_iff (h : Items i db) (op : Storage.Operation) : i.Unique op ↔ i.Matching op := by
  cases hop : op.record? with
  | none =>
    obtain ⟨db', hafter⟩ := h.after_of_none hop
    refine iff_of_true ⟨fun r hr => ?_, hafter.findable⟩ fun r hr => ?_
    · rw [hop] at hr
      cases hr
    · rw [hop] at hr
      cases hr
  | some r =>
    obtain rfl := Storage.Operation.record?_eq_some.mp hop
    obtain ⟨⟨e, hrefused⟩, hfound⟩ | ⟨hstored, hnone⟩ := h.record_cases r
    · obtain ⟨q, hq, hserial, hsubject⟩ := hfound
      refine iff_of_true ⟨fun r' hr' => ?_, (h.after_refused hrefused ⟨q, hq, hserial, hsubject⟩).findable⟩
        fun r' hr' call hcall hsame => ?_
      · cases hr'
        rw [hrefused]
        exact ⟨iff_of_true rfl ⟨q, hq, hserial⟩, fun _ => h.storage.symm⟩
      · cases hr'
        obtain ⟨q', hq', hserial', hsubject'⟩ := h.calls call hcall
        rw [← hsubject', h.eq_of_serial hq' hq (hserial'.trans (hsame.trans hserial.symm)), hsubject]
    · constructor
      · rintro ⟨hrecord, -⟩ r' hr' call hcall hsame
        cases hr'
        obtain ⟨q, hq, hserial, -⟩ := h.calls call hcall
        have hfail := ((hrecord r rfl).1).mpr ⟨q, hq, hserial.trans hsame⟩
        rw [hstored] at hfail
        cases hfail
      · intro hmatching
        have hnew : ∀ q ∈ i.recorded, q.serialNumber ≠ r.serialNumber := by
          intro q hq hserial
          obtain ⟨call, hcall, rfl⟩ := List.mem_map.mp hq
          exact hnone _ hq ⟨hserial, hmatching r rfl call (List.mem_filter.mp hcall).1 hserial⟩
        obtain ⟨db', hafter⟩ := h.after_record hstored hnew
        refine ⟨fun r' hr' => ?_, hafter.findable⟩
        cases hr'
        rw [hstored]
        refine ⟨iff_of_false Bool.noConfusion ?_, Bool.noConfusion⟩
        rintro ⟨q, hq, hserial⟩
        exact hnew q hq hserial

/-- A unique call keeps the items in order. -/
theorem Items.after (h : Items i db) (hunique : i.Unique op) : ∃ db', Items (i.after op) db' := by
  cases hop : op.record? with
  | none => exact h.after_of_none hop
  | some r =>
    obtain rfl := Storage.Operation.record?_eq_some.mp hop
    obtain ⟨⟨e, hrefused⟩, hfound⟩ | ⟨hstored, -⟩ := h.record_cases r
    · exact ⟨db, h.after_refused hrefused hfound⟩
    · refine h.after_record hstored fun q hq hserial => ?_
      have hfail := ((hunique.1 r rfl).1).mpr ⟨q, hq, hserial⟩
      rw [hstored] at hfail
      cases hfail

end

/-- The records of a list of operations. -/
def records (ops : List Storage.Operation) : List CertificateRecord := ops.filterMap Storage.Operation.record?

/-- Along a list of operations every record matches the calls before it, those of the list among
them. -/
theorem along_matching_iff {i : Inventory} {ops : List Storage.Operation} :
    Runs.Along after Matching i ops ↔
      (∀ call ∈ i.calls, ∀ r ∈ records ops, call.1.serialNumber = r.serialNumber →
        call.1.subject = r.subject) ∧
      (records ops).Pairwise fun r r' => r.serialNumber = r'.serialNumber → r.subject = r'.subject := by
  induction ops generalizing i with
  | nil => simp [Runs.Along, records]
  | cons op ops ih =>
    rw [Runs.Along, ih]
    cases hop : op.record? with
    | none =>
      have hcalls : (i.after op).calls = i.calls := by simp [after, hop]
      have hrecords : records (op :: ops) = records ops := List.filterMap_cons_none hop
      have hmatching : i.Matching op := fun r hr => by
        rw [hop] at hr
        cases hr
      simp [hcalls, hrecords, hmatching]
    | some r =>
      have hcalls : (i.after op).calls = i.calls ++ [(r, (i.storage.recordCertificate r).1)] := by
        simp [after, hop]
      have hrecords : records (op :: ops) = r :: records ops := List.filterMap_cons_some hop
      have hmatching : i.Matching op ↔ ∀ call ∈ i.calls, call.1.serialNumber = r.serialNumber →
          call.1.subject = r.subject := by
        simp [Matching, hop]
      rw [hmatching, hcalls, hrecords, List.pairwise_cons]
      simp only [List.forall_mem_append, List.forall_mem_singleton, List.forall_mem_cons]
      constructor
      · rintro ⟨hfirst, ⟨hbefore, hnow⟩, hafter⟩
        exact ⟨fun call hcall => ⟨hfirst call hcall, hbefore call hcall⟩, hnow, hafter⟩
      · rintro ⟨hboth, hnow, hafter⟩
        exact ⟨fun call hcall => (hboth call hcall).1, ⟨fun call hcall => (hboth call hcall).2, hnow⟩,
          hafter⟩

/-- On SQLite the records are unique by serial number, whatever else is done. On DynamoDB they are
exactly when no serial number is recorded under two common names. -/
theorem records_unique_iff (ops : List Storage.Operation) :
    Runs.Along after Unique { storage := .sqlite {} } ops ∧
      (Runs.Along after Unique { storage := .dynamodb {} } ops ↔
        (records ops).Pairwise fun r r' =>
          r.serialNumber = r'.serialNumber → r.subject = r'.subject) := by
  constructor
  · have hstart : Rows { storage := .sqlite {} } := ⟨{}, rfl, fun _ => rfl⟩
    exact Runs.along (fun i _ => Rows i) hstart (fun _ op _ h => h.unique op)
      fun _ op _ h => h.after op
  · have hstart : ∃ db, Items { storage := .dynamodb {} } db := ⟨{}, Items.start⟩
    rw [Runs.along_iff (fun i _ => ∃ db, Items i db) hstart
      (fun _ op _ ⟨_, h⟩ => h.unique_iff op) fun _ op _ ⟨_, h⟩ hunique => h.after hunique]
    rw [along_matching_iff]
    simp

/-- A record of the serial number 7. -/
def seven (subject : String) : CertificateRecord where
  serialNumber := "7"
  subject
  sans := []
  notBefore := "1000"
  notAfter := "2000"
  issuedAt := "1000"
  provisioner := none
  operation := "sign"
  renewable := true
  pem := subject

/-- On DynamoDB a serial number is recorded once more under another common name. -/
theorem recorded_twice :
    ¬Runs.Along after Unique { storage := .dynamodb {} }
      [.recordCertificate (seven "web"), .recordCertificate (seven "mail")] := by
  rintro ⟨-, ⟨hrecord, -⟩, -⟩
  have hfail := (hrecord (seven "mail") rfl).1.mpr ⟨seven "web", List.mem_singleton_self _, rfl⟩
  cases hfail

end Inventory

end Ayane
