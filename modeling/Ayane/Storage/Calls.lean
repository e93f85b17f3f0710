import Mathlib.Data.List.Induction
import Ayane.Storage.CacheEntries
import Ayane.Storage.Inventory
import Ayane.Storage.Revocations

/-!
# What callers see of the cache and the revocations

A storage is called again and again while the clock goes on, and rows that have expired are
deleted in between: by reads and by the reaper on SQLite, by the service itself on DynamoDB,
once the padded `ttl` of an item has come. Callers see none of that. The cache answers by the last
value that was written, until it expires, and a revocation is that of the first call. On DynamoDB these
are the writes that have come to the replica which answers.
-/

namespace Ayane.Storage

/-- A call, or a deletion that the backend makes by itself. -/
inductive Call where
  | recordCertificate (record : CertificateRecord)
  | revoke (record : RevocationRecord)
  | claimToken (jti : String) (expiresAt : SystemTime)
  | getCache (key : String)
  | setCache (key : String) (value : Bytes) (expiresAt : SystemTime)
  | reapExpired
  | sweep (chosen : String × String → Bool)

/-- The operation of a call that finds the clock at `now`. -/
def Call.operation (now : SystemTime) : Call → Operation
  | recordCertificate record => .recordCertificate record
  | revoke record => .revoke record
  | claimToken jti expiresAt => .claimToken jti expiresAt now
  | getCache key => .getCache key now
  | setCache key value expiresAt => .setCache key value expiresAt
  | reapExpired => .reapExpired now
  | sweep chosen => .sweep chosen (unixSecs now)

/-- What a call writes under `key`, with its second of expiry. A call whose expiry is before the epoch
fails and writes nothing. -/
def Call.write? (key : String) : Call → Option (Bytes × ℕ)
  | setCache key' value expiresAt =>
    if key' = key ∧ unixEpoch ≤ expiresAt then some (value, unixSecs expiresAt) else none
  | _ => none

def Call.revocation? : Call → Option RevocationRecord
  | revoke record => some record
  | _ => none

/-- Calls with the clock each of them finds, the earliest first. -/
abbrev Calls := List (SystemTime × Call)

namespace Calls

def after (s : Storage) (calls : Calls) : Storage :=
  calls.foldl (fun s c => (c.2.operation c.1).apply s) s

/-- The clock starts at or after the epoch, never goes back, and is at `now` in the end. -/
structure Clocked (calls : Calls) (now : SystemTime) : Prop where
  ordered : calls.Pairwise fun c c' => c.1 ≤ c'.1
  epoch : ∀ c ∈ calls, unixEpoch ≤ c.1
  done : ∀ c ∈ calls, c.1 ≤ now

/-- The last value that was written under `key`. -/
def lastWrite (calls : Calls) (key : String) : Option (Bytes × ℕ) :=
  (calls.filterMap fun c => c.2.write? key).getLast?

/-- The record of the first call to revoke `serial`. -/
def firstRevocation (calls : Calls) (serial : String) : Option RevocationRecord :=
  (calls.filterMap fun c => c.2.revocation?).find? fun record => record.serialNumber = serial

/-- What the replica that answers a read after `calls` has `seen` of them: all where reads are consistent,
otherwise those up to one of them. -/
structure Sees (start : Storage) (calls seen : Calls) : Prop where
  earlier : seen <+: calls
  all : start.consistentReads = true → seen = calls

/-- The storage answers from the second `now` on as the calls say. -/
structure Represents (s : Storage) (now : ℕ) (calls : Calls) : Prop where
  formed : s.CacheFormed
  cache : Expiring.Drops now calls.lastWrite s.cacheRow
  revocations : ∀ serial, s.getRevocation serial = .ok (calls.firstRevocation serial)

variable {s : Storage} {calls : Calls} {c : Call} {now t : SystemTime}

theorem lastWrite_append (key : String) :
    lastWrite (calls ++ [(now, c)]) key = (c.write? key).or (calls.lastWrite key) := by
  unfold lastWrite
  rw [List.filterMap_append]
  cases hwrite : c.write? key with
  | none => simp [hwrite]
  | some entry => simp [hwrite]

theorem firstRevocation_append (serial : String) :
    firstRevocation (calls ++ [(now, c)]) serial =
      (calls.firstRevocation serial).or (c.revocation?.filter fun record => record.serialNumber = serial) := by
  unfold firstRevocation
  rw [List.filterMap_append, List.find?_append]
  cases hrevoke : c.revocation? with
  | none => simp [hrevoke]
  | some record => simp [hrevoke, Option.filter, List.find?_singleton]

/-- Calls other than `set_cache` leave the last writes as they are. -/
theorem lastWrite_of_none (h : ∀ key, c.write? key = none) :
    lastWrite (calls ++ [(now, c)]) = calls.lastWrite := by
  funext key
  rw [lastWrite_append, h key]
  rfl

theorem firstRevocation_of_none (h : c.revocation? = none) (serial : String) :
    firstRevocation (calls ++ [(now, c)]) serial = calls.firstRevocation serial := by
  rw [firstRevocation_append, h]
  simp

theorem Represents.readable {n : ℕ} (h : Represents s n calls) : s.Readable :=
  fun serial => ⟨_, h.revocations serial⟩

theorem Represents.mono {n n' : ℕ} (h : Represents s n calls) (hle : n ≤ n') : Represents s n' calls :=
  ⟨h.formed, h.cache.mono hle, h.revocations⟩

end Calls

/-! ## What one call does -/

theorem formed_of_lookup {db db' : DynamoDbStorage} (h : (Storage.dynamodb db).CacheFormed)
    (hsame : ∀ key, db'.items.lookup (DynamoDbStorage.cacheKey key) =
      db.items.lookup (DynamoDbStorage.cacheKey key)) : (Storage.dynamodb db').CacheFormed := by
  intro key item hitem
  exact h key item ((hsame key).symm.trans hitem)

/-- Items of the cache are only written with a `ttl` behind their expiry. -/
theorem formed_apply {s : Storage} (h : s.CacheFormed) (op : Operation) :
    (op.apply s).CacheFormed := by
  cases s with
  | sqlite db =>
    cases op with
    | claimToken jti expiresAt now =>
      rw [Operation.apply, claimToken_sqlite]
      trivial
    | _ => trivial
  | dynamodb db =>
    cases op with
    | recordCertificate record =>
      exact formed_of_lookup h fun key => db.lookup_recordCertificate record
        fun cn => (DynamoDbStorage.certificateSk_ne cn).2.2.symm
    | revoke record =>
      have hsk : DynamoDbStorage.cacheType ≠ DynamoDbStorage.revocationType := by decide
      exact formed_of_lookup h fun key => db.lookup_revoke record (DynamoDbStorage.key_ne_of_sk hsk)
    | claimToken jti expiresAt now =>
      rw [Operation.apply, claimToken_dynamodb, Prod.map_snd]
      unfold DynamoDbStorage.claimToken
      have hsk : DynamoDbStorage.cacheType ≠ DynamoDbStorage.tokenType := by decide
      cases DynamoDbStorage.prepareClaim jti expiresAt now with
      | error abort => exact h
      | ok claim =>
        exact formed_of_lookup h fun key => db.lookup_commitClaim claim (DynamoDbStorage.key_ne_of_sk hsk)
    | getCache key now => exact h
    | setCache key value expiresAt =>
      intro key' item hitem
      by_cases hkey : key' = key
      · subst hkey
        change (db.setCache key' value expiresAt).2.items.lookup _ = _ at hitem
        simp only [DynamoDbStorage.setCache] at hitem
        split at hitem
        · exact h key' item hitem
        · rename_i exp hexp
          have hput : Item.cache value exp (exp + asSecs DynamoDbStorage.ttlBuffer) = item := by
            simpa [DynamoDbStorage.cacheKey] using hitem
          exact ⟨value, exp, _, hput.symm, Nat.le_add_right _ _⟩
      · have hne : DynamoDbStorage.cacheKey key' ≠
            (DynamoDbStorage.cachePk key, DynamoDbStorage.cacheType) :=
          fun heq => hkey (DynamoDbStorage.cacheKey_inj.mp heq)
        exact h key' item ((db.lookup_setCache value expiresAt hne).symm.trans hitem)
    | reapExpired now => exact h
    | sweep chosen now =>
      intro key item hitem
      have hkept : db.items.lookup (DynamoDbStorage.cacheKey key) = some item := by
        simp only [DynamoDbStorage.sweep, Table.lookup_deleteWhere, Option.filter_eq_some_iff] at hitem
        exact hitem.1
      exact h key item hkept

theorem cacheRow_claimToken (jti : String) (expiresAt now : SystemTime) (s : Storage) :
    (s.claimToken jti expiresAt now).2.cacheRow = s.cacheRow := by
  unfold claimToken
  cases s.prepareClaim jti expiresAt now with
  | error abort => rfl
  | ok claim => exact cacheRow_commitClaim claim s

theorem getRevocation_claimToken {serial : String} (jti : String) (expiresAt now : SystemTime)
    (s : Storage) : (s.claimToken jti expiresAt now).2.getRevocation serial = s.getRevocation serial := by
  unfold claimToken
  cases s.prepareClaim jti expiresAt now with
  | error abort => rfl
  | ok claim => exact getRevocation_commitClaim claim s

namespace Calls

variable {s : Storage} {calls : Calls} {now : SystemTime}

/-- The rows that one call leaves are those of the last writes, it included. -/
theorem Represents.drops_call {n : ℕ} (h : Represents s n calls) (hle : n ≤ unixSecs now) (c : Call) :
    Expiring.Drops (unixSecs now) (lastWrite (calls ++ [(now, c)]))
      ((c.operation now).apply s).cacheRow := by
  have hsame := h.cache.mono hle
  cases c with
  | recordCertificate record =>
    rw [lastWrite_of_none fun _ => rfl]
    exact (cacheRow_recordCertificate record s) ▸ hsame
  | revoke record =>
    rw [lastWrite_of_none fun _ => rfl]
    exact (cacheRow_revoke record s) ▸ hsame
  | claimToken jti expiresAt =>
    rw [lastWrite_of_none fun _ => rfl]
    exact (cacheRow_claimToken jti expiresAt now s) ▸ hsame
  | getCache key =>
    rw [lastWrite_of_none fun _ => rfl]
    exact h.cache.trans (drops_getCache key now s) hle
  | setCache key value expiresAt =>
    have hlast : lastWrite (calls ++ [(now, .setCache key value expiresAt)]) =
        if unixEpoch ≤ expiresAt then
          Function.update calls.lastWrite key (some (value, unixSecs expiresAt))
        else calls.lastWrite := by
      funext key'
      rw [lastWrite_append, Call.write?]
      by_cases hepoch : unixEpoch ≤ expiresAt
      · by_cases hkey : key = key'
        · subst hkey
          simp [hepoch]
        · simp [hepoch, hkey, Function.update_of_ne (Ne.symm hkey)]
      · simp [hepoch]
    rw [hlast]
    split_ifs with hepoch
    · rw [Call.operation, Operation.apply, cacheRow_setCache hepoch]
      exact hsame.put key _
    · have hstored : (s.setCache key value expiresAt).2 = s :=
        setCache_of_ne_ok fun hok => hepoch (setCache_eq_ok.mp hok)
      rw [Call.operation, Operation.apply, hstored]
      exact hsame
  | reapExpired =>
    rw [lastWrite_of_none fun _ => rfl]
    exact h.cache.trans (drops_reapExpired now s) hle
  | sweep chosen =>
    rw [lastWrite_of_none fun _ => rfl]
    exact h.cache.trans (drops_sweep h.formed chosen _) hle

/-- The revocation of a serial number after one call is that of the first call to revoke it. -/
theorem Represents.revocations_call {n : ℕ} (h : Represents s n calls) (c : Call) (serial : String) :
    ((c.operation now).apply s).getRevocation serial =
      .ok (firstRevocation (calls ++ [(now, c)]) serial) := by
  have hsame := h.revocations serial
  cases c with
  | recordCertificate record =>
    rw [firstRevocation_of_none rfl]
    exact (getRevocation_recordCertificate record s).trans hsame
  | revoke record =>
    rw [firstRevocation_append]
    by_cases hserial : serial = record.serialNumber
    · subst hserial
      cases hfirst : calls.firstRevocation record.serialNumber with
      | none =>
        rw [hfirst] at hsame
        refine (getRevocation_revoke_self hsame).trans ?_
        simp [Call.revocation?, Option.filter]
      | some old =>
        rw [hfirst] at hsame
        exact getRevocation_revoke_of_some hsame
    · have hother : (Call.revoke record).revocation?.filter
          (fun record => record.serialNumber = serial) = none := by
        simp [Call.revocation?, Option.filter, Ne.symm hserial]
      rw [hother, Option.or_none]
      exact (getRevocation_revoke_of_ne hserial).trans hsame
  | claimToken jti expiresAt =>
    rw [firstRevocation_of_none rfl]
    exact (getRevocation_claimToken jti expiresAt now s).trans hsame
  | getCache key =>
    rw [firstRevocation_of_none rfl]
    exact (getRevocation_getCache key now s).trans hsame
  | setCache key value expiresAt =>
    rw [firstRevocation_of_none rfl]
    exact (getRevocation_setCache key value expiresAt s).trans hsame
  | reapExpired =>
    rw [firstRevocation_of_none rfl]
    exact (getRevocation_reapExpired now s).trans hsame
  | sweep chosen =>
    rw [firstRevocation_of_none rfl]
    exact (getRevocation_sweep chosen _ h.readable).trans hsame

theorem Represents.call {n : ℕ} (h : Represents s n calls) (hle : n ≤ unixSecs now) (c : Call) :
    Represents ((c.operation now).apply s) (unixSecs now) (calls ++ [(now, c)]) where
  formed := formed_apply h.formed _
  cache := h.drops_call hle c
  revocations := h.revocations_call c

theorem represents_empty {start : Storage} (h : start ∈ [Storage.sqlite {}, Storage.dynamodb {}]) :
    Represents start 0 [] := by
  rcases List.mem_pair.mp h with rfl | rfl
  · exact ⟨trivial, .refl _ _, fun _ => rfl⟩
  · exact ⟨nofun, .refl _ _, fun _ => rfl⟩

theorem after_append (c : SystemTime × Call) :
    after s (calls ++ [c]) = (c.2.operation c.1).apply (after s calls) := by
  simp [after]

/-- Whatever calls a new storage has met, it answers as they say. -/
theorem represents_after {start : Storage} (h : start ∈ [Storage.sqlite {}, Storage.dynamodb {}])
    (hclock : calls.Clocked now) : Represents (after start calls) (unixSecs now) calls := by
  induction calls using List.reverseRecOn generalizing now with
  | nil => exact (represents_empty h).mono (Nat.zero_le _)
  | append_singleton calls c ih =>
    obtain ⟨hordered, hepoch, hdone⟩ := hclock
    rw [List.pairwise_append] at hordered
    have hbefore : Clocked calls c.1 := by
      refine ⟨hordered.1, fun c' hc' => hepoch c' (List.mem_append_left _ hc'), fun c' hc' => ?_⟩
      exact hordered.2.2 c' hc' c (List.mem_singleton_self c)
    rw [after_append]
    refine ((ih hbefore).call le_rfl c.2).mono (unixSecs_mono ?_)
    exact hdone c (by simp)

theorem Clocked.of_prefix {seen : Calls} (h : calls.Clocked now) (hseen : seen <+: calls) :
    seen.Clocked now where
  ordered := h.ordered.sublist hseen.sublist
  epoch c hc := h.epoch c (hseen.subset hc)
  done c hc := h.done c (hseen.subset hc)

/-- What a read of the cache should find: the last value written under its key, until its second of
expiry. -/
def Finds (calls : Calls) (key : String) (now : SystemTime) (answer : Result (Option Bytes)) : Prop :=
  ∃ found, answer = .ok found ∧ ∀ value, found = some value ↔
    ∃ expires, calls.lastWrite key = some (value, expires) ∧ unixSecs now < expires

theorem finds_iff {key : String} {found : Option Bytes} :
    calls.Finds key now (.ok found) ↔ found = Expiring.read calls.lastWrite key (unixSecs now) := by
  simp only [Finds, Except.ok.injEq, exists_eq_left', ← Expiring.read_eq_some]
  exact ⟨fun h => Option.ext h, fun h value => h ▸ Iff.rfl⟩

/-- On both backends a read of the cache finds what it should, and a read of a revocation the first
record, exactly if the calls that the replica has seen say the same of the key and the serial number as
all of them. -/
theorem calls_refine_iff {calls seen : Calls} {now : SystemTime} (hnow : unixEpoch ≤ now)
    (hclock : calls.Clocked now) :
    ∀ start ∈ [Storage.sqlite {}, Storage.dynamodb {}], Sees start calls seen →
      (∀ key, calls.Finds key now ((after start seen).getCache key now).1 ↔
        Expiring.read seen.lastWrite key (unixSecs now) = Expiring.read calls.lastWrite key (unixSecs now)) ∧
      ∀ serial, (after start seen).getRevocation serial = .ok (calls.firstRevocation serial) ↔
        seen.firstRevocation serial = calls.firstRevocation serial := by
  intro start hstart hsees
  have h := represents_after hstart (hclock.of_prefix hsees.earlier)
  refine ⟨fun key => ?_, fun serial => ?_⟩
  · rw [getCache_eq_read h.formed hnow, finds_iff, h.cache.read_eq le_rfl]
  · rw [h.revocations, Except.ok.injEq]

/-! ## Replicas -/

def revokedSeven (reason : String) : RevocationRecord where
  serialNumber := "7"
  reasonCode := 0
  reason := some reason
  revokedAt := "1000"
  provisioner := none

/-- A value is written until second 1100, and the serial number 7 is revoked twice. -/
def someCalls : Calls := [
  (systemTimeFromEpoch 1000, .setCache "roots" [1] (systemTimeFromEpoch 1100)),
  (systemTimeFromEpoch 1010, .revoke (revokedSeven "lost")),
  (systemTimeFromEpoch 1020, .sweep fun _ => true),
  (systemTimeFromEpoch 1030, .revoke (revokedSeven "found")),
  (systemTimeFromEpoch 1030, .reapExpired)]

theorem clocked_someCalls : Clocked someCalls (systemTimeFromEpoch 1099) :=
  ⟨by decide, by decide, by decide⟩

/-- A replica that has seen the first three calls answers for all five. -/
theorem calls_refine_before_expiry :
    someCalls.Finds "roots" (systemTimeFromEpoch 1099)
        ((after (.dynamodb {}) (someCalls.take 3)).getCache "roots" (systemTimeFromEpoch 1099)).1 ∧
      (after (.dynamodb {}) (someCalls.take 3)).getRevocation "7" =
        .ok (someCalls.firstRevocation "7") := by
  obtain ⟨hcache, hrevoked⟩ := calls_refine_iff (by decide) clocked_someCalls (.dynamodb {}) (by simp)
    ⟨List.take_prefix 3 someCalls, nofun⟩
  exact ⟨(hcache "roots").mpr (by decide), (hrevoked "7").mpr (by decide)⟩

/-- A replica to which the calls have not come yet finds neither the value nor the revocation. -/
theorem not_calls_refine_of_lag :
    Clocked someCalls (systemTimeFromEpoch 1099) ∧ Sees (.dynamodb {}) someCalls [] ∧
      ((after (.dynamodb {}) []).getCache "roots" (systemTimeFromEpoch 1099)).1 = .ok none ∧
      ¬someCalls.Finds "roots" (systemTimeFromEpoch 1099) (.ok none) ∧
      (after (.dynamodb {}) []).getRevocation "7" = .ok none ∧
      someCalls.firstRevocation "7" = some (revokedSeven "lost") := by
  refine ⟨clocked_someCalls, ⟨List.nil_prefix, nofun⟩, rfl, ?_, rfl, by decide⟩
  rw [finds_iff]
  decide

end Calls

end Ayane.Storage
