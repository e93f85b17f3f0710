import Ayane.Config
import Ayane.Http.Served

/-!
# Loading the configuration

`load_config` of `ayane/src/main.rs` and `ayane/src/bootstrap.rs`: where a process has its configuration
from. A configuration that is kept in the storage is found and checked by its SHA-384 digest. It stays in
the cache until it expires, whatever the servers that use the storage do meanwhile.
-/

namespace Ayane

open Ayane.Action Effect Interleave Storage Thread

/-- The deserializers that are derived in `config.rs`, and how an error of a text is displayed. -/
structure ConfigTexts where
  storageFromSlice : Bytes → Except String StorageConfig
  configFromStr : String → Except String Configuration
  utf8Error : Bytes → String

namespace Configuration

variable (crates : Crates) (texts : ConfigTexts)

def fromJson (text : String) : Result Configuration := do
  let config ← mapErr (fun e => .config ("invalid configuration: " ++ e)) (texts.configFromStr text)
  config.server.tls.validate
  .ok config

def fromPath (readToString : String → Except String String) (path : String) : Result Configuration := do
  let text ← mapErr (fun e => .config ("read config " ++ path ++ ": " ++ e)) (readToString path)
  fromJson texts text

/-- Bytes that are a document in UTF-8; `what` they are is told when they are not. -/
def fromUtf8 (what : String) (bytes : Bytes) : Result Configuration :=
  match String.fromUTF8? ⟨bytes.toArray⟩ with
  | some text => fromJson texts text
  | none => .error (.config (what ++ " is not valid UTF-8: " ++ texts.utf8Error bytes))

def fromBase64url (encoded : String) : Result Configuration := do
  let bytes ← mapErr (fun e => .config ("invalid base64url configuration: " ++ e))
    (crates.base64Url.decode (Text.trim encoded))
  fromUtf8 texts "base64url configuration" bytes

end Configuration

/-! ## From the storage -/

namespace Bootstrap

variable (crates : Crates) (texts : ConfigTexts)

def decodeStorageConfig (storageBase64url : String) : Result StorageConfig := do
  let bytes ← mapErr (fun e => .config ("invalid base64url bootstrap storage config: " ++ e))
    (crates.base64Url.decode (Text.trim storageBase64url))
  mapErr (fun e => .config ("invalid bootstrap storage config: " ++ e)) (texts.storageFromSlice bytes)

def decodeDigest (digest : String) : Result (Digest 48) := do
  let raw ← mapErr (fun e => .config ("invalid base64url SHA-384 digest: " ++ e))
    (crates.base64Url.decode (Text.trim digest))
  if hlength : raw.length = 48 then .ok ⟨raw, hlength⟩
  else .error (.config ("SHA-384 digest must be 48 bytes, got " ++ raw.length.repr))

/-- The key of the document with a digest. -/
def cacheKey (digest : Digest 48) : String := "config:" ++ crates.base64Url.encode digest

/-- What is made of a stored document. -/
def fromStored (want : Digest 48) (bytes : Bytes) : Result Configuration := do
  ensure (crates.sha384 bytes = want)
    (.config "stored configuration does not match the SHA-384 digest from AYANE_CONFIG_SHA384")
  Configuration.fromUtf8 texts "stored configuration" bytes

def loadConfigFrom (rt : Runtime) (digest : String) : Action Configuration := do
  let want ← ofResult (decodeDigest rt.crates.toCrates digest)
  let key := cacheKey rt.crates.toCrates want
  let found ← getCache rt key
  let bytes ← ofResult (okOr
    (.config ("configuration " ++ Text.debug key ++ " not found in storage")) found)
  ofResult (fromStored rt.crates.toCrates texts want bytes)

/-- The storage that is opened is that of the world. -/
def loadConfigFromStorage (rt : Runtime) (openStorage : StorageConfig → Result Unit)
    (storageBase64url digest : String) : Action Configuration := do
  let storageConfig ← ofResult (decodeStorageConfig rt.crates.toCrates texts storageBase64url)
  ofResult (openStorage storageConfig)
  loadConfigFrom texts rt digest

end Bootstrap

/-! ## From wherever it is -/

/-- What a process is started with. -/
structure Process where
  args : List String
  /-- An environment variable that is set to a text. -/
  var : String → Option String
  readToString : String → Except String String
  openStorage : StorageConfig → Result Unit

namespace Process

def envNonempty (process : Process) (key : String) : Option String :=
  (process.var key).filter fun s => s ≠ ""

/-- In order of precedence: an argument, the storage, the document itself, a path. -/
def loadConfig (texts : ConfigTexts) (rt : Runtime) (process : Process) : Action Configuration :=
  match process.args[1]? with
  | some arg => ofResult (Configuration.fromPath texts process.readToString arg)
  | none =>
    match process.envNonempty "AYANE_BOOTSTRAP_STORAGE_CONFIG" with
    | some storage => do
      let digest ← ofResult (okOr (.config
        ("AYANE_BOOTSTRAP_STORAGE_CONFIG is set but AYANE_CONFIG_SHA384 is not; the " ++
          "SHA-384 digest is required to locate and verify the stored configuration"))
        (process.envNonempty "AYANE_CONFIG_SHA384"))
      Bootstrap.loadConfigFromStorage texts rt process.openStorage storage digest
    | none =>
      match process.envNonempty "AYANE_CONFIG_BASE64URL" with
      | some encoded => ofResult (Configuration.fromBase64url rt.crates.toCrates texts encoded)
      | none => ofResult (Configuration.fromPath texts process.readToString
          ((process.var "AYANE_CONFIG").getD "ayane.json"))

/-- The process is told to load the document with a digest from a storage that it can open. -/
structure Bootstraps (texts : ConfigTexts) (rt : Runtime) (process : Process) (want : Digest 48) :
    Prop where
  unnamed : process.args[1]? = none
  opened : ∃ storage cfg, process.envNonempty "AYANE_BOOTSTRAP_STORAGE_CONFIG" = some storage ∧
    Bootstrap.decodeStorageConfig rt.crates.toCrates texts storage = .ok cfg ∧
    process.openStorage cfg = .ok ()
  digest : ∃ digest, process.envNonempty "AYANE_CONFIG_SHA384" = some digest ∧
    Bootstrap.decodeDigest rt.crates.toCrates digest = .ok want

end Process

/-! ## What stays in the cache -/

namespace Storage

/-- An operation that writes nothing under a key, and takes the time to be no later than a second where
it deletes what has expired. -/
def Operation.Spares (key : String) (now : ℕ) : Operation → Prop
  | .getCache key' now' => key' = key → unixSecs now' ≤ now
  | .setCache key' _ _ => key' ≠ key
  | .reapExpired now' => unixSecs now' ≤ now
  | .sweep _ now' => now' ≤ now
  | .recordCertificate _ | .revoke _ | .claimToken .. => True

variable {s : Storage} {key : String} {now : ℕ}

/-- A read leaves the rows of other keys. -/
theorem cacheRow_getCache_of_ne {key' : String} (h : key' ≠ key) (now : SystemTime) (s : Storage) :
    (s.getCache key' now).2.cacheRow key = s.cacheRow key := by
  cases s with
  | sqlite db =>
    simp only [getCache, SqliteStorage.getCache]
    split
    · rfl
    · simp only [Prod.map, cacheRow, Table.lookup_deleteWhere]
      cases db.cache.lookup key with
      | none => rfl
      | some row => simp [h.symm]
  | dynamodb db => rfl

theorem cacheRow_setCache_of_ne {key' : String} (h : key' ≠ key) (value : Bytes)
    (expiresAt : SystemTime) (s : Storage) :
    (s.setCache key' value expiresAt).2.cacheRow key = s.cacheRow key := by
  by_cases hepoch : unixEpoch ≤ expiresAt
  · rw [cacheRow_setCache hepoch, Function.update_of_ne h.symm]
  · rw [setCache_of_ne_ok fun hok => hepoch (setCache_eq_ok.mp hok)]

/-- Such an operation changes nothing that is read under the key at that second. -/
theorem read_apply {op : Operation} (hformed : s.CacheFormed) (hop : op.Spares key now) :
    Expiring.read (op.apply s).cacheRow key now = Expiring.read s.cacheRow key now := by
  cases op with
  | recordCertificate record =>
    exact congrArg (Expiring.read · key now) (cacheRow_recordCertificate record s)
  | revoke record => exact congrArg (Expiring.read · key now) (cacheRow_revoke record s)
  | claimToken jti expiresAt now' =>
    exact congrArg (Expiring.read · key now) (cacheRow_claimToken jti expiresAt now' s)
  | getCache key' now' =>
    by_cases hkey : key' = key
    · exact (drops_getCache key' now' s).read_eq (hop hkey)
    · exact Expiring.read_congr (cacheRow_getCache_of_ne hkey now' s)
  | setCache key' value expiresAt =>
    exact Expiring.read_congr (cacheRow_setCache_of_ne hop value expiresAt s)
  | reapExpired now' => exact (drops_reapExpired now' s).read_eq hop
  | sweep chosen now' => exact (drops_sweep hformed chosen now').read_eq hop

/-- What is read under a key at a second stays the same. -/
structure KeepsRead (key : String) (now : ℕ) (s s' : Storage) : Prop where
  formed : s.CacheFormed → s'.CacheFormed
  read : s.CacheFormed → Expiring.read s'.cacheRow key now = Expiring.read s.cacheRow key now

instance : Std.Refl (KeepsRead key now) := ⟨fun _ => ⟨id, fun _ => rfl⟩⟩

instance : IsTrans Storage (KeepsRead key now) :=
  ⟨fun _ _ _ h h' => ⟨h'.formed ∘ h.formed, fun hs => (h'.read (h.formed hs)).trans (h.read hs)⟩⟩

theorem keepsRead_apply (s : Storage) {op : Operation} (hop : op.Spares key now) :
    s.KeepsRead key now (op.apply s) :=
  ⟨fun hformed => formed_apply hformed op, fun hformed => read_apply hformed hop⟩

end Storage

namespace Bootstrap

/-- The keys of documents are not those of signatures. -/
theorem rootsCacheKey_ne (crates : Crates) (want : Digest 48) (crates' : ServerCrates)
    (digest : Digest 48) : Service.rootsCacheKey crates' digest ≠ cacheKey crates want := by
  intro h
  have hfirst := congrArg (fun s : String => s.toList.head?) h
  simp [Service.rootsCacheKey, cacheKey] at hfirst

/-- What requests do spares the documents, whatever their clocks show. -/
theorem spares_of_requested {op : Storage.Operation} (h : op.Requested) (crates : Crates) (want : Digest 48)
    (now : ℕ) : op.Spares (cacheKey crates want) now := by
  cases h with
  | recordCertificate record => trivial
  | revoke record => trivial
  | claimToken jti expiresAt now' => trivial
  | getCache crates' digest now' =>
    exact fun hkey => absurd hkey (rootsCacheKey_ne crates want crates' digest)
  | setCache crates' digest value expiresAt => exact rootsCacheKey_ne crates want crates' digest

variable {texts : ConfigTexts} {rt : Runtime} {process : Process} {want : Digest 48}

/-- Such a process reads the cache once, and makes its configuration of what it found. -/
theorem run_loadConfig (h : process.Bootstraps texts rt want) (w : World) :
    (process.loadConfig texts rt).run w = (do
      let found ← getCache rt (cacheKey rt.crates.toCrates want)
      let bytes ← ofResult (okOr (.config ("configuration " ++
        Text.debug (cacheKey rt.crates.toCrates want) ++ " not found in storage")) found)
      ofResult (fromStored rt.crates.toCrates texts want bytes)).run w := by
  obtain ⟨storage, cfg, hstorage, hdecoded, hopened⟩ := h.opened
  obtain ⟨digest, hdigest, hwant⟩ := h.digest
  unfold Process.loadConfig
  rw [h.unnamed]
  simp only [hstorage]
  rw [run_bind_of_ok (run_ofResult_of_ok ((okOr_eq_ok _ _ _).mpr hdigest) w)]
  unfold loadConfigFromStorage
  rw [run_bind_of_ok (run_ofResult_of_ok hdecoded w), run_bind_of_ok (run_ofResult_of_ok hopened w)]
  unfold loadConfigFrom
  rw [run_bind_of_ok (run_ofResult_of_ok hwant w)]

theorem run_getCache_iff {key : String} {w : World} {found : Option Bytes} :
    (∃ w', (getCache rt key).run w = .ok found w') ↔
      (w.storage.getCache key (w.tick rt).clock).1 = .ok found := by
  constructor
  · rintro ⟨w', h⟩
    obtain ⟨now, w₁, hnow, h⟩ := run_bind_eq_ok.mp h
    cases hnow
    exact (Result.orAbort_eq_ok _ _).mp (run_onStorage_eq_ok.mp h).1
  · intro h
    exact ⟨_, run_bind_eq_ok.mpr ⟨_, _, run_systemTimeNow rt w,
      run_onStorage_eq_ok.mpr ⟨(Result.orAbort_eq_ok _ _).mpr h, rfl⟩⟩⟩

theorem loads_iff (h : process.Bootstraps texts rt want) {w : World} {cfg : Configuration} :
    (∃ w', (process.loadConfig texts rt).run w = .ok cfg w') ↔
      ∃ bytes, (w.storage.getCache (cacheKey rt.crates.toCrates want) (w.tick rt).clock).1 =
          .ok (some bytes) ∧ fromStored rt.crates.toCrates texts want bytes = .ok cfg := by
  simp only [run_loadConfig h, run_bind_eq_ok, run_ofResult_eq_ok, okOr_eq_ok]
  constructor
  · rintro ⟨_, found, w', hfound, bytes, _, ⟨rfl, rfl⟩, hcfg, rfl⟩
    exact ⟨bytes, run_getCache_iff.mp ⟨_, hfound⟩, hcfg⟩
  · rintro ⟨bytes, hread, hcfg⟩
    obtain ⟨w', hfound⟩ := run_getCache_iff.mpr hread
    exact ⟨w', some bytes, w', hfound, bytes, w', ⟨rfl, rfl⟩, hcfg, rfl⟩

theorem fromStored_eq_ok {crates : Crates} {bytes : Bytes} {cfg : Configuration} :
    fromStored crates texts want bytes = .ok cfg ↔
      crates.sha384 bytes = want ∧ Configuration.fromUtf8 texts "stored configuration" bytes = .ok cfg := by
  simp only [fromStored, except_bind_eq_ok, ensure_eq_ok]
  exact ⟨fun ⟨_, hdigest, hcfg⟩ => ⟨hdigest, hcfg⟩, fun ⟨hdigest, hcfg⟩ => ⟨(), hdigest, hcfg⟩⟩

/-- Whatever the storage holds, what is loaded was read from bytes with the digest. -/
theorem digest_of_loads (h : process.Bootstraps texts rt want) {w w' : World} {cfg : Configuration}
    (hloads : (process.loadConfig texts rt).run w = .ok cfg w') : ∃ bytes,
      rt.crates.sha384 bytes = want ∧
        Configuration.fromUtf8 texts "stored configuration" bytes = .ok cfg := by
  obtain ⟨bytes, -, hcfg⟩ := (loads_iff h).mp ⟨w', hloads⟩
  exact ⟨bytes, fromStored_eq_ok.mp hcfg⟩

/-- What is loaded from a storage that answers. -/
theorem loads_iff_of_read (h : process.Bootstraps texts rt want) {w : World}
    (hformed : w.storage.CacheFormed) (hepoch : unixEpoch ≤ w.clock) {document : Bytes} {expires : ℕ}
    (hread : Expiring.read w.storage.cacheRow (cacheKey rt.crates.toCrates want)
      (unixSecs (w.tick rt).clock) =
        if unixSecs (w.tick rt).clock < expires then some document else none)
    (hdigest : rt.crates.sha384 document = want) {cfg : Configuration} :
    (∃ w', (process.loadConfig texts rt).run w = .ok cfg w') ↔
      unixSecs (w.tick rt).clock < expires ∧
        Configuration.fromUtf8 texts "stored configuration" document = .ok cfg := by
  have htick : unixEpoch ≤ (w.tick rt).clock := hepoch.trans (w.clock.le_later _)
  rw [loads_iff h, Storage.getCache_eq_read hformed htick, hread]
  by_cases hlt : unixSecs (w.tick rt).clock < expires
  · simp [hlt, fromStored_eq_ok, hdigest]
  · simp [hlt]

end Bootstrap

/-! ### A document that is deployed -/

namespace Deployed

def text : String :=
  "\x7b\"ca\":\x7b\"certificate\":\x7b\"file\":\"ca.crt\"\x7d," ++
    "\"key\":\x7b\"type\":\"file\",\"file\":\"ca.key\"\x7d\x7d\x7d"

def config : Configuration where
  ca := { certificate := .file "ca.crt", key := .file (some "ca.key") none none }

def texts : ConfigTexts where
  storageFromSlice bytes :=
    if bytes = utf8 "\x7b\"type\":\"sqlite\",\"path\":\"ayane.db\"\x7d" then .ok (.sqlite "ayane.db")
    else .error "expected value at line 1 column 1"
  configFromStr s := if s = text then .ok config else .error "expected value at line 1 column 1"
  utf8Error _ := "invalid utf-8 sequence of 1 bytes from index 0"

def rt : Runtime := Testca.still (Testca.serverCrates [] [] [])

def process : Process where
  args := ["ayane"]
  var name :=
    if name = "AYANE_BOOTSTRAP_STORAGE_CONFIG" then
      some (Testca.hex.encode (utf8 "\x7b\"type\":\"sqlite\",\"path\":\"ayane.db\"\x7d"))
    else if name = "AYANE_CONFIG_SHA384" then some (Testca.hex.encode (rt.crates.sha384 (utf8 text)))
    else none
  readToString _ := .error "No such file or directory (os error 2)"
  openStorage _ := .ok ()

theorem bootstraps : process.Bootstraps texts rt (rt.crates.sha384 (utf8 text)) where
  unnamed := rfl
  opened := ⟨_, .sqlite "ayane.db", rfl, rfl, rfl⟩
  digest := ⟨_, rfl, by decide +kernel⟩

/-- When the process loads its configuration. -/
def now : Own := (Testca.world Testca.sqlite (Testca.instant 2000)).own

theorem spares_reapExpired : (Storage.Operation.reapExpired (Testca.instant 1500)).Spares
    (Bootstrap.cacheKey rt.crates.toCrates (rt.crates.sha384 (utf8 text)))
      (unixSecs (now.clock.later (rt.elapse now.interactions))) := by
  change unixSecs (Testca.instant 1500) ≤ unixSecs (now.clock.later (rt.elapse now.interactions))
  decide

/-- Two requests are served in turns, with a sweep of the cache in between. -/
@[irreducible] def turns : List (Turn Bool {op : Storage.Operation //
    op.Spares (Bootstrap.cacheKey rt.crates.toCrates (rt.crates.sha384 (utf8 text)))
      (unixSecs (now.clock.later (rt.elapse now.interactions)))}) :=
  (List.replicate 3 [.prog true, .prog false]).flatten ++
    .environment ⟨.reapExpired (Testca.instant 1500), spares_reapExpired⟩ ::
      (List.replicate 3 [.prog true, .prog false]).flatten

end Deployed

theorem silent_keepsRead (call : HttpCall) (crates : Crates) (want : Digest 48) (now : ℕ) :
    call.prog.Silent (KeepsRead (Bootstrap.cacheKey crates want) now) :=
  (silent_router _ _ _ _).mono fun _ _ h => Performs.keeps h fun s _ hop =>
    keepsRead_apply s (Bootstrap.spares_of_requested hop crates want now)

/-- A storage that may answer a read after `turns` of servers: the one they leave or, where reads are not
consistent, one as it was before some of them. -/
def MayAnswer {ι Op : Type} [DecidableEq ι] (calls : ι → HttpCall) (apply : Op → Storage → Storage)
    (s : Storage) (turns : List (Turn ι Op)) (replica : Storage) : Prop :=
  ∃ seen, seen <+: turns ∧ (s.consistentReads = true → seen = turns) ∧
    replica = ((serving calls s).after apply seen).state

/-- Whatever storage answers, what is loaded was read from bytes with the digest that was told. A document
that is stored under its digest is the configuration of every process that is told the digest, until it
expires: no interleaving of requests to servers on the same storage, and no others that spare it, take it
away or put something else in its place, on any replica that has it. -/
theorem loads_of_serving {ι : Type} [DecidableEq ι] (calls : ι → HttpCall) (s : Storage)
    (hformed : s.CacheFormed) (texts : ConfigTexts) (rt : Runtime) (process : Process) (document : Bytes)
    (hprocess : process.Bootstraps texts rt (rt.crates.sha384 document)) (expiresAt : SystemTime)
    (hexpires : unixEpoch ≤ expiresAt) (o : Own) (hepoch : unixEpoch ≤ o.clock)
    (turns : List (Turn ι {op : Storage.Operation //
      op.Spares (Bootstrap.cacheKey rt.crates.toCrates (rt.crates.sha384 document))
        (unixSecs (o.clock.later (rt.elapse o.interactions)))}))
    (cfg : Configuration) :
    (∀ replica w', (process.loadConfig texts rt).run (o.over replica) = .ok cfg w' →
      ∃ bytes, rt.crates.sha384 bytes = rt.crates.sha384 document ∧
        Configuration.fromUtf8 texts "stored configuration" bytes = .ok cfg) ∧
    ∀ replica, MayAnswer calls (fun op s => op.1.apply s) (s.setCache
        (Bootstrap.cacheKey rt.crates.toCrates (rt.crates.sha384 document)) document expiresAt).2 turns
          replica →
      ((∃ w', (process.loadConfig texts rt).run (o.over replica) = .ok cfg w') ↔
        unixSecs (o.clock.later (rt.elapse o.interactions)) < unixSecs expiresAt ∧
          Configuration.fromUtf8 texts "stored configuration" document = .ok cfg) := by
  refine ⟨fun replica w' hloads => Bootstrap.digest_of_loads hprocess hloads, ?_⟩
  rintro _ ⟨seen, -, -, rfl⟩
  have hkeeps := System.keeps_after (c := serving calls (s.setCache
      (Bootstrap.cacheKey rt.crates.toCrates (rt.crates.sha384 document)) document expiresAt).2)
    (fun i => silent_keepsRead (calls i) rt.crates.toCrates (rt.crates.sha384 document)
      (unixSecs (o.clock.later (rt.elapse o.interactions))))
    (fun op s => keepsRead_apply s op.2) seen
  have hstored := formed_apply hformed (.setCache
    (Bootstrap.cacheKey rt.crates.toCrates (rt.crates.sha384 document)) document expiresAt)
  refine Bootstrap.loads_iff_of_read hprocess (hkeeps.formed hstored) hepoch ?_ rfl
  refine (hkeeps.read hstored).trans ?_
  change Expiring.read (s.setCache _ document expiresAt).2.cacheRow _ _ = _
  rw [cacheRow_setCache hexpires]
  exact Expiring.read_put document (unixSecs expiresAt)

theorem loads_deployed : ∃ w', (Deployed.process.loadConfig Deployed.texts Deployed.rt).run
    (Deployed.now.over ((serving Signing.call (Testca.sqlite.setCache (Bootstrap.cacheKey
      Deployed.rt.crates.toCrates (Deployed.rt.crates.sha384 (utf8 Deployed.text))) (utf8 Deployed.text)
        (Testca.instant 3600)).2).after (fun op s => op.1.apply s) Deployed.turns).state) =
          .ok Deployed.config w' :=
  ((loads_of_serving Signing.call Testca.sqlite trivial Deployed.texts Deployed.rt Deployed.process
    (utf8 Deployed.text) Deployed.bootstraps (Testca.instant 3600) (by decide) Deployed.now (by decide)
    Deployed.turns Deployed.config).2 _ ⟨Deployed.turns, List.prefix_rfl, fun _ => rfl, rfl⟩).mpr
      ⟨by decide, rfl⟩

end Ayane
