import Ayane.Hook
import Ayane.Http.Api
import Ayane.Lib.NetText

/-!
# What hooks are sent and reply

The payload that is sent to a hook and the reply that is read from it, as JSON: the serialization that is
derived in `ayane/src/hook/mod.rs`, `san.rs` and `template.rs`. A hook that reads the payload and writes its
reply in the same way gets the request and is understood.
-/

namespace Ayane

open Effect

/-- What the hook transports call of the crates. -/
structure HookCrates where
  bodies : JsonBodies
  /-- `serde_with::base64::Base64<Standard, Padded>`, which writes the padding and reads without it too. -/
  base64 : TextCodec
  /-- The serialization of a `chrono::DateTime<Utc>`. -/
  formatDateTime : SystemTime → Except String String
  parseDateTime : String → Except String SystemTime
  /-- `Hmac<Sha256>` of a message under a key. -/
  hmacSha256 : Bytes → Bytes → Digest 32

/-- An instant is read back from what it was written as. -/
def HookCrates.TimesReadBack (hooks : HookCrates) : Prop :=
  ∀ t s, hooks.formatDateTime t = .ok s → hooks.parseDateTime s = .ok t

/-- Bytes are read back from their text. -/
def TextCodec.ReadsBack (codec : TextCodec) : Prop := ∀ bytes, codec.decode (codec.encode bytes) = .ok bytes

namespace Json

/-- A variant without contents, by its name. -/
def decodeVariant {α : Type} (variants : List (String × α)) : Json → Except String α
  | .str name | .obj [(name, .null)] =>
    match variants.find? (·.1 = name) with
    | some variant => .ok variant.2
    | none => .error ("unknown variant `" ++ name ++ "`")
  | .obj [_] => .error "invalid type: expected unit"
  | _ => .error "expected a variant"

def decodeIpAddr : Json → Except String Net.IpAddr
  | .str s =>
    match Net.IpAddr.parse s with
    | some addr => .ok addr
    | none => .error "invalid IP address syntax"
  | _ => .error "invalid type: expected an IP address"

def decodeBase64 (hooks : HookCrates) : Json → Except String Bytes
  | .str s => hooks.base64.decode s
  | _ => .error "invalid type: expected a string"

def decodeDateTime (hooks : HookCrates) : Json → Except String SystemTime
  | .str s => hooks.parseDateTime s
  | _ => .error "invalid type: expected an RFC 3339 formatted date and time string"

end Json

/-! ## Names -/

namespace San

def kind : San → String
  | .dns _ => "dns"
  | .ip _ => "ip"
  | .email _ => "email"
  | .uri _ => "uri"

/-- Tagged with its kind. -/
def toJson (san : San) : Json :=
  .record [("type", some (.str san.kind)), ("value", some (.str san.toString))]

/-- How the value is read, by the kind. -/
def decoders : List (String × (Json → Except String San)) := [
  ("dns", fun j => (Json.decodeString j).map .dns), ("ip", fun j => (Json.decodeIpAddr j).map .ip),
  ("email", fun j => (Json.decodeString j).map .email), ("uri", fun j => (Json.decodeString j).map .uri)]

def ofJson (j : Json) : Except String San := do
  let j := j.named ["type", "value"]
  let decode ← j.required "type" (Json.decodeVariant decoders)
  j.required "value" decode

theorem ofJson_toJson (san : San) : ofJson san.toJson = .ok san := by
  cases san with
  | dns name => rfl
  | ip addr =>
    have haddr : (Json.decodeIpAddr (.str addr.display)).map San.ip = .ok (.ip addr) := by
      have hread : Json.decodeIpAddr (.str addr.display) = .ok addr := by
        simp [Json.decodeIpAddr, Net.IpAddr.parse_display]
      rw [hread]
      rfl
    exact haddr
  | email address => rfl
  | uri uri => rfl

theorem plain_toJson (san : San) : san.toJson.Plain 1 := by
  refine Json.plain_record (by decide : (["type", "value"] : List String).Nodup) ?_
  simp only [List.forall_mem_cons, Option.mem_some_iff, forall_eq']
  exact ⟨.str _, .str _, by simp⟩

end San

namespace KeyUsageName

/-- By name, and the alias of one of them. -/
def variants : List (String × KeyUsageName) := [
  ("digital_signature", .digitalSignature), ("content_commitment", .contentCommitment),
  ("non_repudiation", .contentCommitment), ("key_encipherment", .keyEncipherment),
  ("data_encipherment", .dataEncipherment), ("key_agreement", .keyAgreement),
  ("key_cert_sign", .keyCertSign), ("crl_sign", .crlSign), ("encipher_only", .encipherOnly),
  ("decipher_only", .decipherOnly)]

def ofJson : Json → Except String KeyUsageName := Json.decodeVariant variants

/-- Its own name, where it has an alias. -/
def toString : KeyUsageName → String
  | .digitalSignature => "digital_signature"
  | .contentCommitment => "content_commitment"
  | .keyEncipherment => "key_encipherment"
  | .dataEncipherment => "data_encipherment"
  | .keyAgreement => "key_agreement"
  | .keyCertSign => "key_cert_sign"
  | .crlSign => "crl_sign"
  | .encipherOnly => "encipher_only"
  | .decipherOnly => "decipher_only"

theorem ofJson_toString (usage : KeyUsageName) : ofJson (.str usage.toString) = .ok usage := by
  cases usage <;> rfl

end KeyUsageName

namespace ExtKeyUsageName

def variants : List (String × ExtKeyUsageName) := [
  ("server_auth", .serverAuth), ("client_auth", .clientAuth), ("code_signing", .codeSigning),
  ("email_protection", .emailProtection), ("time_stamping", .timeStamping),
  ("ocsp_signing", .ocspSigning)]

def ofJson : Json → Except String ExtKeyUsageName := Json.decodeVariant variants

def toString : ExtKeyUsageName → String
  | .serverAuth => "server_auth"
  | .clientAuth => "client_auth"
  | .codeSigning => "code_signing"
  | .emailProtection => "email_protection"
  | .timeStamping => "time_stamping"
  | .ocspSigning => "ocsp_signing"

theorem ofJson_toString (usage : ExtKeyUsageName) : ofJson (.str usage.toString) = .ok usage := by
  cases usage <;> rfl

end ExtKeyUsageName

namespace Operation

/-- Its name, in payloads and in the inventory. -/
def toString : Operation → String
  | .sign => "sign"
  | .renew => "renew"
  | .rekey => "rekey"

def variants : List (String × Operation) := [("sign", .sign), ("renew", .renew), ("rekey", .rekey)]

theorem decodeVariant_toString (operation : Operation) :
    Json.decodeVariant variants (.str operation.toString) = .ok operation := by
  cases operation <;> rfl

end Operation

/-! ## Requests -/

namespace HookRequest

variable (hooks : HookCrates)

def names : List String := ["timestamp", "operation", "provisioner", "subject", "sans", "csr_der",
  "previous_certificate_der", "not_before", "not_after", "renew"]

/-- The fields, with the texts of the three instants. -/
def fields (r : HookRequest) (timestamp notBefore notAfter : String) : List (String × Option Json) := [
  ("timestamp", some (.str timestamp)), ("operation", some (.str r.operation.toString)),
  ("provisioner", r.provisioner.map .str), ("subject", some (.str r.subject)),
  ("sans", some (.arr (r.sans.map San.toJson))),
  ("csr_der", r.csrDer.map fun der => .str (hooks.base64.encode der)),
  ("previous_certificate_der",
    r.previousCertificateDer.map fun der => .str (hooks.base64.encode der)),
  ("not_before", some (.str notBefore)), ("not_after", some (.str notAfter)),
  ("renew", some (.bool r.renew))]

def toJson (r : HookRequest) : Except String Json := do
  let timestamp ← hooks.formatDateTime r.timestamp
  let notBefore ← hooks.formatDateTime r.notBefore
  let notAfter ← hooks.formatDateTime r.notAfter
  .ok (.record (r.fields hooks timestamp notBefore notAfter))

def ofJson (j : Json) : Except String HookRequest := do
  let j := j.named names
  let timestamp ← j.required "timestamp" (Json.decodeDateTime hooks)
  let operation ← j.required "operation" (Json.decodeVariant Operation.variants)
  let provisioner ← j.optional "provisioner" Json.decodeString
  let subject ← j.required "subject" Json.decodeString
  let sans ← j.required "sans" (Json.decodeList San.ofJson)
  let csrDer ← j.optional "csr_der" (Json.decodeBase64 hooks)
  let previousCertificateDer ← j.optional "previous_certificate_der" (Json.decodeBase64 hooks)
  let notBefore ← j.required "not_before" (Json.decodeDateTime hooks)
  let notAfter ← j.required "not_after" (Json.decodeDateTime hooks)
  let renew ← j.required "renew" Json.decodeBool
  .ok {
    timestamp, operation, provisioner, subject, sans, csrDer, previousCertificateDer, notBefore
    notAfter, renew }

/-- `serde_json::to_vec` of the payload. -/
def toVec (r : HookRequest) : Except String Bytes := do
  let j ← r.toJson hooks
  .ok (hooks.bodies.toVec j)

variable {hooks} {r : HookRequest} {timestamp notBefore notAfter : String}

theorem nodup_fields : ((r.fields hooks timestamp notBefore notAfter).map Prod.fst).Nodup :=
  (by decide : names.Nodup)

theorem required_dateTime (htimes : hooks.TimesReadBack) {xs : List (String × Option Json)}
    (hnodup : (xs.map Prod.fst).Nodup) {name text : String} {t : SystemTime}
    (ht : hooks.formatDateTime t = .ok text) (hmem : (name, some (.str text)) ∈ xs) :
    (Json.record xs).required name (Json.decodeDateTime hooks) = .ok t :=
  (Json.required_record hnodup hmem).trans (htimes t text ht)

theorem optional_base64 (hbase64 : hooks.base64.ReadsBack) {xs : List (String × Option Json)}
    (hnodup : (xs.map Prod.fst).Nodup) {name : String} {o : Option Bytes}
    (hmem : (name, o.map fun bytes => .str (hooks.base64.encode bytes)) ∈ xs) :
    (Json.record xs).optional name (Json.decodeBase64 hooks) = .ok o := by
  have hread : ∀ bytes, Json.decodeBase64 hooks (.str (hooks.base64.encode bytes)) = .ok bytes :=
    hbase64
  have hnull : ∀ bytes, Json.str (hooks.base64.encode bytes) ≠ .null := fun _ h => by cases h
  exact Json.optional_record hread hnull hnodup hmem

theorem ofJson_toJson (hbase64 : hooks.base64.ReadsBack) (htimes : hooks.TimesReadBack) {j : Json}
    (h : r.toJson hooks = .ok j) : ofJson hooks j = .ok r := by
  obtain ⟨timestamp, htimestamp, h⟩ := except_bind_eq_ok.mp h
  obtain ⟨notBefore, hnotBefore, h⟩ := except_bind_eq_ok.mp h
  obtain ⟨notAfter, hnotAfter, h⟩ := except_bind_eq_ok.mp h
  cases h
  have hnodup := @nodup_fields hooks r timestamp notBefore notAfter
  have hoperation : (Json.record (r.fields hooks timestamp notBefore notAfter)).required "operation"
      (Json.decodeVariant Operation.variants) = .ok r.operation :=
    (Json.required_record hnodup (by simp [fields])).trans r.operation.decodeVariant_toString
  have hsans : (Json.record (r.fields hooks timestamp notBefore notAfter)).required "sans"
      (Json.decodeList San.ofJson) = .ok r.sans :=
    (Json.required_record hnodup (by simp [fields])).trans (Json.decodeList_map San.ofJson_toJson r.sans)
  have hrenew : (Json.record (r.fields hooks timestamp notBefore notAfter)).required "renew"
      Json.decodeBool = .ok r.renew :=
    (Json.required_record hnodup (show ("renew", some (.bool r.renew)) ∈ _ by simp [fields])).trans rfl
  simp only [ofJson, except_bind_eq_ok]
  exact ⟨_, required_dateTime htimes hnodup htimestamp (by simp [fields]), _, hoperation, _,
    Json.optional_str hnodup (by simp [fields]), _, Json.required_str hnodup (by simp [fields]), _, hsans,
    _, optional_base64 hbase64 hnodup (by simp [fields]), _,
    optional_base64 hbase64 hnodup (by simp [fields]), _,
    required_dateTime htimes hnodup hnotBefore (by simp [fields]), _,
    required_dateTime htimes hnodup hnotAfter (by simp [fields]), _, hrenew, rfl⟩

theorem plain_toJson {j : Json} (h : r.toJson hooks = .ok j) : j.Plain 3 := by
  obtain ⟨timestamp, -, h⟩ := except_bind_eq_ok.mp h
  obtain ⟨notBefore, -, h⟩ := except_bind_eq_ok.mp h
  obtain ⟨notAfter, -, h⟩ := except_bind_eq_ok.mp h
  cases h
  have hbytes : ∀ (o : Option Bytes), ∀ j ∈ o.map fun bytes => Json.str (hooks.base64.encode bytes),
      j.Plain 2 := by
    intro o j hj
    obtain ⟨bytes, -, rfl⟩ := Option.map_eq_some_iff.mp hj
    exact .str _
  have hsans : ∀ j ∈ r.sans.map San.toJson, j.Plain 1 := by
    intro j hj
    obtain ⟨san, -, rfl⟩ := List.mem_map.mp hj
    exact san.plain_toJson
  refine Json.plain_record nodup_fields ?_
  simp only [fields, List.forall_mem_cons, Option.mem_some_iff, forall_eq']
  exact ⟨.str _, .str _, fun _ => Json.plain_of_mem_map_str, .str _, .arr hsans, hbytes _, hbytes _,
    .str _, .str _, .bool _, by simp⟩

/-- The payload is read as the request that it was made from. -/
theorem read_toVec (hbodies : hooks.bodies.ReadsBack) (hbase64 : hooks.base64.ReadsBack)
    (htimes : hooks.TimesReadBack) {body : Bytes} (h : r.toVec hooks = .ok body) :
    hooks.bodies.read (ofJson hooks) body = .ok r := by
  obtain ⟨j, hj, h⟩ := except_bind_eq_ok.mp h
  cases h
  rw [JsonBodies.read, hbodies 3 j (by decide) (plain_toJson hj)]
  exact ofJson_toJson hbase64 htimes hj

end HookRequest

/-! ## Replies -/

namespace RawExtension

variable {hooks : HookCrates}

def fields (hooks : HookCrates) (ext : RawExtension) : List (String × Option Json) := [
  ("oid", some (.str ext.oid)), ("value", some (.str (hooks.base64.encode ext.value))),
  ("critical", some (.bool ext.critical))]

def toJson (hooks : HookCrates) (ext : RawExtension) : Json := .record (ext.fields hooks)

def ofJson (hooks : HookCrates) (j : Json) : Except String RawExtension := do
  let j := j.named ["oid", "value", "critical"]
  let oid ← j.required "oid" Json.decodeString
  let value ← j.required "value" (Json.decodeBase64 hooks)
  let critical ← j.defaulted "critical" false Json.decodeBool
  .ok { oid, value, critical }

theorem nodup_fields (ext : RawExtension) : ((ext.fields hooks).map Prod.fst).Nodup :=
  (by decide : ["oid", "value", "critical"].Nodup)

theorem ofJson_toJson (hbase64 : hooks.base64.ReadsBack) (ext : RawExtension) :
    ofJson hooks (ext.toJson hooks) = .ok ext := by
  have hnodup := @nodup_fields hooks ext
  have hread : Json.decodeBase64 hooks (.str (hooks.base64.encode ext.value)) = .ok ext.value :=
    hbase64 ext.value
  have hvalue : (ext.toJson hooks).required "value" (Json.decodeBase64 hooks) = .ok ext.value :=
    (Json.required_record hnodup (by simp [fields])).trans hread
  have hcritical : (ext.toJson hooks).defaulted "critical" false Json.decodeBool = .ok ext.critical := by
    rw [toJson, Json.defaulted_record hnodup
      (by simp [fields] : ("critical", some (.bool ext.critical)) ∈ ext.fields hooks)]
    rfl
  simp only [ofJson, except_bind_eq_ok]
  exact ⟨_, Json.required_str hnodup (by simp [fields]), _, hvalue, _, hcritical, rfl⟩

theorem plain_toJson (ext : RawExtension) : (ext.toJson hooks).Plain 1 := by
  refine Json.plain_record ext.nodup_fields ?_
  simp only [fields, List.forall_mem_cons, Option.mem_some_iff, forall_eq']
  exact ⟨.str _, .str _, .bool _, by simp⟩

end RawExtension

namespace HookOnceScope

variable {hooks : HookCrates}

def fields (scope : HookOnceScope) (expiresAt : Option String) : List (String × Option Json) := [
  ("scope", some (.str scope.scope)), ("expires_at", expiresAt.map .str)]

def toJson (hooks : HookCrates) (scope : HookOnceScope) : Except String Json := do
  let expiresAt ← scope.expiresAt.mapM hooks.formatDateTime
  .ok (.record (scope.fields expiresAt))

def ofJson (hooks : HookCrates) (j : Json) : Except String HookOnceScope := do
  let j := j.named ["scope", "expires_at"]
  let scope ← j.required "scope" Json.decodeString
  let expiresAt ← j.optional "expires_at" (Json.decodeDateTime hooks)
  .ok { scope, expiresAt }

theorem nodup_fields {scope : HookOnceScope} {expiresAt : Option String} :
    ((scope.fields expiresAt).map Prod.fst).Nodup :=
  (by decide : ["scope", "expires_at"].Nodup)

end HookOnceScope

/-- An instant that may be absent was written as such a text. -/
theorem HookCrates.TimesReadBack.of_mapM {hooks : HookCrates} (htimes : hooks.TimesReadBack)
    {o : Option SystemTime} {texts : Option String} (h : o.mapM hooks.formatDateTime = .ok texts) :
    o = none ∧ texts = none ∨
      ∃ t text, o = some t ∧ texts = some text ∧ hooks.parseDateTime text = .ok t := by
  cases o with
  | none =>
    cases h
    exact .inl ⟨rfl, rfl⟩
  | some t =>
    rw [Option.mapM_some] at h
    cases ht : hooks.formatDateTime t with
    | error e =>
      rw [ht] at h
      cases h
    | ok text =>
      rw [ht] at h
      cases h
      exact .inr ⟨t, text, rfl, rfl, htimes t text ht⟩

namespace HookOnceScope

variable {hooks : HookCrates}

theorem ofJson_toJson (htimes : hooks.TimesReadBack) (scope : HookOnceScope) (j : Json)
    (h : scope.toJson hooks = .ok j) : ofJson hooks j = .ok scope := by
  obtain ⟨expiresAt, hexpires, h⟩ := except_bind_eq_ok.mp h
  cases h
  have hnodup := @nodup_fields scope expiresAt
  have hread : (Json.record (scope.fields expiresAt)).optional "expires_at" (Json.decodeDateTime hooks) =
      .ok scope.expiresAt := by
    rw [Json.optional, Json.field?_record hnodup
      (by simp [fields] : ("expires_at", expiresAt.map .str) ∈ scope.fields expiresAt)]
    obtain ⟨hnone, rfl⟩ | ⟨t, text, hsome, rfl, hparse⟩ := htimes.of_mapM hexpires
    · rw [hnone]
      rfl
    · rw [hsome]
      exact congrArg (Except.map some) hparse
  simp only [ofJson, except_bind_eq_ok]
  exact ⟨_, Json.required_str hnodup (by simp [fields]), _, hread, rfl⟩

theorem plain_toJson {scope : HookOnceScope} {j : Json} (h : scope.toJson hooks = .ok j) : j.Plain 1 := by
  obtain ⟨expiresAt, -, h⟩ := except_bind_eq_ok.mp h
  cases h
  refine Json.plain_record nodup_fields ?_
  simp only [fields, List.forall_mem_cons, Option.mem_some_iff, forall_eq']
  exact ⟨.str _, fun _ => Json.plain_of_mem_map_str, by simp⟩

end HookOnceScope

namespace HookResponse

variable {hooks : HookCrates}

def names : List String := ["allow", "renew", "deny_reason", "subject_common_name", "sans",
  "additional_sans", "not_before", "not_after", "key_usage", "extended_key_usage",
  "additional_extensions", "once"]

/-- The fields, with the texts of the two instants and the scopes; what is absent is `null`. -/
def fields (hooks : HookCrates) (r : HookResponse) (notBefore notAfter : Option String)
    (once : List Json) : List (String × Option Json) := [
  ("allow", some ((r.allow.map .bool).getD .null)), ("renew", some ((r.renew.map .bool).getD .null)),
  ("deny_reason", some ((r.denyReason.map .str).getD .null)),
  ("subject_common_name", some ((r.subjectCommonName.map .str).getD .null)),
  ("sans", some ((r.sans.map fun sans => .arr (sans.map San.toJson)).getD .null)),
  ("additional_sans", some (.arr (r.additionalSans.map San.toJson))),
  ("not_before", some ((notBefore.map .str).getD .null)),
  ("not_after", some ((notAfter.map .str).getD .null)),
  ("key_usage",
    some ((r.keyUsage.map fun usages => .arr (usages.map fun u => .str u.toString)).getD .null)),
  ("extended_key_usage",
    some ((r.extendedKeyUsage.map fun usages => .arr (usages.map fun u => .str u.toString)).getD .null)),
  ("additional_extensions", some (.arr (r.additionalExtensions.map (RawExtension.toJson hooks)))),
  ("once", some (.arr once))]

def toJson (hooks : HookCrates) (r : HookResponse) : Except String Json := do
  let notBefore ← r.notBefore.mapM hooks.formatDateTime
  let notAfter ← r.notAfter.mapM hooks.formatDateTime
  let once ← r.once.mapM (HookOnceScope.toJson hooks)
  .ok (.record (r.fields hooks notBefore notAfter once))

/-- Every field has a default. -/
def ofJson (hooks : HookCrates) (j : Json) : Except String HookResponse := do
  let j := j.named names
  let allow ← j.optional "allow" Json.decodeBool
  let renew ← j.optional "renew" Json.decodeBool
  let denyReason ← j.optional "deny_reason" Json.decodeString
  let subjectCommonName ← j.optional "subject_common_name" Json.decodeString
  let sans ← j.optional "sans" (Json.decodeList San.ofJson)
  let additionalSans ← j.defaulted "additional_sans" [] (Json.decodeList San.ofJson)
  let notBefore ← j.optional "not_before" (Json.decodeDateTime hooks)
  let notAfter ← j.optional "not_after" (Json.decodeDateTime hooks)
  let keyUsage ← j.optional "key_usage" (Json.decodeList KeyUsageName.ofJson)
  let extendedKeyUsage ← j.optional "extended_key_usage" (Json.decodeList ExtKeyUsageName.ofJson)
  let additionalExtensions ← j.defaulted "additional_extensions" []
    (Json.decodeList (RawExtension.ofJson hooks))
  let once ← j.defaulted "once" [] (Json.decodeList (HookOnceScope.ofJson hooks))
  .ok {
    allow, renew, denyReason, subjectCommonName, sans, additionalSans, notBefore, notAfter, keyUsage
    extendedKeyUsage, additionalExtensions, once }

/-- `serde_json::to_vec` of a reply. -/
def toVec (hooks : HookCrates) (r : HookResponse) : Except String Bytes := do
  let j ← r.toJson hooks
  .ok (hooks.bodies.toVec j)

variable {r : HookResponse} {notBefore notAfter : Option String} {once : List Json}

theorem nodup_fields : ((r.fields hooks notBefore notAfter once).map Prod.fst).Nodup :=
  (by decide : names.Nodup)

/-- An instant that is `null` when it is absent. -/
theorem optional_dateTime (htimes : hooks.TimesReadBack) {o : Option SystemTime} {texts : Option String}
    (h : o.mapM hooks.formatDateTime = .ok texts) {xs : List (String × Option Json)}
    (hnodup : (xs.map Prod.fst).Nodup) {name : String}
    (hmem : (name, some ((texts.map .str).getD .null)) ∈ xs) :
    (Json.record xs).optional name (Json.decodeDateTime hooks) = .ok o := by
  rw [Json.optional, Json.field?_record hnodup hmem]
  obtain ⟨rfl, rfl⟩ | ⟨t, text, rfl, rfl, hparse⟩ := htimes.of_mapM h
  · rfl
  · exact congrArg (Except.map some) hparse

theorem ofJson_toJson (hbase64 : hooks.base64.ReadsBack) (htimes : hooks.TimesReadBack) {j : Json}
    (h : r.toJson hooks = .ok j) : ofJson hooks j = .ok r := by
  obtain ⟨notBefore, hnotBefore, h⟩ := except_bind_eq_ok.mp h
  obtain ⟨notAfter, hnotAfter, h⟩ := except_bind_eq_ok.mp h
  obtain ⟨once, honce, h⟩ := except_bind_eq_ok.mp h
  cases h
  have hnodup := @nodup_fields hooks r notBefore notAfter once
  have flag : ∀ name (o : Option Bool),
      (name, some ((o.map .bool).getD .null)) ∈ r.fields hooks notBefore notAfter once →
      (Json.record (r.fields hooks notBefore notAfter once)).optional name Json.decodeBool = .ok o :=
    fun name o hmem => Json.optional_orNull (fun _ _ => rfl) (fun _ h => by cases h) hnodup hmem
  have text : ∀ name (o : Option String),
      (name, some ((o.map .str).getD .null)) ∈ r.fields hooks notBefore notAfter once →
      (Json.record (r.fields hooks notBefore notAfter once)).optional name Json.decodeString = .ok o :=
    fun name o hmem => Json.optional_orNull (fun _ _ => rfl) (fun _ h => by cases h) hnodup hmem
  have items : ∀ {α : Type} (decode : Json → Except String α) (encode : α → Json) name
      (o : Option (List α)), (∀ a, decode (encode a) = .ok a) →
      (name, some ((o.map fun as => .arr (as.map encode)).getD .null)) ∈
        r.fields hooks notBefore notAfter once →
      (Json.record (r.fields hooks notBefore notAfter once)).optional name (Json.decodeList decode) = .ok o :=
    fun decode encode name o hdecode hmem =>
      Json.optional_orNull (fun as _ => Json.decodeList_map hdecode as) (fun _ h => by cases h) hnodup hmem
  have given : ∀ {α : Type} (decode : Json → Except String α) (as : List α) (js : List Json) name,
      Json.decodeList decode (.arr js) = .ok as →
      (name, some (.arr js)) ∈ r.fields hooks notBefore notAfter once →
      (Json.record (r.fields hooks notBefore notAfter once)).defaulted name [] (Json.decodeList decode) =
        .ok as :=
    fun decode as js name hread hmem => (Json.defaulted_record hnodup hmem).trans hread
  simp only [ofJson, except_bind_eq_ok]
  exact ⟨_, flag "allow" _ (by simp [fields]), _, flag "renew" _ (by simp [fields]), _,
    text "deny_reason" _ (by simp [fields]), _, text "subject_common_name" _ (by simp [fields]), _,
    items _ _ "sans" _ San.ofJson_toJson (by simp [fields]), _,
    given _ _ _ "additional_sans" (Json.decodeList_map San.ofJson_toJson _) (by simp [fields]), _,
    optional_dateTime htimes hnotBefore hnodup (by simp [fields]), _,
    optional_dateTime htimes hnotAfter hnodup (by simp [fields]), _,
    items _ _ "key_usage" _ KeyUsageName.ofJson_toString (by simp [fields]), _,
    items _ _ "extended_key_usage" _ ExtKeyUsageName.ofJson_toString (by simp [fields]), _,
    given _ _ _ "additional_extensions" (Json.decodeList_map (RawExtension.ofJson_toJson hbase64) _)
      (by simp [fields]), _,
    given _ _ _ "once" (Json.decodeList_of_mapM (HookOnceScope.ofJson_toJson htimes) honce)
      (by simp [fields]), rfl⟩

theorem plain_toJson {j : Json} (h : r.toJson hooks = .ok j) : j.Plain 3 := by
  obtain ⟨notBefore, -, h⟩ := except_bind_eq_ok.mp h
  obtain ⟨notAfter, -, h⟩ := except_bind_eq_ok.mp h
  obtain ⟨once, honce, h⟩ := except_bind_eq_ok.mp h
  cases h
  have orNull : ∀ {α : Type} (encode : α → Json) (o : Option α), (∀ a, (encode a).Plain 2) →
      ((o.map encode).getD .null).Plain 2 := by
    intro α encode o hencode
    cases o with
    | none => exact .null
    | some a => exact hencode a
  have items : ∀ {α : Type} (encode : α → Json) (as : List α), (∀ a, (encode a).Plain 1) →
      (Json.arr (as.map encode)).Plain 2 := by
    intro α encode as hencode
    refine .arr fun j hj => ?_
    obtain ⟨a, -, rfl⟩ := List.mem_map.mp hj
    exact hencode a
  have honces : ∀ j ∈ once, j.Plain 1 := by
    intro j hj
    obtain ⟨scope, -, hscope⟩ := (mem_of_mapM honce).mp hj
    exact HookOnceScope.plain_toJson hscope
  refine Json.plain_record nodup_fields ?_
  simp only [fields, List.forall_mem_cons, Option.mem_some_iff, forall_eq']
  exact ⟨orNull _ _ .bool, orNull _ _ .bool, orNull _ _ .str, orNull _ _ .str,
    orNull _ _ fun _ => items _ _ San.plain_toJson, items _ _ San.plain_toJson, orNull _ _ .str,
    orNull _ _ .str, orNull _ _ fun _ => items _ _ fun _ => .str _,
    orNull _ _ fun _ => items _ _ fun _ => .str _,
    items _ _ RawExtension.plain_toJson, .arr honces, by simp⟩

/-- A reply is read as it was meant. -/
theorem read_toVec (hbodies : hooks.bodies.ReadsBack) (hbase64 : hooks.base64.ReadsBack)
    (htimes : hooks.TimesReadBack) {bytes : Bytes} (h : r.toVec hooks = .ok bytes) :
    hooks.bodies.read (ofJson hooks) bytes = .ok r := by
  obtain ⟨j, hj, h⟩ := except_bind_eq_ok.mp h
  cases h
  rw [JsonBodies.read, hbodies 3 j (by decide) (plain_toJson hj)]
  exact ofJson_toJson hbase64 htimes hj

end HookResponse

end Ayane
