import Ayane.Service

/-!
# Bodies on the wire

`ayane-protocol/src/api.rs` and `problem.rs`: how the bodies of requests and responses are written
as JSON and read back. A field that is skipped when it is absent is not written; an object is read
field by field, so what was written is read as it was.
-/

namespace Ayane

open Effect

/-! ## Records -/

namespace Json

/-- An object with the fields that are not skipped. -/
def record (fields : List (String × Option Json)) : Json :=
  .obj (fields.filterMap fun f => f.2.map (f.1, ·))

/-- What is read back as it was written: it is nested at most so deep, every integer fits 64 bits, no
number is a fraction, and no field of an object repeats. -/
inductive Plain : ℕ → Json → Prop where
  | null {depth : ℕ} : Plain depth .null
  | bool {depth : ℕ} (b : Bool) : Plain depth (.bool b)
  | int {depth : ℕ} {n : Int} (h : -2 ^ 63 ≤ n ∧ n < 2 ^ 64) : Plain depth (.int n)
  | str {depth : ℕ} (s : String) : Plain depth (.str s)
  | arr {depth : ℕ} {items : List Json} (h : ∀ item ∈ items, Plain depth item) :
      Plain (depth + 1) (.arr items)
  | obj {depth : ℕ} {fields : List (String × Json)} (hnodup : (fields.map Prod.fst).Nodup)
      (h : ∀ f ∈ fields, Plain depth f.2) : Plain (depth + 1) (.obj fields)

theorem Plain.mono {depth depth' : ℕ} {j : Json} (h : j.Plain depth) (hle : depth ≤ depth') :
    j.Plain depth' := by
  induction h generalizing depth' with
  | null => exact .null
  | bool b => exact .bool b
  | int h => exact .int h
  | str s => exact .str s
  | arr h ih =>
    obtain ⟨d, rfl⟩ : ∃ d, depth' = d + 1 := ⟨depth' - 1, by omega⟩
    exact .arr fun item hitem => ih item hitem (by omega)
  | obj hnodup h ih =>
    obtain ⟨d, rfl⟩ : ∃ d, depth' = d + 1 := ⟨depth' - 1, by omega⟩
    exact .obj hnodup fun f hf => ih f hf (by omega)

section

variable {α : Type} {xs : List (String × Option Json)} {name : String} {v : Option Json}
  {decode : Json → Except String α}

theorem filter_record_of_notMem (h : name ∉ xs.map Prod.fst) :
    ((xs.filterMap fun f => f.2.map (f.1, ·)).filter fun f => f.1 = name) = [] := by
  refine List.filter_eq_nil_iff.mpr fun f hf hname => h ?_
  obtain ⟨y, hy, hyf⟩ := List.mem_filterMap.mp hf
  obtain ⟨w, -, rfl⟩ := Option.map_eq_some_iff.mp hyf
  rw [← of_decide_eq_true hname]
  exact List.mem_map_of_mem hy

theorem filter_record (hnodup : (xs.map Prod.fst).Nodup) (hmem : (name, v) ∈ xs) :
    ((xs.filterMap fun f => f.2.map (f.1, ·)).filter fun f => f.1 = name) =
      (v.map (name, ·)).toList := by
  induction xs with
  | nil => cases hmem
  | cons x xs ih =>
    obtain ⟨hfresh, hrest⟩ := List.nodup_cons.mp hnodup
    rw [← List.singleton_append, List.filterMap_append, List.filter_append]
    rcases List.mem_cons.mp hmem with rfl | hmem
    · rw [filter_record_of_notMem hfresh]
      cases v <;> simp
    · have hother : x.1 ≠ name := by
        rintro rfl
        exact hfresh (List.mem_map.mpr ⟨_, hmem, rfl⟩)
      rw [ih hrest hmem]
      cases hx : x.2 <;> simp [hx, hother]

/-- A field of a record is found as it was put there, present or not. -/
theorem field?_record (hnodup : (xs.map Prod.fst).Nodup) (hmem : (name, v) ∈ xs) :
    (record xs).field? name = .ok v := by
  unfold record field?
  dsimp only
  rw [filter_record hnodup hmem]
  cases v <;> rfl

theorem field?_record_of_notMem (h : name ∉ xs.map Prod.fst) : (record xs).field? name = .ok none := by
  unfold record field?
  dsimp only
  rw [filter_record_of_notMem h]

theorem required_record (hnodup : (xs.map Prod.fst).Nodup) {j : Json} (hmem : (name, some j) ∈ xs) :
    (record xs).required name decode = decode j := by
  rw [required, field?_record hnodup hmem]
  rfl

theorem defaulted_record {default : α} (hnodup : (xs.map Prod.fst).Nodup) (hmem : (name, v) ∈ xs) :
    (record xs).defaulted name default decode = (v.map decode).getD (.ok default) := by
  rw [defaulted, field?_record hnodup hmem]
  cases v <;> rfl

/-- An optional field that is skipped when it is absent. -/
theorem optional_record {encode : α → Json} (hdecode : ∀ a, decode (encode a) = .ok a)
    (hnull : ∀ a, encode a ≠ .null) (hnodup : (xs.map Prod.fst).Nodup) {o : Option α}
    (hmem : (name, o.map encode) ∈ xs) : (record xs).optional name decode = .ok o := by
  have hfield := field?_record hnodup hmem
  cases o with
  | none =>
    rw [optional, hfield]
    rfl
  | some a =>
    rw [optional_of_field hfield (hnull a), hdecode a]
    rfl

/-- An optional field that is `null` when it is absent. -/
theorem optional_orNull {encode : α → Json} {o : Option α} (hdecode : ∀ a ∈ o, decode (encode a) = .ok a)
    (hnull : ∀ a, encode a ≠ .null) (hnodup : (xs.map Prod.fst).Nodup)
    (hmem : (name, some ((o.map encode).getD .null)) ∈ xs) : (record xs).optional name decode = .ok o := by
  have hfield := field?_record hnodup hmem
  cases o with
  | none =>
    rw [optional, hfield]
    rfl
  | some a =>
    rw [Option.map_some, Option.getD_some] at hfield
    rw [optional_of_field hfield (hnull a), hdecode a rfl]
    rfl

theorem required_str (hnodup : (xs.map Prod.fst).Nodup) {s : String}
    (hmem : (name, some (.str s)) ∈ xs) : (record xs).required name decodeString = .ok s :=
  required_record hnodup hmem

theorem optional_str (hnodup : (xs.map Prod.fst).Nodup) {o : Option String}
    (hmem : (name, o.map .str) ∈ xs) : (record xs).optional name decodeString = .ok o := by
  have hread : ∀ s, decodeString (.str s) = .ok s := fun _ => rfl
  have hnull : ∀ s, Json.str s ≠ .null := fun _ h => by cases h
  exact optional_record hread hnull hnodup hmem

theorem plain_record {depth : ℕ} (hnodup : (xs.map Prod.fst).Nodup)
    (h : ∀ x ∈ xs, ∀ j ∈ x.2, j.Plain depth) : (record xs).Plain (depth + 1) := by
  refine .obj ?_ fun f hf => ?_
  · refine List.Sublist.nodup ?_ hnodup
    clear hnodup h
    induction xs with
    | nil => exact List.Sublist.refl _
    | cons x xs ih => cases hx : x.2 <;> simp [hx, ih]
  · obtain ⟨x, hx, hxf⟩ := List.mem_filterMap.mp hf
    obtain ⟨j, hj, rfl⟩ := Option.map_eq_some_iff.mp hxf
    exact h x hx j hj

theorem plain_of_mem_map_str {depth : ℕ} {o : Option String} {j : Json} (h : j ∈ o.map .str) :
    j.Plain depth := by
  obtain ⟨s, -, rfl⟩ := Option.map_eq_some_iff.mp h
  exact .str s

end

def decodeI32 : Json → Except String Int32
  | .int n =>
    if -2 ^ 31 ≤ n ∧ n < 2 ^ 31 then .ok (Int32.ofInt n) else .error "invalid value: expected i32"
  | _ => .error "invalid type: expected i32"

def encodeI32 (n : Int32) : Json := .int n.toInt

theorem decodeI32_encodeI32 (n : Int32) : decodeI32 (encodeI32 n) = .ok n := by
  simp only [encodeI32, decodeI32]
  rw [if_pos ⟨n.le_toInt, n.toInt_lt⟩, Int32.ofInt_toInt]

def decodeU16 : Json → Except String ℕ
  | .int n => if 0 ≤ n ∧ n < 2 ^ 16 then .ok n.toNat else .error "invalid value: expected u16"
  | _ => .error "invalid type: expected u16"

theorem decodeList_map {α : Type} {encode : α → Json} {decode : Json → Except String α}
    (hdecode : ∀ a, decode (encode a) = .ok a) (xs : List α) :
    decodeList decode (.arr (xs.map encode)) = .ok xs := by
  unfold decodeList
  dsimp only
  induction xs with
  | nil => rfl
  | cons x xs ih => exact mapM_cons_eq_ok.mpr ⟨x, xs, hdecode x, ih, rfl⟩

/-- A sequence whose items were written one by one, where that can fail. -/
theorem decodeList_of_mapM {α : Type} {encode : α → Except String Json} {decode : Json → Except String α}
    (hdecode : ∀ a j, encode a = .ok j → decode j = .ok a) {xs : List α} {items : List Json}
    (h : xs.mapM encode = .ok items) : decodeList decode (.arr items) = .ok xs := by
  unfold decodeList
  dsimp only
  induction xs generalizing items with
  | nil =>
    cases h
    rfl
  | cons x xs ih =>
    obtain ⟨j, rest, hj, hrest, rfl⟩ := mapM_cons_eq_ok.mp h
    exact mapM_cons_eq_ok.mpr ⟨x, xs, hdecode x j hj, ih hrest, rfl⟩

theorem decodeStrings_map (ss : List String) :
    decodeList decodeString (.arr (ss.map .str)) = .ok ss :=
  decodeList_map (fun s => (rfl : decodeString (.str s) = .ok s)) ss

theorem plain_strings (ss : List String) : (Json.arr (ss.map .str)).Plain 1 := by
  refine .arr fun item hitem => ?_
  obtain ⟨s, -, rfl⟩ := List.mem_map.mp hitem
  exact .str s

end Json

/-- `serde_json` on the bodies of requests and responses. -/
structure JsonBodies where
  toVec : Json → Bytes
  /-- The parse tree of a body, with the fields of an object in order. -/
  fromSlice : Bytes → Except String Json

/-- `serde_json::from_slice` at a type. -/
def JsonBodies.read {α : Type} (bodies : JsonBodies) (decode : Json → Except String α) (bytes : Bytes) :
    Except String α :=
  bodies.fromSlice bytes >>= decode

/-- What was written is read back, up to the depth that is read. -/
def JsonBodies.ReadsBack (bodies : JsonBodies) : Prop :=
  ∀ depth j, depth ≤ 127 → j.Plain depth → bodies.fromSlice (bodies.toVec j) = .ok j

/-! ## Requests -/

namespace SignRequest

def names : List String := ["csr", "token", "not_before", "not_after"]

def fields (r : SignRequest) : List (String × Option Json) := [
  ("csr", some (.str r.csr)), ("token", some (.str r.token)),
  ("not_before", r.notBefore.map .str), ("not_after", r.notAfter.map .str)]

def toJson (r : SignRequest) : Json := .record r.fields

def ofJson (j : Json) : Except String SignRequest := do
  let j := j.named names
  let csr ← j.required "csr" Json.decodeString
  let token ← j.required "token" Json.decodeString
  let notBefore ← j.optional "not_before" Json.decodeString
  let notAfter ← j.optional "not_after" Json.decodeString
  .ok { csr, token, notBefore, notAfter }

theorem nodup_fields (r : SignRequest) : (r.fields.map Prod.fst).Nodup :=
  (by decide : names.Nodup)

theorem ofJson_toJson (r : SignRequest) : ofJson r.toJson = .ok r := by
  have h := r.nodup_fields
  simp only [ofJson, except_bind_eq_ok]
  exact ⟨r.csr, Json.required_str h (by simp [fields]), r.token, Json.required_str h (by simp [fields]),
    r.notBefore, Json.optional_str h (by simp [fields]), r.notAfter,
    Json.optional_str h (by simp [fields]), rfl⟩

theorem plain_toJson (r : SignRequest) : r.toJson.Plain 2 := by
  refine Json.plain_record r.nodup_fields ?_
  simp only [fields, List.forall_mem_cons, Option.mem_some_iff, forall_eq']
  exact ⟨.str _, .str _, fun _ => Json.plain_of_mem_map_str, fun _ => Json.plain_of_mem_map_str, by simp⟩

end SignRequest

namespace RenewRequest

def names : List String := ["certificate"]

def fields (r : RenewRequest) : List (String × Option Json) := [("certificate", some (.str r.certificate))]

def toJson (r : RenewRequest) : Json := .record r.fields

def ofJson (j : Json) : Except String RenewRequest := do
  let j := j.named names
  let certificate ← j.required "certificate" Json.decodeString
  .ok { certificate }

theorem nodup_fields (r : RenewRequest) : (r.fields.map Prod.fst).Nodup := List.nodup_singleton _

theorem ofJson_toJson (r : RenewRequest) : ofJson r.toJson = .ok r := by
  simp only [ofJson, except_bind_eq_ok]
  exact ⟨r.certificate, Json.required_str r.nodup_fields (by simp [fields]), rfl⟩

theorem plain_toJson (r : RenewRequest) : r.toJson.Plain 2 := by
  refine Json.plain_record r.nodup_fields ?_
  simp only [fields, List.forall_mem_cons, Option.mem_some_iff, forall_eq']
  exact ⟨.str _, by simp⟩

end RenewRequest

namespace RekeyRequest

def names : List String := ["certificate", "csr"]

def fields (r : RekeyRequest) : List (String × Option Json) := [
  ("certificate", some (.str r.certificate)), ("csr", some (.str r.csr))]

def toJson (r : RekeyRequest) : Json := .record r.fields

def ofJson (j : Json) : Except String RekeyRequest := do
  let j := j.named names
  let certificate ← j.required "certificate" Json.decodeString
  let csr ← j.required "csr" Json.decodeString
  .ok { certificate, csr }

theorem nodup_fields (r : RekeyRequest) : (r.fields.map Prod.fst).Nodup :=
  (by decide : names.Nodup)

theorem ofJson_toJson (r : RekeyRequest) : ofJson r.toJson = .ok r := by
  have h := r.nodup_fields
  simp only [ofJson, except_bind_eq_ok]
  exact ⟨r.certificate, Json.required_str h (by simp [fields]), r.csr,
    Json.required_str h (by simp [fields]), rfl⟩

theorem plain_toJson (r : RekeyRequest) : r.toJson.Plain 2 := by
  refine Json.plain_record r.nodup_fields ?_
  simp only [fields, List.forall_mem_cons, Option.mem_some_iff, forall_eq']
  exact ⟨.str _, .str _, by simp⟩

end RekeyRequest

namespace RevokeRequest

def names : List String := ["serial_number", "reason", "reason_code", "token", "certificate"]

def fields (r : RevokeRequest) : List (String × Option Json) := [
  ("serial_number", some (.str r.serialNumber)), ("reason", r.reason.map .str),
  ("reason_code", r.reasonCode.map Json.encodeI32), ("token", r.token.map .str),
  ("certificate", r.certificate.map .str)]

def toJson (r : RevokeRequest) : Json := .record r.fields

def ofJson (j : Json) : Except String RevokeRequest := do
  let j := j.named names
  let serialNumber ← j.required "serial_number" Json.decodeString
  let reason ← j.optional "reason" Json.decodeString
  let reasonCode ← j.optional "reason_code" Json.decodeI32
  let token ← j.optional "token" Json.decodeString
  let certificate ← j.optional "certificate" Json.decodeString
  .ok { serialNumber, reason, reasonCode, token, certificate }

theorem nodup_fields (r : RevokeRequest) : (r.fields.map Prod.fst).Nodup :=
  (by decide : names.Nodup)

theorem ofJson_toJson (r : RevokeRequest) : ofJson r.toJson = .ok r := by
  have h := r.nodup_fields
  have hcode : r.toJson.optional "reason_code" Json.decodeI32 = .ok r.reasonCode := by
    refine Json.optional_record Json.decodeI32_encodeI32 (fun _ hnull => ?_) h (by simp [fields])
    cases hnull
  simp only [ofJson, except_bind_eq_ok]
  exact ⟨r.serialNumber, Json.required_str h (by simp [fields]), r.reason,
    Json.optional_str h (by simp [fields]), r.reasonCode, hcode, r.token,
    Json.optional_str h (by simp [fields]), r.certificate, Json.optional_str h (by simp [fields]), rfl⟩

theorem plain_toJson (r : RevokeRequest) : r.toJson.Plain 2 := by
  refine Json.plain_record r.nodup_fields ?_
  simp only [fields, List.forall_mem_cons, Option.mem_some_iff, forall_eq']
  refine ⟨.str _, fun _ => Json.plain_of_mem_map_str, fun j hj => ?_, fun _ => Json.plain_of_mem_map_str,
    fun _ => Json.plain_of_mem_map_str, by simp⟩
  obtain ⟨code, -, rfl⟩ := Option.map_eq_some_iff.mp hj
  have hmin := code.le_toInt
  have hmax := code.toInt_lt
  exact .int ⟨by omega, by omega⟩

end RevokeRequest

/-! ## Responses -/

namespace CertificateResponse

def names : List String := ["certificate", "chain", "serial_number", "not_after"]

def fields (r : CertificateResponse) : List (String × Option Json) := [
  ("certificate", some (.str r.certificate)), ("chain", some (.arr (r.chain.map .str))),
  ("serial_number", some (.str r.serialNumber)), ("not_after", some (.str r.notAfter))]

def toJson (r : CertificateResponse) : Json := .record r.fields

def ofJson (j : Json) : Except String CertificateResponse := do
  let j := j.named names
  let certificate ← j.required "certificate" Json.decodeString
  let chain ← j.required "chain" (Json.decodeList Json.decodeString)
  let serialNumber ← j.required "serial_number" Json.decodeString
  let notAfter ← j.required "not_after" Json.decodeString
  .ok { certificate, chain, serialNumber, notAfter }

theorem nodup_fields (r : CertificateResponse) : (r.fields.map Prod.fst).Nodup :=
  (by decide : names.Nodup)

theorem ofJson_toJson (r : CertificateResponse) : ofJson r.toJson = .ok r := by
  have h := r.nodup_fields
  have hchain : r.toJson.required "chain" (Json.decodeList Json.decodeString) = .ok r.chain :=
    (Json.required_record h (by simp [fields])).trans (Json.decodeStrings_map r.chain)
  simp only [ofJson, except_bind_eq_ok]
  exact ⟨r.certificate, Json.required_str h (by simp [fields]), r.chain, hchain, r.serialNumber,
    Json.required_str h (by simp [fields]), r.notAfter, Json.required_str h (by simp [fields]), rfl⟩

theorem plain_toJson (r : CertificateResponse) : r.toJson.Plain 2 := by
  refine Json.plain_record r.nodup_fields ?_
  simp only [fields, List.forall_mem_cons, Option.mem_some_iff, forall_eq']
  exact ⟨.str _, Json.plain_strings _, .str _, .str _, by simp⟩

end CertificateResponse

namespace RevokeResponse

def names : List String := ["status"]

def fields (r : RevokeResponse) : List (String × Option Json) := [("status", some (.str r.status))]

def toJson (r : RevokeResponse) : Json := .record r.fields

def ofJson (j : Json) : Except String RevokeResponse := do
  let j := j.named names
  let status ← j.required "status" Json.decodeString
  .ok { status }

theorem nodup_fields (r : RevokeResponse) : (r.fields.map Prod.fst).Nodup := List.nodup_singleton _

theorem ofJson_toJson (r : RevokeResponse) : ofJson r.toJson = .ok r := by
  simp only [ofJson, except_bind_eq_ok]
  exact ⟨r.status, Json.required_str r.nodup_fields (by simp [fields]), rfl⟩

theorem plain_toJson (r : RevokeResponse) : r.toJson.Plain 2 := by
  refine Json.plain_record r.nodup_fields ?_
  simp only [fields, List.forall_mem_cons, Option.mem_some_iff, forall_eq']
  exact ⟨.str _, by simp⟩

end RevokeResponse

/-- Public description of a provisioner. -/
structure ProvisionerInfo where
  name : String
  kind : String
  audiences : List String
  authorized : Bool

def ProvisionerInfo.toJson (p : ProvisionerInfo) : Json := .record [
  ("name", some (.str p.name)), ("type", some (.str p.kind)),
  ("audiences", if p.audiences.isEmpty then none else some (.arr (p.audiences.map .str))),
  ("authorized", some (.bool p.authorized))]

/-! ## Problems -/

/-- An RFC 7807 error body. -/
structure ProblemDetails where
  kind : String
  title : String
  status : ℕ
  detail : Option String
  /-- The field `instance`. -/
  instanceRef : Option String

namespace ProblemDetails

def defaultType : String := "about:blank"

def names : List String := ["type", "title", "status", "detail", "instance"]

def fields (p : ProblemDetails) : List (String × Option Json) := [
  ("type", some (.str p.kind)), ("title", some (.str p.title)), ("status", some (.int p.status)),
  ("detail", p.detail.map .str), ("instance", p.instanceRef.map .str)]

def toJson (p : ProblemDetails) : Json := .record p.fields

def ofJson (j : Json) : Except String ProblemDetails := do
  let j := j.named names
  let kind ← j.defaulted "type" defaultType Json.decodeString
  let title ← j.required "title" Json.decodeString
  let status ← j.required "status" Json.decodeU16
  let detail ← j.optional "detail" Json.decodeString
  let instanceRef ← j.optional "instance" Json.decodeString
  .ok { kind, title, status, detail, instanceRef }

theorem nodup_fields (p : ProblemDetails) : (p.fields.map Prod.fst).Nodup :=
  (by decide : names.Nodup)

theorem ofJson_toJson (p : ProblemDetails) (hstatus : p.status < 2 ^ 16) : ofJson p.toJson = .ok p := by
  have h := p.nodup_fields
  have hkind : p.toJson.defaulted "type" defaultType Json.decodeString = .ok p.kind :=
    Json.defaulted_record h (show ("type", some (.str p.kind)) ∈ p.fields by simp [fields])
  have hcode : p.toJson.required "status" Json.decodeU16 = .ok p.status := by
    refine (Json.required_record h (show ("status", some (.int p.status)) ∈ p.fields by simp [fields])).trans ?_
    simp only [Json.decodeU16, Int.toNat_natCast]
    exact if_pos ⟨by omega, by omega⟩
  simp only [ofJson, except_bind_eq_ok]
  exact ⟨p.kind, hkind, p.title, Json.required_str h (by simp [fields]), p.status, hcode, p.detail,
    Json.optional_str h (by simp [fields]), p.instanceRef, Json.optional_str h (by simp [fields]), rfl⟩

theorem plain_toJson (p : ProblemDetails) (hstatus : p.status < 2 ^ 16) : p.toJson.Plain 2 := by
  refine Json.plain_record p.nodup_fields ?_
  simp only [fields, List.forall_mem_cons, Option.mem_some_iff, forall_eq']
  exact ⟨.str _, .str _, .int ⟨by omega, by omega⟩, fun _ => Json.plain_of_mem_map_str,
    fun _ => Json.plain_of_mem_map_str, by simp⟩

end ProblemDetails

namespace Error

/-- The title of the problems of a kind, and what is told of this one. What went wrong inside is not
told. -/
def titleAndDetail : Error → String × Option String
  | .config _ | .internal _ => ("Internal Server Error", none)
  | .badRequest d => ("Bad Request", some d)
  | .unauthorized d => ("Unauthorized", some d)
  | .forbidden d => ("Forbidden", some d)
  | .notFound d => ("Not Found", some d)
  | .conflict d => ("Conflict", some d)

def toProblem (e : Error) : ProblemDetails where
  kind := "about:blank"
  title := e.titleAndDetail.1
  status := e.status
  detail := e.titleAndDetail.2
  instanceRef := none

theorem status_lt (e : Error) : e.status < 600 := by cases e <;> simp [status]

theorem le_status (e : Error) : 400 ≤ e.status := by cases e <;> simp [status]

end Error

end Ayane
