import Ayane.Crates
import Ayane.Jwt

/-!
# The crates of the server

What the server calls beyond the crates it shares with the client: more encodings of
the `der` and `x509-cert` crates, web tokens, RFC 3339 times and JSON bodies.
-/

namespace Ayane

/-- Encodings and decodings that only the server uses. -/
structure ServerDer where
  certReqFromPem : String → Except String CertReq
  certReqToDer : CertReq → Except String Bytes
  certReqInfoToDer : CertReqInfo → Except String Bytes
  anyToDer : Any → Except String Bytes
  extensionReqFromDer : Bytes → Except String (List Extension)
  subjectAltNameFromDer : Bytes → Except String (List GeneralName)
  subjectAltNameToDer : List GeneralName → Except String Bytes
  basicConstraintsToDer : BasicConstraints → Except String Bytes
  /-- The bits of a `keyUsage`. -/
  keyUsageToDer : List ℕ → Except String Bytes
  extendedKeyUsageToDer : List Oid → Except String Bytes
  subjectKeyIdentifierToDer : Bytes → Except String Bytes
  /-- An `AuthorityKeyIdentifier` with a key identifier only. -/
  authorityKeyIdentifierToDer : Bytes → Except String Bytes
  boolToDer : Bool → Except String Bytes
  boolFromDer : Bytes → Except String Bool
  /-- `OctetString::new`. -/
  octetString : Bytes → Except String Bytes
  /-- `BitString::from_bytes`. -/
  bitString : Bytes → Except String BitString
  /-- `Ia5String::new`. -/
  ia5String : String → Except String String
  /-- `Utf8StringRef::new`, as an owned value. -/
  utf8String : String → Except String Any
  utf8StringFromAny : Any → Except String String
  printableStringFromAny : Any → Except String String
  oidFromAny : Any → Except String Oid
  /-- `ObjectIdentifier::from_str`. -/
  oidFromStr : String → Except String Oid
  /-- `SerialNumber::new`. -/
  serialNumber : Bytes → Except String Bytes
  /-- `DateTime::from_system_time`. -/
  dateTimeFromSystemTime : SystemTime → Except String DateTime
  certificateToPem : Certificate → Except String String

/-- The `humantime` and `chrono` crates. -/
structure Times where
  /-- `format_rfc3339_seconds(..).to_string()`, which panics out of its range. -/
  formatRfc3339 : SystemTime → Outcome String
  parseRfc3339 : String → Except String SystemTime
  /-- `chrono::DateTime::<Utc>::from`, which panics out of its range. -/
  dateTimeUtc : SystemTime → Outcome SystemTime

/-- The cached signature material of a roots body. -/
structure CachedRootsSig where
  created : UInt64
  expires : UInt64
  signatureKey : String
  signature : String
  signatureInput : String
  deriving DecidableEq

/-- `serde_json` on the values the server writes and reads. -/
structure JsonText where
  /-- A `serde_json::Value`. -/
  valueFromSlice : Bytes → Except String Json
  /-- The body of `GET /v1/roots`, from its certificates. -/
  rootsToVec : List String → Except String Bytes
  cachedRootsSigToVec : CachedRootsSig → Except String Bytes
  cachedRootsSigFromSlice : Bytes → Except String CachedRootsSig

structure ServerCrates extends Crates where
  serverDer : ServerDer
  jwt : Jwt
  times : Times
  jsonText : JsonText

end Ayane
