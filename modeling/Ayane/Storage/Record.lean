import Ayane.Certificate

/-!
# What the storage keeps

The records of `ayane/src/storage/mod.rs`, and a claim of a one-time token id after
the clock has been read and before it is committed: the two backends read the
clock outside the statement that takes the id.
-/

namespace Ayane

/-- A record of one issued certificate. Timestamps are RFC 3339 texts. -/
structure CertificateRecord where
  /-- Decimal serial number. -/
  serialNumber : String
  /-- Subject common name; empty for a SAN-only certificate. -/
  subject : String
  sans : List String
  notBefore : String
  notAfter : String
  issuedAt : String
  /-- Absent for renew and rekey. -/
  provisioner : Option String
  /-- `"sign"`, `"renew"` or `"rekey"`. -/
  operation : String
  renewable : Bool
  pem : String
  deriving DecidableEq

structure RevocationRecord where
  serialNumber : String
  /-- RFC 5280 CRLReason code. -/
  reasonCode : Int32
  reason : Option String
  revokedAt : String
  provisioner : Option String
  deriving DecidableEq

/-- A claim that is ready to be committed: the second written as its expiry, and
the second of the clock it was prepared at. -/
structure PendingClaim where
  jti : String
  expiresAt : ℕ
  now : ℕ
  deriving DecidableEq

/-- The error of a claim that is still held. -/
def alreadyClaimed (jti : String) : Error := .conflict ("token " ++ jti ++ " already claimed")

/-- The `Display` form of a `SystemTimeError`. -/
def systemTimeError : String := "second time provided was later than self"

end Ayane
