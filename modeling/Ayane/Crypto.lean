import Ayane.Protocol.Crypto
import Ayane.ServerCrates

/-!
# Signatures of the server

`ayane/src/crypto.rs`, and the key of the CA behind the trait `KeyProvider`. Every call
that leaves the process, such as asking the key provider, has a number within the run;
an answer may depend on it.
-/

namespace Ayane

inductive SignatureAlgorithm where
  | ecdsaSha256 | ecdsaSha384 | rsaPkcs1Sha256 | rsaPkcs1Sha384 | rsaPkcs1Sha512
  deriving DecidableEq

namespace SignatureAlgorithm

def oid : SignatureAlgorithm → Oid
  | .ecdsaSha256 => Oid.ecdsaWithSha256
  | .ecdsaSha384 => Oid.ecdsaWithSha384
  | .rsaPkcs1Sha256 => Oid.sha256WithRsaEncryption
  | .rsaPkcs1Sha384 => Oid.sha384WithRsaEncryption
  | .rsaPkcs1Sha512 => Oid.sha512WithRsaEncryption

def isRsa : SignatureAlgorithm → Bool
  | .ecdsaSha256 | .ecdsaSha384 => false
  | .rsaPkcs1Sha256 | .rsaPkcs1Sha384 | .rsaPkcs1Sha512 => true

/-- RSA algorithms carry an explicit `NULL` parameter. -/
def algorithmIdentifier (a : SignatureAlgorithm) : AlgorithmIdentifier :=
  ⟨a.oid, if a.isRsa then some ⟨5, []⟩ else none⟩

def rfc9421Alg : SignatureAlgorithm → String
  | .ecdsaSha256 => "ecdsa-p256-sha256"
  | .ecdsaSha384 => "ecdsa-p384-sha384"
  | .rsaPkcs1Sha256 => "rsa-v1_5-sha256"
  | .rsaPkcs1Sha384 => "rsa-v1_5-sha384"
  | .rsaPkcs1Sha512 => "rsa-v1_5-sha512"

/-- The name of an algorithm does not end the parameter that carries it. -/
theorem semicolon_not_mem_rfc9421Alg (a : SignatureAlgorithm) : ';' ∉ a.rfc9421Alg.toList := by
  cases a <;> decide

/-- Fixed-width form of an ECDSA signature; RSA signatures pass through. -/
def rfc9421SignatureFromDer (crates : Crates) (a : SignatureAlgorithm) (der : Bytes) :
    Result Bytes :=
  let invalid e := Error.internal ("re-encode ECDSA signature: " ++ e)
  match a with
  | .ecdsaSha256 => mapErr invalid ((crates.p256.signatureFromDer der).map crates.p256.signatureToBytes)
  | .ecdsaSha384 => mapErr invalid ((crates.p384.signatureFromDer der).map crates.p384.signatureToBytes)
  | .rsaPkcs1Sha256 | .rsaPkcs1Sha384 | .rsaPkcs1Sha512 => .ok der

end SignatureAlgorithm

/-- The method-1 subject key identifier. -/
def keyIdentifier (crates : Crates) (spki : SubjectPublicKeyInfo) : Bytes :=
  crates.sha1 spki.subjectPublicKey.rawBytes

/-- A signature that does not validate is forbidden, an unsupported algorithm a bad request. -/
def verifySignature (crates : Crates) (spkiDer tbs sig : Bytes) (algOid : Oid) : Result Unit :=
  mapErr (fun e => match e with
    | .invalid _ => .forbidden e.toString
    | .unsupported _ => .badRequest e.toString)
    (Protocol.verifyX509Signature crates spkiDer tbs sig algOid)

structure KeyProvider where
  algorithm : SignatureAlgorithm
  publicKeyDer : Bytes
  sign : ℕ → Bytes → Result Bytes

end Ayane
