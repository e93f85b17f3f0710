import Ayane.Crates

/-!
# Signature verification shared by server and client

`ayane-protocol/src/crypto.rs`: verification of X.509 signatures, dispatching on
the algorithm identifier, and of HTTP message signatures, dispatching on the
algorithm token. Keys and messages are byte strings; an error says whether the
algorithm is unsupported or the signature is not valid.
-/

namespace Ayane.Protocol

inductive SignatureError where
  | unsupported (algorithm : String)
  | invalid (reason : String)
  deriving DecidableEq, Repr

def SignatureError.toString : SignatureError → String
  | .unsupported a => "unsupported signature algorithm: " ++ a
  | .invalid e => "signature verification failed: " ++ e

/-- The closure `invalid`: a crate's error is a signature that is not valid. -/
def orInvalid {α : Type} : Except String α → Except SignatureError α
  | .ok a => .ok a
  | .error e => .error (.invalid e)

def verifyRsa (crates : Crates) (hash : Sha2) (spkiDer msg sig : Bytes) :
    Except SignatureError Unit := do
  let pubkey ← orInvalid (crates.rsa.publicKeyFromDer spkiDer)
  let signature ← orInvalid (crates.rsa.signatureFromSlice sig)
  orInvalid (crates.rsa.verify hash pubkey msg signature)

/-- An ECDSA signature in the DER form of certificates. -/
def verifyEcdsaDer (curve : Ecdsa) (spkiDer msg sig : Bytes) : Except SignatureError Unit := do
  let vk ← orInvalid (curve.verifyingKeyFromDer spkiDer)
  let signature ← orInvalid (curve.signatureFromDer sig)
  orInvalid (curve.verify vk msg signature)

/-- An ECDSA signature in the fixed-width form of message signatures. -/
def verifyEcdsaFixed (curve : Ecdsa) (spkiDer msg raw : Bytes) : Except SignatureError Unit := do
  let vk ← orInvalid (curve.verifyingKeyFromDer spkiDer)
  let signature ← orInvalid (curve.signatureFromSlice raw)
  orInvalid (curve.verify vk msg signature)

def verifyX509Signature (crates : Crates) (spkiDer tbs sig : Bytes) (algOid : Oid) :
    Except SignatureError Unit :=
  if algOid = Oid.ecdsaWithSha256 then verifyEcdsaDer crates.p256 spkiDer tbs sig
  else if algOid = Oid.ecdsaWithSha384 then verifyEcdsaDer crates.p384 spkiDer tbs sig
  else if algOid = Oid.sha256WithRsaEncryption then verifyRsa crates .sha256 spkiDer tbs sig
  else if algOid = Oid.sha384WithRsaEncryption then verifyRsa crates .sha384 spkiDer tbs sig
  else if algOid = Oid.sha512WithRsaEncryption then verifyRsa crates .sha512 spkiDer tbs sig
  else .error (.unsupported algOid.toString)

def verifyRfc9421Signature (crates : Crates) (alg : String) (spkiDer msg raw : Bytes) :
    Except SignatureError Unit :=
  if alg = "ecdsa-p256-sha256" then verifyEcdsaFixed crates.p256 spkiDer msg raw
  else if alg = "ecdsa-p384-sha384" then verifyEcdsaFixed crates.p384 spkiDer msg raw
  else if alg = "rsa-v1_5-sha256" then verifyRsa crates .sha256 spkiDer msg raw
  else if alg = "rsa-v1_5-sha384" then verifyRsa crates .sha384 spkiDer msg raw
  else if alg = "rsa-v1_5-sha512" then verifyRsa crates .sha512 spkiDer msg raw
  else .error (.unsupported alg)

end Ayane.Protocol
