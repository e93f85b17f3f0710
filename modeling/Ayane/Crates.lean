import Ayane.Certificate

/-!
# The crates the program calls

Hashes, encodings and signature primitives come from crates outside the
repository. Each is a field here, with the error text it reports, and every
function of the model that calls one takes the crates as an argument. What a
result needs of them is a hypothesis of that result.
-/

namespace Ayane

/-- A text encoding of byte strings. -/
structure TextCodec where
  encode : Bytes → String
  decode : String → Except String Bytes

/-- The `ecdsa` module of a curve crate. Parsed keys and signatures are opaque byte strings. -/
structure Ecdsa where
  /-- `VerifyingKey::from_public_key_der`. -/
  verifyingKeyFromDer : Bytes → Except String Bytes
  /-- `Signature::from_der`. -/
  signatureFromDer : Bytes → Except String Bytes
  /-- `Signature::from_slice`, the fixed-width form. -/
  signatureFromSlice : Bytes → Except String Bytes
  /-- `Signature::to_bytes`, the fixed-width form. -/
  signatureToBytes : Bytes → Bytes
  /-- Key, message and signature. -/
  verify : Bytes → Bytes → Bytes → Except String Unit

inductive Sha2 where
  | sha256 | sha384 | sha512
  deriving DecidableEq

/-- The `rsa` crate, PKCS#1 v1.5. -/
structure Rsa where
  /-- `RsaPublicKey::from_public_key_der`. -/
  publicKeyFromDer : Bytes → Except String Bytes
  /-- `Signature::try_from`. -/
  signatureFromSlice : Bytes → Except String Bytes
  verify : Sha2 → Bytes → Bytes → Bytes → Except String Unit

/-- One block of a PEM text. -/
structure PemBlock where
  tag : String
  contents : Bytes
  deriving DecidableEq

/-- Encodings and decodings of the `der`, `spki` and `x509-cert` crates. -/
structure Der where
  nameToDer : Name → Except String Bytes
  spkiToDer : SubjectPublicKeyInfo → Except String Bytes
  tbsCertificateToDer : TbsCertificate → Except String Bytes
  certificateToDer : Certificate → Except String Bytes
  certificateFromDer : Bytes → Except String Certificate
  basicConstraintsFromDer : Bytes → Except String BasicConstraints

structure Crates where
  sha1 : Bytes → Digest 20
  sha256 : Bytes → Digest 32
  sha384 : Bytes → Digest 48
  /-- The `STANDARD` engine of the `base64` crate. -/
  base64 : TextCodec
  /-- The `URL_SAFE_NO_PAD` engine. -/
  base64Url : TextCodec
  hex : TextCodec
  p256 : Ecdsa
  p384 : Ecdsa
  rsa : Rsa
  /-- `pem::parse_many`. -/
  pemParseMany : Bytes → Except String (List PemBlock)
  der : Der

end Ayane
