import Ayane.Config

/-!
# Keys of the authority

`ayane/src/key_provider`: the signing key that is configured, which is read from PEM text or is kept by
AWS KMS. What a crate does with a private key and what KMS answers are given. What is wrong with the
configured key is told when it is read; a provider that could be built fails only as something inside.
-/

namespace Ayane

open Effect

/-- A private key, as its crate has it. -/
structure PrivateKey where
  /-- `to_public_key_der` of its public key. -/
  publicKeyDer : Except String Bytes
  /-- `try_sign` of a message, hashed so. -/
  trySign : Sha2 → Bytes → Except String Bytes

/-- The key crates. -/
structure KeyCrates where
  p256FromPkcs8Pem : String → Except String PrivateKey
  p384FromPkcs8Pem : String → Except String PrivateKey
  rsaFromPkcs8Pem : String → Except String PrivateKey
  rsaFromPkcs1Pem : String → Except String PrivateKey
  sha512 : Bytes → Digest 64

/-- What KMS is asked to sign. -/
structure KmsSignInput where
  keyId : String
  message : Bytes
  messageType : String
  signingAlgorithm : String

/-- A client of AWS KMS, with what it answers at a numbered interaction. -/
structure KmsClient where
  getPublicKey : String → Except String (Option Bytes)
  sign : ℕ → KmsSignInput → Except String (Option Bytes)

namespace SignatureAlgorithm

/-- From the name in a configuration. -/
def parse (s : String) : Result SignatureAlgorithm :=
  let name := (s.map Char.toUpper).map fun c => if c = '-' ∨ c = ' ' then '_' else c
  if name = "ECDSA_SHA256" ∨ name = "ES256" then .ok .ecdsaSha256
  else if name = "ECDSA_SHA384" ∨ name = "ES384" then .ok .ecdsaSha384
  else if name = "RSA_PKCS1_SHA256" ∨ name = "RS256" then .ok .rsaPkcs1Sha256
  else if name = "RSA_PKCS1_SHA384" ∨ name = "RS384" then .ok .rsaPkcs1Sha384
  else if name = "RSA_PKCS1_SHA512" ∨ name = "RS512" then .ok .rsaPkcs1Sha512
  else .error (.config ("unknown signature algorithm: " ++ name))

/-- The derived `Debug`. -/
def debug : SignatureAlgorithm → String
  | .ecdsaSha256 => "EcdsaSha256"
  | .ecdsaSha384 => "EcdsaSha384"
  | .rsaPkcs1Sha256 => "RsaPkcs1Sha256"
  | .rsaPkcs1Sha384 => "RsaPkcs1Sha384"
  | .rsaPkcs1Sha512 => "RsaPkcs1Sha512"

def digest (crates : Crates) (keys : KeyCrates) : SignatureAlgorithm → Bytes → Bytes
  | .ecdsaSha256, message | .rsaPkcs1Sha256, message => (crates.sha256 message).1
  | .ecdsaSha384, message | .rsaPkcs1Sha384, message => (crates.sha384 message).1
  | .rsaPkcs1Sha512, message => (keys.sha512 message).1

/-- `AwsKmsKeyProvider::signing_spec`. -/
def signingSpec : SignatureAlgorithm → String
  | .ecdsaSha256 => "ECDSA_SHA_256"
  | .ecdsaSha384 => "ECDSA_SHA_384"
  | .rsaPkcs1Sha256 => "RSASSA_PKCS1_V1_5_SHA_256"
  | .rsaPkcs1Sha384 => "RSASSA_PKCS1_V1_5_SHA_384"
  | .rsaPkcs1Sha512 => "RSASSA_PKCS1_V1_5_SHA_512"

end SignatureAlgorithm

/-! ## Keys from PEM -/

inductive FileKey where
  | ecP256 (key : PrivateKey)
  | ecP384 (key : PrivateKey)
  | rsa (key : PrivateKey)

structure FileKeyProvider where
  key : FileKey
  algorithm : SignatureAlgorithm
  publicKeyDer : Bytes

namespace FileKeyProvider

/-- The algorithm that is asked for is for RSA keys; that of the others is fixed. -/
def fromPem (keys : KeyCrates) (pem : String) (algorithmOverride : Option SignatureAlgorithm) :
    Result FileKeyProvider :=
  match keys.p256FromPkcs8Pem pem with
  | .ok key => do
    let publicKeyDer ← mapErr (fun e => .config ("EC P-256 public key: " ++ e)) key.publicKeyDer
    .ok { key := .ecP256 key, algorithm := .ecdsaSha256, publicKeyDer }
  | .error _ =>
    match keys.p384FromPkcs8Pem pem with
    | .ok key => do
      let publicKeyDer ← mapErr (fun e => .config ("EC P-384 public key: " ++ e)) key.publicKeyDer
      .ok { key := .ecP384 key, algorithm := .ecdsaSha384, publicKeyDer }
    | .error _ =>
      match (keys.rsaFromPkcs8Pem pem).toOption.or (keys.rsaFromPkcs1Pem pem).toOption with
      | some key => do
        let publicKeyDer ← mapErr (fun e => .config ("RSA public key: " ++ e)) key.publicKeyDer
        .ok {
          key := .rsa key
          algorithm := (algorithmOverride.filter SignatureAlgorithm.isRsa).getD .rsaPkcs1Sha256
          publicKeyDer }
      | none => .error (.config
          "unsupported private key PEM (expected PKCS#8 EC P-256/P-384, or PKCS#8/PKCS#1 RSA)")

def signRsa (key : PrivateKey) (hash : Sha2) (message : Bytes) : Result Bytes :=
  mapErr (fun e => .internal ("RSA sign: " ++ e)) (key.trySign hash message)

def sign (provider : FileKeyProvider) (message : Bytes) : Result Bytes :=
  match provider.key with
  | .ecP256 key => mapErr (fun e => .internal ("ECDSA sign: " ++ e)) (key.trySign .sha256 message)
  | .ecP384 key => mapErr (fun e => .internal ("ECDSA sign: " ++ e)) (key.trySign .sha384 message)
  | .rsa key =>
    match provider.algorithm with
    | .rsaPkcs1Sha256 => signRsa key .sha256 message
    | .rsaPkcs1Sha384 => signRsa key .sha384 message
    | .rsaPkcs1Sha512 => signRsa key .sha512 message
    | other => .error (.internal ("RSA key cannot sign with " ++ other.debug))

def toKeyProvider (provider : FileKeyProvider) : KeyProvider where
  algorithm := provider.algorithm
  publicKeyDer := provider.publicKeyDer
  sign _ message := provider.sign message

end FileKeyProvider

/-! ## Keys in KMS -/

structure AwsKmsKeyProvider where
  client : KmsClient
  keyId : String
  algorithm : SignatureAlgorithm
  publicKeyDer : Bytes

namespace AwsKmsKeyProvider

/-- The public key is fetched once. -/
def new (client : KmsClient) (keyId : String) (algorithm : SignatureAlgorithm) :
    Result AwsKmsKeyProvider := do
  let resp ← mapErr (fun e => .config ("kms GetPublicKey(" ++ keyId ++ "): " ++ e))
    (client.getPublicKey keyId)
  let publicKeyDer ← okOr (.config ("kms GetPublicKey(" ++ keyId ++ "): no public key")) resp
  .ok { client, keyId, algorithm, publicKeyDer }

def sign (crates : Crates) (keys : KeyCrates) (provider : AwsKmsKeyProvider) (n : ℕ)
    (message : Bytes) : Result Bytes := do
  let resp ← mapErr (fun e => .internal ("kms Sign(" ++ provider.keyId ++ "): " ++ e))
    (provider.client.sign n {
      keyId := provider.keyId
      message := provider.algorithm.digest crates keys message
      messageType := "DIGEST"
      signingAlgorithm := provider.algorithm.signingSpec })
  okOr (.internal "kms Sign: empty signature") resp

def toKeyProvider (crates : Crates) (keys : KeyCrates) (provider : AwsKmsKeyProvider) :
    KeyProvider where
  algorithm := provider.algorithm
  publicKeyDer := provider.publicKeyDer
  sign := provider.sign crates keys

end AwsKmsKeyProvider

/-! ## The configured key -/

/-- The text of a configured key. -/
def FileKeyProvider.pemText (readToString : String → Except String String) :
    (file pem : Option String) → Result String
  | _, some pem => .ok pem
  | some path, none => mapErr (fun e => .config ("read key " ++ path ++ ": " ++ e)) (readToString path)
  | none, none => .error (.config "file key requires `pem` or `file`")

/-- The algorithm that is asked for, if one is. -/
def SignatureAlgorithm.parseOverride : Option String → Result (Option SignatureAlgorithm)
  | some a => (parse a).map some
  | none => .ok none

/-- `key_provider::from_config`. `readToString` reads a file and `kms` is the client of a region. -/
def KeyProvider.fromConfig (crates : Crates) (keys : KeyCrates)
    (readToString : String → Except String String) (kms : Option String → KmsClient) :
    KeyConfig → Result KeyProvider
  | .file path pem algorithm => do
    let pemText ← FileKeyProvider.pemText readToString path pem
    let algorithm ← SignatureAlgorithm.parseOverride algorithm
    let provider ← FileKeyProvider.fromPem keys pemText algorithm
    .ok provider.toKeyProvider
  | .awsKms keyId algorithm region => do
    let algorithm ← SignatureAlgorithm.parse algorithm
    let provider ← AwsKmsKeyProvider.new (kms region) keyId algorithm
    .ok (provider.toKeyProvider crates keys)

end Ayane
