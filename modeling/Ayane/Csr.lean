import Ayane.Crypto
import Ayane.San

/-!
# Certificate signing requests

`ayane/src/csr.rs`.
-/

namespace Ayane

structure ParsedCsr where
  req : CertReq
  der : Bytes

namespace ParsedCsr

def fromPem (crates : ServerCrates) (pem : String) : Result ParsedCsr := do
  let req ← mapErr (fun e => .badRequest ("invalid CSR PEM: " ++ e))
    (crates.serverDer.certReqFromPem pem)
  let der ← mapErr (fun e => .badRequest ("cannot re-encode CSR: " ++ e))
    (crates.serverDer.certReqToDer req)
  .ok { req, der }

def publicKey (csr : ParsedCsr) : SubjectPublicKeyInfo := csr.req.info.publicKey

/-- The names of one `SubjectAltName` extension that are of a modelled kind. -/
def sansOfExtension (crates : ServerCrates) (ext : Extension) : Result (List San) :=
  if ext.extnId ≠ Oid.subjectAltName then .ok []
  else do
    let names ← mapErr (fun e => .badRequest ("invalid SubjectAltName: " ++ e))
      (crates.serverDer.subjectAltNameFromDer ext.extnValue)
    .ok (names.filterMap San.ofGeneralName)

/-- The names of one value of an `extensionRequest` attribute. -/
def sansOfValue (crates : ServerCrates) (value : Any) : Result (List San) := do
  let der ← mapErr derError (crates.serverDer.anyToDer value)
  let exts ← mapErr (fun e => .badRequest ("invalid extensionRequest: " ++ e))
    (crates.serverDer.extensionReqFromDer der)
  let sans ← exts.mapM (sansOfExtension crates)
  .ok sans.flatten

def requestedSans (crates : ServerCrates) (csr : ParsedCsr) : Result (List San) := do
  let requests := csr.req.info.attributes.filter fun attr => attr.oid = Oid.extensionReq
  let sans ← (requests.flatMap (·.values)).mapM (sansOfValue crates)
  .ok sans.flatten

/-- The value bound by the `cnf` claim of a token. -/
def fingerprintB64url (crates : ServerCrates) (csr : ParsedCsr) : String :=
  crates.base64Url.encode (crates.sha256 csr.der)

/-- The self-signature, which proves possession of the private key. -/
def verifySignature (crates : ServerCrates) (csr : ParsedCsr) : Result Unit := do
  let tbs ← mapErr derError (crates.serverDer.certReqInfoToDer csr.req.info)
  let spkiDer ← mapErr derError (crates.der.spkiToDer csr.publicKey)
  mapErr (fun e => .badRequest ("CSR proof-of-possession failed: " ++ e.toString))
    (Ayane.verifySignature crates.toCrates spkiDer tbs csr.req.signature.rawBytes
      csr.req.algorithm.oid)

end ParsedCsr

end Ayane
