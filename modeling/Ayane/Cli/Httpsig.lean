import Ayane.Lib.Effect
import Ayane.Protocol.Crypto
import Ayane.Protocol.Httpsig

/-!
# The client's verification of the roots response

`ayane-cli/src/httpsig.rs`: the response must carry a digest of its body and a
fresh signature under the first certificate of the signer chain, and that
certificate must be anchored in the pinned root bundle. Anchoring is a search
over the served chain, which is an unordered bag of certificates: from a
certificate the search may continue from any certificate of the same subject and
key, and climbs to the certificates that are its issuers by name and signature.

The bag is searched by reference. `Node`s carry their index in the bag, and two
references are the same pointer when their indices are equal.
-/

namespace Ayane.Cli

open Protocol Effect

/-- Clock-skew leeway for the `created` instant, in seconds. -/
def skew : UInt64 := 60

/-- Upper bound on `expires - created`. -/
def maxSignatureLifetime : UInt64 := 7 * 24 * 3600

/-- Maximum number of intermediate hops considered while anchoring. -/
def maxPathDepth : Nat := 8

/-- The header values of the roots response. -/
structure ResponseHeaders where
  contentDigest : String
  signatureInput : String
  signature : String
  signatureKey : String
  deriving DecidableEq, Repr

/-- The `?` operator on a header parser. -/
def parsed {α : Type} : Except HttpSigError α → Except String α
  | .ok a => .ok a
  | .error e => .error e.toString

@[simp] theorem parsed_eq_ok {α : Type} {x : Except HttpSigError α} {a : α} :
    parsed x = .ok a ↔ x = .ok a := by
  cases x <;> simp [parsed]

/-- Parse every `CERTIFICATE` block of a PEM bundle. -/
def parseCertificates (crates : Crates) (pemBytes : Bytes) : Except String (List Certificate) := do
  let blocks ← crates.pemParseMany pemBytes
  (blocks.filter fun b => b.tag = "CERTIFICATE").mapM fun b => crates.der.certificateFromDer b.contents

/-- Whether `cert` asserts `basicConstraints` cA=TRUE; the first such extension decides. -/
def isCa (crates : Crates) (cert : Certificate) : Bool :=
  match (cert.tbsCertificate.extensions.getD []).find? fun e => e.extnId = Oid.basicConstraints with
  | some ext =>
    match crates.der.basicConstraintsFromDer ext.extnValue with
    | .ok bc => bc.ca
    | .error _ => false
  | none => false

/-- Verify that the signature of `cert` validates under the key `parentSpkiDer`. -/
def verifyX509Signature (crates : Crates) (cert : Certificate) (parentSpkiDer : Bytes) :
    Except String Unit := do
  let tbs ← crates.der.tbsCertificateToDer cert.tbsCertificate
  match Protocol.verifyX509Signature crates parentSpkiDer tbs cert.signature.rawBytes
      cert.signatureAlgorithm.oid with
  | .ok () => .ok ()
  | .error e => .error e.toString

/-- A parsed certificate with the fields path building needs precomputed. -/
structure Node where
  cert : Certificate
  subject : Bytes
  issuer : Bytes
  spki : Bytes
  der : Bytes
  notBefore : UInt64
  notAfter : UInt64
  isCa : Bool
  deriving DecidableEq

def Node.new (crates : Crates) (cert : Certificate) : Except String Node := do
  let subject ← crates.der.nameToDer cert.tbsCertificate.subject
  let issuer ← crates.der.nameToDer cert.tbsCertificate.issuer
  let spki ← crates.der.spkiToDer cert.tbsCertificate.subjectPublicKeyInfo
  let der ← crates.der.certificateToDer cert
  .ok {
    cert, subject, issuer, spki, der
    notBefore := cert.tbsCertificate.validity.notBefore.unixSecs
    notAfter := cert.tbsCertificate.validity.notAfter.unixSecs
    isCa := Cli.isCa crates cert }

def Node.temporallyValid (n : Node) (now : UInt64) : Bool :=
  n.notBefore ≤ n.notAfter && n.notBefore ≤ now && now ≤ n.notAfter

/-- Whether the key of `parent` verifies the signature of `n`. -/
def Node.signedBy (crates : Crates) (n parent : Node) : Bool :=
  match verifyX509Signature crates n.cert parent.spki with
  | .ok () => true
  | .error _ => false

/-- Whether `n` is a pinned certificate, or is named and signed by one. A pinned
certificate is trusted as it is: its own validity and cA bit are not looked at. -/
def Node.anchored (crates : Crates) (anchors : List Node) (n : Node) : Bool :=
  anchors.any (fun a => a.der == n.der) ||
    anchors.any (fun a => a.subject == n.issuer && n.signedBy crates a)

/-- The step of a path the search records: subject, key and issuer name. -/
abbrev Edge := Bytes × Bytes × Bytes

def Node.edge (n : Node) : Edge := (n.subject, n.spki, n.issuer)

/-- A reference into the bag, with the index that stands for the pointer. -/
abbrev NodeRef := Node × Nat

/-- `cert` and the bag certificates with its subject and key. -/
def twins (bag : List NodeRef) (cert : NodeRef) : List NodeRef :=
  cert :: bag.filter fun n =>
    n.2 != cert.2 && n.1.subject == cert.1.subject && n.1.spki == cert.1.spki

/-- The bag certificates that are a CA, are named as the issuer of `t`, and signed it. -/
def issuers (crates : Crates) (bag : List NodeRef) (t : Node) : List NodeRef :=
  bag.filter fun n => n.1.isCa && n.1.subject == t.issuer && t.signedBy crates n.1

/-- The body of the loop over the twins, with `climb` for the recursive call. The
edges of the current path are pushed at the end of `visited` and popped from there. -/
def tryTwin (crates : Crates) (bag : List NodeRef) (anchors : List Node) (now : UInt64)
    (climb : NodeRef → StateM (List Edge) Bool) (t : NodeRef) : StateM (List Edge) Bool := do
  if t.1.temporallyValid now then
    let visited ← get
    if t.1.edge ∈ visited then
      return false
    else if t.1.anchored crates anchors then
      return true
    else
      set (visited ++ [t.1.edge])
      let found ← (issuers crates bag t.1).anyM climb
      if found then
        return true
      else
        modify List.dropLast
        return false
  else
    return false

/-- Whether `cert` reaches a pinned anchor. The first argument counts down the
calls that are still allowed, where the source counts the depth up to its bound. -/
def reachesAnchor (crates : Crates) (bag : List NodeRef) (anchors : List Node) (now : UInt64) :
    Nat → NodeRef → StateM (List Edge) Bool
  | 0, _ => return false
  | calls + 1, cert =>
    (twins bag cert).anyM (tryTwin crates bag anchors now (reachesAnchor crates bag anchors now calls))

/-- Anchor the signer, the first certificate of `chain`, in the pinned bundle `known`. -/
def anchorSigner (crates : Crates) (chain known : List Certificate) (now : UInt64) :
    Except String Unit := do
  let bag ← chain.mapM (Node.new crates)
  let anchors ← known.mapM (Node.new crates)
  match bag.zipIdx with
  | [] => .error "index out of bounds: the len is 0 but the index is 0"
  | signer :: rest =>
    if ((reachesAnchor crates (signer :: rest) anchors now (maxPathDepth + 1) signer).run []).1 then
      .ok ()
    else .error "signer chain does not anchor to the pinned root bundle"

/-- Freshness of the signature at `now`. -/
def checkFreshness (params : RootsSigParams) (now : UInt64) : Except String Unit := do
  ensure (params.created < params.expires) "roots signature expires before it was created"
  ensure (params.expires - params.created ≤ maxSignatureLifetime)
    "roots signature lifetime exceeds the maximum allowed"
  ensure (now < params.expires) "roots signature has expired"
  ensure (params.created ≤ now + skew) "roots signature is dated in the future"

/-- The signed thumbprint names the first certificate of the chain. -/
def checkThumbprint (crates : Crates) (x5t : String) (leaf : Certificate) :
    Except String Unit := do
  let leafDer ← crates.der.certificateToDer leaf
  ensure (x5tFromDigest crates (crates.sha256 leafDer) = x5t)
    "signer chain leaf does not match the signed x5t thumbprint"

/-- Verify a message signature under the public key `spkiDer`. -/
def verifyRfc9421Signature (crates : Crates) (alg : String) (spkiDer msg raw : Bytes) :
    Except String Unit :=
  match Protocol.verifyRfc9421Signature crates alg spkiDer msg raw with
  | .ok () => .ok ()
  | .error e => .error ("roots signature is invalid: " ++ e.toString)

/-- The signature verifies under the public key of `leaf`. -/
def checkSignature (crates : Crates) (headers : ResponseHeaders) (params : RootsSigParams)
    (leaf : Certificate) : Except String Unit := do
  let base := rootsSignatureBase 200 rootsContentType headers.contentDigest headers.signatureKey params
  let signature ← parsed (parseSignatureHeader crates headers.signature)
  let leafSpki ← crates.der.spkiToDer leaf.tbsCertificate.subjectPublicKeyInfo
  verifyRfc9421Signature crates params.alg leafSpki (utf8 base) signature

/-- Verify the signed roots response at `now`, in epoch seconds. -/
def verifyRootsResponse (crates : Crates) (body : Bytes) (headers : ResponseHeaders)
    (signerChainPem knownRootsPem : Bytes) (now : UInt64) : Except String Unit := do
  let gotDigest ← parsed (parseContentDigest crates headers.contentDigest)
  ensure (gotDigest = crates.sha384 body) "roots response Content-Digest does not match the body"
  let params ← parsed (parseRootsSigParams headers.signatureInput)
  checkFreshness params now
  let (_x5u, x5t) ← parsed (parseSignatureKeyX509 headers.signatureKey)
  let chain ← parseCertificates crates signerChainPem
  match chain with
  | [] => .error "signer chain is empty"
  | leaf :: _ =>
    checkThumbprint crates x5t leaf
    checkSignature crates headers params leaf
    let known ← parseCertificates crates knownRootsPem
    ensure (known ≠ []) "pinned root bundle contains no certificates"
    anchorSigner crates chain known now

end Ayane.Cli
