import Ayane.Ca
import Ayane.Config
import Ayane.Lib.Run

/-!
# Serving

`ayane/src/tls.rs`: the server issues the certificate that it serves with to itself, and a
background task issues it anew before it expires. The task is a transition system on one clock,
by which it sleeps and by which certificates expire.
-/

namespace Ayane

open Effect

/-- The host of a URL. -/
inductive UrlHost where
  | domain (name : String)
  | ip (addr : Net.IpAddr)

/-- A key that is drawn for one certificate, by its encodings. -/
structure ServingKey where
  publicKeyDer : Except String Bytes
  pkcs8Der : Except String Bytes

/-- What the serving certificate needs of the crates besides. -/
structure TlsCrates where
  /-- `Url::parse`, and the host when there is one. -/
  urlHost : String → Option UrlHost
  /-- The key that is drawn at an interaction. -/
  servingKey : ℕ → ServingKey
  spkiFromDer : Bytes → Except String SubjectPublicKeyInfo
  /-- `any_ecdsa_type`; a signing key is an opaque byte string. -/
  anyEcdsaType : Bytes → Except String Bytes

def San.ofUrlHost : UrlHost → San
  | .domain name => .dns name
  | .ip addr => .ip addr

def San.dnsName? : San → Option String
  | .dns name => some name
  | _ => none

/-- Where nothing else is configured. -/
def loopbackSans : List San :=
  [.dns "localhost", .ip (.v4 #v[127, 0, 0, 1]),
    .ip (.v6 #v[0, 0, 0, 0, 0, 0, 0, 0, 0, 0, 0, 0, 0, 0, 0, 1])]

/-- The configured names, else the host of the external URL, else the loopback names. -/
def resolveSans (crates : TlsCrates) (tls : TlsConfig) (externalUrl : Option String) :
    Result (List San) :=
  if ¬tls.dnsNames.isEmpty ∨ ¬tls.ipAddresses.isEmpty then do
    let ips ← tls.ipAddresses.mapM TlsConfig.parseIp
    .ok (tls.dnsNames.map San.dns ++ ips.map San.ip)
  else
    match externalUrl.bind crates.urlHost with
    | some host => .ok [.ofUrlHost host]
    | none => .ok loopbackSans

def serverTemplate : CertificateTemplate where
  keyUsage := [.digitalSignature, .keyEncipherment]
  extendedKeyUsage := [.serverAuth]
  isCa := false
  pathLen := none
  setCommonName := true

structure SelfIssuer where
  ca : CertificateAuthority
  sans : List San
  validity : Duration
  renewBefore : Duration
  renewJitter : Duration
  template : CertificateTemplate

structure CertifiedKey where
  cert : List Bytes
  key : Bytes

structure ServingCert where
  certifiedKey : CertifiedKey
  notAfter : SystemTime

/-- `SystemTime - Duration`. -/
def SystemTime.minus (t : SystemTime) (d : Duration) : Outcome SystemTime :=
  match t.checkedSub d with
  | some t' => .ok t'
  | none => .error (.panic "overflow when subtracting duration from instant")

theorem SystemTime.minus_le {t t' : SystemTime} {d : Duration} (h : t.minus d = .ok t') : t' ≤ t := by
  unfold minus checkedSub at h
  split_ifs at h
  · cases h
    change t.nanos - d ≤ t.nanos
    omega

namespace SelfIssuer

def new (crates : TlsCrates) (ca : CertificateAuthority) (tls : TlsConfig)
    (externalUrl : Option String) : Result SelfIssuer := do
  let sans ← resolveSans crates tls externalUrl
  .ok {
    ca
    sans
    validity := tls.validity
    renewBefore := tls.effectiveRenewBefore
    renewJitter := tls.effectiveRenewJitter
    template := serverTemplate }

/-- The certificates of the leaf and its chain. -/
def chainCerts (crates : ServerCrates) (pems : List String) : Result (List Bytes) := do
  let blocks ← pems.mapM fun text =>
    mapErr (fun e => .internal ("parse serving chain PEM: " ++ e)) (crates.pemParseMany (utf8 text))
  .ok (blocks.flatten.map (·.contents))

/-- Draw a key and issue a certificate for it, when the clock shows `now`. -/
def issueServing (crates : ServerCrates) (tlsCrates : TlsCrates) (issuer : SelfIssuer) (n : ℕ)
    (entropy : Digest 19) (now : SystemTime) : Outcome ServingCert := do
  let signing := tlsCrates.servingKey n
  let publicKeyDer ← (mapErr (fun e => .internal ("encode serving public key: " ++ e))
    signing.publicKeyDer).orAbort
  let publicKey ← (mapErr derError (tlsCrates.spkiFromDer publicKeyDer)).orAbort
  let notBefore ← now.minus (fromSecs 60)
  let notAfter ← now.plus issuer.validity
  let issued ← issuer.ca.issue crates n entropy {
    commonName := (issuer.sans.findSome? San.dnsName?).getD ""
    sans := issuer.sans
    publicKey
    notBefore
    notAfter
    template := issuer.template
    keyUsageOverride := none
    extendedKeyUsageOverride := none
    additionalExtensions := []
    renewable := true }
  let cert ← (chainCerts crates (issued.pem :: issuer.ca.chainPem)).orAbort
  let keyDer ← (mapErr (fun e => .internal ("encode serving key: " ++ e)) signing.pkcs8Der).orAbort
  let key ← (mapErr (fun e => .internal ("load serving key: " ++ e))
    (tlsCrates.anyEcdsaType keyDer)).orAbort
  .ok { certifiedKey := { cert, key }, notAfter }

end SelfIssuer

/-! ## Renewing -/

/-- `Duration::from_millis`. -/
def fromMillis (ms : ℕ) : Duration := ms * 1000000

/-- The largest number of milliseconds that `gen_range` draws: `as_millis`, cut to 64 bits. -/
def jitterMillis (renewJitter : Duration) : ℕ := renewJitter / 1000000 % 2 ^ 64

/-- What is drawn for a jitter, which is nothing when that is zero. -/
def JitterDrawn (renewJitter jitter : Duration) : Prop :=
  if renewJitter = 0 then jitter = 0 else ∃ ms ≤ jitterMillis renewJitter, jitter = fromMillis ms

/-- When to renew, with the jitter that was drawn. -/
def renewInstant (notAfter : SystemTime) (renewBefore jitter : Duration) : Outcome SystemTime := do
  let before ← addDurations renewBefore jitter
  .ok ((notAfter.checkedSub before).getD unixEpoch)

def renewDelay (notAfter : SystemTime) (renewBefore jitter : Duration) (now : SystemTime) :
    Outcome Duration := do
  let renewAt ← renewInstant notAfter renewBefore jitter
  .ok ((renewAt.durationSince now).getD 0)

/-- The pause after a failure. -/
def SelfIssuer.backoff (issuer : SelfIssuer) : Duration := min issuer.renewBefore (fromSecs 60)

namespace Renewer

/-- The task as it computes the delay of its next renewal. -/
structure State where
  now : SystemTime
  /-- The end of the certificate that is served. -/
  notAfter : SystemTime
  /-- When certificates were issued, or could not be, the latest first. -/
  issuances : List SystemTime

/-- One turn of the loop of `run_renewer`. The sleep may last longer than it was asked for, and issuing
takes time before and after it reads the clock. A panic ends the task. -/
inductive Step (crates : ServerCrates) (tlsCrates : TlsCrates) (issuer : SelfIssuer) : State → State → Prop
  | renewed {s : State} {jitter delay : Duration} {now later : SystemTime} {n : ℕ}
      {entropy : Digest 19} {serving : ServingCert}
      (hjitter : JitterDrawn issuer.renewJitter jitter)
      (hdelay : renewDelay s.notAfter issuer.renewBefore jitter s.now = .ok delay)
      (hslept : s.now.nanos + delay ≤ now.nanos)
      (hissued : issuer.issueServing crates tlsCrates n entropy now = .ok serving)
      (hlater : now ≤ later) :
      Step crates tlsCrates issuer s ⟨later, serving.notAfter, now :: s.issuances⟩
  | failed {s : State} {jitter delay : Duration} {now later : SystemTime} {n : ℕ}
      {entropy : Digest 19} {e : Error}
      (hjitter : JitterDrawn issuer.renewJitter jitter)
      (hdelay : renewDelay s.notAfter issuer.renewBefore jitter s.now = .ok delay)
      (hslept : s.now.nanos + delay ≤ now.nanos)
      (hfailed : issuer.issueServing crates tlsCrates n entropy now = .error (.error e))
      (hlater : now.nanos + issuer.backoff ≤ later.nanos) :
      Step crates tlsCrates issuer s ⟨later, s.notAfter, now :: s.issuances⟩

end Renewer

end Ayane
