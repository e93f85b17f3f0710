import Ayane.Crates
import Ayane.Lib.Base64

/-!
# Stand-ins for the crates

Crates small enough to evaluate, for the concrete runs beside the results. They
keep the laws the results rely on: decoding undoes encoding, a signature made
with a key verifies under it, and a digest has its length. A signature is the key
followed by the first bytes of the message, so that the holder of a key is named
by its bytes.
-/

namespace Ayane.Testca

/-! ## Hexadecimal text -/

def hexChar (n : Nat) : Char := Nat.digitChar n

def hexValue (c : Char) : Option Nat :=
  if '0' ≤ c ∧ c ≤ '9' then some (c.toNat - '0'.toNat)
  else if 'a' ≤ c ∧ c ≤ 'f' then some (c.toNat - 'a'.toNat + 10)
  else if 'A' ≤ c ∧ c ≤ 'F' then some (c.toNat - 'A'.toNat + 10)
  else none

def hexEncode : Bytes → List Char
  | [] => []
  | b :: bs => hexChar (b.toNat / 16) :: hexChar (b.toNat % 16) :: hexEncode bs

def hexDecode : List Char → Except String Bytes
  | [] => .ok []
  | [_] => .error "Odd number of digits"
  | c :: d :: cs =>
    match hexValue c, hexValue d with
    | some h, some l => (hexDecode cs).map (UInt8.ofNat (16 * h + l) :: ·)
    | _, _ => .error "Invalid character"

theorem hexValue_hexChar : ∀ n < 16, hexValue (hexChar n) = some n := by decide

theorem hexDecode_hexEncode (bs : Bytes) : hexDecode (hexEncode bs) = .ok bs := by
  induction bs with
  | nil => rfl
  | cons b bs ih =>
    have hb := b.toNat_lt
    have hval : 16 * (b.toNat / 16) + b.toNat % 16 = b.toNat := by omega
    simp [hexEncode, hexDecode, hexValue_hexChar _ (show b.toNat / 16 < 16 by omega),
      hexValue_hexChar _ (show b.toNat % 16 < 16 by omega), ih, Except.map, hval]

def hex : TextCodec where
  encode b := String.ofList (hexEncode b)
  decode s := hexDecode s.toList

theorem hex_decode_encode (b : Bytes) : hex.decode (hex.encode b) = .ok b := by
  simp [hex, hexDecode_hexEncode]

theorem quote_not_mem_hex (b : Bytes) : '"' ∉ (hex.encode b).toList := by
  have hchar : ∀ n < 16, hexChar n ≠ '"' := by decide
  simp only [hex, String.toList_ofList]
  induction b with
  | nil => simp [hexEncode]
  | cons b bs ih =>
    have hb := b.toNat_lt
    simp only [hexEncode, List.mem_cons, not_or]
    exact ⟨(hchar _ (by omega)).symm, (hchar _ (by omega)).symm, ih⟩

def base64 : TextCodec where
  encode := Base64.encode
  decode s := (Base64.decode s).elim (.error "Invalid symbol") .ok

theorem base64_decode_encode (b : Bytes) : base64.decode (base64.encode b) = .ok b := by
  change (Base64.decode (Base64.encode b)).elim _ _ = _
  rw [Base64.decode_encode]
  rfl

/-! ## Digests, signatures and encodings -/

def digest (n : Nat) (b : Bytes) : Digest n :=
  ⟨(b ++ List.replicate n 0).take n, by simp⟩

/-- The signature that the holder of `key` makes. -/
def sign (key msg : Bytes) : Bytes := key ++ msg.take 8

def ecdsa : Ecdsa where
  verifyingKeyFromDer := .ok
  signatureFromDer := .ok
  signatureFromSlice := .ok
  signatureToBytes := id
  verify key msg sig := if sig = sign key msg then .ok () else .error "signature error"

def nameDer (n : Name) : Bytes := n.flatMap fun rdn => rdn.flatMap fun a => a.value.value ++ [0]

def spkiDer (s : SubjectPublicKeyInfo) : Bytes := s.subjectPublicKey.rawBytes

def tbsDer (t : TbsCertificate) : Bytes :=
  t.serialNumber ++ nameDer t.issuer ++ nameDer t.subject ++ spkiDer t.subjectPublicKeyInfo

def certificateDer (c : Certificate) : Bytes := tbsDer c.tbsCertificate ++ c.signature.rawBytes

/-- Encodings, with a decoder for the certificates of a table. -/
def der (certs : List Certificate) : Der where
  nameToDer n := .ok (nameDer n)
  spkiToDer s := .ok (spkiDer s)
  tbsCertificateToDer t := .ok (tbsDer t)
  certificateToDer c := .ok (certificateDer c)
  certificateFromDer b :=
    match certs.find? fun c => certificateDer c = b with
    | some c => .ok c
    | none => .error "unknown certificate"
  basicConstraintsFromDer b :=
    if b = [0x30, 3, 1, 1, 0xff] then .ok ⟨true, none⟩
    else if b = [0x30, 0] then .ok ⟨false, none⟩
    else .error "malformed"

/-- The text of one block: the hexadecimal form of its contents, closed by a semicolon. -/
def pem (contents : Bytes) : String := hex.encode contents ++ ";"

def pemParseMany (text : Bytes) : Except String (List PemBlock) :=
  ((text.splitOnP (· == 59)).filter (· ≠ [])).mapM fun chunk =>
    (hexDecode (chunk.map fun b => Char.ofNat b.toNat)).map fun contents =>
      { tag := "CERTIFICATE", contents }

def crates (certs : List Certificate) : Crates where
  sha1 := digest 20
  sha256 := digest 32
  sha384 := digest 48
  base64
  base64Url := hex
  hex := hex
  p256 := ecdsa
  p384 := ecdsa
  rsa := {
    publicKeyFromDer := fun _ => .error "not an RSA key"
    signatureFromSlice := .ok
    verify := fun _ _ _ _ => .error "verification error" }
  pemParseMany := pemParseMany
  der := der certs

/-! ## A small PKI -/

def name (cn : String) : Name := [[{ oid := Oid.commonName, value := ⟨12, utf8 cn⟩ }]]

/-- The public key of a signer that is known by one byte. -/
def spki (key : UInt8) : SubjectPublicKeyInfo :=
  ⟨⟨Oid.idEcPublicKey, none⟩, ⟨0, [key]⟩⟩

/-- The date of a second, when there is one. -/
def date (secs : ℕ) : DateTime := ⟨min secs 253402300799, Nat.min_le_right _ _⟩

/-- A certificate for `subject` with the key `key`, signed by `issuer` with `issuerKey`. -/
def certificate (subject issuer : String) (key issuerKey : UInt8) (ca : Bool) : Certificate :=
  let tbs : TbsCertificate := {
    version := .v3
    serialNumber := [7]
    signature := ⟨Oid.ecdsaWithSha256, none⟩
    issuer := name issuer
    validity := ⟨.utcTime (date 1000), .utcTime (date 9000)⟩
    subject := name subject
    subjectPublicKeyInfo := spki key
    issuerUniqueId := none
    subjectUniqueId := none
    extensions := some [{
      extnId := Oid.basicConstraints
      critical := true
      extnValue := if ca then [0x30, 3, 1, 1, 0xff] else [0x30, 0] }] }
  { tbsCertificate := tbs
    signatureAlgorithm := ⟨Oid.ecdsaWithSha256, none⟩
    signature := ⟨0, sign [issuerKey] (tbsDer tbs)⟩ }

def root : Certificate := certificate "root" "root" 1 1 true
def intermediate : Certificate := certificate "intermediate" "root" 2 1 true
def subscriber : Certificate := certificate "subscriber" "intermediate" 3 2 false

end Ayane.Testca
