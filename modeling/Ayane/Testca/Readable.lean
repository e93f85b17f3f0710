import Ayane.Ca.Names
import Ayane.Testca.Server

/-!
# Stand-ins that read what they write

The stand-ins of the server, with encodings of names that are told apart. They satisfy the
laws of names, and those of certificates when these are told apart as well.
-/

namespace Ayane.Testca

/-- An encoding of the name `web`, with further names that follow it. -/
def sanDer (rest : Bytes) : Bytes :=
  0x30 :: UInt8.ofNat (5 + rest.length) :: 0x82 :: 3 :: utf8 "web" ++ rest

/-- A directory name, which is empty. -/
def directoryName : Bytes := [0xa4, 2, 0x30, 0]

/-- Crates that read and write the name `web` only, alone or with a directory name. -/
def readableCrates (certs : List Certificate) (csrs : List (String × CertReq))
    (documents : List (Bytes × Json)) : ServerCrates :=
  { closedCrates certs csrs documents with
    serverDer := { (closedCrates certs csrs documents).serverDer with
      utf8String := fun s => if s = "web" then .ok ⟨12, utf8 "web"⟩ else .error "not a common name"
      utf8StringFromAny := fun a =>
        if a.value = utf8 "web" then .ok "web" else .error "unexpected tag"
      subjectAltNameToDer := fun names =>
        if names = [.dnsName "web"] then .ok (sanDer [])
        else if names = [.dnsName "web", .other directoryName] then .ok (sanDer directoryName)
        else .error "not a name"
      subjectAltNameFromDer := fun b =>
        if b = sanDer [] then .ok [.dnsName "web"]
        else if b = sanDer directoryName then .ok [.dnsName "web", .other directoryName]
        else .error "malformed" } }

section

variable (certs : List Certificate) (csrs : List (String × CertReq)) (documents : List (Bytes × Json))

theorem readsBack_readable : ReadsBack (readableCrates certs csrs documents) where
  utf8String s value h := by
    change (if s = "web" then _ else _) = _ at h
    split_ifs at h with hs
    cases h
    rw [hs]
    rfl
  octetString _ _ h := (Except.ok.inj h).symm
  ia5String _ _ h := (Except.ok.inj h).symm
  subjectAltName names der h := by
    change (if names = _ then _ else if names = _ then _ else _) = _ at h
    split_ifs at h with hweb hboth
    · cases h
      rw [hweb]
      rfl
    · cases h
      rw [hboth]
      rfl

theorem writesAsRead_readable : WritesAsRead (readableCrates certs csrs documents) := by
  intro der names h hmodelled
  change (if der = _ then _ else if der = _ then _ else _) = _ at h
  split_ifs at h with hweb hboth
  · cases h
    rw [hweb]
    rfl
  · cases h
    exact absurd (hmodelled (.other directoryName) (by decide)) nofun

variable {certs csrs documents}

/-- Certificates are read back when those of the table are. -/
theorem pemRoundTrip_closed (h : ∀ cert ∈ certs, X509.certificateFromPem
    (closedCrates certs csrs documents) (pem (certificateDer cert)) = .ok cert) :
    PemRoundTrip (closedCrates certs csrs documents) := by
  intro cert text htext
  change (if cert ∈ certs then _ else _) = _ at htext
  split_ifs at htext with hmem
  cases htext
  exact h cert hmem

theorem pemRoundTrip_readable (h : ∀ cert ∈ certs, X509.certificateFromPem
    (readableCrates certs csrs documents) (pem (certificateDer cert)) = .ok cert) :
    PemRoundTrip (readableCrates certs csrs documents) :=
  @pemRoundTrip_closed certs csrs documents h

end

/-- The certificate that is signed for the key `3` at second 1000, with or without a common name. -/
def signedLeaf (setCommonName : Bool) : Certificate :=
  let tbs : TbsCertificate := X509.buildTbs {
    serialNumber := X509.serialBytes zeroEntropy
    signatureAlgorithm := .ecdsaSha256
    issuer := name "intermediate"
    validity := ⟨.utcTime (date 940), .utcTime (date 87400)⟩
    subject := if setCommonName then name "web" else []
    subjectPublicKeyInfo := spki 3
    extensions := [⟨Oid.basicConstraints, true, [0x30, 0]⟩,
      ⟨Oid.keyUsage, true, [3, 0]⟩,
      ⟨Oid.extendedKeyUsage, false, [9]⟩,
      ⟨Oid.subjectAltName, !setCommonName, sanDer []⟩,
      ⟨Oid.subjectKeyIdentifier, false, 4 :: (digest 20 [3]).val⟩,
      ⟨Oid.authorityKeyIdentifier, false, [0x30, 2]⟩] }
  { tbsCertificate := tbs
    signatureAlgorithm := ⟨Oid.ecdsaWithSha256, none⟩
    signature := ⟨0, sign [2] (tbsDer tbs)⟩ }

/-- The leaf with the name `web`, and further names after it. -/
def namedLeaf (rest : Bytes) : Certificate :=
  { leaf with tbsCertificate := { leaf.tbsCertificate with
      extensions := some (leaf.extensions ++
        [⟨Oid.subjectAltName, false, sanDer rest⟩]) } }

/-- What its renewal at second 1500 returns. -/
def renewedLeaf (entropy : Digest 19) : Certificate :=
  let cert := reissuedWith entropy (date 1500) (date 9500)
  { cert with tbsCertificate := { cert.tbsCertificate with
      extensions := some [⟨Oid.basicConstraints, true, [0x30, 0]⟩,
        ⟨Oid.subjectAltName, false, sanDer []⟩,
        ⟨Oid.subjectKeyIdentifier, false, 4 :: (digest 20 [3]).val⟩,
        ⟨Oid.authorityKeyIdentifier, false, [0x30, 2]⟩] } }

/-- What the renewal is answered with. -/
def renewedResponse (entropy : Digest 19) : CertificateResponse where
  certificate := pem (certificateDer (renewedLeaf entropy))
  chain := []
  serialNumber := serialToDecimal (X509.serialBytes entropy)
  notAfter := Nat.repr 9500

end Ayane.Testca
