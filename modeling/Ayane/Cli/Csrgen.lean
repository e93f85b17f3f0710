import Ayane.Service.SanPolicy
import Ayane.Testca.Readable

/-!
# Requests of the client

`ayane-cli/src/csrgen.rs`: a certificate signing request for a key, a common name and a list of
names. The client tells the kinds of names apart by itself, and wraps them into an extension, an
attribute and a PEM text; what the server reads from that text is the list it would have read from
the token.
-/

namespace Ayane.Cli

open Effect

/-- `ayane-cli/src/keypair.rs`: a private key, by its kind. -/
inductive KeyPair where
  | ecP256 (key : Bytes)
  | ecP384 (key : Bytes)
  | rsa (key : Bytes)

/-- The encoding of `NULL`. -/
def null : Any := ⟨5, []⟩

/-- What goes with the signatures of a key. -/
def KeyPair.algorithmIdentifier : KeyPair → AlgorithmIdentifier
  | .ecP256 _ => ⟨Oid.ecdsaWithSha256, none⟩
  | .ecP384 _ => ⟨Oid.ecdsaWithSha384, none⟩
  | .rsa _ => ⟨Oid.sha256WithRsaEncryption, some null⟩

/-- The crates of the server, with what the client calls besides. -/
structure CsrCrates extends ServerCrates where
  /-- `KeyPair::public_key_der`. -/
  publicKeyDer : KeyPair → Except String Bytes
  /-- `KeyPair::sign_der`. -/
  signDer : KeyPair → Bytes → Except String Bytes
  spkiFromDer : Bytes → Except String SubjectPublicKeyInfo
  /-- `Utf8StringRef::new`, encoded. -/
  utf8StringToDer : String → Except String Bytes
  anyFromDer : Bytes → Except String Any
  extensionReqToDer : List Extension → Except String Bytes
  certReqToPem : CertReq → Except String String

section

variable (crates : CsrCrates)

def nameWithCommonName (cn : String) : Except String Name :=
  if cn = "" then .ok []
  else do
    let utf8 ← crates.utf8StringToDer cn
    let value ← crates.anyFromDer utf8
    .ok [[{ oid := Oid.commonName, value }]]

def sanToGeneralName (s : String) : Except String GeneralName :=
  match Net.IpAddr.parse s with
  | some ip => do
    let octets := match ip with
      | .v4 v4 => v4.toList
      | .v6 v6 => v6.toList
    let octets ← crates.serverDer.octetString octets
    .ok (.ipAddress octets)
  | none =>
    if Text.contains "://" s then do
      let uri ← crates.serverDer.ia5String s
      .ok (.uniformResourceIdentifier uri)
    else if '@' ∈ s.toList then do
      let name ← crates.serverDer.ia5String s
      .ok (.rfc822Name name)
    else do
      let name ← crates.serverDer.ia5String s
      .ok (.dnsName name)

/-- The attribute that asks for the names. Each of its sets has one element, and is sorted as it is. -/
def sanAttribute (sans : List String) : Except String Attribute := do
  let generalNames ← sans.mapM (sanToGeneralName crates)
  let san ← crates.serverDer.subjectAltNameToDer generalNames
  let extnValue ← crates.serverDer.octetString san
  let extReq ← crates.extensionReqToDer [{ extnId := Oid.subjectAltName, critical := false, extnValue }]
  let value ← crates.anyFromDer extReq
  .ok { oid := Oid.extensionReq, values := [value] }

def buildCsr (key : KeyPair) (commonName : String) (sans : List String) : Except String String := do
  let spkiDer ← crates.publicKeyDer key
  let spki ← crates.spkiFromDer spkiDer
  let subject ← nameWithCommonName crates commonName
  let attributes ← (if sans.isEmpty then .ok []
    else (sanAttribute crates sans).map fun attr => [attr])
  let info : CertReqInfo := { subject, publicKey := spki, attributes }
  let infoDer ← crates.serverDer.certReqInfoToDer info
  let signature ← crates.signDer key infoDer
  let signature ← crates.serverDer.bitString signature
  crates.certReqToPem { info, algorithm := key.algorithmIdentifier, signature }

end

/-- What is encoded is decoded as it was, also inside a request. -/
structure CsrReadsBack (crates : CsrCrates) : Prop extends ReadsBack crates.toServerCrates where
  any : ∀ der value, crates.anyFromDer der = .ok value → crates.serverDer.anyToDer value = .ok der
  extensionReq : ∀ exts der, crates.extensionReqToDer exts = .ok der →
    crates.serverDer.extensionReqFromDer der = .ok exts
  certReq : ∀ req pem, crates.certReqToPem req = .ok pem →
    crates.serverDer.certReqFromPem pem = .ok req ∧ ∃ der, crates.serverDer.certReqToDer req = .ok der

variable {crates : CsrCrates}

/-! ## Two ways to a name -/

/-- The client makes of a text the name that the server makes of it. -/
theorem sanToGeneralName_eq_ok {s : String} {name : GeneralName} :
    sanToGeneralName crates s = .ok name ↔
      (San.parse s).toGeneralName crates.toServerCrates = .ok name := by
  unfold sanToGeneralName San.parse
  cases Net.IpAddr.parse s with
  | some ip => cases ip <;> simp [San.toGeneralName, except_bind_eq_ok]
  | none => split_ifs <;> simp [San.toGeneralName, except_bind_eq_ok]

theorem sansToGeneralNames_eq_ok {sans : List String} {names : List GeneralName} :
    sans.mapM (sanToGeneralName crates) = .ok names ↔
      (sans.map San.parse).mapM (San.toGeneralName crates.toServerCrates) = .ok names := by
  induction sans generalizing names with
  | nil => simp [pure, Except.pure]
  | cons s sans ih =>
    simp only [List.map_cons, mapM_cons_eq_ok, sanToGeneralName_eq_ok, ih]

/-! ## What the server reads -/

/-- A request with no attribute asks for no name. -/
theorem requests_nil {csr : ParsedCsr} (h : csr.req.info.attributes = []) :
    csr.Requests crates.toServerCrates [] := by
  refine ⟨[], [], ?_, rfl, rfl⟩
  simp [ParsedCsr.extensionValues, h, pure, Except.pure]

/-- A request with the attribute for some names asks for these. -/
theorem requests_of_sanAttribute (hread : CsrReadsBack crates) {sans : List String}
    {attr : Attribute} (hattr : sanAttribute crates sans = .ok attr) {csr : ParsedCsr}
    (h : csr.req.info.attributes = [attr]) :
    csr.Requests crates.toServerCrates ((sans.map San.parse).map San.generalName) := by
  simp only [sanAttribute, except_bind_eq_ok, Except.ok.injEq] at hattr
  obtain ⟨names, hnames, san, hsan, octets, hoctets, extReq, hextReq, value, hvalue, rfl⟩ := hattr
  obtain rfl := hread.octetString _ _ hoctets
  rw [sansToGeneralNames_eq_ok] at hnames
  obtain rfl := San.eq_map_of_mapM hread.toReadsBack hnames
  have hvalues : csr.extensionValues = [value] := by
    simp [ParsedCsr.extensionValues, h]
  have hexts : ParsedCsr.readExtensions crates.toServerCrates value =
      .ok [⟨Oid.subjectAltName, false, octets⟩] :=
    except_bind_eq_ok.mpr ⟨extReq, hread.any _ _ hvalue, hread.extensionReq _ _ hextReq⟩
  have hdecoded : ParsedCsr.readNames crates.toServerCrates ⟨Oid.subjectAltName, false, octets⟩ =
      .ok ((sans.map San.parse).map San.generalName) := hread.subjectAltName _ _ hsan
  refine ⟨[[⟨Oid.subjectAltName, false, octets⟩]], [(sans.map San.parse).map San.generalName], ?_, ?_,
    by simp⟩
  · rw [hvalues]
    exact mapM_cons_eq_ok.mpr ⟨_, [], hexts, rfl, rfl⟩
  · exact mapM_cons_eq_ok.mpr ⟨_, [], hdecoded, rfl, rfl⟩

/-- The parts of a request that could be built. -/
theorem of_buildCsr {key : KeyPair} {commonName pem : String} {sans : List String}
    (h : buildCsr crates key commonName sans = .ok pem) :
    ∃ req, crates.certReqToPem req = .ok pem ∧
      (sans = [] ∧ req.info.attributes = [] ∨
        ∃ attr, sanAttribute crates sans = .ok attr ∧ req.info.attributes = [attr]) := by
  unfold buildCsr at h
  simp only [except_bind_eq_ok] at h
  obtain ⟨spkiDer, -, spki, -, subject, -, attributes, hattributes, infoDer, -, sig, -, bits, -, hpem⟩ := h
  refine ⟨_, hpem, ?_⟩
  split_ifs at hattributes with hempty
  · cases hattributes
    exact .inl ⟨List.isEmpty_iff.mp hempty, rfl⟩
  · cases hattr : sanAttribute crates sans with
    | error e =>
      rw [hattr] at hattributes
      cases hattributes
    | ok attr =>
      rw [hattr] at hattributes
      cases hattributes
      exact .inr ⟨attr, rfl, rfl⟩

/-- The server reads from a request the names it was built for. -/
theorem requestedSans_of_buildCsr (hread : CsrReadsBack crates) {key : KeyPair}
    {commonName pem : String} {sans : List String}
    (h : buildCsr crates key commonName sans = .ok pem) :
    ∃ csr, ParsedCsr.fromPem crates.toServerCrates pem = .ok csr ∧
      csr.requestedSans crates.toServerCrates = .ok (sans.map San.parse) := by
  obtain ⟨req, hpem, hattributes⟩ := of_buildCsr h
  obtain ⟨hreq, der, hder⟩ := hread.certReq _ _ hpem
  refine ⟨⟨req, der⟩, ?_, ?_⟩
  · simp [ParsedCsr.fromPem, hreq, hder, mapErr, bind, Except.bind]
  · rw [ParsedCsr.requestedSans_eq_ok]
    rcases hattributes with ⟨rfl, hnone⟩ | ⟨attr, hattr, hone⟩
    · exact ⟨[], requests_nil hnone, rfl⟩
    · refine ⟨_, requests_of_sanAttribute hread hattr hone, ?_⟩
      have hinverse : San.ofGeneralName ∘ San.generalName = some :=
        funext fun san => San.ofGeneralName_eq_some.mpr rfl
      rw [List.filterMap_map, hinverse, List.filterMap_some]

/-! ## What the token permits -/

/-- A token with the names of a request permits it: it gets the names that the token allows. -/
theorem permittedSans_of_sans_eq (authorized : Bool) (claims : OttClaims) :
    Service.permittedSans authorized claims (claims.sans.map San.parse) =
      .ok (if authorized then allowedSans claims else claims.sans.map San.parse) := by
  cases authorized with
  | false => rfl
  | true =>
    have hgranted : grantedSans claims (claims.sans.map San.parse) = allowedSans claims := by
      unfold grantedSans allowedSans
      cases claims.sans <;> rfl
    refine Service.permittedSans_eq_ok.mpr ⟨hgranted.symm, fun san hsan => ?_⟩
    rwa [hgranted] at hsan

/-- The server reads from a request that the client builds the names of its texts, in order; a token
with the same texts permits it; and names are converted without loss in both directions. -/
theorem buildCsr_agrees (hread : CsrReadsBack crates) :
    (∀ key commonName sans pem, buildCsr crates key commonName sans = .ok pem →
      ∃ csr, ParsedCsr.fromPem crates.toServerCrates pem = .ok csr ∧
        csr.requestedSans crates.toServerCrates = .ok (sans.map San.parse) ∧
        ∀ authorized claims, claims.sans = sans →
          Service.permittedSans authorized claims (sans.map San.parse) =
            .ok (if authorized then allowedSans claims else sans.map San.parse)) ∧
    ∀ san name, san.toGeneralName crates.toServerCrates = .ok name ↔
      San.ofGeneralName name = some san ∧ name.Valid crates.toServerCrates := by
  refine ⟨?_, fun san name => San.toGeneralName_eq_ok_iff hread.toReadsBack⟩
  intro key commonName sans pem h
  obtain ⟨csr, hparsed, hsans⟩ := requestedSans_of_buildCsr hread h
  refine ⟨csr, hparsed, hsans, ?_⟩
  rintro authorized claims rfl
  exact permittedSans_of_sans_eq authorized claims

/-! ## A request for a name of each kind -/

/-- The texts of the names. -/
def severalSans : List String := ["web", "10.0.0.1", "ops@web", "spiffe://web/id"]

def severalNames : List GeneralName := [
  .dnsName "web", .ipAddress [10, 0, 0, 1], .rfc822Name "ops@web",
  .uniformResourceIdentifier "spiffe://web/id"]

def severalDer : Bytes :=
  [0x30, 37, 0x82, 3] ++ utf8 "web" ++ [0x87, 4, 10, 0, 0, 1] ++ [0x81, 7] ++ utf8 "ops@web" ++
    [0x86, 15] ++ utf8 "spiffe://web/id"

/-- The extension with the names. -/
def severalExtension : Extension := ⟨Oid.subjectAltName, false, severalDer⟩

/-- An encoding of this extension, in a list. -/
def severalExtensionDer : Bytes := 0x30 :: UInt8.ofNat severalDer.length :: severalDer

/-- The request for the names, of the key `3`. -/
def severalRequest : CertReq :=
  let info : CertReqInfo := {
    subject := []
    publicKey := Testca.spki 3
    attributes := [⟨Oid.extensionReq, [⟨0x30, severalExtensionDer⟩]⟩] }
  { info
    algorithm := ⟨Oid.ecdsaWithSha256, none⟩
    signature := ⟨0, Testca.sign [3] (Testca.nameDer [] ++ Testca.spkiDer (Testca.spki 3))⟩ }

/-- Crates that write and read this request only. -/
def severalCrates : CsrCrates where
  toServerCrates :=
    { Testca.readableCrates [] [("csr", severalRequest)] [] with
      serverDer := { (Testca.readableCrates [] [("csr", severalRequest)] []).serverDer with
        subjectAltNameToDer := fun names =>
          if names = severalNames then .ok severalDer else .error "not a name"
        subjectAltNameFromDer := fun der =>
          if der = severalDer then .ok severalNames else .error "malformed"
        extensionReqFromDer := fun der =>
          if der = severalExtensionDer then .ok [severalExtension] else .error "malformed" } }
  publicKeyDer
    | .ecP256 key | .ecP384 key | .rsa key => .ok key
  signDer
    | .ecP256 key, msg | .ecP384 key, msg | .rsa key, msg => .ok (Testca.sign key msg)
  spkiFromDer der := if der = [3] then .ok (Testca.spki 3) else .error "malformed"
  utf8StringToDer s := .ok (utf8 s)
  anyFromDer der := .ok ⟨0x30, der⟩
  extensionReqToDer exts := if exts = [severalExtension] then .ok severalExtensionDer else .error "malformed"
  certReqToPem req := if req = severalRequest then .ok "csr" else .error "malformed"

theorem readsBack_several : CsrReadsBack severalCrates where
  toReadsBack := {
    utf8String := (Testca.readsBack_readable [] [("csr", severalRequest)] []).utf8String
    octetString := (Testca.readsBack_readable [] [("csr", severalRequest)] []).octetString
    ia5String := (Testca.readsBack_readable [] [("csr", severalRequest)] []).ia5String
    subjectAltName := by
      intro names der h
      change (if names = severalNames then _ else _) = _ at h
      split_ifs at h with hnames
      cases h
      rw [hnames]
      rfl }
  any der value h := by
    cases h
    rfl
  extensionReq exts der h := by
    change (if exts = [severalExtension] then _ else _) = _ at h
    split_ifs at h with hexts
    cases h
    rw [hexts]
    rfl
  certReq req pem h := by
    change (if req = severalRequest then _ else _) = _ at h
    split_ifs at h with hreq
    cases h
    rw [hreq]
    exact ⟨rfl, _, rfl⟩

theorem buildCsr_several : buildCsr severalCrates (.ecP256 [3]) "" severalSans = .ok "csr" := by
  decide +kernel

/-- The server reads a name of each kind. -/
theorem parse_severalSans : severalSans.map San.parse =
    [.dns "web", .ip (.v4 #v[10, 0, 0, 1]), .email "ops@web", .uri "spiffe://web/id"] := by
  decide +kernel

theorem buildCsr_agrees_several :
    (∃ csr, ParsedCsr.fromPem severalCrates.toServerCrates "csr" = .ok csr ∧
      csr.requestedSans severalCrates.toServerCrates =
        .ok [.dns "web", .ip (.v4 #v[10, 0, 0, 1]), .email "ops@web", .uri "spiffe://web/id"] ∧
      ∀ authorized claims, claims.sans = severalSans →
        Service.permittedSans authorized claims (severalSans.map San.parse) =
          .ok (if authorized then allowedSans claims else severalSans.map San.parse)) ∧
    ((San.ip (.v4 #v[10, 0, 0, 1])).toGeneralName severalCrates.toServerCrates =
        .ok (.ipAddress [10, 0, 0, 1]) ↔
      San.ofGeneralName (.ipAddress [10, 0, 0, 1]) = some (.ip (.v4 #v[10, 0, 0, 1])) ∧
        (GeneralName.ipAddress [10, 0, 0, 1]).Valid severalCrates.toServerCrates) := by
  obtain ⟨csr, hparsed, hsans, hpermitted⟩ :=
    (buildCsr_agrees readsBack_several).1 (.ecP256 [3]) "" severalSans "csr" buildCsr_several
  rw [parse_severalSans] at hsans
  exact ⟨⟨csr, hparsed, hsans, hpermitted⟩,
    (buildCsr_agrees readsBack_several).2 (.ip (.v4 #v[10, 0, 0, 1])) (.ipAddress [10, 0, 0, 1])⟩

end Ayane.Cli
