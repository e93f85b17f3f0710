import Ayane.Ca.Contents
import Ayane.Service

/-!
# Names in certificates

The common name and the subject alternative names of a certificate, as they are written
and as they are read back. Names that are written are read back as they were. Of names
that are read, those of a kind that is not modelled are lost, so that writing them again
may give another extension.
-/

namespace Ayane

open Effect Keyed

/-- What is encoded is decoded as it was. -/
structure ReadsBack (crates : ServerCrates) : Prop where
  utf8String : ∀ s value, crates.serverDer.utf8String s = .ok value →
    crates.serverDer.utf8StringFromAny value = .ok s
  octetString : ∀ octets value, crates.serverDer.octetString octets = .ok value → value = octets
  ia5String : ∀ s value, crates.serverDer.ia5String s = .ok value → value = s
  subjectAltName : ∀ names der, crates.serverDer.subjectAltNameToDer names = .ok der →
    crates.serverDer.subjectAltNameFromDer der = .ok names

/-- A certificate is read back from the PEM text that was written for it. -/
def PemRoundTrip (crates : ServerCrates) : Prop :=
  ∀ cert pem, crates.serverDer.certificateToPem cert = .ok pem →
    X509.certificateFromPem crates pem = .ok cert

variable {crates : ServerCrates}

/-! ## The common name -/

theorem subjectCommonName_of_nameWithCommonName (hread : ReadsBack crates) {cn : String} {name : Name}
    (h : X509.nameWithCommonName crates cn = .ok name) :
    (subjectCommonName crates name).getD "" = cn := by
  unfold X509.nameWithCommonName at h
  split_ifs at h with hcn
  · cases h
    exact hcn.symm
  · simp only [except_bind_eq_ok, mapErr_eq_ok, Except.ok.injEq] at h
    obtain ⟨value, hvalue, rfl⟩ := h
    simp [subjectCommonName, attributeText, hread.utf8String cn value hvalue]

/-! ## Alternative names -/

/-- The text or the octets in a name can be encoded. -/
def GeneralName.Valid (crates : ServerCrates) : GeneralName → Prop
  | .dnsName s | .rfc822Name s | .uniformResourceIdentifier s => crates.serverDer.ia5String s = .ok s
  | .ipAddress octets => crates.serverDer.octetString octets = .ok octets
  | .other _ => True

namespace San

/-- The name of a certificate that stands for a name in our form. -/
def generalName : San → GeneralName
  | .dns d => .dnsName d
  | .email m => .rfc822Name m
  | .uri u => .uniformResourceIdentifier u
  | .ip (.v4 octets) => .ipAddress octets.toList
  | .ip (.v6 octets) => .ipAddress octets.toList

theorem ofGeneralName_eq_some {name : GeneralName} {san : San} :
    ofGeneralName name = some san ↔ san.generalName = name := by
  constructor
  · intro h
    unfold ofGeneralName at h
    split at h
    · cases h
      rfl
    · cases h
      rfl
    · cases h
      rfl
    · split_ifs at h
      · cases h
        rfl
      · cases h
        rfl
    · cases h
  · rintro rfl
    cases san with
    | ip addr => cases addr <;> simp [ofGeneralName, generalName, Vector.toList]
    | _ => rfl

/-- What is written is the name in our form, whose text or octets can be encoded. -/
theorem of_toGeneralName (hread : ReadsBack crates) {san : San} {name : GeneralName}
    (h : san.toGeneralName crates = .ok name) : name = san.generalName ∧ name.Valid crates := by
  cases san with
  | ip addr =>
    simp only [toGeneralName, except_bind_eq_ok, mapErr_eq_ok, Except.ok.injEq] at h
    obtain ⟨octets, hoctets, rfl⟩ := h
    obtain rfl := hread.octetString _ _ hoctets
    exact ⟨by cases addr <;> rfl, hoctets⟩
  | _ =>
    -- a text that is written as an `IA5String` stays the same
    simp only [toGeneralName, except_bind_eq_ok, mapErr_eq_ok, Except.ok.injEq] at h
    obtain ⟨value, hvalue, rfl⟩ := h
    obtain rfl := hread.ia5String _ _ hvalue
    exact ⟨rfl, hvalue⟩

/-- A name that is written is read back. -/
theorem ofGeneralName_of_toGeneralName (hread : ReadsBack crates) {san : San} {name : GeneralName}
    (h : san.toGeneralName crates = .ok name) : ofGeneralName name = some san :=
  ofGeneralName_eq_some.mpr (of_toGeneralName hread h).1.symm

theorem filterMap_of_mapM (hread : ReadsBack crates) {sans : List San} {names : List GeneralName}
    (h : sans.mapM (toGeneralName crates) = .ok names) : names.filterMap ofGeneralName = sans := by
  induction sans generalizing names with
  | nil =>
    cases h
    rfl
  | cons san sans ih =>
    obtain ⟨name, rest, hname, hrest, rfl⟩ := mapM_cons_eq_ok.mp h
    rw [List.filterMap_cons, ofGeneralName_of_toGeneralName hread hname, ih hrest]

end San

/-- The modelled names in the extensions of a certificate. -/
def sansOf (crates : ServerCrates) (exts : List Extension) : Result (List San) := do
  let names ← exts.mapM fun ext =>
    mapErr (fun e => .internal ("decode SAN from certificate: " ++ e))
      (crates.serverDer.subjectAltNameFromDer ext.extnValue)
  .ok (names.flatten.filterMap San.ofGeneralName)

theorem certSans_eq (crates : ServerCrates) (cert : Certificate) :
    certSans crates cert = sansOf crates (extensionsUnder cert.extensions Oid.subjectAltName) := rfl

theorem sansOf_singleton_eq_ok {ext : Extension} {sans : List San} :
    sansOf crates [ext] = .ok sans ↔ ∃ names,
      crates.serverDer.subjectAltNameFromDer ext.extnValue = .ok names ∧
        names.filterMap San.ofGeneralName = sans := by
  simp only [sansOf, except_bind_eq_ok, Except.ok.injEq, mapM_cons_eq_ok, mapErr_eq_ok]
  constructor
  · rintro ⟨_, ⟨names, _, hnames, hnil, rfl⟩, rfl⟩
    cases hnil
    exact ⟨names, hnames, by simp⟩
  · rintro ⟨names, hnames, rfl⟩
    exact ⟨[names], ⟨names, [], hnames, rfl, rfl⟩, by simp⟩

/-- An extension that is made for some names. -/
theorem subjectAltNameExtension_eq_ok {sans : List San} {critical : Bool} {san : Option Extension} :
    subjectAltNameExtension crates sans critical = .ok san ↔
      sans = [] ∧ san = none ∨
      sans ≠ [] ∧ ∃ names der value, sans.mapM (San.toGeneralName crates) = .ok names ∧
        crates.serverDer.subjectAltNameToDer names = .ok der ∧
        crates.serverDer.octetString der = .ok value ∧
        san = some ⟨Oid.subjectAltName, critical, value⟩ := by
  unfold subjectAltNameExtension
  cases sans with
  | nil => simp [eq_comm]
  | cons head tail =>
    simp only [List.isEmpty_cons, Bool.false_eq_true, if_false, reduceCtorEq, false_and, false_or,
      ne_eq, not_false_eq_true, true_and, except_bind_eq_ok, X509.extension_eq_ok, Except.ok.injEq]
    constructor
    · rintro ⟨names, hnames, _, ⟨der, value, hder, hvalue, rfl⟩, rfl⟩
      exact ⟨names, der, value, hnames, hder, hvalue, rfl⟩
    · rintro ⟨names, der, value, hnames, hder, hvalue, rfl⟩
      exact ⟨names, hnames, _, ⟨der, value, hder, hvalue, rfl⟩, rfl⟩

/-- The names that an extension is made for are read from it. -/
theorem sansOf_subjectAltName (hread : ReadsBack crates) {sans : List San} {critical : Bool}
    {san : Option Extension} (h : subjectAltNameExtension crates sans critical = .ok san) :
    sansOf crates san.toList = .ok sans := by
  obtain ⟨rfl, rfl⟩ | ⟨-, names, der, value, hnames, hder, hvalue, rfl⟩ :=
    subjectAltNameExtension_eq_ok.mp h
  · rfl
  · refine sansOf_singleton_eq_ok.mpr ⟨names, ?_, San.filterMap_of_mapM hread hnames⟩
    obtain rfl := hread.octetString _ _ hvalue
    exact hread.subjectAltName names _ hder

/-! ## Names that survive -/

theorem San.toGeneralName_generalName {san : San} (h : san.generalName.Valid crates) :
    san.toGeneralName crates = .ok san.generalName := by
  cases san with
  | ip addr =>
    simp only [toGeneralName, except_bind_eq_ok, mapErr_eq_ok, Except.ok.injEq]
    cases addr <;> exact ⟨_, h, rfl⟩
  | _ =>
    simp only [toGeneralName, except_bind_eq_ok, mapErr_eq_ok, Except.ok.injEq]
    exact ⟨_, h, rfl⟩

/-- A name is made of one in our form exactly when that form is read from it. -/
theorem San.toGeneralName_eq_ok_iff (hread : ReadsBack crates) {san : San} {name : GeneralName} :
    san.toGeneralName crates = .ok name ↔ ofGeneralName name = some san ∧ name.Valid crates := by
  constructor
  · intro h
    exact ⟨ofGeneralName_of_toGeneralName hread h, (of_toGeneralName hread h).2⟩
  · rintro ⟨hsan, hvalid⟩
    obtain rfl := ofGeneralName_eq_some.mp hsan
    exact toGeneralName_generalName hvalid

/-- All names are of a modelled kind. -/
def AllModelled (names : List GeneralName) : Prop := ∀ name ∈ names, (San.ofGeneralName name).isSome

/-- Encodings are canonical: names of a modelled kind are written as they were read. -/
def WritesAsRead (crates : ServerCrates) : Prop :=
  ∀ der names, crates.serverDer.subjectAltNameFromDer der = .ok names → AllModelled names →
    crates.serverDer.subjectAltNameToDer names = .ok der

namespace San

/-- A name that is read is written as it was. -/
theorem toGeneralName_of_ofGeneralName (hread : ReadsBack crates) {san : San}
    {name name' : GeneralName} (h : ofGeneralName name = some san)
    (h' : san.toGeneralName crates = .ok name') : name' = name := by
  rw [(of_toGeneralName hread h').1]
  exact ofGeneralName_eq_some.mp h

theorem mapM_of_filterMap (hread : ReadsBack crates) {names names' : List GeneralName}
    (hmodelled : AllModelled names)
    (h : (names.filterMap ofGeneralName).mapM (toGeneralName crates) = .ok names') :
    names' = names := by
  induction names generalizing names' with
  | nil =>
    cases h
    rfl
  | cons name names ih =>
    obtain ⟨san, hsan⟩ := Option.isSome_iff_exists.mp (hmodelled name List.mem_cons_self)
    rw [List.filterMap_cons, hsan] at h
    obtain ⟨first, rest, hfirst, hrest, rfl⟩ := mapM_cons_eq_ok.mp h
    rw [toGeneralName_of_ofGeneralName hread hsan hfirst,
      ih (fun n hn => hmodelled n (List.mem_cons_of_mem _ hn)) hrest]

theorem allModelled_of_mapM (hread : ReadsBack crates) {sans : List San} {names : List GeneralName}
    (h : sans.mapM (toGeneralName crates) = .ok names) : AllModelled names := by
  induction sans generalizing names with
  | nil =>
    cases h
    exact fun _ hname => absurd hname List.not_mem_nil
  | cons san sans ih =>
    obtain ⟨name, rest, hname, hrest, rfl⟩ := mapM_cons_eq_ok.mp h
    refine List.forall_mem_cons.mpr ⟨?_, ih hrest⟩
    rw [ofGeneralName_of_toGeneralName hread hname]
    rfl

end San

/-- The extensions with names of a certificate survive being read and written anew, when there is
none, or one with the expected criticality and with names that are all of a modelled kind. -/
def SurvivesReading (crates : ServerCrates) (exts : List Extension) (critical : Bool) : Prop :=
  exts = [] ∨ ∃ ext names, exts = [ext] ∧ ext.critical = critical ∧
    crates.serverDer.subjectAltNameFromDer ext.extnValue = .ok names ∧ names ≠ [] ∧
      AllModelled names

theorem subjectAltName_eq_iff (hread : ReadsBack crates) (hwrites : WritesAsRead crates)
    {exts : List Extension} {sans : List San} {critical : Bool} {san : Option Extension}
    (hoid : ∀ ext ∈ exts, ext.extnId = Oid.subjectAltName) (hsans : sansOf crates exts = .ok sans)
    (hsan : subjectAltNameExtension crates sans critical = .ok san) :
    san.toList = exts ↔ SurvivesReading crates exts critical := by
  constructor
  · rintro rfl
    obtain ⟨-, rfl⟩ | ⟨hnonempty, names, der, value, hnames, hder, hvalue, rfl⟩ :=
      subjectAltNameExtension_eq_ok.mp hsan
    · exact .inl rfl
    · obtain rfl := hread.octetString _ _ hvalue
      refine .inr ⟨_, names, rfl, rfl, hread.subjectAltName _ _ hder, ?_,
        San.allModelled_of_mapM hread hnames⟩
      rintro rfl
      exact hnonempty (San.filterMap_of_mapM hread hnames).symm
  · rintro (rfl | ⟨ext, names, rfl, hcritical, hnames, hnonempty, hmodelled⟩)
    · cases hsans
      cases hsan
      rfl
    · obtain ⟨names', hnames', rfl⟩ := sansOf_singleton_eq_ok.mp hsans
      cases hnames.symm.trans hnames'
      obtain ⟨hempty, -⟩ | ⟨-, names', der, value, hmapM, hder, hvalue, rfl⟩ :=
        subjectAltNameExtension_eq_ok.mp hsan
      · obtain ⟨name, hname⟩ := List.exists_mem_of_ne_nil names hnonempty
        have hnone := List.filterMap_eq_nil_iff.mp hempty name hname
        exact absurd (hmodelled name hname) (by simp [hnone])
      · obtain rfl := San.mapM_of_filterMap hread hmodelled hmapM
        cases (hwrites _ _ hnames hmodelled).symm.trans hder
        obtain rfl := hread.octetString _ _ hvalue
        rw [← hcritical, ← hoid ext (List.mem_singleton_self ext)]
        rfl

end Ayane
