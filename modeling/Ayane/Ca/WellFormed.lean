import Ayane.Ca.Contents
import Ayane.Testca.Server

/-!
# Issued extension lists are well formed

Whatever the template, the overrides and the extensions that hooks add, an issued
certificate has no two extensions with one identifier, one subject key identifier, which
is that of its own key, and one authority key identifier, which is that of the CA. A
reissued certificate has them when the previous one has distinct identifiers, and so has
every certificate of a chain of reissues.
-/

namespace Ayane

open Keyed

/-- What every certificate of a CA satisfies. -/
structure WellFormed (crates : ServerCrates) (ca : CertificateAuthority) (cert : Certificate) :
    Prop where
  distinct : DistinctExtensions cert.extensions
  subjectKeyIdentifier :
    ∃ ski, IsSubjectKeyIdentifier crates cert.tbsCertificate.subjectPublicKeyInfo ski ∧
      extensionsUnder cert.extensions Oid.subjectKeyIdentifier = [ski]
  authorityKeyIdentifier :
    ∃ aki, IsAuthorityKeyIdentifier crates ca.caKeyId aki ∧
      extensionsUnder cert.extensions Oid.authorityKeyIdentifier = [aki]

section

variable {crates : ServerCrates} {ca : CertificateAuthority} {n : ℕ} {entropy : Digest 19}
  {issued : IssuedCertificate}

theorem wellFormed_of_issue {params : IssueParams} (h : ca.issue crates n entropy params = .ok issued) :
    WellFormed crates ca issued.certificate := by
  obtain ⟨subject, exts, hcontents, hbuild⟩ := of_issue h
  obtain ⟨-, base, san, ski, aki, markers, hbase, -, -, hski, haki, hmarks, hexts⟩ :=
    of_issueContents hcontents
  obtain ⟨hextensions, hkey⟩ := extensions_of_build hbuild
  have hoids : Oid.authorityKeyIdentifier ≠ Oid.subjectKeyIdentifier ∧
      X509.nonRenewableOid ≠ Oid.subjectKeyIdentifier ∧
      X509.nonRenewableOid ≠ Oid.authorityKeyIdentifier := by decide
  rw [← hextensions] at hexts
  refine ⟨?_, ⟨ski, hkey ▸ hski, ?_⟩, ⟨aki, haki, ?_⟩⟩
  · rw [hexts]
    exact DistinctExtensions.mark hmarks (hbase.upsertOptional.upsertAll.upsert.upsert)
  · simp [hexts, hmarks.under, hski.extnId, haki.extnId, hoids.1, hoids.2.1, hoids.2.1.symm]
  · simp [hexts, hmarks.under, haki.extnId, hoids.2.2, hoids.2.2.symm]

theorem wellFormed_of_reissue {params : ReissueParams}
    (h : ca.reissue crates n entropy params = .ok issued)
    (hold : DistinctExtensions params.old.extensions) : WellFormed crates ca issued.certificate := by
  obtain ⟨subject, exts, hcontents, hbuild⟩ := of_reissue h
  obtain ⟨-, san, overridden, ski, aki, markers, -, hdistinct, -, -, hski, haki, hmarks, hexts⟩ :=
    of_reissueContents hcontents
  obtain ⟨hextensions, hkey⟩ := extensions_of_build hbuild
  have hoid : Oid.authorityKeyIdentifier ≠ Oid.subjectKeyIdentifier := by decide
  rw [← hextensions] at hexts
  refine ⟨?_, ⟨ski, hkey ▸ hski, ?_⟩, ⟨aki, haki, ?_⟩⟩
  · rw [hexts]
    exact (DistinctExtensions.mark hmarks (hdistinct hold).upsertAll).upsert.upsert
  · simp [hexts, hski.extnId, haki.extnId, hoid]
  · simp [hexts, haki.extnId]

/-- The certificates that are issued, or reissued from one of these. -/
inductive Lineage (crates : ServerCrates) (ca : CertificateAuthority) : Certificate → Prop where
  | issue {n : ℕ} {entropy : Digest 19} {params : IssueParams} {issued : IssuedCertificate}
      (h : ca.issue crates n entropy params = .ok issued) : Lineage crates ca issued.certificate
  | reissue {n : ℕ} {entropy : Digest 19} {params : ReissueParams} {issued : IssuedCertificate}
      (hold : Lineage crates ca params.old) (h : ca.reissue crates n entropy params = .ok issued) :
      Lineage crates ca issued.certificate

theorem Lineage.wellFormed {cert : Certificate} (h : Lineage crates ca cert) :
    WellFormed crates ca cert := by
  induction h with
  | issue h => exact wellFormed_of_issue h
  | reissue _ h ih => exact wellFormed_of_reissue h ih.distinct

end

/-- Every certificate that is issued, reissued from one with distinct extensions, or at the end of a
chain of reissues of an issued one, is well formed. -/
theorem extensions_wellFormed (crates : ServerCrates) (ca : CertificateAuthority) :
    (∀ n entropy params issued, ca.issue crates n entropy params = .ok issued →
      WellFormed crates ca issued.certificate) ∧
    (∀ n entropy params issued, ca.reissue crates n entropy params = .ok issued →
      DistinctExtensions params.old.extensions → WellFormed crates ca issued.certificate) ∧
    ∀ cert, Lineage crates ca cert → WellFormed crates ca cert :=
  ⟨fun _ _ _ _ h => wellFormed_of_issue h, fun _ _ _ _ h hold => wellFormed_of_reissue h hold,
    fun _ h => h.wellFormed⟩

/-- A certificate whose hooks add an extension under the identifier of the subject key, one of the
marker, and one twice. -/
def injectedParams : IssueParams where
  commonName := "web"
  sans := []
  publicKey := Testca.spki 3
  notBefore := Testca.instant 1000
  notAfter := Testca.instant 9000
  template := {}
  keyUsageOverride := none
  extendedKeyUsageOverride := some []
  additionalExtensions := [⟨Oid.subjectKeyIdentifier, true, [1]⟩, ⟨X509.nonRenewableOid, false, [2]⟩,
    ⟨[1, 2], false, [3]⟩, ⟨[1, 2], false, [4]⟩]
  renewable := false

theorem extensions_wellFormed_injected :
    ∃ issued, Testca.authority.issue (Testca.serverCrates [] [] []) 0 Testca.zeroEntropy injectedParams =
        .ok issued ∧ WellFormed (Testca.serverCrates [] [] []) Testca.authority issued.certificate :=
  ⟨_, rfl, (extensions_wellFormed _ _).1 0 Testca.zeroEntropy injectedParams _ rfl⟩

end Ayane
