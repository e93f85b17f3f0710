import Ayane.Cli.FreshRoots

/-!
# The headers of the signed roots, written and read back

The server formats four header values, and the client parses them again. Whatever the server puts
in, the client gets out, and builds the signature base that the server has signed.
-/

namespace Ayane

open Protocol

/-- What is written into the headers of the roots is read back from them, and the base that is built
from what was read is the base that was signed. -/
structure HeadersReadBack (crates : ServerCrates) (service : Service) (digest : Digest 48)
    (signature : Bytes) (params : RootsSigParams) : Prop where
  contentDigest : parseContentDigest crates.toCrates (contentDigestHeader crates.toCrates digest) = .ok digest
  signatureHeader : parseSignatureHeader crates.toCrates (signatureHeaderValue crates.toCrates signature) =
    .ok signature
  signatureInput : parseRootsSigParams (signatureInputValue params) = .ok params
  signatureKey : parseSignatureKeyX509 (service.signatureKey crates) =
    .ok (service.signerChainUrl, x5tFromDigest crates.toCrates service.ca.signerLeafSha256)
  thumbprint : crates.base64Url.decode (x5tFromDigest crates.toCrates service.ca.signerLeafSha256) =
    .ok service.ca.signerLeafSha256
  line : ∀ read, parseRootsSigParams (signatureInputValue params) = .ok read →
    stripLabel (signatureInputValue params) = some (rootsSigParamsValue read)
  base : ∀ read, parseRootsSigParams (signatureInputValue params) = .ok read →
    rootsSignatureBase 200 rootsContentType (contentDigestHeader crates.toCrates digest)
        (service.signatureKey crates) read =
      rootsSignatureBase 200 rootsContentType (contentDigestHeader crates.toCrates digest)
        (service.signatureKey crates) params

/-- The URL of the signer chain has no quote when the external URL has none. -/
theorem quote_not_mem_signerChainUrl {service : Service}
    (hurl : ∀ url, service.externalUrl = some url → '"' ∉ url.toList) :
    '"' ∉ service.signerChainUrl.toList := by
  unfold Service.signerChainUrl
  rw [String.toList_append, List.mem_append, not_or]
  refine ⟨?_, by decide⟩
  cases hexternal : service.externalUrl with
  | none => simp
  | some url => exact hurl url hexternal

theorem parseSignatureKeyX509_signatureKey {crates : ServerCrates} {service : Service}
    (hquote : ∀ b, '"' ∉ (crates.base64Url.encode b).toList)
    (hurl : ∀ url, service.externalUrl = some url → '"' ∉ url.toList) :
    parseSignatureKeyX509 (service.signatureKey crates) =
      .ok (service.signerChainUrl, x5tFromDigest crates.toCrates service.ca.signerLeafSha256) := by
  have hplain : ∀ url, service.externalUrl = some url → ¬ "x5t=\"".toList <:+: url.toList :=
    fun url hexternal h => hurl url hexternal (h.subset (by simp))
  exact parseSignatureKeyX509_signatureKeyX509 (quote_not_mem_signerChainUrl hurl) (hquote _)
    (Cli.signerChainUrl_plain hplain).2

theorem stripLabel_signatureInputValue (params : RootsSigParams) :
    stripLabel (signatureInputValue params) = some (rootsSigParamsValue params) := by
  have hlast : (rootsSigParamsValue params).toList =
      (coveredComponents ++ ";created=" ++ params.created.toNat.repr ++ ";expires=" ++
        params.expires.toNat.repr ++ ";alg=\"" ++ params.alg).toList ++ ['"'] := by
    rw [rootsSigParamsValue, String.toList_append]
    rfl
  exact stripLabel_append hlast (by decide)

/-- The headers are read back for every digest, signature, window, algorithm and thumbprint, and every
external URL without a quote. -/
theorem rootsHeaders_readBack {crates : ServerCrates}
    (hbase64 : ∀ b, crates.base64.decode (crates.base64.encode b) = .ok b)
    (hbase64Url : ∀ b, crates.base64Url.decode (crates.base64Url.encode b) = .ok b)
    (hquote : ∀ b, '"' ∉ (crates.base64Url.encode b).toList) (service : Service)
    (hurl : ∀ url, service.externalUrl = some url → '"' ∉ url.toList) (digest : Digest 48)
    (signature : Bytes) (created expires : UInt64) :
    HeadersReadBack crates service digest signature
      ⟨created, expires, service.ca.key.algorithm.rfc9421Alg⟩ := by
  have hparams := parseRootsSigParams_signatureInputValue
    ⟨created, expires, service.ca.key.algorithm.rfc9421Alg⟩
    service.ca.key.algorithm.semicolon_not_mem_rfc9421Alg
  constructor
  · exact parseContentDigest_contentDigestHeader _ hbase64 digest
  · exact parseSignatureHeader_signatureHeaderValue _ hbase64 signature
  · exact hparams
  · exact parseSignatureKeyX509_signatureKey hquote hurl
  · exact hbase64Url _
  · intro read hread
    obtain rfl := Except.ok.inj (hparams.symm.trans hread)
    exact stripLabel_signatureInputValue _
  · intro read hread
    obtain rfl := Except.ok.inj (hparams.symm.trans hread)
    rfl

/-- A URL in which the formats of all four headers occur, but for the quotes. -/
def lookalikeService : Service :=
  { Testca.service true [] with externalUrl := some "https://ca/;x5t=;alg=x?sig=:sha-384=:" }

theorem rootsHeaders_readBack_lookalike :
    HeadersReadBack (Testca.serverCrates [] [] []) lookalikeService (Testca.digest 48 [7]) [1, 2]
      ⟨1000, 4600, lookalikeService.ca.key.algorithm.rfc9421Alg⟩ :=
  have hurl : ∀ url, lookalikeService.externalUrl = some url → '"' ∉ url.toList := by
    rintro url ⟨⟩
    decide
  @rootsHeaders_readBack (Testca.serverCrates [] [] []) Testca.base64_decode_encode
    Testca.hex_decode_encode Testca.quote_not_mem_hex lookalikeService hurl (Testca.digest 48 [7]) [1, 2]
    1000 4600

end Ayane
