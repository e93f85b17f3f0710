import Ayane.Http
import Ayane.Testca.Server

/-!
# The URLs of the client

`endpoint` of `ayane-cli/src/cmd/mod.rs`, which is both the address of a request and the
`htu` of its proof, and the audience that `ayane-cli/src/cmd/token.rs` derives. They are
compared with the URLs the server builds from the same base.
-/

namespace Ayane.Cli

def endpoint (base path : String) : String := Text.trimEndMatches '/' base ++ path

/-- The audience of a token: the one given, or the URL of the operation. -/
def tokenAudience (audience url : Option String) (operation : String) : Except String String :=
  match audience, url with
  | some a, _ => .ok a
  | none, some url => .ok (Text.trimEndMatches '/' url ++ "/v1/" ++ operation)
  | none, none => .error "provide --audience or --url"

/-- Client and server build the same URLs from `base`, whatever else the request holds. -/
structure UrlsAgree (service : Service) (base : String) : Prop where
  request : ∀ parts : RequestParts,
    requestUrl parts (.boot service (some base)) = endpoint base parts.path
  audience : ∀ operation header,
    tokenAudience none (some base) operation =
      .ok (requestUrl ⟨"/v1/" ++ operation, header⟩ (.boot service (some base)))
  signerChain : (AppState.boot service (some base)).service.signerChainUrl =
    endpoint base Protocol.signerChainPath

theorem requestUrl_eq_endpoint (service : Service) (base : String) (parts : RequestParts) :
    requestUrl parts (.boot service (some base)) = endpoint base parts.path := rfl

theorem tokenAudience_eq_endpoint (base operation : String) :
    tokenAudience none (some base) operation = .ok (endpoint base ("/v1/" ++ operation)) := by
  simp [tokenAudience, endpoint, String.append_assoc]

/-- The server leaves the slashes at the end of the base in the reference to its chain. -/
theorem signerChainUrl_eq_endpoint_iff (service : Service) (base : String) :
    (AppState.boot service (some base)).service.signerChainUrl =
      endpoint base Protocol.signerChainPath ↔ Text.endsWith '/' base = false := by
  rw [← Text.trimEndMatches_eq_self_iff]
  have hcut : base ++ Protocol.signerChainPath =
      Text.trimEndMatches '/' base ++ Protocol.signerChainPath ↔
        Text.trimEndMatches '/' base = base := by
    constructor
    · intro h
      have hlist := congrArg String.toList h
      rw [String.toList_append, String.toList_append] at hlist
      exact String.toList_inj.mp (List.append_cancel_right hlist).symm
    · intro h
      rw [h]
  exact hcut

/-- Client and server agree on every URL exactly for the bases without a slash at the end. -/
theorem urlsAgree_iff (service : Service) (base : String) :
    UrlsAgree service base ↔ Text.endsWith '/' base = false := by
  constructor
  · intro h
    exact (signerChainUrl_eq_endpoint_iff service base).mp h.signerChain
  · intro h
    constructor
    · exact requestUrl_eq_endpoint service base
    · intro operation header
      exact tokenAudience_eq_endpoint base operation
    · exact (signerChainUrl_eq_endpoint_iff service base).mpr h

/-- With `https://ca.example/`, the chain is said to be at `https://ca.example//v1/…`. -/
theorem not_urlsAgree_of_slash :
    ¬ UrlsAgree (Testca.service true []) "https://ca.example/" := by
  intro h
  have hurl : "https://ca.example/" ++ Protocol.signerChainPath =
    endpoint "https://ca.example/" Protocol.signerChainPath := h.signerChain
  revert hurl
  decide

end Ayane.Cli
